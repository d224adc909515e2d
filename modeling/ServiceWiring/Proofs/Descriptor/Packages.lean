import ServiceWiring.Descriptor.Reader
import ServiceWiring.Proofs.Session.Growth

/-!
# The packages of a descriptor

Reading a descriptor binds the package of the file and of every message that names its own. All of
them are packages of the table that the reading leaves, so they are the ones that a later binding of
the same paths gives.

Results:
* `read_ensures`, `readSet_ensures`: every package of what is read is a package of the table.
* `Go.packageName_ne_nil`: a package is never wanted under the empty name.
-/

namespace ServiceWiring

open ImportTable (Call wantedName)
open SessionM (Ensures Quiet)

/-- The packages of a method's messages. -/
def Method.packages (m : Method) : List GoPackage := [m.request.package, m.response.package]

/-- The packages of a file and of all its messages. -/
def Descriptor.packages (d : Descriptor) : List GoPackage :=
  d.package :: d.services.flatMap fun s => s.methods.flatMap Method.packages

/-! ## Names that are wanted -/

theorem Go.packageName_ne_nil (path : Text) : Go.packageName path ≠ [] := by
  unfold Go.packageName
  simp only
  split
  · decide
  · rename_i h
    simpa using h

theorem isProper_bind_of_ne_nil {path name : Text} (h : name ≠ []) :
    (Call.bind path (some name)).isProper := by
  simp [Call.isProper, ImportTable.wantedName_eq_nil_iff, h]

theorem GoPackage.name_splitOption_ne_nil (option : Text) :
    (GoPackage.splitOption option).2.getD
      (Go.packageName (GoPackage.splitOption option).1) ≠ [] := by
  unfold GoPackage.splitOption
  cases h : (Text.cut ';' option).2.filter (!·.isEmpty) with
  | none =>
    simp only [h]
    exact Go.packageName_ne_nil _
  | some name =>
    simp only [h]
    have hname := (Option.filter_eq_some_iff.mp h).2
    simpa using hname

namespace Descriptor

variable {s : Session} {part key option : Text} {owner : GoPackage} {raw name : Json}

/-! ## Parts that bind nothing -/

theorem require_quiet (part key : Text) (raw : Json) : Quiet (require part key raw) := by
  unfold require
  split
  · exact Quiet.pure _
  · exact Quiet.throw _

theorem listUnder_quiet (part key : Text) (raw : Json) : Quiet (listUnder part key raw) := by
  unfold listUnder
  split
  · exact Quiet.pure _
  · exact Quiet.pure _
  · exact Quiet.throw _

theorem optionOf?_quiet (raw : Json) : Quiet (optionOf? raw) := by
  unfold optionOf?
  split
  · exact Quiet.pure _
  · exact Quiet.pure _
  · split
    · exact Quiet.throw _
    · exact Quiet.pure _

theorem readRule_quiet (part : Text) (raw : Json) : Quiet (readRule part raw) := by
  unfold readRule
  refine (require_quiet _ _ _).seq fun verb => ?_
  simp only
  split
  · exact Quiet.throw _
  · exact (require_quiet _ _ _).seq fun path => Quiet.pure _

theorem readRule?_quiet (part : Text) (raw? : Option Json) : Quiet (readRule? part raw?) := by
  unfold readRule?
  split
  · exact Quiet.pure _
  · exact Quiet.pure _
  · exact (readRule_quiet _ _).map _

/-! ## Parts that bind packages -/

theorem bindOption_ensures (option : Text) :
    Ensures (·.isProper) (bindOption option) s fun p t => p ∈ t.packages := by
  unfold bindOption
  refine (SessionM.ensures_bind ?_).mono fun p t _ hp => (ImportTable.package?_mem hp).1
  exact isProper_bind_of_ne_nil (GoPackage.name_splitOption_ne_nil option)

theorem readPackage_ensures (name raw : Json) :
    Ensures (·.isProper) (readPackage name raw) s fun p t => p ∈ t.packages := by
  unfold readPackage
  refine (optionOf?_quiet raw).andThen fun option? s₁ _ => ?_
  split
  · exact bindOption_ensures _
  · split
    · unfold bindDirectory
      refine (SessionM.ensures_bind ?_).mono fun p t _ hp => (ImportTable.package?_mem hp).1
      exact isProper_bind_of_ne_nil (Go.packageName_ne_nil _)
    · exact Ensures.throw _

theorem readMessage_ensures (howner : owner ∈ s.imports.packages) :
    Ensures (·.isProper) (readMessage part owner raw) s fun m t => m.package ∈ t.packages := by
  unfold readMessage
  refine (require_quiet _ _ _).andThen fun name s₁ h₁ => ?_
  refine (optionOf?_quiet raw).andThen fun option? s₂ h₂ => ?_
  split
  · exact (bindOption_ensures _).seq fun p s₃ _ hp => Ensures.pure hp
  · refine Ensures.pure ?_
    rwa [h₂, h₁]

theorem readMethod_ensures (howner : owner ∈ s.imports.packages) :
    Ensures (·.isProper) (readMethod part owner raw) s fun m t =>
      ∀ p ∈ m.packages, p ∈ t.packages := by
  unfold readMethod
  refine (require_quiet _ _ _).andThen fun name s₁ h₁ => ?_
  refine (require_quiet _ _ _).andThen fun rawRequest s₂ h₂ => ?_
  have howner₂ : owner ∈ s₂.imports.packages := by rwa [h₂, h₁]
  refine (readMessage_ensures howner₂).seq fun request s₃ h₃ hrequest => ?_
  refine (require_quiet _ _ _).andThen fun rawResponse s₄ h₄ => ?_
  have howner₄ : owner ∈ s₄.imports.packages := by
    rw [h₄]
    exact h₃.packages howner₂
  refine (readMessage_ensures howner₄).seq fun response s₅ h₅ hresponse => ?_
  refine (readRule?_quiet _ _).andThen fun http? s₆ h₆ => ?_
  have hboth : request.package ∈ s₆.imports.packages ∧ response.package ∈ s₆.imports.packages := by
    rw [h₆]
    exact ⟨h₅.packages (h₄ ▸ hrequest), hresponse⟩
  refine Ensures.pure ?_
  simpa [Method.packages] using hboth

theorem readService_ensures {file : Text} (howner : owner ∈ s.imports.packages) :
    Ensures (·.isProper) (readService file owner raw) s fun v t =>
      ∀ m ∈ v.methods, ∀ p ∈ m.packages, p ∈ t.packages := by
  unfold readService
  refine (require_quiet _ _ _).andThen fun name s₁ h₁ => ?_
  refine (listUnder_quiet _ _ _).andThen fun items s₂ h₂ => ?_
  have howner₂ : owner ∈ s₂.imports.packages := by rwa [h₂, h₁]
  refine (Ensures.mapM_all (fun m t t' h hm p hp => h.packages (hm p hp))
    fun item _ s' h => readMethod_ensures (h.packages howner₂)).seq fun methods s₃ _ hmethods => ?_
  exact Ensures.pure hmethods

/-- **Every package of a file that is read is a package of the table.** -/
theorem read_ensures (raw : Json) :
    Ensures (·.isProper) (read raw) s fun d t => ∀ p ∈ d.packages, p ∈ t.packages := by
  unfold read
  refine (require_quiet _ _ _).andThen fun name s₁ _ => ?_
  refine (readPackage_ensures name raw).seq fun package s₂ _ hpackage => ?_
  refine (listUnder_quiet _ _ _).andThen fun items s₃ h₃ => ?_
  have hpackage₃ : package ∈ s₃.imports.packages := by rwa [h₃]
  refine (Ensures.mapM_all (fun v t t' h hv m hm p hp => h.packages (hv m hm p hp))
    fun item _ s' h => readService_ensures (h.packages hpackage₃)).seq
    fun services s₄ h₄ hservices => ?_
  refine Ensures.pure (List.forall_mem_cons.mpr ⟨h₄.packages hpackage₃, fun p hp => ?_⟩)
  obtain ⟨v, hv, hp⟩ := List.mem_flatMap.mp hp
  obtain ⟨m, hm, hp⟩ := List.mem_flatMap.mp hp
  exact hservices v hv m hm p hp

/-- Every package of a set of files that is read is a package of the table. -/
theorem readSet_ensures (document : Json) :
    Ensures (·.isProper) (readSet document) s fun ds t =>
      ∀ d ∈ ds, ∀ p ∈ d.packages, p ∈ t.packages := by
  unfold readSet
  refine (require_quiet _ _ _).andThen fun files s₁ _ => ?_
  split
  · exact Ensures.mapM_all (fun d t t' h hd p hp => h.packages (hd p hp))
      fun raw _ s' _ => read_ensures raw
  · exact Ensures.throw _

end Descriptor

end ServiceWiring
