import ServiceWiring.Proofs.Descriptor.Calls

/-!
# Where the calls of a session come from

A step of a session chooses some of its calls on the import table by itself: it reserves a name,
asks for a path, or reads what a document mentions. Artifacts ask for the paths that all artifacts
of their kind import. Only one call comes from elsewhere: a stub that is kept apart from its wiring
asks for a path that is made from the directory of the tool, its root and a directory of wirings.

`Accounts kind as t t'` says that a table grew by calls of a kind and by calls of that last sort,
where the stubs are among the listed assemblies and refer to their wirings.

Results:
* `stub_parameters_accounts`: what the calls of a stub are.
* `step_accounts`: what the calls of each step are.

Headline:
* **`run_accounts`**: if a kind holds of what the steps choose and of what artifacts always import,
  it holds of all calls of a session but those for wirings that its stubs refer to.
-/

namespace ServiceWiring

open ImportTable (Grows Call)
open SessionM (Ensures Makes)

/-- The import is that of the wiring to which the artifact refers. -/
structure Parameters.RefersTo (r : Parameters) (g : GoPackage) : Prop where
  /-- The artifact imports it. -/
  mem : g ∈ r.imports
  /-- Its name stands before the names of the wiring. -/
  qualifier : r.wiringQualifier = g.shortName ++ "."

/-- What stands before the names of the wiring is nothing, or the name of an import. -/
def Parameters.Qualified (r : Parameters) : Prop :=
  r.wiringQualifier = [] ∨ ∃ g, r.RefersTo g

/-- The call binds the path of a wiring to which one of the listed artifacts refers. -/
def BindsWiring (as : List Assembly) (c : Call) : Prop :=
  ∃ a ∈ as, ∃ g, a.parameters.RefersTo g ∧ c = .bind g.path none

/-- The second table is what calls of a kind, and those for wirings to which the listed artifacts
refer, make of the first. -/
structure Accounts (kind : Call → Prop) (as : List Assembly) (t t' : ImportTable) : Prop where
  /-- The calls. -/
  grows : Grows (fun c => kind c ∨ BindsWiring as c) t t'
  /-- Nothing else stands before the names of a wiring. -/
  qualified : ∀ a ∈ as, a.parameters.Qualified

/-- The calls for what all artifacts, all wirings or all stubs import. -/
def standardCalls : List Call :=
  (commonPaths ++ Wiring.paths ++ Stub.paths).map fun path => .bind path none

variable {α : Type} {kind : Call → Prop} {as bs : List Assembly} {t t' : ImportTable}
  {x : SessionM α} {s : Session} {d : Descriptor} {common : List GoPackage}

/-! ## One step after another -/

theorem BindsWiring.mono {c : Call} (h : BindsWiring as c) (hsub : as ⊆ bs) : BindsWiring bs c := by
  obtain ⟨a, ha, hc⟩ := h
  exact ⟨a, hsub ha, hc⟩

theorem Accounts.composes (kind : Call → Prop) : Composes (Accounts kind) where
  nil := fun t => ⟨Grows.refl _ _, by simp⟩
  append := by
    intro as bs t t' t'' h h'
    refine ⟨(h.grows.mono fun c => Or.imp_right fun hc => ?_).trans
      (h'.grows.mono fun c => Or.imp_right fun hc => ?_), fun a ha => ?_⟩
    · exact hc.mono (List.subset_append_left as bs)
    · exact hc.mono (List.subset_append_right as bs)
    · exact (List.mem_append.mp ha).elim (h.qualified a) (h'.qualified a)
  grows := fun h => h.grows.mono fun _ _ => trivial

/-- A step that makes only calls of a kind. -/
theorem Accounts.of_ensures {Q : α → ImportTable → Prop} (h : Ensures kind x s Q) :
    Accounts kind [] s.imports (x.final s).imports where
  grows := h.grows.mono fun _ => Or.inl
  qualified := by simp

theorem qualified_of_assembly {x : SessionM Parameters}
    (h : ∀ r, x.result s = .ok r → r.Qualified) : ∀ a ∈ assembly x s, a.parameters.Qualified := by
  intro a ha
  obtain ⟨r, hr, rfl⟩ := mem_assembly_iff.mp ha
  exact h r hr

/-! ## The calls of an assembly -/

theorem mem_standardCalls {path : Text} (h : path ∈ commonPaths ++ Wiring.paths ++ Stub.paths) :
    .bind path none ∈ standardCalls :=
  List.mem_map_of_mem h

/-- A wiring asks for what wirings import, and refers to no other one. -/
theorem wiring_parameters_accounts (hk : ∀ c ∈ standardCalls, kind c)
    (hc : ∀ p ∈ common, p ∈ s.imports.packages) (hd : ∀ p ∈ d.packages, p ∈ s.imports.packages)
    (swagger : Json) : Composes.Holds (Accounts kind) (Wiring.parameters d common swagger) s where
  grows := by
    refine (wiring_parameters_calls (fun path hpath => Or.inl ?_) swagger hc hd).grows
    exact hk _ (mem_standardCalls (by simp [hpath]))
  qualified := qualified_of_assembly fun r hr => Or.inl (Wiring.wiringQualifier_eq hr)

/-- **What the calls of a stub are**: those for what stubs import, and the one for the path of the
wiring to which it then refers. -/
theorem stub_parameters_accounts (hk : ∀ c ∈ standardCalls, kind c) (ht : s.imports.Valid)
    (hc : ∀ p ∈ common, p ∈ s.imports.packages) (hd : ∀ p ∈ d.packages, p ∈ s.imports.packages)
    (site : Stub.Site) : Composes.Holds (Accounts kind) (Stub.parameters d common site) s where
  grows := by
    refine (stub_parameters_calls (fun path hpath => Or.inl ?_) (fun path hpath => Or.inr ?_)
      hc hd).grows
    · exact hk _ (mem_standardCalls (by simp [hpath]))
    · -- A path is only asked for where nothing can fail any more, so the stub is assembled.
      obtain ⟨wiringPath, hsite⟩ := Stub.Site.wiringPath?_of_importedWiring? hpath
      obtain ⟨r, hr⟩ := stub_parameters_total hsite d common s
      obtain ⟨g, hg, rfl, hqualifier⟩ := stub_wiring_mem ht hc hd hr hpath
      exact ⟨_, mem_assembly_of_ok hr, g, ⟨hg, hqualifier⟩, rfl⟩
  qualified := qualified_of_assembly fun r hr => by
    cases hpath : site.importedWiring? d with
    | some path =>
      obtain ⟨g, hg, -, hqualifier⟩ := stub_wiring_mem ht hc hd hr hpath
      exact Or.inr ⟨g, hg, hqualifier⟩
    | none => exact Or.inl (((stub_parameters_ensures site hc hd).gives r hr).2.2.2 hpath)

/-! ## The calls of a session -/

/-- The calls that a step chooses by itself. -/
def Step.calls : Step → List Call
  | .reserve name path => [.reserve name path]
  | .bind path name? => [.bind path name?]
  | .read raw => (Descriptor.mentionsOf raw).map Descriptor.binding
  | .readSet document => (Descriptor.mentions document).map Descriptor.binding
  | .bindCommon paths => paths.map fun path => .bind path none
  | _ => []

namespace Desk

variable {desk : Desk} {step : Step} {steps : List Step}

/-- What a step does to the table is accounted for by what it chooses and assembles. -/
def StepAccounts (kind : Call → Prop) (desk desk' : Desk) : Prop :=
  ∃ as, desk'.assembled = desk.assembled ++ as ∧
    Accounts kind as desk.session.imports desk'.session.imports

theorem perform_accounts {put : α → Desk → Desk}
    (h : Accounts kind as desk.session.imports (x.final desk.session).imports)
    (hput : ∀ a desk', (put a desk').session = desk'.session ∧
      (put a desk').assembled = desk'.assembled) :
    StepAccounts kind desk (desk.perform x as put) := by
  unfold Desk.perform
  simp only
  split
  · obtain ⟨hsession, hassembled⟩ := hput _ _
    exact ⟨as, hassembled, by rwa [hsession]⟩
  · exact ⟨as, rfl, h⟩

theorem unchanged_accounts (kind : Call → Prop) (desk : Desk) : StepAccounts kind desk desk :=
  ⟨[], (List.append_nil _).symm, (Accounts.composes kind).nil _⟩

/-- **What the calls of each step are.** -/
theorem step_accounts (hk : ∀ c ∈ standardCalls, kind c) (hstep : ∀ c ∈ step.calls, kind c)
    (h : desk.Sound fun _ => True) : StepAccounts kind desk (desk.step step) := by
  cases step with
  | reserve name path =>
    have hgrows : Grows (fun c => kind c ∨ BindsWiring [] c) desk.session.imports
        (desk.session.imports.call (.reserve name path)) :=
      Grows.single (Or.inl (hstep _ List.mem_cons_self))
    exact ⟨[], (List.append_nil _).symm, hgrows, by simp⟩
  | bind path name? =>
    have hbind := SessionM.ensures_bind (s := desk.session) (hstep _ List.mem_cons_self)
    exact perform_accounts (Accounts.of_ensures hbind) fun _ _ => ⟨rfl, rfl⟩
  | read raw =>
    have hread : Makes kind (Descriptor.read raw) := Descriptor.read_makes fun m hm =>
      hstep _ (List.mem_map_of_mem hm)
    exact perform_accounts (Accounts.of_ensures (hread desk.session)) fun _ _ => ⟨rfl, rfl⟩
  | readSet document =>
    have hread : Makes kind (Descriptor.readSet document) := Descriptor.readSet_makes fun m hm =>
      hstep _ (List.mem_map_of_mem hm)
    exact perform_accounts (Accounts.of_ensures (hread desk.session)) fun _ _ => ⟨rfl, rfl⟩
  | bindCommon paths =>
    have hbind : ∀ path ∈ paths, kind (.bind path none) := fun path hpath =>
      hstep _ (List.mem_map_of_mem hpath)
    exact perform_accounts (Accounts.of_ensures (bindCommon_ensures hbind)) fun _ _ => ⟨rfl, rfl⟩
  | wiring file common swagger =>
    simp only [Desk.step]
    split
    · rename_i d c hd hc
      have hwiring := wiring_parameters_accounts hk (h.commons c (List.mem_of_getElem? hc))
        (h.files d (List.mem_of_getElem? hd)) swagger
      exact perform_accounts hwiring fun _ _ => ⟨rfl, rfl⟩
    · exact unchanged_accounts kind desk
  | stub file common site =>
    simp only [Desk.step]
    split
    · rename_i d c hd hc
      have hstub := stub_parameters_accounts hk (h.grown.valid ImportTable.valid_empty)
        (h.commons c (List.mem_of_getElem? hc)) (h.files d (List.mem_of_getElem? hd)) site
      exact perform_accounts hstub fun _ _ => ⟨rfl, rfl⟩
    · exact unchanged_accounts kind desk
  | create options renderer formatter toolDir? roots? =>
    have hcommon : ∀ path ∈ commonPaths, kind (.bind path none) := fun path hpath =>
      hk _ (mem_standardCalls (by simp [hpath]))
    have hcreate : Ensures kind (Generator.create options renderer formatter toolDir? roots?)
        desk.session _ := Generator.create_ensures hcommon ..
    exact perform_accounts (Accounts.of_ensures hcreate) fun _ _ => ⟨rfl, rfl⟩
  | generate generator files =>
    simp only [Desk.step]
    split
    · rename_i g hg
      have hc := h.generators g (List.mem_of_getElem? hg)
      have hfiles : ∀ d ∈ files.filterMap (desk.files[·]?), ∀ p ∈ d.packages,
          p ∈ desk.session.imports.packages := by
        intro d hd
        obtain ⟨i, -, hi⟩ := List.mem_filterMap.mp hd
        exact h.files d (List.mem_of_getElem? hi)
      refine perform_accounts ((Accounts.composes kind).generate _ (fun d hd s' hs' => ?_)
        fun d hd s' hs' => ?_) fun _ _ => ⟨rfl, rfl⟩
      · exact wiring_parameters_accounts hk (fun p hp => hs'.packages (hc p hp))
          (fun p hp => hs'.packages (hfiles d hd p hp)) _
      · exact stub_parameters_accounts hk ((h.grown.trans hs').valid ImportTable.valid_empty)
          (fun p hp => hs'.packages (hc p hp)) (fun p hp => hs'.packages (hfiles d hd p hp)) g.site
    · exact unchanged_accounts kind desk
  | outside machine => exact unchanged_accounts kind desk

theorem run_accounts_of_sound (hk : ∀ c ∈ standardCalls, kind c)
    (hsteps : ∀ step ∈ steps, ∀ c ∈ step.calls, kind c) (hsound : desk.Sound fun _ => True)
    (h : Accounts kind desk.assembled ∅ desk.session.imports) :
    Accounts kind (desk.run steps).assembled ∅ (desk.run steps).session.imports := by
  induction steps generalizing desk with
  | nil => exact h
  | cons step steps ih =>
    obtain ⟨as, hassembled, haccounts⟩ := step_accounts hk (hsteps step List.mem_cons_self) hsound
    refine ih (fun s hs => hsteps s (List.mem_cons_of_mem step hs)) ?_ ?_
    · exact step_sound (fun _ _ => trivial) (makes_any step) hsound
    · rw [hassembled]
      exact (Accounts.composes kind).append h haccounts

/-- **What the calls of a session are.** If a kind holds of the calls that the steps choose and of
those for what artifacts always import, the table was made by calls of that kind and by those for
the paths of wirings to which assembled stubs refer. -/
theorem run_accounts (machine : Machine) (hk : ∀ c ∈ standardCalls, kind c)
    (hsteps : ∀ step ∈ steps, ∀ c ∈ step.calls, kind c) :
    Accounts kind ((start machine).run steps).assembled ∅
      ((start machine).run steps).session.imports :=
  run_accounts_of_sound hk hsteps (start_sound machine) ((Accounts.composes kind).nil ∅)

end Desk

end ServiceWiring
