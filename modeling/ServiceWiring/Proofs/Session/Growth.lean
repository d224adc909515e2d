import Mathlib.Data.List.Forall2
import ServiceWiring.Proofs.ImportTable.Calls
import ServiceWiring.Session

/-!
# How the steps of a session change its import table

A step changes the import table by calls on it alone, so the table grows whether the step fails or
not. `Ensures kind x s Q` says that from session `s` the step `x` makes only calls of a kind, and
that what it gives, if it gives anything, satisfies `Q` in the table that it leaves. `Quiet` steps
leave the table alone.

There is one rule for each way that steps are put together. A step that comes later may use all that
is known of an earlier table, since nothing that is bound is lost.

Results:
* `Ensures.seq`, `Ensures.mapM`: the rules for one step after another.
* `Quiet.ensures`: the rule for a step that leaves the table alone.
* `ensures_bind`: a binding gives the package that its path has from then on.
* `Makes.seq`, `Makes.mapM`: the rules for which calls a step makes, wherever it is taken.
-/

namespace ServiceWiring

/-- What is listed has a partner in a list that goes along with it. -/
theorem exists_of_forall₂ {α β : Type} {r : α → β → Prop} {as : List α} {bs : List β} {a : α}
    (h : List.Forall₂ r as bs) (ha : a ∈ as) : ∃ b ∈ bs, r a b := by
  induction h with
  | nil => cases ha
  | cons hab _ ih =>
    rcases List.mem_cons.mp ha with rfl | ha
    · exact ⟨_, List.mem_cons_self, hab⟩
    · obtain ⟨b, hb, hab⟩ := ih ha
      exact ⟨b, List.mem_cons_of_mem _ hb, hab⟩

/-- What is known of a result, if there is one, is known of one that there is. -/
theorem exists_ok_of_map {ε α β : Type} {r : Except ε α} {f : α → β} {b : β}
    (h : r.toOption.map f = some b) : ∃ a, r = .ok a ∧ f a = b := by
  cases r with
  | ok a => exact ⟨a, rfl, Option.some.inj h⟩
  | error e => cases h

namespace SessionM

open ImportTable (Grows Call wantedName)

variable {α β : Type} {kind kind' : Call → Prop} {x : SessionM α} {f : α → SessionM β}
  {s : Session} {Q Q' : α → ImportTable → Prop} {R : β → ImportTable → Prop}

/-! ## Running a step -/

/-- What a step gives, or why it fails. -/
def result (x : SessionM α) (s : Session) : Except Fault α := (x.run.run s).1

/-- The session that a step leaves, whether it fails or not. -/
def final (x : SessionM α) (s : Session) : Session := (x.run.run s).2

theorem result_seq (x : SessionM α) (f : α → SessionM β) (s : Session) :
    (x >>= f).result s =
      match x.result s with
      | .ok a => (f a).result (x.final s)
      | .error e => .error e := by
  unfold result final
  cases h : (x.run.run s : Except Fault α × Session) with
  | mk r s' =>
    simp only [ExceptT.run_bind, StateT.run_bind, h]
    cases r <;> rfl

theorem final_seq (x : SessionM α) (f : α → SessionM β) (s : Session) :
    (x >>= f).final s =
      match x.result s with
      | .ok a => (f a).final (x.final s)
      | .error _ => x.final s := by
  unfold result final
  cases h : (x.run.run s : Except Fault α × Session) with
  | mk r s' =>
    simp only [ExceptT.run_bind, StateT.run_bind, h]
    cases r <;> rfl

theorem result_seq_of_ok {a : α} (h : x.result s = .ok a) :
    (x >>= f).result s = (f a).result (x.final s) := by
  rw [result_seq, h]

theorem final_seq_of_ok {a : α} (h : x.result s = .ok a) :
    (x >>= f).final s = (f a).final (x.final s) := by
  rw [final_seq, h]

theorem result_seq_of_error {e : Fault} (h : x.result s = .error e) :
    (x >>= f).result s = .error e := by
  rw [result_seq, h]

theorem final_seq_of_error {e : Fault} (h : x.result s = .error e) :
    (x >>= f).final s = x.final s := by
  rw [final_seq, h]

theorem result_map (g : α → β) (x : SessionM α) (s : Session) :
    (g <$> x).result s = (x.result s).map g := by
  rw [← bind_pure_comp, result_seq]
  cases x.result s <;> rfl

theorem final_map (g : α → β) (x : SessionM α) (s : Session) :
    (g <$> x).final s = x.final s := by
  rw [← bind_pure_comp, final_seq]
  cases x.result s <;> rfl

/-- One step after another gives something iff both do. -/
theorem result_seq_eq_ok_iff {b : β} : (x >>= f).result s = .ok b ↔
    ∃ a, x.result s = .ok a ∧ (f a).result (x.final s) = .ok b := by
  rw [result_seq]
  cases x.result s <;> simp

/-! ## Steps that never fail -/

/-- The step gives something, from whatever session. -/
def Total (x : SessionM α) : Prop := ∀ s, ∃ a, x.result s = .ok a

namespace Total

theorem pure (a : α) : Total (Pure.pure a : SessionM α) := fun _ => ⟨a, rfl⟩

theorem report (e : Event) : Total (SessionM.report e) := fun _ => ⟨(), rfl⟩

theorem bind (path : Text) (name? : Option Text) : Total (SessionM.bind path name?) :=
  fun s => ⟨(s.imports.bind path name?).1, rfl⟩

theorem seq (hx : Total x) (hf : ∀ a, Total (f a)) : Total (x >>= f) := by
  intro s
  obtain ⟨a, ha⟩ := hx s
  obtain ⟨b, hb⟩ := hf a (x.final s)
  exact ⟨b, result_seq_eq_ok_iff.mpr ⟨a, ha, hb⟩⟩

theorem mapM (hf : ∀ a, Total (f a)) (l : List α) : Total (l.mapM f) := by
  induction l with
  | nil => exact pure []
  | cons a l ih =>
    rw [List.mapM_cons]
    exact (hf a).seq fun b => ih.seq fun bs => pure (b :: bs)

theorem forM {g : α → SessionM Unit} (hg : ∀ a, Total (g a)) (l : List α) : Total (l.forM g) := by
  induction l with
  | nil => exact pure ()
  | cons a l ih => exact (hg a).seq fun _ => ih

theorem foldlM {g : β → α → SessionM β} (hg : ∀ b a, Total (g b a)) (l : List α) (b : β) :
    Total (l.foldlM g b) := by
  induction l generalizing b with
  | nil => exact pure b
  | cons a l ih =>
    rw [List.foldlM_cons]
    exact (hg b a).seq ih

end Total

/-! ## Steps that leave the table alone -/

/-- The step leaves the import table as it is. -/
def Quiet (x : SessionM α) : Prop := ∀ s, (x.final s).imports = s.imports

namespace Quiet

theorem pure (a : α) : Quiet (Pure.pure a : SessionM α) := fun _ => rfl

theorem throw (e : Fault) : Quiet (MonadExcept.throw e : SessionM α) := fun _ => rfl

theorem machine : Quiet SessionM.machine := fun _ => rfl

theorem report (e : Event) : Quiet (SessionM.report e) := fun _ => rfl

theorem onMachine (operation : Machine → Machine × α) : Quiet (SessionM.onMachine operation) :=
  fun _ => rfl

theorem lift (r : Except Fault α) : Quiet (liftExcept r : SessionM α) := by
  cases r with
  | ok a => exact pure a
  | error e => exact throw e

theorem ofPath (r : Except PathFault α) : Quiet (SessionM.ofPath r) := by
  cases r with
  | ok a => exact pure a
  | error e => exact throw _

theorem seq (hx : Quiet x) (hf : ∀ a, Quiet (f a)) : Quiet (x >>= f) := by
  intro s
  rw [final_seq]
  cases x.result s with
  | ok a => exact (hf a _).trans (hx s)
  | error e => exact hx s

theorem map (hx : Quiet x) (g : α → β) : Quiet (g <$> x) := by
  rw [← bind_pure_comp]
  exact hx.seq fun a => pure (g a)

theorem mapM (hf : ∀ a, Quiet (f a)) (l : List α) : Quiet (l.mapM f) := by
  induction l with
  | nil => exact pure []
  | cons a l ih =>
    rw [List.mapM_cons]
    exact (hf a).seq fun b => ih.seq fun bs => pure (b :: bs)

theorem forM {g : α → SessionM Unit} (hg : ∀ a, Quiet (g a)) (l : List α) : Quiet (l.forM g) := by
  induction l with
  | nil => exact pure ()
  | cons a l ih => exact (hg a).seq fun _ => ih

end Quiet

/-! ## Steps that let the table grow -/

/-- The step makes only calls of a kind, and what it gives is as stated. -/
structure Ensures (kind : Call → Prop) (x : SessionM α) (s : Session)
    (Q : α → ImportTable → Prop) : Prop where
  /-- The table only grows. -/
  grows : Grows kind s.imports (x.final s).imports
  /-- What the step gives. -/
  gives : ∀ a, x.result s = .ok a → Q a (x.final s).imports

namespace Ensures

theorem pure {a : α} (h : Q a s.imports) : Ensures kind (Pure.pure a) s Q where
  grows := Grows.refl _ _
  gives := by
    rintro b hb
    cases hb
    exact h

theorem throw (e : Fault) : Ensures kind (MonadExcept.throw e) s Q where
  grows := Grows.refl _ _
  gives := by
    intro b hb
    cases hb

theorem mono (h : Ensures kind x s Q)
    (hQ : ∀ a t, Grows kind s.imports t → Q a t → Q' a t) : Ensures kind x s Q' where
  grows := h.grows
  gives := fun a ha => hQ a _ h.grows (h.gives a ha)

theorem kind_mono (hk : ∀ c, kind c → kind' c) (h : Ensures kind x s Q) : Ensures kind' x s Q where
  grows := h.grows.mono hk
  gives := h.gives

theorem seq (hx : Ensures kind x s Q)
    (hf : ∀ a s', Grows kind s.imports s'.imports → Q a s'.imports → Ensures kind (f a) s' R) :
    Ensures kind (x >>= f) s R := by
  cases hr : x.result s with
  | ok a =>
    have hfa := hf a (x.final s) hx.grows (hx.gives a hr)
    refine ⟨?_, fun b hb => ?_⟩
    · rw [final_seq, hr]
      exact hx.grows.trans hfa.grows
    · rw [result_seq, hr] at hb
      rw [final_seq, hr]
      exact hfa.gives b hb
  | error e =>
    refine ⟨?_, fun b hb => ?_⟩
    · rw [final_seq, hr]
      exact hx.grows
    · rw [result_seq, hr] at hb
      cases hb

/-- A list of steps gives a list of results, each as stated of its own step. -/
theorem mapM {P : α → β → ImportTable → Prop} {l : List α}
    (stable : ∀ a b t t', Grows kind t t' → P a b t → P a b t')
    (h : ∀ a ∈ l, ∀ s', Grows kind s.imports s'.imports → Ensures kind (f a) s' (P a)) :
    Ensures kind (l.mapM f) s fun bs t => List.Forall₂ (fun a b => P a b t) l bs := by
  induction l generalizing s with
  | nil => exact pure List.Forall₂.nil
  | cons a l ih =>
    rw [List.mapM_cons]
    refine (h a List.mem_cons_self s (Grows.refl _ _)).seq fun b s₁ h₁ hb => ?_
    refine (ih fun c hc s' h' => h c (List.mem_cons_of_mem a hc) s' (h₁.trans h')).seq
      fun bs s₂ h₂ hbs => ?_
    exact pure (List.Forall₂.cons (stable a b _ _ h₂ hb) hbs)

/-- What is stated of the result of each step holds of all results. -/
theorem mapM_all {P : β → ImportTable → Prop} {l : List α}
    (stable : ∀ b t t', Grows kind t t' → P b t → P b t')
    (h : ∀ a ∈ l, ∀ s', Grows kind s.imports s'.imports → Ensures kind (f a) s' P) :
    Ensures kind (l.mapM f) s fun bs t => ∀ b ∈ bs, P b t := by
  refine (mapM (P := fun _ => P) (fun _ => stable) h).mono fun bs t _ hbs => ?_
  clear h
  induction hbs with
  | nil => simp
  | cons hb _ ih => exact List.forall_mem_cons.mpr ⟨hb, ih⟩

end Ensures

/-- A step that leaves the table alone makes no calls. -/
theorem Quiet.ensures (h : Quiet x) (hQ : ∀ a, x.result s = .ok a → Q a s.imports) :
    Ensures kind x s Q where
  grows := by
    rw [h s]
    exact Grows.refl _ _
  gives := by
    rw [h s]
    exact hQ

/-- After a step that leaves the table alone, the next one finds it unchanged. -/
theorem Quiet.andThen (h : Quiet x)
    (hf : ∀ a s', s'.imports = s.imports → Ensures kind (f a) s' R) :
    Ensures kind (x >>= f) s R := by
  have hx : Ensures kind x s fun _ t => t = s.imports := h.ensures fun _ _ => rfl
  exact hx.seq fun a s' _ hs => hf a s' hs

/-- A binding gives the package that its path has from then on. -/
theorem ensures_bind {path : Text} {name? : Option Text} (h : kind (.bind path name?)) :
    Ensures kind (SessionM.bind path name?) s fun p t => t.package? path = some p where
  grows := Grows.single h
  gives := by
    rintro p hp
    cases hp
    exact ImportTable.package?_bind_self s.imports path name?

/-! ## Which calls a step makes -/

/-- From whatever session, the step makes only calls of a kind. -/
def Makes (kind : Call → Prop) (x : SessionM α) : Prop := ∀ s, Ensures kind x s fun _ _ => True

namespace Makes

theorem of_quiet (h : Quiet x) : Makes kind x := fun _ => h.ensures fun _ _ => trivial

theorem bind {path : Text} {name? : Option Text} (h : kind (.bind path name?)) :
    Makes kind (SessionM.bind path name?) :=
  fun _ => (ensures_bind h).mono fun _ _ _ _ => trivial

theorem seq (hx : Makes kind x) (hf : ∀ a, Makes kind (f a)) : Makes kind (x >>= f) :=
  fun s => (hx s).seq fun a s' _ _ => hf a s'

/-- A step that binds nothing may be told by what it gives. -/
theorem after (hx : Quiet x) (hf : ∀ s a, x.result s = .ok a → Makes kind (f a)) :
    Makes kind (x >>= f) := by
  intro s
  have hgiven : Ensures kind x s fun a _ => x.result s = .ok a := hx.ensures fun _ ha => ha
  exact hgiven.seq fun a s' _ ha => hf s a ha s'

theorem followed (hx : Makes kind x) (hf : ∀ a, Quiet (f a)) : Makes kind (x >>= f) :=
  hx.seq fun a => of_quiet (hf a)

theorem mapM {l : List α} (h : ∀ a ∈ l, Makes kind (f a)) : Makes kind (l.mapM f) :=
  fun _ => (Ensures.mapM_all (fun _ _ _ _ h => h) fun a ha s' _ => h a ha s').mono
    fun _ _ _ _ => trivial

end Makes

end SessionM

end ServiceWiring
