import ServiceWiring.Proofs.ImportTable.AppendOnly
import ServiceWiring.Proofs.Session.Growth

/-!
# Steps that can be repeated

What a step binds stays bound, so a step that has given something gives it again in every session
whose table has grown from the one that it left, and then it binds nothing any more. `Lasting` says
so of a step that may also ask the machine, provided that the two machines answer alike. `Steady`
steps give the same in all sessions, `Tabled` ones in all sessions with one table.

There is one rule for each way that steps are put together, as for `Ensures`.

Results:
* `Lasting.bind`: a binding lasts, since its path keeps its package.
* `Lasting.seq`, `Lasting.mapM`: so does one lasting step after another.
* `Steady.seq`: the same for steady steps.
-/

namespace ServiceWiring.SessionM

open ImportTable (Grows)

variable {α β : Type} {alike : Machine → Machine → Prop} {x : SessionM α} {f : α → SessionM β}
  {s s' : Session}

/-- One step after another gives the same if each of them does. -/
theorem result_seq_congr {x' : SessionM α} {f' : α → SessionM β} (hx : x'.result s' = x.result s)
    (hf : ∀ a, (f' a).result (x'.final s') = (f a).result (x.final s)) :
    (x' >>= f').result s' = (x >>= f).result s := by
  rw [result_seq, result_seq, hx]
  cases x.result s with
  | ok a => exact hf a
  | error e => rfl

/-! ## Steps that give the same everywhere -/

/-- The step gives the same in all sessions. -/
def Steady (x : SessionM α) : Prop := ∀ s s', x.result s' = x.result s

namespace Steady

theorem pure (a : α) : Steady (Pure.pure a : SessionM α) := fun _ _ => rfl

theorem throw (e : Fault) : Steady (MonadExcept.throw e : SessionM α) := fun _ _ => rfl

theorem report (e : Event) : Steady (SessionM.report e) := fun _ _ => rfl

theorem lift (r : Except Fault α) : Steady (liftExcept r : SessionM α) := by
  cases r with
  | ok a => exact pure a
  | error e => exact throw e

/-- An operation that gives the same on all machines. -/
theorem onMachine {operation : Machine → Machine × α} {a : α} (h : ∀ m, (operation m).2 = a) :
    Steady (SessionM.onMachine operation) := by
  have hresult (s : Session) : (SessionM.onMachine operation).result s = .ok a :=
    congrArg Except.ok (h s.machine)
  intro s s'
  rw [hresult, hresult]

theorem seq (hx : Steady x) (hf : ∀ a, Steady (f a)) : Steady (x >>= f) :=
  fun s s' => result_seq_congr (hx s s') fun a => hf a _ _

theorem map (hx : Steady x) (g : α → β) : Steady (g <$> x) := by
  rw [← bind_pure_comp]
  exact hx.seq fun a => pure (g a)

end Steady

/-! ## Steps that see only the table -/

/-- What the step gives and what it binds depends on the table alone. -/
structure Tabled (x : SessionM α) : Prop where
  /-- With one table it gives one result. -/
  result : ∀ {s s'}, s'.imports = s.imports → x.result s' = x.result s
  /-- With one table it leaves one table. -/
  table : ∀ {s s'}, s'.imports = s.imports → (x.final s').imports = (x.final s).imports

namespace Tabled

theorem of_steady (h : Steady x) (hq : Quiet x) : Tabled x where
  result := fun _ => h _ _
  table := fun ht => (hq _).trans (ht.trans (hq _).symm)

theorem pure (a : α) : Tabled (Pure.pure a : SessionM α) := of_steady (Steady.pure a) (Quiet.pure a)

theorem report (e : Event) : Tabled (SessionM.report e) :=
  of_steady (Steady.report e) (Quiet.report e)

theorem lift (r : Except Fault α) : Tabled (liftExcept r : SessionM α) :=
  of_steady (Steady.lift r) (Quiet.lift r)

theorem bind (path : Text) (name? : Option Text) : Tabled (SessionM.bind path name?) where
  result := fun {s s'} ht => by
    show Except.ok (s'.imports.bind path name?).1 = Except.ok (s.imports.bind path name?).1
    rw [ht]
  table := fun {s s'} ht => by
    show (s'.imports.bind path name?).2 = (s.imports.bind path name?).2
    rw [ht]

theorem seq (hx : Tabled x) (hf : ∀ a, Tabled (f a)) : Tabled (x >>= f) where
  result := fun ht => result_seq_congr (hx.result ht) fun a => (hf a).result (hx.table ht)
  table := fun {s s'} ht => by
    rw [final_seq, final_seq, hx.result ht]
    cases x.result s with
    | ok a => exact (hf a).table (hx.table ht)
    | error e => exact hx.table ht

theorem map (hx : Tabled x) (g : α → β) : Tabled (g <$> x) := by
  rw [← bind_pure_comp]
  exact hx.seq fun a => pure (g a)

theorem foldlM {g : β → α → SessionM β} (hg : ∀ b a, Tabled (g b a)) (l : List α) (b : β) :
    Tabled (l.foldlM g b) := by
  induction l generalizing b with
  | nil => exact pure b
  | cons a l ih =>
    rw [List.foldlM_cons]
    exact (hg b a).seq ih

end Tabled

/-! ## Steps that last -/

/-- The step leaves the machine alone and lets the table grow, and what it has given it gives again,
without any change to the table, wherever the table has grown further and the machine answers alike.
-/
structure Lasting (alike : Machine → Machine → Prop) (x : SessionM α) : Prop where
  /-- The table only grows. -/
  grows : ∀ s, Grows (fun _ => True) s.imports (x.final s).imports
  /-- The machine stays as it is. -/
  still : ∀ s, (x.final s).machine = s.machine
  /-- The step can be repeated. -/
  again : ∀ {s s' a}, x.result s = .ok a → alike s.machine s'.machine →
    Grows (fun _ => True) (x.final s).imports s'.imports →
      x.result s' = .ok a ∧ (x.final s').imports = s'.imports

namespace Lasting

/-- A step that leaves the table alone lasts if its result does. -/
theorem of_quiet (hq : Quiet x) (hm : ∀ s, (x.final s).machine = s.machine)
    (h : ∀ s s', alike s.machine s'.machine → x.result s' = x.result s) : Lasting alike x where
  grows := by
    intro s
    rw [hq s]
    exact Grows.refl _ _
  still := hm
  again := by
    intro s s' a ha halike _
    exact ⟨(h s s' halike).trans ha, hq s'⟩

theorem pure (a : α) : Lasting alike (Pure.pure a : SessionM α) :=
  of_quiet (Quiet.pure a) (fun _ => rfl) fun _ _ _ => rfl

theorem throw (e : Fault) : Lasting alike (MonadExcept.throw e : SessionM α) :=
  of_quiet (Quiet.throw e) (fun _ => rfl) fun _ _ _ => rfl

theorem report (e : Event) : Lasting alike (SessionM.report e) :=
  of_quiet (Quiet.report e) (fun _ => rfl) fun _ _ _ => rfl

theorem lift (r : Except Fault α) : Lasting alike (liftExcept r : SessionM α) := by
  cases r with
  | ok a => exact pure a
  | error e => exact throw e

/-- **A binding lasts**: its path keeps the package. -/
theorem bind (path : Text) (name? : Option Text) : Lasting alike (SessionM.bind path name?) where
  grows := fun s => Grows.single (c := .bind path name?) trivial
  still := fun _ => rfl
  again := by
    intro s s' p hp _ hgrown
    obtain rfl : (s.imports.bind path name?).1 = p := Except.ok.inj hp
    have hb : s'.imports.bind path name? = ((s.imports.bind path name?).1, s'.imports) :=
      Grows.bind_again hgrown name?
    have hresult : (SessionM.bind path name?).result s' = .ok (s'.imports.bind path name?).1 := rfl
    have hfinal : ((SessionM.bind path name?).final s').imports =
        (s'.imports.bind path name?).2 := rfl
    rw [hresult, hfinal, hb]
    exact ⟨rfl, rfl⟩

/-- What follows a step only grows the table that the step leaves. -/
theorem grows_left (alike : Machine → Machine → Prop) (hf : ∀ a, Lasting alike (f a))
    (s : Session) : Grows (fun _ => True) (x.final s).imports ((x >>= f).final s).imports := by
  rw [final_seq]
  cases x.result s with
  | ok a => exact (hf a).grows _
  | error e => exact Grows.refl _ _

/-- **One lasting step after another lasts.** -/
theorem seq (hx : Lasting alike x) (hf : ∀ a, Lasting alike (f a)) : Lasting alike (x >>= f) where
  grows := fun s => (hx.grows s).trans (grows_left alike hf s)
  still := by
    intro s
    rw [final_seq]
    cases x.result s with
    | ok a => exact ((hf a).still _).trans (hx.still s)
    | error e => exact hx.still s
  again := by
    intro s s' b hb halike hgrown
    obtain ⟨a, ha, hfa⟩ := result_seq_eq_ok_iff.mp hb
    rw [final_seq, ha] at hgrown
    obtain ⟨ha', hs'⟩ := hx.again ha halike (((hf a).grows _).trans hgrown)
    -- The second step finds the machines and the table of `s'` as the first one found them.
    have halike' : alike (x.final s).machine (x.final s').machine := by
      rwa [hx.still, hx.still]
    have hgrown' :
        Grows (fun _ => True) ((f a).final (x.final s)).imports (x.final s').imports := by
      rwa [hs']
    obtain ⟨hb', ht⟩ := (hf a).again hfa halike' hgrown'
    refine ⟨result_seq_eq_ok_iff.mpr ⟨a, ha', hb'⟩, ?_⟩
    rw [final_seq, ha']
    exact ht.trans hs'

theorem map (hx : Lasting alike x) (g : α → β) : Lasting alike (g <$> x) := by
  rw [← bind_pure_comp]
  exact hx.seq fun a => pure (g a)

theorem mapM {l : List α} (hf : ∀ a ∈ l, Lasting alike (f a)) : Lasting alike (l.mapM f) := by
  induction l with
  | nil => exact pure []
  | cons a l ih =>
    rw [List.mapM_cons]
    refine (hf a List.mem_cons_self).seq fun b => ?_
    exact (ih fun c hc => hf c (List.mem_cons_of_mem a hc)).seq fun bs => pure (b :: bs)

theorem forM {g : α → SessionM Unit} (hg : ∀ a, Lasting alike (g a)) (l : List α) :
    Lasting alike (l.forM g) := by
  induction l with
  | nil => exact pure ()
  | cons a l ih => exact (hg a).seq fun _ => ih

theorem foldlM {g : β → α → SessionM β} (hg : ∀ b a, Lasting alike (g b a)) (l : List α) (b : β) :
    Lasting alike (l.foldlM g b) := by
  induction l generalizing b with
  | nil => exact pure b
  | cons a l ih =>
    rw [List.foldlM_cons]
    exact (hg b a).seq ih

end Lasting

end ServiceWiring.SessionM
