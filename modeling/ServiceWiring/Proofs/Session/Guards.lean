import ServiceWiring.Proofs.Session.Growth

/-!
# What the steps of a session keep of the machine

`Guards known x Q` says of the step `x` that what is known of the machine before it is known
afterwards, whether the step fails or not, and that what it gives, if it gives anything, satisfies
`Q`. Steps that leave the machine alone guard whatever is known of it.

There is one rule for each way that steps are put together.
-/

namespace ServiceWiring.SessionM

variable {α β : Type} {known : Machine → Prop} {x : SessionM α} {f : α → SessionM β}
  {Q Q' : α → Prop} {R : β → Prop}

/-- The step keeps what is known of the machine, and what it gives is as stated. -/
structure Guards (known : Machine → Prop) (x : SessionM α) (Q : α → Prop) : Prop where
  /-- What is known of the machine is known afterwards. -/
  keeps : ∀ s, known s.machine → known (x.final s).machine
  /-- What the step gives. -/
  gives : ∀ s a, known s.machine → x.result s = .ok a → Q a

/-- What the step leaves behind and gives from one session. -/
structure Ends (known : Machine → Prop) (x : SessionM α) (s : Session) (Q : α → Prop) : Prop where
  /-- What is known of the machine afterwards. -/
  leaves : known (x.final s).machine
  /-- What the step gives. -/
  gives : ∀ a, x.result s = .ok a → Q a

namespace Guards

/-- A step that leaves the machine alone guards whatever is known of it. -/
theorem of_still (h : ∀ s, (x.final s).machine = s.machine)
    (hQ : ∀ s a, known s.machine → x.result s = .ok a → Q a) : Guards known x Q where
  keeps := fun s hs => (h s).symm ▸ hs
  gives := hQ

theorem mono (h : Guards known x Q) (hQ : ∀ a, Q a → Q' a) : Guards known x Q' where
  keeps := h.keeps
  gives := fun s a hs ha => hQ a (h.gives s a hs ha)

theorem pure {a : α} (h : Q a) : Guards known (Pure.pure a) Q :=
  of_still (fun _ => rfl) fun _ _ _ hb => Except.ok.inj hb ▸ h

theorem throw (e : Fault) : Guards known (MonadExcept.throw e) Q :=
  of_still (fun _ => rfl) fun _ _ _ ha => by cases ha

theorem report (e : Event) : Guards known (SessionM.report e) fun _ => True :=
  of_still (fun _ => rfl) fun _ _ _ _ => trivial

theorem bind (path : Text) (name? : Option Text) :
    Guards known (SessionM.bind path name?) fun _ => True :=
  of_still (fun _ => rfl) fun _ _ _ _ => trivial

theorem machine : Guards known SessionM.machine known :=
  of_still (fun _ => rfl) fun _ _ hs ha => Except.ok.inj ha ▸ hs

theorem lift {r : Except Fault α} : Guards known (liftExcept r) fun a => r = .ok a := by
  cases r with
  | ok a => exact pure rfl
  | error e => exact throw e

theorem monadLift {r : Except Fault α} : Guards known (liftM r : SessionM α) fun _ => True := by
  cases r with
  | ok a => exact pure trivial
  | error e => exact throw e

theorem ofPath (r : Except PathFault α) : Guards known (SessionM.ofPath r) fun _ => True := by
  cases r with
  | ok a => exact pure trivial
  | error e => exact throw _

theorem onMachine {operation : Machine → Machine × α} (h : ∀ m, known m → known (operation m).1) :
    Guards known (SessionM.onMachine operation) fun _ => True where
  keeps := fun s hs => h s.machine hs
  gives := fun _ _ _ _ => trivial

theorem seq (hx : Guards known x Q) (hf : ∀ a, Q a → Guards known (f a) R) :
    Guards known (x >>= f) R where
  keeps := by
    intro s hs
    rw [final_seq]
    cases hr : x.result s with
    | ok a => exact (hf a (hx.gives s a hs hr)).keeps _ (hx.keeps s hs)
    | error e => exact hx.keeps s hs
  gives := by
    intro s b hs hb
    obtain ⟨a, ha, hb⟩ := result_seq_eq_ok_iff.mp hb
    exact (hf a (hx.gives s a hs ha)).gives _ b (hx.keeps s hs) hb

/-- A list of steps gives a list of results, each as stated of its own step. -/
theorem mapM_forall₂ {P : α → β → Prop} {l : List α} (h : ∀ a ∈ l, Guards known (f a) (P a)) :
    Guards known (l.mapM f) fun bs => List.Forall₂ P l bs := by
  induction l with
  | nil => exact pure List.Forall₂.nil
  | cons a l ih =>
    rw [List.mapM_cons]
    refine (h a List.mem_cons_self).seq fun b hb => ?_
    refine (ih fun c hc => h c (List.mem_cons_of_mem a hc)).seq fun bs hbs => pure ?_
    exact List.Forall₂.cons hb hbs

theorem mapM {P : α → β → Prop} {l : List α} (h : ∀ a ∈ l, Guards known (f a) (P a)) :
    Guards known (l.mapM f) fun bs => ∀ b ∈ bs, ∃ a ∈ l, P a b := by
  refine (mapM_forall₂ h).mono fun bs hbs b hb => ?_
  exact exists_of_forall₂ hbs.flip hb

theorem forM {g : α → SessionM Unit} (hg : ∀ a, Guards known (g a) fun _ => True) (l : List α) :
    Guards known (l.forM g) fun _ => True := by
  induction l with
  | nil => exact pure trivial
  | cons a l ih => exact (hg a).seq fun _ _ => ih

theorem foldlM {g : β → α → SessionM β} (hg : ∀ b a, Guards known (g b a) fun _ => True)
    (l : List α) (b : β) : Guards known (l.foldlM g b) fun _ => True := by
  induction l generalizing b with
  | nil => exact pure trivial
  | cons a l ih =>
    rw [List.foldlM_cons]
    exact (hg b a).seq fun b' _ => ih b'

theorem ends {s : Session} (h : Guards known x Q) (hs : known s.machine) : Ends known x s Q :=
  ⟨h.keeps s hs, fun a ha => h.gives s a hs ha⟩

end Guards

theorem Ends.mono {s : Session} (h : Ends known x s Q) (hQ : ∀ a, Q a → Q' a) :
    Ends known x s Q' :=
  ⟨h.leaves, fun a ha => hQ a (h.gives a ha)⟩

/-- More may be known of the machine after the first of two steps than after both. -/
theorem Ends.seq {known' : Machine → Prop} {s : Session} (hx : Ends known x s Q)
    (hknown : ∀ m, known m → known' m)
    (hf : ∀ a, Q a → ∀ s', known s'.machine → Ends known' (f a) s' R) :
    Ends known' (x >>= f) s R where
  leaves := by
    rw [final_seq]
    cases hr : x.result s with
    | ok a => exact (hf a (hx.gives a hr) _ hx.leaves).leaves
    | error e => exact hknown _ hx.leaves
  gives := by
    intro b hb
    obtain ⟨a, ha, hb⟩ := result_seq_eq_ok_iff.mp hb
    exact (hf a (hx.gives a ha) _ hx.leaves).gives b hb

end ServiceWiring.SessionM
