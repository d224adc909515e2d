import Mathlib.Data.List.Forall2
import ServiceWiring.Proofs.Session.Growth

/-!
# What a step makes of a document

A step that reads a part of a document may give something, report a flaw of the document, or stray:
take a value of another kind for a text. `Judges x fits fine Q` says of a step that it gives
something only if the part fits the grammar and no value makes it stray, and what it gives is as
stated; that it reports a flaw only if the part does not fit; and that it strays only if some value
makes it. This holds in whatever session, since a session decides no more than the names of
packages, and the machine is left alone.

There is one rule for each way that steps are put together.

Results:
* `Judges.exists_ok`: a part that fits and has no such value is read.
* `Judges.flawed_iff`: where no value makes the step stray it reports a flaw iff the part does not
  fit.
-/

namespace ServiceWiring

/-- A value of another kind was taken for a text. -/
def Fault.IsStray (e : Fault) : Prop := e = .nameNotText ∨ e = .optionNotText

namespace SessionM

variable {α β : Type} {x : SessionM α} {f : α → SessionM β} {s : Session}
  {fits fits' fine fine' : Prop} {Q Q' : α → Prop} {R : β → Prop}

/-- What a step makes of a part of a document, from whatever session. -/
structure Judges (x : SessionM α) (fits fine : Prop) (Q : α → Prop) : Prop where
  /-- Only what fits is read. -/
  gives : ∀ s a, x.result s = .ok a → fits ∧ fine ∧ Q a
  /-- Only what does not fit has a flaw. -/
  flawed : ∀ s f, x.result s = .error (.flawed f) → ¬fits
  /-- Nothing else goes wrong unless some value makes the step stray. -/
  strays : ∀ s e, x.result s = .error e → (∃ f, e = .flawed f) ∨ e.IsStray ∧ ¬fine
  /-- The machine stays as it is. -/
  still : ∀ s, (x.final s).machine = s.machine

namespace Judges

/-! ## What the verdict is -/

/-- A part that fits and has no value that makes the step stray is read. -/
theorem exists_ok (h : Judges x fits fine Q) (hfits : fits) (hfine : fine) (s : Session) :
    ∃ a, x.result s = .ok a ∧ Q a := by
  cases hr : x.result s with
  | ok a => exact ⟨a, rfl, (h.gives s a hr).2.2⟩
  | error e =>
    rcases h.strays s e hr with ⟨f, rfl⟩ | ⟨-, hnot⟩
    · exact absurd hfits (h.flawed s f hr)
    · exact absurd hfine hnot

/-- Where no value makes the step stray it reports a flaw iff the part does not fit. -/
theorem flawed_iff (h : Judges x fits fine Q) (hfine : fine) (s : Session) :
    (∃ f, x.result s = .error (.flawed f)) ↔ ¬fits := by
  refine ⟨fun ⟨f, hf⟩ => h.flawed s f hf, fun hnot => ?_⟩
  cases hr : x.result s with
  | ok a => exact absurd (h.gives s a hr).1 hnot
  | error e =>
    rcases h.strays s e hr with ⟨f, rfl⟩ | ⟨-, hnot⟩
    · exact ⟨f, rfl⟩
    · exact absurd hfine hnot

/-- Where the part fits, the step strays iff some value makes it. -/
theorem stray_iff (h : Judges x fits fine Q) (hfits : fits) (s : Session) :
    (∃ e, e.IsStray ∧ x.result s = .error e) ↔ ¬fine := by
  constructor
  · rintro ⟨e, he, hr⟩
    rcases h.strays s e hr with ⟨f, rfl⟩ | ⟨-, hnot⟩
    · rcases he with he | he <;> cases he
    · exact hnot
  · intro hnot
    cases hr : x.result s with
    | ok a => exact absurd (h.gives s a hr).2.1 hnot
    | error e =>
      rcases h.strays s e hr with ⟨f, rfl⟩ | ⟨he, -⟩
      · exact absurd hfits (h.flawed s f hr)
      · exact ⟨e, he, rfl⟩

/-! ## Single steps -/

theorem of_ok (h : ∀ s, ∃ a, x.result s = .ok a ∧ Q a)
    (hstill : ∀ s, (x.final s).machine = s.machine) : Judges x True True Q where
  gives s a hr := by
    obtain ⟨b, hb, hQ⟩ := h s
    cases hb.symm.trans hr
    exact ⟨trivial, trivial, hQ⟩
  flawed s f hr := by
    obtain ⟨b, hb, -⟩ := h s
    cases hb.symm.trans hr
  strays s e hr := by
    obtain ⟨b, hb, -⟩ := h s
    cases hb.symm.trans hr
  still := hstill

theorem pure {a : α} (h : Q a) : Judges (Pure.pure a) True True Q :=
  of_ok (fun _ => ⟨a, rfl, h⟩) fun _ => rfl

theorem throw_flawed (f : Flaw) (h : ¬fits) :
    Judges (MonadExcept.throw (.flawed f) : SessionM α) fits fine Q where
  gives s a hr := by cases hr
  flawed s f hr := h
  strays s e hr := by
    cases hr
    exact Or.inl ⟨f, rfl⟩
  still _ := rfl

theorem throw_stray {e : Fault} (he : e.IsStray) (h : ¬fine) :
    Judges (MonadExcept.throw e : SessionM α) fits fine Q where
  gives s a hr := by cases hr
  flawed s f hr := by
    cases hr
    rcases he with he | he <;> cases he
  strays s e' hr := by
    cases hr
    exact Or.inr ⟨he, h⟩
  still _ := rfl

/-! ## One step after another -/

theorem congr (h : Judges x fits fine Q) (hfits : fits ↔ fits') (hfine : fine ↔ fine')
    (hQ : ∀ a, Q a → Q' a) : Judges x fits' fine' Q' where
  gives s a hr := by
    obtain ⟨h₁, h₂, h₃⟩ := h.gives s a hr
    exact ⟨hfits.mp h₁, hfine.mp h₂, hQ a h₃⟩
  flawed s f hr := mt hfits.mpr (h.flawed s f hr)
  strays s e hr := (h.strays s e hr).imp_right fun h' => ⟨h'.1, mt hfine.mpr h'.2⟩
  still := h.still

theorem seq (hx : Judges x fits fine Q) (hf : ∀ a, Q a → Judges (f a) fits' fine' R) :
    Judges (x >>= f) (fits ∧ fits') (fine ∧ fine') R where
  gives s b hr := by
    obtain ⟨a, ha, hb⟩ := result_seq_eq_ok_iff.mp hr
    obtain ⟨hfits, hfine, hQ⟩ := hx.gives s a ha
    obtain ⟨hfits', hfine', hR⟩ := (hf a hQ).gives _ b hb
    exact ⟨⟨hfits, hfits'⟩, ⟨hfine, hfine'⟩, hR⟩
  flawed s e hr := by
    rw [result_seq] at hr
    cases ha : x.result s with
    | ok a =>
      rw [ha] at hr
      exact fun h => (hf a (hx.gives s a ha).2.2).flawed _ e hr h.2
    | error e' =>
      rw [ha] at hr
      cases hr
      exact fun h => hx.flawed s e ha h.1
  strays s e hr := by
    rw [result_seq] at hr
    cases ha : x.result s with
    | ok a =>
      rw [ha] at hr
      have hstrays := (hf a (hx.gives s a ha).2.2).strays _ e hr
      exact hstrays.imp_right fun h => ⟨h.1, fun h' => h.2 h'.2⟩
    | error e' =>
      rw [ha] at hr
      cases hr
      exact (hx.strays s e ha).imp_right fun h => ⟨h.1, fun h' => h.2 h'.1⟩
  still s := by
    rw [final_seq]
    cases ha : x.result s with
    | ok a => exact ((hf a (hx.gives s a ha).2.2).still _).trans (hx.still s)
    | error e => exact hx.still s

/-- A list of steps judges all items of a list. -/
theorem mapM {l : List α} {fits fine : α → Prop} {Q : α → β → Prop}
    (h : ∀ a, Judges (f a) (fits a) (fine a) (Q a)) :
    Judges (l.mapM f) (∀ a ∈ l, fits a) (∀ a ∈ l, fine a) (List.Forall₂ Q l) := by
  induction l with
  | nil => exact (pure List.Forall₂.nil).congr (by simp) (by simp) fun _ h => h
  | cons a l ih =>
    rw [List.mapM_cons]
    refine ((h a).seq fun b hb => ih.seq fun bs hbs => pure (.cons hb hbs)).congr ?_ ?_ fun _ h => h
    · simp
    · simp

end Judges

end SessionM

end ServiceWiring
