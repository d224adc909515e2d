import ServiceWiring.Json.Printer
import ServiceWiring.Proofs.Text.Number

/-!
# What occurs in a document

A value occurs in itself and in all that holds it, at any depth. The questions asked of a document
are asked of the values that occur in it: which texts it holds, as values and as names, and which of
its leaves JSON has no notation for. `exists_occurs_iff` takes such a question one step down the
tree, which is how each of them is settled by an induction over the document.

Results:
* `occurs_of_refusal?`: a refusal is the one of a leaf that occurs in the document.
* `refusal?_eq_none_iff`: nothing is refused if and only if no such leaf occurs.
-/

namespace ServiceWiring.Json

variable {c j v : Json} {items : List Json} {fields : List (Text × Json)} {r : Refusal} {t : Text}
  {x : CodePoint} {p : Json → Prop}

/-- The values right inside a value. -/
def children : Json → List Json
  | arr items => items
  | obj fields => fields.map Prod.snd
  | _ => []

/-- The first value is the second one or inside it, at any depth. -/
inductive Occurs (v : Json) : Json → Prop where
  /-- A value occurs in itself. -/
  | here : Occurs v v
  /-- What occurs in a part of a value occurs in the value. -/
  | inside {c j : Json} (hc : c ∈ j.children) (h : Occurs v c) : Occurs v j

theorem occurs_iff : Occurs v j ↔ v = j ∨ ∃ c ∈ j.children, Occurs v c := by
  constructor
  · rintro (_ | ⟨hc, h⟩)
    · exact Or.inl rfl
    · exact Or.inr ⟨_, hc, h⟩
  · rintro (rfl | ⟨c, hc, h⟩)
    · exact .here
    · exact .inside hc h

/-- Something of the kind occurs in a value if the value is of the kind, or if it occurs in a part.
-/
theorem exists_occurs_iff :
    (∃ v, Occurs v j ∧ p v) ↔ p j ∨ ∃ c ∈ j.children, ∃ v, Occurs v c ∧ p v := by
  constructor
  · rintro ⟨v, hv, hp⟩
    rcases occurs_iff.mp hv with rfl | ⟨c, hc, hv⟩
    · exact Or.inl hp
    · exact Or.inr ⟨c, hc, v, hv, hp⟩
  · rintro (hp | ⟨c, hc, v, hv, hp⟩)
    · exact ⟨j, .here, hp⟩
    · exact ⟨v, .inside hc hv, hp⟩

theorem sizeOf_lt_of_mem_children (h : c ∈ j.children) : sizeOf c < sizeOf j := by
  cases j with
  | null | bool | int | float | str => cases h
  | arr items =>
    have hitems : sizeOf c < sizeOf items := List.sizeOf_lt_of_mem h
    simp only [arr.sizeOf_spec]
    omega
  | obj fields =>
    obtain ⟨⟨name, value⟩, hfield, rfl⟩ := List.mem_map.mp h
    have hfields : sizeOf (name, value) < sizeOf fields := List.sizeOf_lt_of_mem hfield
    simp only [obj.sizeOf_spec, Prod.mk.sizeOf_spec] at hfields ⊢
    omega

/-- What holds of a value if it holds of all parts of it holds of every document. -/
@[elab_as_elim]
theorem children_induction {motive : Json → Prop}
    (step : ∀ j, (∀ c ∈ j.children, motive c) → motive j) (j : Json) : motive j :=
  step j fun c _ => children_induction step c
termination_by sizeOf j
decreasing_by exact sizeOf_lt_of_mem_children ‹_›

/-! ## The texts of a document -/

/-- The text that a value is, or the names of its fields. -/
def ownTexts : Json → List Text
  | str t => [t]
  | obj fields => fields.map Prod.fst
  | _ => []

/-- The character stands somewhere in a text of the document, be it a value or a name. -/
def Spells (x : CodePoint) (j : Json) : Prop := ∃ v, Occurs v j ∧ ∃ t ∈ v.ownTexts, x ∈ t

theorem spells_iff : Spells x j ↔ (∃ t ∈ j.ownTexts, x ∈ t) ∨ ∃ c ∈ j.children, Spells x c :=
  exists_occurs_iff

theorem spells_str : Spells x (str t) ↔ x ∈ t := by
  simp [spells_iff (j := str t), ownTexts, children]

theorem spells_arr : Spells x (arr items) ↔ ∃ item ∈ items, Spells x item := by
  simp [spells_iff (j := arr items), ownTexts, children]

theorem spells_obj :
    Spells x (obj fields) ↔ ∃ field ∈ fields, x ∈ field.1 ∨ Spells x field.2 := by
  rw [spells_iff]
  constructor
  · rintro (⟨t, ht, hx⟩ | ⟨c, hc, hx⟩)
    · obtain ⟨field, hfield, rfl⟩ := List.mem_map.mp ht
      exact ⟨field, hfield, Or.inl hx⟩
    · obtain ⟨field, hfield, rfl⟩ := List.mem_map.mp hc
      exact ⟨field, hfield, Or.inr hx⟩
  · rintro ⟨field, hfield, hx | hx⟩
    · exact Or.inl ⟨field.1, List.mem_map_of_mem hfield, hx⟩
    · exact Or.inr ⟨field.2, List.mem_map_of_mem hfield, hx⟩

/-! ## Leaves without a notation -/

/-- The value is a leaf that JSON has no notation for, for that reason. -/
inductive Unwritable : Json → Refusal → Prop where
  /-- There is no notation for what is no number. -/
  | nan : Unwritable (float .nan) (.notFinite .nan)
  /-- There is no notation for an infinity. -/
  | infinite (negative : Bool) :
    Unwritable (float (.infinite negative)) (.notFinite (.infinite negative))
  /-- An integer may not have more digits than that. -/
  | longInteger {n : Int} (h : maxDigits < (Text.ofNat n.natAbs).length) :
    Unwritable (int n) .longInteger

/-- Somewhere in the document is a leaf that JSON has no notation for. -/
def HasUnwritable (j : Json) : Prop := ∃ v, Occurs v j ∧ ∃ r, Unwritable v r

/-- Why the value itself cannot be written, if it is such a leaf. -/
def ownRefusal? : Json → Option Refusal
  | int n => if 10 ^ maxDigits ≤ n.natAbs then some .longInteger else none
  | float x => refusalOfFloat? x
  | _ => none

theorem maxDigits_lt_length_iff {n : Nat} :
    maxDigits < (Text.ofNat n).length ↔ 10 ^ maxDigits ≤ n := by
  have h := Text.length_ofNat_le_iff (n := n) (show 0 < maxDigits by decide)
  rw [← Nat.not_le, h, Nat.not_lt]

theorem ownRefusal?_eq_some_iff : v.ownRefusal? = some r ↔ Unwritable v r := by
  constructor
  · intro h
    unfold ownRefusal? at h
    split at h
    · split at h
      · rename_i hlong
        exact Option.some.inj h ▸ .longInteger (maxDigits_lt_length_iff.mpr hlong)
      · cases h
    · rename_i x
      cases x with
      | nan => exact Option.some.inj h ▸ .nan
      | infinite negative => exact Option.some.inj h ▸ .infinite negative
      | finite negative m e => cases h
    · cases h
  · rintro (_ | negative | h)
    · rfl
    · rfl
    · rw [ownRefusal?, if_pos (maxDigits_lt_length_iff.mp h)]

theorem refusalItems?_eq : refusalItems? items = items.findSome? refusal? := by
  induction items with
  | nil => rfl
  | cons item r ih =>
    rw [refusalItems?, ih, List.findSome?_cons]
    cases refusal? item <;> rfl

theorem refusalFields?_eq : refusalFields? fields = (fields.map Prod.snd).findSome? refusal? := by
  induction fields with
  | nil => rfl
  | cons field r ih =>
    rw [refusalFields?, ih, List.map_cons, List.findSome?_cons]
    cases refusal? field.2 <;> rfl

/-- A value is looked at before what is inside. -/
theorem refusal?_eq (j : Json) :
    j.refusal? = j.ownRefusal?.or (j.children.findSome? refusal?) := by
  cases j with
  | null | bool | str => rfl
  | int | float => exact Option.or_none.symm
  | arr items => exact refusalItems?_eq
  | obj fields => exact refusalFields?_eq

/-- **A refusal is the one of a leaf that occurs in the document.** -/
theorem occurs_of_refusal? (h : j.refusal? = some r) : ∃ v, Occurs v j ∧ Unwritable v r := by
  induction j using children_induction with
  | step j ih =>
    rw [refusal?_eq, Option.or_eq_some_iff] at h
    rcases h with h | ⟨-, h⟩
    · exact ⟨j, .here, ownRefusal?_eq_some_iff.mp h⟩
    · obtain ⟨c, hc, hr⟩ := List.exists_of_findSome?_eq_some h
      obtain ⟨v, hv, hr⟩ := ih c hc hr
      exact ⟨v, .inside hc hv, hr⟩

theorem refusal?_ne_none_of_occurs (hv : Occurs v j) (hr : Unwritable v r) :
    j.refusal? ≠ none := by
  induction hv with
  | here =>
    rw [refusal?_eq, ownRefusal?_eq_some_iff.mpr hr]
    exact Option.some_ne_none r
  | inside hc _ ih =>
    intro h
    rw [refusal?_eq, Option.or_eq_none_iff, List.findSome?_eq_none_iff] at h
    exact ih (h.2 _ hc)

/-- **Nothing is refused if and only if every leaf of the document can be written.** -/
theorem refusal?_eq_none_iff : j.refusal? = none ↔ ¬j.HasUnwritable := by
  constructor
  · rintro h ⟨v, hv, r, hr⟩
    exact refusal?_ne_none_of_occurs hv hr h
  · intro h
    cases hr : j.refusal? with
    | none => rfl
    | some r =>
      obtain ⟨v, hv, hr⟩ := occurs_of_refusal? hr
      exact absurd ⟨v, hv, r, hr⟩ h

end ServiceWiring.Json
