import Mathlib.Data.List.Nodup
import Mathlib.Order.Bounds.Defs
import ServiceWiring.ImportTable

/-!
# Free names

`freeName` tries a name, then the name with 0, with 1 and so on. The numbered names of one name are
all different, and a table with `n` bound names cannot hold `n + 1` of them, so one of those tried
is free.

Results:
* `numbered_injective`: two numbers give two names.
* `freeName_of_taken`: a name that is taken gets the least number with which it is free.
* `pathOf?_freeName`: the name found stands for no path.
-/

namespace ServiceWiring

/-- A character is known by its code point. -/
theorem CodePoint.ofChar_injective : Function.Injective CodePoint.ofChar := by
  intro c d h
  have hv : (ofChar c).val = (ofChar d).val := by rw [h]
  exact Char.toNat_inj.mp hv

/-- A number is known by its digits. -/
theorem Text.ofNat_injective : Function.Injective Text.ofNat := by
  intro i j h
  have hd : Nat.toDigits 10 i = Nat.toDigits 10 j :=
    CodePoint.ofChar_injective.list_map h
  have hn := congrArg (Nat.ofDigitChars 10 · 0) hd
  simpa using hn

namespace ImportTable

variable {t : ImportTable} {name path : Text}

/-! ## Numbered names -/

theorem numbered_injective (name : Text) : Function.Injective (numbered name) := by
  intro i j h
  exact Text.ofNat_injective (List.append_cancel_left h)

theorem numbered_ne_self (name : Text) (i : Nat) : numbered name i ≠ name := by
  unfold numbered
  intro h
  have hlength := congrArg List.length h
  have hdash : (Text.ofString "_").length = 1 := rfl
  simp only [List.length_append, hdash] at hlength
  omega

theorem numbered_ne_nil (name : Text) (i : Nat) : numbered name i ≠ [] := by
  intro h
  have hu : (name ++ Text.ofString "_" : Text) = [] := (List.append_eq_nil_iff.mp h).1
  exact absurd (List.append_eq_nil_iff.mp hu).2 (by decide)

/-! ## The search -/

theorem pathOf?_eq_none_iff : t.pathOf? name = none ↔ name ∉ t.bound.map (·.1) := by
  simp only [pathOf?, Option.map_eq_none_iff, List.find?_eq_none, decide_eq_true_eq, List.mem_map,
    not_exists, not_and]

/-- **Pigeonhole.** The bound names leave out one of as many numbered names and one more. -/
theorem exists_numbered_free (t : ImportTable) (name : Text) :
    ∃ i < t.size + 1, t.pathOf? (numbered name i) = none := by
  by_contra hall
  have hsub : (List.range (t.size + 1)).map (numbered name) ⊆ t.bound.map (·.1) := by
    intro n hn
    obtain ⟨i, hi, rfl⟩ := List.mem_map.mp hn
    by_contra hfree
    exact hall ⟨i, List.mem_range.mp hi, pathOf?_eq_none_iff.mpr hfree⟩
  have hnodup : ((List.range (t.size + 1)).map (numbered name)).Nodup :=
    List.nodup_range.map (numbered_injective name)
  have hle := hnodup.length_le_of_subset hsub
  simp only [size, List.length_map, List.length_range] at hle
  omega

theorem freeName_of_free (h : t.pathOf? name = none) : t.freeName name = name := by
  simp [freeName, h]

/-- **The least free number.** A name that is taken gets the least number with which it is free. -/
theorem freeName_of_taken (h : t.pathOf? name ≠ none) :
    ∃ i < t.size + 1, IsLeast {j | t.pathOf? (numbered name j) = none} i ∧
      t.freeName name = numbered name i := by
  unfold freeName
  simp only
  rw [List.find?_cons_of_neg (by simpa using h), List.find?_map]
  cases hf : (List.range (t.size + 1)).find?
      ((fun n => (t.pathOf? n).isNone) ∘ numbered name) with
  | none =>
    obtain ⟨i, hi, hfree⟩ := exists_numbered_free t name
    have hno := List.find?_eq_none.mp hf i (List.mem_range.mpr hi)
    simp [hfree] at hno
  | some i =>
    obtain ⟨hfree, hi, hbelow⟩ := List.find?_range_eq_some.mp hf
    have hfree : t.pathOf? (numbered name i) = none := by simpa using hfree
    refine ⟨i, List.mem_range.mp hi, ⟨hfree, fun j (hj : t.pathOf? _ = none) => ?_⟩, rfl⟩
    by_contra hlt
    have hno := hbelow j (Nat.lt_of_not_le hlt)
    simp [hj] at hno

/-- The name that is found is the wanted one, if that is free, and else a numbered one. -/
theorem freeName_cases (t : ImportTable) (name : Text) :
    (t.pathOf? name = none ∧ t.freeName name = name) ∨
      (t.pathOf? name ≠ none ∧ ∃ i, t.freeName name = numbered name i) := by
  by_cases h : t.pathOf? name = none
  · exact Or.inl ⟨h, freeName_of_free h⟩
  · obtain ⟨i, -, -, hi⟩ := freeName_of_taken h
    exact Or.inr ⟨h, i, hi⟩

/-- The name that is found stands for no path. -/
@[simp]
theorem pathOf?_freeName (t : ImportTable) (name : Text) : t.pathOf? (t.freeName name) = none := by
  by_cases h : t.pathOf? name = none
  · rwa [freeName_of_free h]
  · obtain ⟨i, -, hleast, hi⟩ := freeName_of_taken h
    rw [hi]
    exact hleast.1

/-- Only the empty name gives the empty name. -/
theorem eq_nil_of_freeName_eq_nil (h : t.freeName name = []) : name = [] := by
  rcases freeName_cases t name with ⟨-, hn⟩ | ⟨-, i, hn⟩
  · exact hn ▸ h
  · exact absurd (hn ▸ h) (numbered_ne_nil name i)

end ImportTable

end ServiceWiring
