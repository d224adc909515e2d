import Mathlib.Data.List.Forall2
import ServiceWiring.Go.Name

/-!
# Identifiers made from file names

Letters, digits and underscores of a file name stay in its identifier, and an underscore stands for
each other character. So two names have one identifier if and only if they have one length and
differ only where neither has a letter or a digit: `a-b.proto`, `a_b.proto` and `a/b_proto` all
become `a_b_proto`. A name that starts with a digit counts with the underscore that keeps the digit
from coming first.

Results:
* `identifier_eq_iff`: which names have one identifier.
* `isIdentifier_append`: what makes a Go identifier in front of one.
-/

namespace ServiceWiring.Go

variable {c d : CodePoint} {start t u : Text}

/-! ## Which names have one identifier -/

/-- What stands for a character in an identifier. -/
def standIn (c : CodePoint) : CodePoint := if c.isWord then c else 0x5F

/-- The text with an underscore in front, if it starts with a digit. -/
def guarded (t : Text) : Text := if t.head?.any CodePoint.isDigit then 0x5F :: t else t

/-- The character is a letter or a digit of ASCII. -/
def IsAlphanumeric (c : CodePoint) : Prop := (c.isLower || c.isUpper || c.isDigit) = true

instance : DecidablePred IsAlphanumeric := fun c =>
  inferInstanceAs (Decidable ((c.isLower || c.isUpper || c.isDigit) = true))

/-- The characters are one, or neither of them is a letter or a digit of ASCII. -/
def Alike (c d : CodePoint) : Prop := c = d ∨ ¬IsAlphanumeric c ∧ ¬IsAlphanumeric d

instance : DecidableRel Alike := fun c d =>
  inferInstanceAs (Decidable (c = d ∨ ¬IsAlphanumeric c ∧ ¬IsAlphanumeric d))

theorem isWord_standIn (c : CodePoint) : (standIn c).isWord = true := by
  unfold standIn
  split
  · assumption
  · rfl

theorem isDigit_standIn (c : CodePoint) : (standIn c).isDigit = c.isDigit := by
  unfold standIn
  split
  · rfl
  · rename_i hword
    simp only [CodePoint.isWord, Bool.or_eq_true, not_or, Bool.not_eq_true] at hword
    rw [hword.1.2]
    rfl

theorem standIn_of_alphanumeric (h : IsAlphanumeric c) : standIn c = c := by
  unfold IsAlphanumeric at h
  unfold standIn CodePoint.isWord
  rw [h]
  rfl

theorem standIn_of_not (h : ¬IsAlphanumeric c) : standIn c = 0x5F := by
  unfold standIn
  split
  · rename_i hword
    have hunderscore : c.val = 0x5F := by
      simpa [CodePoint.isWord, Bool.eq_false_iff.mpr h] using hword
    exact Fin.ext hunderscore
  · rfl

theorem standIn_eq_iff : standIn c = standIn d ↔ Alike c d := by
  have hunderscore : ¬IsAlphanumeric 0x5F := by decide
  unfold Alike
  by_cases hc : IsAlphanumeric c <;> by_cases hd : IsAlphanumeric d
  · rw [standIn_of_alphanumeric hc, standIn_of_alphanumeric hd]
    simp [hc]
  · rw [standIn_of_alphanumeric hc, standIn_of_not hd]
    refine iff_of_false ?_ ?_
    · rintro rfl
      exact hunderscore hc
    · rintro (rfl | ⟨h, -⟩)
      · exact hd hc
      · exact h hc
  · rw [standIn_of_not hc, standIn_of_alphanumeric hd]
    refine iff_of_false ?_ ?_
    · rintro rfl
      exact hunderscore hd
    · rintro (rfl | ⟨-, h⟩)
      · exact hc hd
      · exact h hd
  · rw [standIn_of_not hc, standIn_of_not hd]
    exact iff_of_true rfl (Or.inr ⟨hc, hd⟩)

/-- An identifier is written character by character. -/
theorem identifier_eq_map (t : Text) : identifier t = (guarded t).map standIn := by
  cases t with
  | nil => rfl
  | cons c r =>
    have hdigit : (standIn c).isDigit = c.isDigit := isDigit_standIn c
    change (if (standIn c).isDigit then 0x5F :: (c :: r).map standIn else (c :: r).map standIn) =
      (if c.isDigit then 0x5F :: c :: r else c :: r).map standIn
    rw [hdigit]
    split <;> rfl

/-- **Two names have one identifier if and only if they differ only where neither has a letter or a
digit**, with the underscores in front of digits. -/
theorem identifier_eq_iff :
    identifier t = identifier u ↔ List.Forall₂ Alike (guarded t) (guarded u) := by
  rw [identifier_eq_map, identifier_eq_map, ← List.forall₂_eq_eq_eq, List.forall₂_map_left_iff,
    List.forall₂_map_right_iff]
  simp only [standIn_eq_iff]

/-! ## Go identifiers -/

/-- The words that Go keeps for itself. -/
def keywords : List Text :=
  ["break", "case", "chan", "const", "continue", "default", "defer", "else", "fallthrough", "for",
    "func", "go", "goto", "if", "import", "interface", "map", "package", "range", "return",
    "select", "struct", "switch", "type", "var"]

/-- The text is a Go identifier in ASCII: letters, digits and underscores that start with no digit,
and no keyword. -/
structure IsIdentifier (t : Text) : Prop where
  /-- There is a first character, and it is no digit. -/
  starts : t.head?.any (!·.isDigit) = true
  /-- There is nothing but letters, digits and underscores. -/
  words : t.all CodePoint.isWord = true
  /-- It is no keyword. -/
  free : t ∉ keywords

theorem all_isWord_identifier (t : Text) : (identifier t).all CodePoint.isWord = true := by
  rw [identifier_eq_map, List.all_map]
  exact List.all_eq_true.mpr fun c _ => isWord_standIn c

/-- What starts with an underscore is no keyword, and an identifier may follow on it. -/
theorem isIdentifier_append (hstart : start.head? = some 0x5F)
    (hwords : start.all CodePoint.isWord = true) (t : Text) :
    IsIdentifier (start ++ identifier t) where
  starts := by
    rw [List.head?_append, hstart]
    rfl
  words := by rw [List.all_append, hwords, all_isWord_identifier, Bool.and_self]
  free := by
    have hkeywords : ∀ k ∈ keywords, k.head? ≠ some 0x5F := by decide
    intro hmem
    refine hkeywords _ hmem ?_
    rw [List.head?_append, hstart]
    rfl

end ServiceWiring.Go
