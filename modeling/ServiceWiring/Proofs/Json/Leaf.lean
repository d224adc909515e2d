import ServiceWiring.Json.Reader
import ServiceWiring.Proofs.Text.Number

/-!
# The leaves of a document

Integers and texts are read as they were written, and what follows them is left for the reader to go
on with. For an integer that takes a text after it that does not prolong it: `StopsNumber`. A text
ends at its closing quote, so between the quotes it is enough that each code point is read from what
`escapeOne` writes for it.

Results:
* `readScalar_ofInt`: an integer that is not too long is read as it was written.
* `readText_flatMap`: a text is read up to its closing quote.
-/

namespace ServiceWiring.Json

variable {opening n : Nat} {c : CodePoint} {r rest t : Text}

/-! ## Numbers -/

/-- A number before the text ends where the text starts. -/
def StopsNumber (t : Text) : Prop :=
  ∀ c ∈ t.head?, c.isDigit = false ∧ c ≠ 0x2E ∧ c.val ≠ 0x65 ∧ c.val ≠ 0x45

theorem spanDigits_append {ds : Text} (hds : ∀ c ∈ ds, c.isDigit = true)
    (hrest : StopsNumber rest) : spanDigits (ds ++ rest) = (ds, rest) := by
  unfold spanDigits
  rw [List.takeWhile_append_of_pos hds, List.dropWhile_append_of_pos hds]
  cases rest with
  | nil => simp
  | cons c r => simp [(hrest c rfl).1]

theorem spanWhole_append (n : Nat) (hrest : StopsNumber rest) :
    spanWhole (Text.ofNat n ++ rest) = (Text.ofNat n, rest) := by
  by_cases hn : n = 0
  · subst hn
    rfl
  · have hspan : spanDigits (Text.ofNat n ++ rest) = (Text.ofNat n, rest) :=
      spanDigits_append (fun c => Text.isDigit_of_mem_ofNat) hrest
    unfold spanWhole
    split
    · rename_i r hr
      have hhead := Text.head?_ofNat_append n rest
      rw [hr] at hhead
      exact absurd hhead.symm (Text.head?_ofNat hn)
    · exact hspan

theorem spanFraction_of_stops (hrest : StopsNumber rest) : spanFraction rest = ([], rest) := by
  unfold spanFraction
  split
  · exact absurd rfl (hrest _ rfl).2.1
  · rfl

theorem spanExponent_of_stops (hrest : StopsNumber rest) : spanExponent rest = (none, rest) := by
  cases rest with
  | nil => rfl
  | cons c r =>
    obtain ⟨-, -, he, hE⟩ := hrest c rfl
    simp [spanExponent, he, hE]

theorem ofDigits_ofNat (negative : Bool) (h : n < 10 ^ maxDigits) :
    ofDigits negative (Text.ofNat n) [] none = .ok (.int (if negative then -n else n)) := by
  have hlength : ¬maxDigits < (Text.ofNat n).length :=
    Nat.not_lt.mpr ((Text.length_ofNat_le_iff (by decide)).mpr h)
  simp [ofDigits, hlength]

theorem readNumber_ofNat (h : n < 10 ^ maxDigits) (hrest : StopsNumber rest) :
    readNumber (Text.ofNat n ++ rest) = .ok (.int n, rest) := by
  unfold readNumber
  simp only
  split
  · rename_i r hr
    -- A digit is no sign.
    exact absurd (Text.isDigit_of_ofNat_append hr) (by decide)
  · simp only [spanWhole_append n hrest, spanFraction_of_stops hrest, spanExponent_of_stops hrest,
      ofDigits_ofNat false h]
    rw [if_neg (by simp [Text.ofNat_ne_nil])]
    rfl

theorem readNumber_neg (h : n < 10 ^ maxDigits) (hrest : StopsNumber rest) :
    readNumber (0x2D :: (Text.ofNat n ++ rest)) = .ok (.int (-n), rest) := by
  unfold readNumber
  simp only [spanWhole_append n hrest, spanFraction_of_stops hrest, spanExponent_of_stops hrest,
    ofDigits_ofNat true h]
  rw [if_neg (by simp [Text.ofNat_ne_nil])]
  rfl

/-! ## No integer is a word -/

/-- The text starts as an integer does, with a digit or with a sign and a digit. -/
def StartsInteger (t : Text) : Prop :=
  ∀ c d r, t = c :: d :: r → c.isDigit = true ∨ c = 0x2D ∧ d.isDigit = true

/-- A word starts otherwise than an integer. -/
theorem readScalar_of_starts (ht : StartsInteger t) : readScalar t = readNumber t := by
  have hwords : ∀ w ∈ words, ∃ c d u, w.1 = c :: d :: u ∧ c.isDigit = false ∧
      (c = 0x2D → d.isDigit = false) := by
    intro w hw
    simp only [words, List.mem_cons, List.not_mem_nil, or_false] at hw
    rcases hw with rfl | rfl | rfl | rfl | rfl | rfl
    all_goals exact ⟨_, _, _, rfl, by decide, by decide⟩
  unfold readScalar
  split
  · rename_i word value hfind
    have hprefix : word.isPrefixOf t = true := by simpa using List.find?_some hfind
    obtain ⟨r, rfl⟩ := List.isPrefixOf_iff_prefix.mp hprefix
    obtain ⟨c, d, u, rfl, hc, hd⟩ := hwords _ (List.mem_of_find?_eq_some hfind)
    rcases ht c d (u ++ r) rfl with hc' | ⟨hc', hd'⟩
    · exact absurd (hc.symm.trans hc') Bool.false_ne_true
    · exact absurd ((hd hc').symm.trans hd') Bool.false_ne_true
  · rfl

theorem startsInteger_ofInt (i : Int) (rest : Text) : StartsInteger (Text.ofInt i ++ rest) := by
  intro c d r h
  cases i with
  | ofNat n => exact Or.inl (Text.isDigit_of_ofNat_append h)
  | negSucc n =>
    obtain ⟨hc, h⟩ := List.cons.inj h
    exact Or.inr ⟨hc.symm, Text.isDigit_of_ofNat_append h⟩

/-- **An integer is read as it was written.** -/
theorem readScalar_ofInt {i : Int} (h : i.natAbs < 10 ^ maxDigits) (hrest : StopsNumber rest) :
    readScalar (Text.ofInt i ++ rest) = .ok (.int i, rest) := by
  rw [readScalar_of_starts (startsInteger_ofInt i rest)]
  cases i with
  | ofNat n => exact readNumber_ofNat h hrest
  | negSucc n => exact readNumber_neg h hrest

/-! ## Texts -/

/-- How a code point is written between quotes: after a backslash, by its number, or as it is. -/
theorem escapeOne_cases (c : CodePoint) :
    (∃ u, escapeOne c = [0x5C, u] ∧ unescape? u = some c) ∨
      (c.val < 0x20 ∧ escapeOne c = 0x5C :: 0x75 :: Text.hex 4 c.val) ∨
        (escapeOne c = [c] ∧ c ≠ 0x22 ∧ c ≠ 0x5C ∧ 0x20 ≤ c.val) := by
  unfold escapeOne
  split
  · rename_i h
    exact Or.inl ⟨0x22, rfl, congrArg some h.symm⟩
  split
  · rename_i h
    exact Or.inl ⟨0x5C, rfl, congrArg some h.symm⟩
  split
  · rename_i h
    exact Or.inl ⟨0x6E, rfl, congrArg some h.symm⟩
  split
  · rename_i h
    exact Or.inl ⟨0x72, rfl, congrArg some h.symm⟩
  split
  · rename_i h
    exact Or.inl ⟨0x74, rfl, congrArg some h.symm⟩
  split
  · rename_i h
    exact Or.inl ⟨0x62, rfl, congrArg some (Fin.ext h.symm)⟩
  split
  · rename_i h
    exact Or.inl ⟨0x66, rfl, congrArg some (Fin.ext h.symm)⟩
  split
  · rename_i h
    exact Or.inr (Or.inl ⟨h, rfl⟩)
  · rename_i hquote hbackslash _ _ _ _ _ h
    exact Or.inr (Or.inr ⟨rfl, hquote, hbackslash, Nat.le_of_not_lt h⟩)

/-- The number of a control character is written with four digits. -/
theorem hex_control (h : n < 0x20) : ∃ a b c d, Text.hex 4 n = [a, b, c, d] ∧
    hexQuad? a b c d = some n := by
  have hall : ∀ n < 0x20, (Text.hex 4 n).length = 4 ∧
      hexQuad? ((Text.hex 4 n).getD 0 0) ((Text.hex 4 n).getD 1 0) ((Text.hex 4 n).getD 2 0)
        ((Text.hex 4 n).getD 3 0) = some n := by decide +kernel
  obtain ⟨hlength, hread⟩ := hall n h
  have hfour {t : Text} : t.length = 4 → ∃ a b c d, t = [a, b, c, d] :=
    match t with
    | [a, b, c, d] => fun _ => ⟨a, b, c, d, rfl⟩
    | [] | [_] | [_, _] | [_, _, _] | _ :: _ :: _ :: _ :: _ :: _ => fun h => by simp at h
  obtain ⟨a, b, c, d, hdigits⟩ := hfour hlength
  rw [hdigits] at hread
  exact ⟨a, b, c, d, hdigits, hread⟩

/-- A control character is no half of a pair. -/
theorem consUnit_control (h : n < 0x20) (escapeFollows : Bool) (t : Text) :
    consUnit n escapeFollows t = Fin.ofNat _ n :: t := by
  have hlow : decide (0xD800 ≤ n) = false := decide_eq_false (by omega)
  cases t with
  | nil => rfl
  | cons c r => simp [consUnit, hlow]

/-- What is written for a code point is read as that code point, if the text does not end there. -/
theorem readText_escapeOne (c : CodePoint) (hr : r ≠ []) : readText opening (escapeOne c ++ r) =
    (readText opening r).map fun (t, rest) => (c :: t, rest) := by
  rcases escapeOne_cases c with ⟨u, hu, hc⟩ | ⟨hlow, hhex⟩ | ⟨hc, hquote, hbackslash, hlow⟩
  · have hu' : u ≠ 0x75 := by
      rintro rfl
      exact nomatch hc
    rw [hu, List.cons_append, List.singleton_append, readText, hc]
    · exact fun _ _ _ _ _ h => absurd h hu'
    · exact hu'
  · obtain ⟨a, b, a', b', hab, hread⟩ := hex_control hlow
    have hc : (Fin.ofNat _ c.val : CodePoint) = c := Fin.ext (Nat.mod_eq_of_lt c.isLt)
    rw [hhex, hab]
    simp only [List.cons_append, List.nil_append]
    rw [readText, hread]
    simp only [consUnit_control hlow, hc]
    rw [if_neg (by simpa using hr)]
  · rw [hc, List.singleton_append, readText, if_neg (Nat.not_lt.mpr hlow)]
    · exact hquote
    all_goals
      intros
      contradiction

/-- **A text is read up to its closing quote as it was written.** -/
theorem readText_flatMap (t rest : Text) :
    readText opening (t.flatMap escapeOne ++ 0x22 :: rest) = .ok (t, rest) := by
  induction t with
  | nil => rfl
  | cons c t ih =>
    rw [List.flatMap_cons, List.append_assoc, readText_escapeOne c (by simp), ih]
    rfl

end ServiceWiring.Json
