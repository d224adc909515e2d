import ServiceWiring.Text.Number

/-!
# Numbers survive base ten

The digits of a number are read as that number. They are all digits, there is at least one, only the
number zero starts with a zero, and their count is known from powers of ten.

Headline:
* **`natOfDigits_ofNat`**: the digits of a number are read as that number.
-/

namespace ServiceWiring.Text

variable {n k : Nat} {c : CodePoint}

/-- **The digits of a number are read as that number.** -/
@[simp]
theorem natOfDigits_ofNat (n : Nat) : natOfDigits (ofNat n) = n := by
  unfold natOfDigits ofNat
  rw [List.foldl_map]
  exact Nat.ofDigitChars_ten_toDigits

theorem isDigit_ofChar {d : Char} : (CodePoint.ofChar d).isDigit = d.isDigit := by
  rw [Bool.eq_iff_iff]
  unfold CodePoint.isDigit Char.isDigit
  simp only [Bool.and_eq_true, decide_eq_true_iff, ge_iff_le, UInt32.le_iff_toNat_le]
  exact Iff.rfl

theorem isDigit_of_mem_ofNat (h : c ∈ ofNat n) : c.isDigit = true := by
  obtain ⟨d, hd, rfl⟩ := List.mem_map.mp h
  rw [isDigit_ofChar]
  exact Nat.isDigit_of_mem_toDigits (by decide) (by decide) hd

theorem ofNat_ne_nil (n : Nat) : ofNat n ≠ [] := by
  simp [ofNat]

theorem length_ofNat_le_iff (hk : 0 < k) : (ofNat n).length ≤ k ↔ n < 10 ^ k := by
  unfold ofNat
  rw [List.length_map]
  exact Nat.length_toDigits_le_iff (by decide) hk

theorem head?_ofNat_append (n : Nat) (rest : Text) :
    (ofNat n ++ rest).head? = (ofNat n).head? := by
  rw [List.head?_append, Option.or_of_isSome (by simp [ofNat_ne_nil])]

theorem isDigit_of_ofNat_append {rest r : Text} (h : ofNat n ++ rest = c :: r) :
    c.isDigit = true := by
  have hhead := head?_ofNat_append n rest
  rw [h] at hhead
  exact isDigit_of_mem_ofNat (List.mem_of_mem_head? hhead.symm)

/-- Only zero starts with a zero. -/
theorem head?_ofNat (h : n ≠ 0) : (ofNat n).head? ≠ some 0x30 := by
  induction n using Nat.strongRecOn with
  | _ n ih =>
    by_cases hn : n < 10
    · unfold ofNat
      rw [Nat.toDigits_of_lt_base hn]
      have hdigit : ∀ d < 10, d ≠ 0 → CodePoint.ofChar d.digitChar ≠ 0x30 := by decide
      exact fun hhead => hdigit n hn h (Option.some.inj hhead)
    · have hlast : ofNat n = ofNat (n / 10) ++ [CodePoint.ofChar (n % 10).digitChar] := by
        unfold ofNat
        rw [Nat.toDigits_of_base_le (by decide) (Nat.le_of_not_lt hn), List.map_append]
        rfl
      rw [hlast, head?_ofNat_append]
      exact ih (n / 10) (by omega) (by omega)

end ServiceWiring.Text
