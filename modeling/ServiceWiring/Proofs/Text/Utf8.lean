import ServiceWiring.Text.Utf8

/-!
# Text survives UTF-8

The octets of a text are read as that text again. Reading goes octet by octet, so a sequence is
followed through its stages: its first octet opens it with the bounds on the second one, each octet
after that adds six bits, and the last one completes the code point. There is one lemma for each
stage, and `decodeFrom_encodeOne` puts them together for the four lengths of a sequence.

Headline:
* **`decode_of_encode?`**: octets that a text was written as are read as that text.
-/

namespace ServiceWiring.Utf8

variable {b : UInt8} {p : Pending} {position : Nat} {r : Octets} {c : CodePoint}

/-! ## The stages of a sequence -/

theorem decodeFrom_single (h : b.toNat < 0x80) : decodeFrom position none (b :: r) =
    (decodeFrom (position + 1) none r).map (codePoint b.toNat :: ·) := by
  have hlead : lead b = .single := by
    unfold lead
    rw [if_pos (UInt8.lt_iff_toNat_lt.mpr h)]
  rw [decodeFrom, hlead]

theorem lead_two (hl : 0xC2 ≤ b.toNat) (hr : b.toNat < 0xE0) :
    lead b = .opens ⟨b, 1, b.toNat - 0xC0, 1, 0x80, 0xBF⟩ := by
  unfold lead
  simp only [UInt8.lt_iff_toNat_lt]
  rw [if_neg (by simp; omega), if_neg (by simp; omega), if_pos (by simpa using hr)]

theorem lead_three (hl : 0xE0 ≤ b.toNat) (hr : b.toNat < 0xF0) :
    lead b = .opens ⟨b, 1, b.toNat - 0xE0, 2, if b = 0xE0 then 0xA0 else 0x80,
      if b = 0xED then 0x9F else 0xBF⟩ := by
  unfold lead
  simp only [UInt8.lt_iff_toNat_lt]
  rw [if_neg (by simp; omega), if_neg (by simp; omega), if_neg (by simp; omega),
    if_pos (by simpa using hr)]

theorem lead_four (hl : 0xF0 ≤ b.toNat) (hr : b.toNat < 0xF5) :
    lead b = .opens ⟨b, 1, b.toNat - 0xF0, 3, if b = 0xF0 then 0x90 else 0x80,
      if b = 0xF4 then 0x8F else 0xBF⟩ := by
  unfold lead
  simp only [UInt8.lt_iff_toNat_lt]
  rw [if_neg (by simp; omega), if_neg (by simp; omega), if_neg (by simp; omega),
    if_neg (by simp; omega), if_pos (by simpa using hr)]

theorem decodeFrom_opens (h : lead b = .opens p) :
    decodeFrom position none (b :: r) = decodeFrom (position + 1) (some p) r := by
  rw [decodeFrom, h]

theorem decodeFrom_more (hb : p.admits b = true) (hm : 1 < p.missing) :
    decodeFrom position (some p) (b :: r) = decodeFrom (position + 1) (some (p.push b)) r := by
  rw [decodeFrom, if_pos hb]
  have hmissing : (p.push b).missing ≠ 0 := by
    simp only [Pending.push]
    omega
  simp only [hmissing, if_false]

theorem decodeFrom_last (hb : p.admits b = true) (hm : p.missing = 1) :
    decodeFrom position (some p) (b :: r) =
      (decodeFrom (position + 1) none r).map (codePoint (p.bits * 64 + (b.toNat - 0x80)) :: ·) := by
  rw [decodeFrom, if_pos hb]
  simp [Pending.push, hm]

theorem admits_iff : p.admits b = true ↔ p.low.toNat ≤ b.toNat ∧ b.toNat ≤ p.high.toNat := by
  simp [Pending.admits, UInt8.le_iff_toNat_le]

/-! ## One code point -/

theorem codePoint_val (c : CodePoint) : codePoint c.val = c :=
  Fin.ext (Nat.mod_eq_of_lt c.isLt)

theorem decodeFrom_two (hl : 0x80 ≤ c.val) (hr : c.val < 0x800) : decodeFrom position none
    (.ofNat (0xC0 + c.val / 64) :: .ofNat (0x80 + c.val % 64) :: r) =
      (decodeFrom (position + 2) none r).map (c :: ·) := by
  have h₀ := UInt8.toNat_ofNat_of_lt' (show 0xC0 + c.val / 64 < 256 by omega)
  have h₁ := UInt8.toNat_ofNat_of_lt' (show 0x80 + c.val % 64 < 256 by omega)
  have hbits : (0xC0 + c.val / 64 - 0xC0) * 64 + (0x80 + c.val % 64 - 0x80) = c.val := by omega
  rw [decodeFrom_opens (lead_two (by omega) (by omega)), decodeFrom_last (admits_iff.mpr ?_) rfl]
  · rw [h₀, h₁, hbits, codePoint_val]
  · rw [h₁]
    simp
    omega

theorem decodeFrom_three (hl : 0x800 ≤ c.val) (hr : c.val < 0x10000) (hs : c.isSurrogate = false) :
    decodeFrom position none (.ofNat (0xE0 + c.val / 4096) :: .ofNat (0x80 + c.val / 64 % 64) ::
      .ofNat (0x80 + c.val % 64) :: r) = (decodeFrom (position + 3) none r).map (c :: ·) := by
  have hs : ¬(0xD800 ≤ c.val ∧ c.val ≤ 0xDFFF) := by simpa [CodePoint.isSurrogate] using hs
  have h₀ := UInt8.toNat_ofNat_of_lt' (show 0xE0 + c.val / 4096 < 256 by omega)
  have h₁ := UInt8.toNat_ofNat_of_lt' (show 0x80 + c.val / 64 % 64 < 256 by omega)
  have h₂ := UInt8.toNat_ofNat_of_lt' (show 0x80 + c.val % 64 < 256 by omega)
  have hbits : ((0xE0 + c.val / 4096 - 0xE0) * 64 + (0x80 + c.val / 64 % 64 - 0x80)) * 64 +
      (0x80 + c.val % 64 - 0x80) = c.val := by omega
  rw [decodeFrom_opens (lead_three (by omega) (by omega)),
    decodeFrom_more (admits_iff.mpr ?_) (by simp),
    decodeFrom_last (admits_iff.mpr ?_) rfl]
  · simp only [Pending.push]
    rw [h₀, h₁, h₂, hbits, codePoint_val]
  · simp only [Pending.push]
    rw [h₂]
    simp
    omega
  · -- The bounds on the second octet exclude what two octets can hold, and surrogates.
    simp only [← UInt8.toNat_inj, h₀, h₁]
    split <;> split <;> simp_all <;> omega

theorem decodeFrom_four (hl : 0x10000 ≤ c.val) :
    decodeFrom position none (.ofNat (0xF0 + c.val / 262144) :: .ofNat (0x80 + c.val / 4096 % 64) ::
      .ofNat (0x80 + c.val / 64 % 64) :: .ofNat (0x80 + c.val % 64) :: r) =
        (decodeFrom (position + 4) none r).map (c :: ·) := by
  have hr : c.val < 0x110000 := c.isLt
  have h₀ := UInt8.toNat_ofNat_of_lt' (show 0xF0 + c.val / 262144 < 256 by omega)
  have h₁ := UInt8.toNat_ofNat_of_lt' (show 0x80 + c.val / 4096 % 64 < 256 by omega)
  have h₂ := UInt8.toNat_ofNat_of_lt' (show 0x80 + c.val / 64 % 64 < 256 by omega)
  have h₃ := UInt8.toNat_ofNat_of_lt' (show 0x80 + c.val % 64 < 256 by omega)
  have hbits : (((0xF0 + c.val / 262144 - 0xF0) * 64 + (0x80 + c.val / 4096 % 64 - 0x80)) * 64 +
      (0x80 + c.val / 64 % 64 - 0x80)) * 64 + (0x80 + c.val % 64 - 0x80) = c.val := by omega
  rw [decodeFrom_opens (lead_four (by omega) (by omega)),
    decodeFrom_more (admits_iff.mpr ?_) (by simp),
    decodeFrom_more (admits_iff.mpr ?_) (by simp [Pending.push]),
    decodeFrom_last (admits_iff.mpr ?_) rfl]
  · simp only [Pending.push]
    rw [h₀, h₁, h₂, h₃, hbits, codePoint_val]
  · simp only [Pending.push]
    rw [h₃]
    simp
    omega
  · simp only [Pending.push]
    rw [h₂]
    simp
    omega
  · -- The bounds on the second octet exclude what three octets can hold, and too great numbers.
    simp only [← UInt8.toNat_inj, h₀, h₁]
    split <;> split <;> simp_all <;> omega

/-- **A code point that is no surrogate is read as it was written.** -/
theorem decodeFrom_encodeOne (h : c.isSurrogate = false) : decodeFrom position none
    (encodeOne c ++ r) =
      (decodeFrom (position + (encodeOne c).length) none r).map (c :: ·) := by
  unfold encodeOne
  simp only
  split
  · rename_i hc
    have hb := UInt8.toNat_ofNat_of_lt' (show c.val < 256 by omega)
    rw [List.singleton_append, decodeFrom_single (by omega), hb, codePoint_val]
    rfl
  split
  · exact decodeFrom_two (by omega) (by omega)
  split
  · exact decodeFrom_three (by omega) (by omega) h
  · exact decodeFrom_four (by omega)

/-! ## Whole texts -/

theorem decodeFrom_flatMap {t : Text} (h : t.any CodePoint.isSurrogate = false) (position : Nat) :
    decodeFrom position none (t.flatMap encodeOne) = .ok t := by
  induction t generalizing position with
  | nil => rfl
  | cons c t ih =>
    rw [List.any_cons, Bool.or_eq_false_iff] at h
    rw [List.flatMap_cons, decodeFrom_encodeOne h.1, ih h.2]
    rfl

theorem encode?_eq_none_iff {t : Text} :
    encode? t = none ↔ ∃ c ∈ t, c.isSurrogate = true := by
  simp [encode?, List.any_eq_true]

/-- **The octets that a text was written as are read as that text.** -/
theorem decode_of_encode? {t : Text} {o : Octets} (h : encode? t = some o) : decode o = .ok t := by
  unfold encode? at h
  split at h
  · cases h
  · rename_i hsurrogates
    obtain rfl := Option.some.inj h
    exact decodeFrom_flatMap (by simpa using hsurrogates) 0

end ServiceWiring.Utf8
