import ServiceWiring.Disk.Walk
import ServiceWiring.Path.Basic
import ServiceWiring.Proofs.Text.Utf8

/-!
# Names survive as texts

The text that a name of a disk is shown as stands for exactly the octets of the name: a sequence
that makes a character is written as that character again, and each octet that belongs to none has a
stand-in of its own. While a sequence is read, `Open` says that whatever completes it is written
with the octets that were read so far.

A slash is an octet of its own in every name, so the names on the way of a path are the same whether
its text is divided or its octets are.

Headline:
* **`encodeName?_decodeName`**: the octets of a name are recovered from its text.
* **`splitSlash_spell`**: the names on the way are spelled one by one.
-/

namespace ServiceWiring.Utf8

variable {b : UInt8} {c : CodePoint} {held o r : Octets} {p : Pending} {t u : Text}

/-! ## Spelling -/

/-- The octets of one code point of a name. -/
def nameOne (c : CodePoint) : Octets :=
  if isEscaped c then [.ofNat (c.val - 0xDC00)] else encodeOne c

/-- The octets that a text spells. -/
def spell (t : Text) : Octets := t.flatMap nameOne

@[simp]
theorem spell_nil : spell [] = [] := rfl

@[simp]
theorem spell_cons (c : CodePoint) (t : Text) : spell (c :: t) = nameOne c ++ spell t := rfl

@[simp]
theorem spell_append (t u : Text) : spell (t ++ u) = spell t ++ spell u := List.flatMap_append

theorem encodeName?_eq_some_iff : encodeName? t = some o ↔
    (∀ c ∈ t, c.isSurrogate = true → isEscaped c = true) ∧ spell t = o := by
  unfold encodeName?
  split
  · rename_i h
    simp only [List.any_eq_true, Bool.and_eq_true, Bool.not_eq_true'] at h
    obtain ⟨c, hc, hs, he⟩ := h
    refine ⟨fun h => (by cases h), fun h => ?_⟩
    cases he.symm.trans (h.1 c hc hs)
  · rename_i h
    simp only [List.any_eq_true, Bool.and_eq_true, Bool.not_eq_true', not_exists, not_and] at h
    refine ⟨fun ho => ⟨fun c hc hs => by simpa using h c hc hs, Option.some.inj ho⟩, fun ho => ?_⟩
    exact congrArg some ho.2

theorem spell_of_encodeName? (h : encodeName? t = some o) : spell t = o :=
  (encodeName?_eq_some_iff.mp h).2

/-- The text can be written as a path. -/
def IsWritable (t : Text) : Prop := ∃ o, encodeName? t = some o ∧ 0 ∉ o

theorem isWritable_iff : IsWritable t ↔
    ∀ c ∈ t, (c.isSurrogate = true → isEscaped c = true) ∧ 0 ∉ nameOne c := by
  unfold IsWritable
  simp only [encodeName?_eq_some_iff]
  constructor
  · rintro ⟨o, ⟨hc, rfl⟩, hnull⟩ c hmem
    exact ⟨hc c hmem, fun h => hnull (List.mem_flatMap.mpr ⟨c, hmem, h⟩)⟩
  · intro h
    refine ⟨_, ⟨fun c hc => (h c hc).1, rfl⟩, fun hnull => ?_⟩
    obtain ⟨c, hc, hnull⟩ := List.mem_flatMap.mp hnull
    exact (h c hc).2 hnull

theorem IsWritable.spell (h : IsWritable t) : encodeName? t = some (Utf8.spell t) := by
  obtain ⟨o, ho, -⟩ := h
  rw [spell_of_encodeName? ho, ho]

theorem encodeName?_append (ht : encodeName? t = some o) (hu : encodeName? u = some r) :
    encodeName? (t ++ u) = some (o ++ r) := by
  rw [encodeName?_eq_some_iff] at ht hu ⊢
  exact ⟨List.forall_mem_append.mpr ⟨ht.1, hu.1⟩, by rw [spell_append, ht.2, hu.2]⟩

/-! ## What single code points spell -/

theorem encodeName?_plain (h : c.isSurrogate = false) : encodeName? [c] = some (encodeOne c) := by
  have he : isEscaped c = false := by
    simp only [CodePoint.isSurrogate, isEscaped, Bool.and_eq_false_iff, decide_eq_false_iff_not]
      at h ⊢
    omega
  refine encodeName?_eq_some_iff.mpr ⟨fun d hd hs => ?_, ?_⟩
  · cases (List.mem_singleton.mp hd ▸ h).symm.trans hs
  · simp [nameOne, he]

theorem encodeName?_escaped (h : 0x80 ≤ b.toNat) : encodeName? [escaped b] = some [b] := by
  have hb : b.toNat < 256 := b.toNat_lt
  have hval : (escaped b).val = 0xDC00 + b.toNat := Nat.mod_eq_of_lt (by omega)
  have he : isEscaped (escaped b) = true := by
    simp only [isEscaped, hval, Bool.and_eq_true, decide_eq_true_eq]
    omega
  refine encodeName?_eq_some_iff.mpr ⟨fun d hd _ => List.mem_singleton.mp hd ▸ he, ?_⟩
  simp [nameOne, he, hval]

theorem encodeName?_map_escaped (h : ∀ b ∈ held, 0x80 ≤ b.toNat) :
    encodeName? (held.map escaped) = some held := by
  induction held with
  | nil => rfl
  | cons b held ih =>
    obtain ⟨hb, hheld⟩ := List.forall_mem_cons.mp h
    exact encodeName?_append (t := [escaped b]) (encodeName?_escaped hb) (ih hheld)

/-! ## Sequences that are being read -/

/-- The last octets of a sequence, six bits each. -/
def continuation (number : Nat) : Nat → Octets
  | 0 => []
  | missing + 1 => .ofNat (0x80 + number / 64 ^ missing % 64) :: continuation number missing

/-- The octets that were read are those that every character starts with which can still come out of
the sequence. -/
structure Open (held : Octets) (p : Pending) : Prop where
  /-- The sequence is not complete. -/
  missing_pos : 0 < p.missing
  /-- What may come next goes on with the sequence. -/
  bounds : 0x80 ≤ p.low.toNat ∧ p.high.toNat ≤ 0xBF
  /-- No octet so far is a character by itself. -/
  high : ∀ b ∈ held, 0x80 ≤ b.toNat
  /-- A character of the sequence is spelled as it was read. -/
  spells : ∀ n, n / 64 ^ p.missing = p.bits →
    p.low.toNat ≤ 0x80 + n / 64 ^ (p.missing - 1) % 64 →
    0x80 + n / 64 ^ (p.missing - 1) % 64 ≤ p.high.toNat →
    n < 0x110000 ∧ (codePoint n).isSurrogate = false ∧
      encodeOne (codePoint n) = held ++ continuation n p.missing

theorem lead_single (h : lead b = .single) : b.toNat < 0x80 := by
  unfold lead at h
  simp only [UInt8.lt_iff_toNat_lt] at h
  split at h
  · assumption
  · split at h <;> repeat' (first | cases h | split at h)

theorem lead_bad (h : lead b = .bad) : 0x80 ≤ b.toNat := by
  unfold lead at h
  simp only [UInt8.lt_iff_toNat_lt] at h
  split at h
  · cases h
  · rename_i h₁
    exact Nat.le_of_not_lt h₁

theorem lead_cases (h : lead b = .opens p) :
    0xC2 ≤ b.toNat ∧ b.toNat < 0xE0 ∧ p = ⟨b, 1, b.toNat - 0xC0, 1, 0x80, 0xBF⟩ ∨
      0xE0 ≤ b.toNat ∧ b.toNat < 0xF0 ∧ p = ⟨b, 1, b.toNat - 0xE0, 2,
        if b = 0xE0 then 0xA0 else 0x80, if b = 0xED then 0x9F else 0xBF⟩ ∨
      0xF0 ≤ b.toNat ∧ b.toNat < 0xF5 ∧ p = ⟨b, 1, b.toNat - 0xF0, 3,
        if b = 0xF0 then 0x90 else 0x80, if b = 0xF4 then 0x8F else 0xBF⟩ := by
  unfold lead at h
  simp only [UInt8.lt_iff_toNat_lt] at h
  split at h
  · cases h
  split at h
  · cases h
  rename_i h₁
  split at h
  · rename_i h₂
    exact Or.inl ⟨by simpa using h₁, by simpa using h₂, (Lead.opens.inj h).symm⟩
  rename_i h₂
  split at h
  · rename_i h₃
    exact Or.inr (Or.inl ⟨by simpa using h₂, by simpa using h₃, (Lead.opens.inj h).symm⟩)
  rename_i h₃
  split at h
  · rename_i h₄
    exact Or.inr (Or.inr ⟨by simpa using h₃, by simpa using h₄, (Lead.opens.inj h).symm⟩)
  · cases h

theorem ofNat_eq_of_toNat {n : Nat} (h : n = b.toNat) : UInt8.ofNat n = b := by
  rw [h]
  exact UInt8.ofNat_toNat

theorem codePoint_val_of_lt {n : Nat} (h : n < 0x110000) : (codePoint n).val = n :=
  Nat.mod_eq_of_lt h

theorem isSurrogate_codePoint {n : Nat} (h : n < 0x110000) (hs : n < 0xD800 ∨ 0xDFFF < n) :
    (codePoint n).isSurrogate = false := by
  simp only [CodePoint.isSurrogate, codePoint_val_of_lt h, Bool.and_eq_false_iff,
    decide_eq_false_iff_not]
  omega

theorem toNat_ite (b x y z : UInt8) :
    (if b = x then y else z).toNat = if b.toNat = x.toNat then y.toNat else z.toNat := by
  simp only [UInt8.toNat_inj]
  split <;> rfl

/-- A sequence is open from its first octet on. -/
theorem Open.of_lead (h : lead b = .opens p) : Open [b] p := by
  rcases lead_cases h with ⟨hl, hr, rfl⟩ | ⟨hl, hr, rfl⟩ | ⟨hl, hr, rfl⟩
  · refine ⟨by simp, by simp, by simp; omega, fun n hn hlow hhigh => ?_⟩
    simp only [Nat.pow_one] at hn
    have hval := codePoint_val_of_lt (n := n) (by omega)
    refine ⟨by omega, isSurrogate_codePoint (by omega) (by omega), ?_⟩
    unfold encodeOne
    simp only [hval]
    rw [if_neg (by omega), if_pos (by omega), ofNat_eq_of_toNat (b := b) (by omega)]
    simp [continuation]
  · -- The bounds of the second octet leave out what is spelled shorter, and surrogates.
    have hlow := toNat_ite b 0xE0 0xA0 0x80
    have hhigh := toNat_ite b 0xED 0x9F 0xBF
    simp only [UInt8.reduceToNat] at hlow hhigh
    refine ⟨by simp, ?_, by simp; omega, fun n hn hl hh => ?_⟩
    · simp only [hlow, hhigh]
      split <;> split <;> omega
    simp only [hlow, hhigh, Nat.reducePow, Nat.reduceSub] at hn hl hh
    have hval := codePoint_val_of_lt (n := n) (by omega)
    refine ⟨by omega, isSurrogate_codePoint (by omega) (by split at hh <;> omega), ?_⟩
    unfold encodeOne
    simp only [hval]
    rw [if_neg (by split at hl <;> omega), if_neg (by split at hl <;> omega), if_pos (by omega),
      ofNat_eq_of_toNat (b := b) (by omega)]
    simp [continuation]
  · -- Here they leave out what is spelled shorter, and numbers beyond the last code point.
    have hlow := toNat_ite b 0xF0 0x90 0x80
    have hhigh := toNat_ite b 0xF4 0x8F 0xBF
    simp only [UInt8.reduceToNat] at hlow hhigh
    refine ⟨by simp, ?_, by simp; omega, fun n hn hl hh => ?_⟩
    · simp only [hlow, hhigh]
      split <;> split <;> omega
    simp only [hlow, hhigh, Nat.reducePow, Nat.reduceSub] at hn hl hh
    have hlt : n < 0x110000 := by split at hh <;> omega
    have hval := codePoint_val_of_lt hlt
    refine ⟨hlt, isSurrogate_codePoint hlt (by split at hl <;> omega), ?_⟩
    unfold encodeOne
    simp only [hval]
    rw [if_neg (by split at hl <;> omega), if_neg (by split at hl <;> omega),
      if_neg (by split at hl <;> omega), ofNat_eq_of_toNat (b := b) (by omega)]
    simp [continuation]

/-- A sequence stays open while octets are missing. -/
theorem Open.push (h : Open held p) (hb : p.admits b = true) (hm : (p.push b).missing ≠ 0) :
    Open (held ++ [b]) (p.push b) := by
  obtain ⟨hlow, hhigh⟩ := admits_iff.mp hb
  have hbounds := h.bounds
  obtain ⟨missing, hmissing⟩ : ∃ missing, p.missing = missing + 1 :=
    Nat.exists_eq_succ_of_ne_zero (Nat.ne_of_gt h.missing_pos)
  simp only [Pending.push, hmissing, Nat.add_sub_cancel] at hm
  refine ⟨?_, by simp [Pending.push], ?_, fun n hn _ _ => ?_⟩
  · simp only [Pending.push]
    omega
  · exact List.forall_mem_append.mpr ⟨h.high, by simp; omega⟩
  · simp only [Pending.push, hmissing, Nat.add_sub_cancel] at hn ⊢
    have hnext : n / 64 ^ missing % 64 = b.toNat - 0x80 := by omega
    have hbits : n / 64 ^ p.missing = p.bits := by
      rw [hmissing, Nat.pow_succ, ← Nat.div_div_eq_div_mul]
      omega
    have hspells := h.spells n hbits
    rw [hmissing, Nat.add_sub_cancel, hnext] at hspells
    obtain ⟨hlt, hs, hencode⟩ := hspells (by omega) (by omega)
    refine ⟨hlt, hs, ?_⟩
    rw [hencode, continuation, hnext, ofNat_eq_of_toNat (b := b) (by omega), List.append_assoc]
    rfl

/-- The last octet of a sequence completes a character that is spelled as it was read. -/
theorem Open.last (h : Open held p) (hb : p.admits b = true) (hm : (p.push b).missing = 0) :
    encodeName? [codePoint (p.push b).bits] = some (held ++ [b]) := by
  obtain ⟨hlow, hhigh⟩ := admits_iff.mp hb
  have hbounds := h.bounds
  have hpos := h.missing_pos
  have hmissing : p.missing = 1 := by
    simp only [Pending.push] at hm
    omega
  have hbits : (p.push b).bits = p.bits * 64 + (b.toNat - 0x80) := rfl
  have hspells := h.spells (p.push b).bits
  rw [hbits, hmissing, Nat.sub_self, Nat.pow_one, Nat.pow_zero, Nat.div_one] at hspells
  obtain ⟨-, hs, hencode⟩ := hspells (by omega) (by omega) (by omega)
  rw [hbits, encodeName?_plain hs, hencode, continuation, continuation, Nat.pow_zero, Nat.div_one,
    ofNat_eq_of_toNat (b := b) (by omega)]

/-! ## Whole names -/

/-- An octet that does not continue a sequence is read as one that may start another. -/
theorem decodeNameFrom_of_not_admits (h : p.admits b = false) :
    decodeNameFrom held (some p) (b :: r) =
      held.map escaped ++ decodeNameFrom [] none (b :: r) := by
  conv =>
    lhs
    rw [decodeNameFrom, if_neg (by simp [h])]
  rfl

theorem encodeName?_decodeNameFrom (o : Octets) :
    encodeName? (decodeNameFrom [] none o) = some o ∧
      ∀ held p, Open held p → encodeName? (decodeNameFrom held (some p) o) = some (held ++ o) := by
  induction o with
  | nil =>
    refine ⟨rfl, fun held p h => ?_⟩
    rw [decodeNameFrom, List.append_nil]
    exact encodeName?_map_escaped h.high
  | cons b r ih =>
    -- What an octet gives where a sequence may start.
    have hstart : encodeName? (decodeNameFrom [] none (b :: r)) = some (b :: r) := by
      rw [decodeNameFrom]
      split
      · rename_i hlead
        have hb := lead_single hlead
        have hval := codePoint_val_of_lt (n := b.toNat) (by omega)
        have hs := isSurrogate_codePoint (n := b.toNat) (by omega) (by omega)
        have hone : encodeOne (codePoint b.toNat) = [b] := by
          unfold encodeOne
          simp only [hval]
          rw [if_pos hb, UInt8.ofNat_toNat]
        exact encodeName?_append (t := [codePoint b.toNat]) (hone ▸ encodeName?_plain hs) ih.1
      · rename_i q hlead
        exact ih.2 [b] q (Open.of_lead hlead)
      · rename_i hlead
        exact encodeName?_append (t := [escaped b]) (encodeName?_escaped (lead_bad hlead)) ih.1
    refine ⟨hstart, fun held p h => ?_⟩
    by_cases hb : p.admits b = true
    · rw [decodeNameFrom, if_pos hb]
      simp only
      split
      · rename_i hm
        have hlast := encodeName?_append (h.last hb hm) ih.1
        simpa using hlast
      · rename_i hm
        simpa using ih.2 _ _ (h.push hb hm)
    · rw [decodeNameFrom_of_not_admits (by simpa using hb)]
      exact encodeName?_append (encodeName?_map_escaped h.high) hstart

/-- **The octets of a name are recovered from its text.** -/
theorem encodeName?_decodeName (o : Octets) : encodeName? (decodeName o) = some o :=
  (encodeName?_decodeNameFrom o).1

@[simp]
theorem spell_decodeName (o : Octets) : spell (decodeName o) = o :=
  spell_of_encodeName? (encodeName?_decodeName o)

/-! ## Octets that are characters by themselves -/

theorem high_of_mem {x : UInt8} (ns : List Nat) (h : ∀ n ∈ ns, 0x80 ≤ n ∧ n < 256)
    (hx : x ∈ ns.map UInt8.ofNat) : 0x80 ≤ x.toNat := by
  obtain ⟨n, hn, rfl⟩ := List.mem_map.mp hx
  rw [UInt8.toNat_ofNat_of_lt' (show n < 256 from (h n hn).2)]
  exact (h n hn).1

/-- An octet below 0x80 belongs to no longer sequence. -/
theorem nameOne_of_low {x : UInt8} (hx : x ∈ nameOne c) (hlow : x.toNat < 0x80) :
    nameOne c = [x] ∧ c.val = x.toNat := by
  have hc : c.val < 0x110000 := c.isLt
  unfold nameOne at hx ⊢
  split at hx
  · rename_i he
    simp only [isEscaped, Bool.and_eq_true, decide_eq_true_eq] at he
    rw [List.mem_singleton.mp hx, UInt8.toNat_ofNat_of_lt' (show c.val - 0xDC00 < 256 by omega)]
      at hlow
    omega
  · rename_i he
    unfold encodeOne at hx ⊢
    simp only at hx ⊢
    split at hx
    · rename_i hlow'
      rw [if_neg he, if_pos hlow']
      obtain rfl := List.mem_singleton.mp hx
      exact ⟨rfl, (UInt8.toNat_ofNat_of_lt' (show c.val < 256 by omega)).symm⟩
    · have hhigh : 0x80 ≤ x.toNat := by
        split at hx
        · exact high_of_mem [_, _] (by simp; omega) hx
        split at hx
        · exact high_of_mem [_, _, _] (by simp; omega) hx
        · exact high_of_mem [_, _, _, _] (by simp; omega) hx
      omega

theorem nameOne_ne_nil (c : CodePoint) : nameOne c ≠ [] := by
  unfold nameOne encodeOne
  simp only
  split
  · exact List.cons_ne_nil _ _
  · repeat' (first | exact List.cons_ne_nil _ _ | split)

/-- What starts with an octet below 0x80 is spelled from a text that starts with that character. -/
theorem spell_eq_cons (h : spell t = b :: r) (hb : b.toNat < 0x80) :
    ∃ c u, t = c :: u ∧ c.val = b.toNat ∧ spell u = r := by
  cases t with
  | nil => cases h
  | cons c u =>
    have hne : nameOne c ≠ [] := nameOne_ne_nil c
    obtain ⟨x, xs, hx⟩ := List.exists_cons_of_ne_nil hne
    rw [spell_cons, hx, List.cons_append] at h
    obtain ⟨rfl, hr⟩ := List.cons.inj h
    obtain ⟨hone, hval⟩ := nameOne_of_low (c := c) (by rw [hx]; exact List.mem_cons_self) hb
    obtain rfl : xs = [] := (List.cons.inj (hx.symm.trans hone)).2
    exact ⟨c, u, rfl, hval, hr⟩

theorem spell_eq_nil (h : spell t = []) : t = [] := by
  cases t with
  | nil => rfl
  | cons c u => exact absurd (List.append_eq_nil_iff.mp h).1 (nameOne_ne_nil c)

/-- A text that spells characters below 0x80 is made of these characters. -/
theorem eq_of_spell_eq_map (cs : Text) (hcs : cs.all fun c => c.val < 0x80)
    (h : spell t = cs.map fun c => UInt8.ofNat c.val) : t = cs := by
  induction cs generalizing t with
  | nil => exact spell_eq_nil h
  | cons d cs ih =>
    rw [List.all_cons, Bool.and_eq_true, decide_eq_true_eq] at hcs
    obtain ⟨hd, hcs⟩ := hcs
    have hval := UInt8.toNat_ofNat_of_lt' (show d.val < 256 by omega)
    have hlow : (UInt8.ofNat d.val).toNat < 0x80 := hval.symm ▸ hd
    obtain ⟨c, u, rfl, hc, hu⟩ := spell_eq_cons h hlow
    rw [ih hcs hu, Fin.ext (hc.trans hval)]

/-! ## Names on the way -/

theorem splitSlash_ne_nil (o : Octets) : splitSlash o ≠ [] := by
  cases o with
  | nil => decide
  | cons b r =>
    unfold splitSlash
    split
    · exact List.cons_ne_nil _ _
    · split <;> exact List.cons_ne_nil _ _

theorem splitSlash_append (ho : slashOctet ∉ o) (r : Octets) :
    ∃ name names, splitSlash r = name :: names ∧ splitSlash (o ++ r) = (o ++ name) :: names := by
  obtain ⟨name, names, hr⟩ := List.exists_cons_of_ne_nil (splitSlash_ne_nil r)
  refine ⟨name, names, hr, ?_⟩
  induction o with
  | nil => exact hr
  | cons b o ih =>
    obtain ⟨hb, ho⟩ := not_or.mp (mt List.mem_cons.mpr ho)
    rw [List.cons_append, splitSlash, if_neg (Ne.symm hb), ih ho]
    rfl

theorem notMem_of_mem_splitSlash {x : UInt8} (hx : x ∉ o) {n : Octets} (hn : n ∈ splitSlash o) :
    slashOctet ∉ n ∧ x ∉ n := by
  induction o generalizing n with
  | nil =>
    rw [List.mem_singleton.mp hn]
    simp
  | cons b r ih =>
    obtain ⟨hb, hr⟩ := not_or.mp (mt List.mem_cons.mpr hx)
    by_cases hslash : b = slashOctet
    · rw [splitSlash, if_pos hslash] at hn
      rcases List.mem_cons.mp hn with rfl | hn
      · simp
      · exact ih hr hn
    · obtain ⟨name, names, hnames, hcons⟩ := splitSlash_append (o := [b])
        (by simpa using Ne.symm hslash) r
      rw [List.singleton_append] at hcons
      rw [hcons] at hn
      rcases List.mem_cons.mp hn with rfl | hn
      · obtain ⟨h₁, h₂⟩ := ih hr (hnames ▸ List.mem_cons_self)
        exact ⟨by simpa [h₁] using Ne.symm hslash, by simpa [h₂] using hb⟩
      · exact ih hr (hnames ▸ List.mem_cons_of_mem _ hn)

/-- **The names on the way are spelled one by one.** -/
theorem splitSlash_spell (t : Text) :
    splitSlash (spell t) = (Text.splitOn Path.slash t).map spell := by
  induction t with
  | nil => rfl
  | cons c t ih =>
    by_cases hc : c = Path.slash
    · subst hc
      rw [Text.splitOn, if_pos rfl, List.map_cons, ← ih]
      rfl
    · have hslash : slashOctet ∉ nameOne c := fun h => hc (Fin.ext (nameOne_of_low h (by decide)).2)
      obtain ⟨name, names, hnames, happend⟩ := splitSlash_append hslash (spell t)
      rw [spell_cons, happend, Text.splitOn, if_neg hc]
      rw [ih] at hnames
      cases hsplit : Text.splitOn Path.slash t with
      | nil =>
        rw [hsplit] at hnames
        cases hnames
      | cons piece pieces =>
        rw [hsplit] at hnames
        obtain ⟨rfl, rfl⟩ := List.cons.inj hnames
        rfl

end ServiceWiring.Utf8
