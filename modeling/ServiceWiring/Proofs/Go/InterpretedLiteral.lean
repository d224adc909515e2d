import Mathlib.Data.List.Basic
import ServiceWiring.Text.Utf8

/-!
# What interpreted literals stand for

A Go compiler reads an interpreted literal from the left, up to the first quote that is not part of
an escape. A plain character stands for its own octets. An escape starts with a backslash and stands
for one octet, or for the octets of one character. A line break cannot stand between the quotes, and
a quote or a backslash only as an escape. `readInterpreted?` reads a literal in that way; whether a
compiler takes a zero or a byte order mark is left to it by the language, and here both are read.

No escape stands for as many octets as it is long. So a text between quotes that holds one cannot
stand for itself.

Results:
* `readBody?_plain`: plain characters up to a quote stand for themselves.
* `readBody?_spec`: what is read stands for fewer octets than it is written in, unless it is plain.

Headline:
* **`readInterpreted?_quoted_iff`**: a text between quotes stands for itself exactly if all of its
  characters are plain.
* `denotes_quoted_iff`: in that case it is read as a whole.
-/

namespace ServiceWiring.Go

/-! ## Reading -/

/-- A character that stands for itself between quotes. -/
def IsPlain (c : CodePoint) : Prop :=
  c ≠ 0x22 ∧ c ≠ 0x5C ∧ c ≠ 0x0A ∧ c.isSurrogate = false

instance : DecidablePred IsPlain := fun _ => inferInstanceAs (Decidable (_ ∧ _))

/-- The escapes by one character, with the octets that they stand for. -/
def namedEscapes : List (CodePoint × UInt8) :=
  [('a', 0x07), ('b', 0x08), ('f', 0x0C), ('n', 0x0A), ('r', 0x0D), ('t', 0x09), ('v', 0x0B),
    ('\\', 0x5C), ('"', 0x22)]

/-- The number that so many digits at the start of a text go on to, and the rest. -/
def readNumber? (base : Nat) : Nat → Nat → Text → Option (Nat × Text)
  | 0, n, t => some (n, t)
  | _ + 1, _, [] => none
  | count + 1, n, c :: r =>
    match Text.hexDigit? c with
    | none => none
    | some d => if d < base then readNumber? base count (base * n + d) r else none

/-- One octet, by its number. -/
def octet? (n : Nat) : Option Octets := if n < 256 then some [.ofNat n] else none

/-- The octets of one character, by its number; a surrogate is none. -/
def character? (n : Nat) : Option Octets :=
  if h : n < 0x110000 then Utf8.encode? [⟨n, h⟩] else none

/-- What so many digits at the start of a text stand for, and the rest. -/
def readDigits? (base count : Nat) (value? : Nat → Option Octets) (t : Text) :
    Option (Octets × Text) :=
  match readNumber? base count 0 t with
  | none => none
  | some (n, rest) => (value? n).map (·, rest)

/-- What an escape stands for, read behind its backslash, and the rest. -/
def readEscape? : Text → Option (Octets × Text)
  | [] => none
  | c :: r =>
    match namedEscapes.lookup c with
    | some b => some ([b], r)
    | none =>
      if c = 'x' then readDigits? 16 2 octet? r
      else if c = 'u' then readDigits? 16 4 character? r
      else if c = 'U' then readDigits? 16 8 character? r
      else readDigits? 8 3 octet? (c :: r)

/-- What a character or an escape stands for, and the rest. -/
def readOne? : Text → Option (Octets × Text)
  | [] => none
  | c :: r =>
    if c = 0x5C then readEscape? r
    else if IsPlain c then some (Utf8.encodeOne c, r)
    else none

/-! ## What is read, and how long it is -/

variable {t rest body : Text} {o : Octets}

theorem readNumber?_spec {base count n m : Nat} (h : readNumber? base count n t = some (m, rest)) :
    ∃ digits, t = digits ++ rest ∧ digits.length = count ∧ 0x0A ∉ digits := by
  induction count generalizing n t with
  | zero =>
    cases h
    exact ⟨[], rfl, rfl, List.not_mem_nil⟩
  | succ count ih =>
    cases t with
    | nil => cases h
    | cons c r =>
      unfold readNumber? at h
      split at h
      · cases h
      · rename_i d hd
        split at h
        · obtain ⟨digits, rfl, hlength, hbreak⟩ := ih h
          have hc : (0x0A : CodePoint) ≠ c := by
            rintro rfl
            cases hd
          exact ⟨c :: digits, rfl, congrArg (· + 1) hlength,
            List.not_mem_cons_of_ne_of_not_mem hc hbreak⟩
        · cases h

theorem length_octet? {n : Nat} (h : octet? n = some o) : o.length = 1 := by
  unfold octet? at h
  split at h
  · cases h
    rfl
  · cases h

theorem length_encodeOne (c : CodePoint) :
    0 < (Utf8.encodeOne c).length ∧ (Utf8.encodeOne c).length ≤ 4 := by
  unfold Utf8.encodeOne
  simp only
  split
  · simp
  split
  · simp
  split <;> simp

theorem length_character? {n : Nat} (h : character? n = some o) : o.length ≤ 4 := by
  unfold character? at h
  split at h
  · unfold Utf8.encode? at h
    split at h
    · cases h
    · cases h
      simpa using (length_encodeOne _).2
  · cases h

theorem readDigits?_spec {base count : Nat} {value? : Nat → Option Octets}
    (hvalue : ∀ n o, value? n = some o → o.length ≤ count)
    (h : readDigits? base count value? t = some (o, rest)) :
    ∃ digits, t = digits ++ rest ∧ o.length ≤ digits.length ∧ 0x0A ∉ digits := by
  unfold readDigits? at h
  split at h
  · cases h
  · rename_i n rest' hnumber
    obtain ⟨o', ho, heq⟩ := Option.map_eq_some_iff.mp h
    cases heq
    obtain ⟨digits, rfl, hlength, hbreak⟩ := readNumber?_spec hnumber
    exact ⟨digits, rfl, hlength ▸ hvalue n o ho, hbreak⟩

/-- An escape without its backslash is at least as long as what it stands for. -/
theorem readEscape?_spec (h : readEscape? t = some (o, rest)) :
    ∃ taken, t = taken ++ rest ∧ o.length ≤ taken.length ∧ 0x0A ∉ taken := by
  have hoctet {count : Nat} (hcount : 1 ≤ count) (n : Nat) (o : Octets) (ho : octet? n = some o) :
      o.length ≤ count := (length_octet? ho).symm ▸ hcount
  have hcharacter {count : Nat} (hcount : 4 ≤ count) (n : Nat) (o : Octets)
      (ho : character? n = some o) : o.length ≤ count := Nat.le_trans (length_character? ho) hcount
  -- A letter before the digits only makes the escape longer.
  have hletter {c : CodePoint} {r : Text} (hc : (0x0A : CodePoint) ≠ c)
      (hdigits : ∃ digits, r = digits ++ rest ∧ o.length ≤ digits.length ∧ 0x0A ∉ digits) :
      ∃ taken, c :: r = taken ++ rest ∧ o.length ≤ taken.length ∧ 0x0A ∉ taken := by
    obtain ⟨digits, rfl, hlength, hbreak⟩ := hdigits
    exact ⟨c :: digits, rfl, Nat.le_succ_of_le hlength,
      List.not_mem_cons_of_ne_of_not_mem hc hbreak⟩
  cases t with
  | nil => cases h
  | cons c r =>
    rw [readEscape?] at h
    split at h
    · rename_i b hb
      cases h
      have hc : (0x0A : CodePoint) ≠ c := by
        rintro rfl
        cases hb
      exact ⟨[c], rfl, Nat.le_refl 1, fun h => hc (List.mem_singleton.mp h)⟩
    · split at h
      · rename_i hc
        exact hletter (by rw [hc]; decide) (readDigits?_spec (hoctet (by decide)) h)
      split at h
      · rename_i hc
        exact hletter (by rw [hc]; decide) (readDigits?_spec (hcharacter (by decide)) h)
      split at h
      · rename_i hc
        exact hletter (by rw [hc]; decide) (readDigits?_spec (hcharacter (by decide)) h)
      · exact readDigits?_spec (hoctet (by decide)) h

/-- What is read in one step is a plain character, or an escape that is longer than what it stands
for. -/
theorem readOne?_spec (h : readOne? t = some (o, rest)) :
    (∃ c, t = c :: rest ∧ IsPlain c ∧ o = Utf8.encodeOne c) ∨
      ∃ taken, t = taken ++ rest ∧ o.length < taken.length ∧ 0x0A ∉ taken := by
  cases t with
  | nil => cases h
  | cons c r =>
    rw [readOne?] at h
    split at h
    · rename_i hc
      obtain ⟨taken, rfl, hlength, hbreak⟩ := readEscape?_spec h
      exact Or.inr ⟨c :: taken, rfl, Nat.lt_succ_of_le hlength,
        List.not_mem_cons_of_ne_of_not_mem (by rw [hc]; decide) hbreak⟩
    split at h
    · rename_i hplain
      cases h
      exact Or.inl ⟨c, rfl, hplain, rfl⟩
    · cases h

theorem length_readOne?_lt (h : readOne? t = some (o, rest)) : rest.length < t.length := by
  rcases readOne?_spec h with ⟨c, rfl, -⟩ | ⟨taken, rfl, hlength, -⟩
  · exact Nat.lt_succ_self _
  · rw [List.length_append]
    omega

/-- What stands before the closing quote stands for, and the rest behind the quote. -/
def readBody? (t : Text) : Option (Octets × Text) :=
  if t.head? = some 0x22 then some ([], t.tail)
  else
    match _h : readOne? t with
    | none => none
    | some (o, rest) => (readBody? rest).map fun (os, rest) => (o ++ os, rest)
termination_by t.length
decreasing_by exact length_readOne?_lt _h

/-- What an interpreted literal at the start of a text stands for, and the rest. -/
def readInterpreted? : Text → Option (Octets × Text)
  | 0x22 :: r => readBody? r
  | _ => none

example : readInterpreted? "\"\\u00e9\\x2F\\n\"; rest" =
    some (([0xC3, 0xA9, 0x2F, 0x0A] : Octets), ("; rest" : Text)) := by decide +kernel

/-- Plain characters up to a quote stand for themselves. -/
theorem readBody?_plain (h : ∀ c ∈ body, IsPlain c) (rest : Text) :
    readBody? (body ++ 0x22 :: rest) = some (body.flatMap Utf8.encodeOne, rest) := by
  induction body with
  | nil =>
    rw [readBody?]
    rfl
  | cons c body ih =>
    obtain ⟨hc, hbody⟩ := List.forall_mem_cons.mp h
    have hone : readOne? (c :: (body ++ 0x22 :: rest)) =
        some (Utf8.encodeOne c, body ++ 0x22 :: rest) := by
      rw [readOne?, if_neg hc.2.1, if_pos hc]
    have hquote : (c :: (body ++ 0x22 :: rest)).head? ≠ some 0x22 :=
      fun h => hc.1 (Option.some.inj h)
    rw [List.cons_append, readBody?, if_neg hquote]
    split
    · rename_i hnone
      cases hone.symm.trans hnone
    · rename_i o' rest' hsome
      cases hone.symm.trans hsome
      rw [ih hbody]
      rfl

theorem length_le_octets (t : Text) : t.length ≤ (t.flatMap Utf8.encodeOne).length := by
  induction t with
  | nil => exact Nat.le_refl 0
  | cons c t ih =>
    have hc := (length_encodeOne c).1
    rw [List.flatMap_cons, List.length_append, List.length_cons]
    omega

/-- What is read up to a quote stands for no more octets than it is written in, and for as many only
if all of it is plain. It holds no line break. -/
theorem readBody?_spec (h : readBody? t = some (o, rest)) :
    ∃ body, t = body ++ 0x22 :: rest ∧ 0x0A ∉ body ∧
      o.length ≤ (body.flatMap Utf8.encodeOne).length ∧
      (o.length = (body.flatMap Utf8.encodeOne).length → ∀ c ∈ body, IsPlain c) := by
  induction t using readBody?.induct generalizing o with
  | case1 t hquote =>
    rw [readBody?, if_pos hquote] at h
    cases h
    obtain ⟨c, r, rfl⟩ := List.exists_cons_of_ne_nil (fun h : t = [] => by simp [h] at hquote)
    obtain rfl := Option.some.inj hquote
    exact ⟨[], rfl, List.not_mem_nil, Nat.le_refl 0, fun _ => by simp⟩
  | case2 t hquote hnone =>
    rw [readBody?, if_neg hquote] at h
    split at h
    · cases h
    · rename_i hsome
      cases hnone.symm.trans hsome
  | case3 t hquote o₁ r hone ih =>
    rw [readBody?, if_neg hquote] at h
    split at h
    · cases h
    rename_i hsome
    cases hone.symm.trans hsome
    obtain ⟨⟨os, rest'⟩, hmore, heq⟩ := Option.map_eq_some_iff.mp h
    cases heq
    obtain ⟨body, rfl, hbreak, hle, hplain⟩ := ih hmore
    rcases readOne?_spec hone with ⟨c, rfl, hc, rfl⟩ | ⟨taken, rfl, hlt, hbreak'⟩
    · refine ⟨c :: body, rfl, List.not_mem_cons_of_ne_of_not_mem (Ne.symm hc.2.2.1) hbreak, ?_,
        fun heq => List.forall_mem_cons.mpr ⟨hc, hplain ?_⟩⟩
      · rw [List.flatMap_cons, List.length_append, List.length_append]
        omega
      · rw [List.flatMap_cons, List.length_append, List.length_append] at heq
        omega
    · have htaken := length_le_octets taken
      have hshorter : (o₁ ++ os).length < ((taken ++ body).flatMap Utf8.encodeOne).length := by
        rw [List.flatMap_append, List.length_append, List.length_append]
        omega
      exact ⟨taken ++ body, by rw [List.append_assoc], List.not_mem_append hbreak' hbreak,
        Nat.le_of_lt hshorter, fun heq => absurd heq (Nat.ne_of_lt hshorter)⟩

/-! ## A text between quotes -/

variable {path r : Text}

/-- What is read of a text between quotes at the end of a line is some of the text: the reader does
not get past the line. -/
theorem readBody?_prefix (h : readBody? (path ++ 0x22 :: 0x0A :: r) = some (o, rest)) :
    ∃ body more, path = body ++ more ∧
      o.length ≤ (body.flatMap Utf8.encodeOne).length ∧
      (o.length = (body.flatMap Utf8.encodeOne).length → ∀ c ∈ body, IsPlain c) := by
  obtain ⟨body, hread, hbreak, hle, hplain⟩ := readBody?_spec h
  rcases List.append_eq_append_iff.mp hread with ⟨more, rfl, hmore⟩ | ⟨more, rfl, -⟩
  · -- The body would go on behind the quote, where the line ends.
    cases more with
    | nil => exact ⟨path, [], by simp, by simpa using hle, by simpa using hplain⟩
    | cons c more =>
      obtain ⟨-, hmore⟩ := List.cons.inj hmore
      cases more with
      | nil => cases (List.cons.inj hmore).1
      | cons c' more =>
        obtain ⟨rfl, -⟩ := List.cons.inj hmore
        exact absurd (by simp) hbreak
  · exact ⟨body, more, rfl, hle, hplain⟩

theorem encode?_eq_some_iff : Utf8.encode? t = some o ↔
    (∀ c ∈ t, c.isSurrogate = false) ∧ t.flatMap Utf8.encodeOne = o := by
  unfold Utf8.encode?
  by_cases h : t.any CodePoint.isSurrogate = true
  · rw [if_pos h]
    obtain ⟨c, hc, hsurrogate⟩ := List.any_eq_true.mp h
    exact ⟨nofun, fun ⟨hnone, _⟩ => absurd hsurrogate (by simp [hnone c hc])⟩
  · rw [if_neg h, Option.some_inj]
    exact ⟨fun ho => ⟨fun c hc => Bool.eq_false_iff.mpr fun hsurrogate =>
      h (List.any_eq_true.mpr ⟨c, hc, hsurrogate⟩), ho⟩, And.right⟩

theorem readInterpreted?_quoted (path r : Text) :
    readInterpreted? ("\"" ++ path ++ "\"" ++ "\n" ++ r) =
      readBody? (path ++ 0x22 :: 0x0A :: r) := by
  rw [List.append_assoc, List.append_assoc, List.append_assoc]
  rfl

/-- **A text between quotes stands for itself if and only if all of its characters are plain.** It
stands at the end of a line. -/
theorem readInterpreted?_quoted_iff (path r : Text) :
    (∃ octets rest, readInterpreted? ("\"" ++ path ++ "\"" ++ "\n" ++ r) = some (octets, rest) ∧
        Utf8.encode? path = some octets) ↔ ∀ c ∈ path, IsPlain c := by
  rw [readInterpreted?_quoted]
  constructor
  · rintro ⟨octets, rest, hread, hencode⟩
    obtain ⟨body, more, rfl, hle, hplain⟩ := readBody?_prefix hread
    obtain ⟨-, rfl⟩ := encode?_eq_some_iff.mp hencode
    -- The value is as long as the whole text, so nothing was left and nothing was an escape.
    have hmore := length_le_octets more
    rw [List.flatMap_append, List.length_append] at hle hplain
    obtain rfl : more = [] := List.length_eq_zero_iff.mp (by omega)
    rw [List.append_nil]
    exact hplain rfl
  · intro hplain
    exact ⟨_, _, readBody?_plain hplain _,
      encode?_eq_some_iff.mpr ⟨fun c hc => (hplain c hc).2.2.2, rfl⟩⟩

/-- An expression that is one interpreted literal, up to the end of its line, and stands for a text.
-/
def Denotes (expression t : Text) : Prop :=
  ∃ octets rest, readInterpreted? expression = some (octets, 0x0A :: rest) ∧
    Utf8.encode? t = some octets

theorem denotes_quoted_iff (path r : Text) :
    Denotes ("\"" ++ path ++ "\"" ++ "\n" ++ r) path ↔ ∀ c ∈ path, IsPlain c := by
  rw [← readInterpreted?_quoted_iff path r]
  constructor
  · rintro ⟨octets, rest, hread, hencode⟩
    exact ⟨octets, _, hread, hencode⟩
  · rintro ⟨octets, rest, hread, hencode⟩
    have hplain := (readInterpreted?_quoted_iff path r).mp ⟨octets, rest, hread, hencode⟩
    rw [readInterpreted?_quoted, readBody?_plain hplain] at hread
    obtain ⟨rfl, rfl⟩ := Prod.mk.inj (Option.some.inj hread)
    exact ⟨_, r, by rw [readInterpreted?_quoted, readBody?_plain hplain], hencode⟩

end ServiceWiring.Go
