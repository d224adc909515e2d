import ServiceWiring.Go.Literal
import ServiceWiring.Proofs.Text.Pieces

/-!
# What raw literals stand for

A Go compiler reads a raw literal up to the next backquote and drops the carriage returns in it.
`StringLiteral` holds the two kinds of literals that a sum of raw literals is made of, and
`readSum?` reads such a sum as a compiler does, from the left: a literal ends where it first can,
blanks may stand around a plus sign, and the sum ends where no plus sign follows.

Headline:
* **`readSum?_rawLiteral`**: what is written for a text is read as a whole, whatever follows it, and
  stands for that text without its carriage returns.
-/

namespace ServiceWiring.Go

/-- The code point that a raw literal starts and ends with. -/
abbrev backquote : CodePoint := 0x60

/-- A string literal: a raw one, or the interpreted one that holds a backquote. -/
inductive StringLiteral where
  /-- A text between backquotes, which cannot hold a backquote. -/
  | raw (body : Text) (closed : backquote ∉ body)
  /-- A backquote between quotes. -/
  | quotedBackquote

namespace StringLiteral

/-- The literal as it is written. -/
def toText : StringLiteral → Text
  | raw body _ => "`" ++ body ++ "`"
  | quotedBackquote => "\"`\""

/-- The text that the literal stands for: a raw one loses its carriage returns. -/
def value : StringLiteral → Text
  | raw body _ => body.filter (· ≠ 0x0D)
  | quotedBackquote => "`"

end StringLiteral

/-! ## Reading -/

theorem notMem_cut (c : CodePoint) (t : Text) : c ∉ (Text.cut c t).1 := by
  induction t with
  | nil => exact List.not_mem_nil
  | cons d r ih =>
    unfold Text.cut
    split
    · exact List.not_mem_nil
    · rename_i hd
      exact List.not_mem_cons_of_ne_of_not_mem (Ne.symm hd) ih

/-- The literal at the start of a text, and the rest. -/
def readLiteral? : Text → Option (StringLiteral × Text)
  | 0x60 :: r =>
    (Text.cut backquote r).2.map fun rest => (.raw _ (notMem_cut backquote r), rest)
  | 0x22 :: 0x60 :: 0x22 :: rest => some (.quotedBackquote, rest)
  | _ => none

/-- The text after the blanks at its start; a line break is none, since it may end an expression. -/
def skipBlanks (t : Text) : Text := t.dropWhile fun c => c.val = 0x20 || c.val = 0x09

theorem length_cut_lt {c : CodePoint} {t rest : Text} (h : (Text.cut c t).2 = some rest) :
    rest.length < t.length := by
  induction t with
  | nil => cases h
  | cons d r ih =>
    unfold Text.cut at h
    split at h
    · cases h
      simp
    · exact Nat.lt_succ_of_lt (ih h)

theorem length_readLiteral?_lt {t rest : Text} {l : StringLiteral}
    (h : readLiteral? t = some (l, rest)) : rest.length < t.length := by
  unfold readLiteral? at h
  split at h
  · obtain ⟨rest', hcut, hl⟩ := Option.map_eq_some_iff.mp h
    cases hl
    exact Nat.lt_succ_of_lt (length_cut_lt hcut)
  · cases h
    simp
    omega
  · cases h

theorem length_skipBlanks_le (t : Text) : (skipBlanks t).length ≤ t.length :=
  (List.dropWhile_sublist _).length_le

/-- The literals of the sum at the start of a text, and the rest. -/
def readSum? (t : Text) : Option (List StringLiteral × Text) :=
  match _h : readLiteral? t with
  | none => none
  | some (l, rest) =>
    match _h' : skipBlanks rest with
    | 0x2B :: r => (readSum? (skipBlanks r)).map fun (ls, rest) => (l :: ls, rest)
    | _ => some ([l], rest)
termination_by t.length
decreasing_by
  have hrest := length_readLiteral?_lt _h
  have hplus := length_skipBlanks_le rest
  have hr := length_skipBlanks_le r
  rw [_h', List.length_cons] at hplus
  omega

variable {t rest r : Text} {l : StringLiteral}

theorem readSum?_more (h : readLiteral? t = some (l, " + " ++ r)) (hr : skipBlanks r = r) :
    readSum? t = (readSum? r).map fun (ls, rest) => (l :: ls, rest) := by
  have hplus : skipBlanks (" + " ++ r) = 0x2B :: 0x20 :: r := rfl
  have hblank : skipBlanks (0x20 :: r) = r := hr
  rw [readSum?]
  split
  · rename_i hnone
    cases h.symm.trans hnone
  · rename_i l' rest' hsome
    cases h.symm.trans hsome
    split
    · rename_i r' hr'
      cases hplus.symm.trans hr'
      rw [hblank]
    · rename_i hother
      exact absurd hplus (hother _)

theorem readSum?_last (h : readLiteral? t = some (l, rest))
    (hrest : (skipBlanks rest).head? ≠ some 0x2B) : readSum? t = some ([l], rest) := by
  rw [readSum?]
  split
  · rename_i hnone
    cases h.symm.trans hnone
  · rename_i l' rest' hsome
    cases h.symm.trans hsome
    split
    · rename_i r hr
      exact absurd (congrArg List.head? hr) hrest
    · rfl

/-! ## What is written for a text -/

theorem cut_append {c : CodePoint} {body : Text} (h : c ∉ body) (rest : Text) :
    Text.cut c (body ++ c :: rest) = (body, some rest) := by
  induction body with
  | nil => simp [Text.cut]
  | cons d r ih =>
    obtain ⟨hd, hr⟩ := not_or.mp (mt List.mem_cons.mpr h)
    rw [List.cons_append, Text.cut, if_neg (Ne.symm hd), ih hr]

theorem readLiteral?_raw {body : Text} (h : backquote ∉ body) (rest : Text) :
    readLiteral? (0x60 :: (body ++ 0x60 :: rest)) = some (.raw body h, rest) := by
  have hcut := cut_append h rest
  unfold readLiteral?
  simp only [hcut, Option.map_some]

/-- After a body without backquotes a text goes on in the same literal, until a backquote closes it
and another raw literal is opened behind an interpreted one. -/
theorem readSum?_open (t : Text) {body : Text} (hbody : backquote ∉ body)
    (hrest : (skipBlanks rest).head? ≠ some 0x2B) :
    ∃ l ls, readSum? (0x60 :: (body ++ (t.flatMap rawOne ++ 0x60 :: rest))) =
        some (l :: ls, rest) ∧
      Text.joinWith " + " ((l :: ls).map StringLiteral.toText) =
        0x60 :: (body ++ (t.flatMap rawOne ++ [0x60])) ∧
      (l :: ls).flatMap StringLiteral.value = (body ++ t).filter (· ≠ 0x0D) := by
  induction t generalizing body with
  | nil =>
    refine ⟨.raw body hbody, [], readSum?_last (readLiteral?_raw hbody rest) hrest, ?_, ?_⟩
    · simp [Text.joinWith, StringLiteral.toText]
      rfl
    · simp [StringLiteral.value]
  | cons c t ih =>
    by_cases hc : c = backquote
    · -- A backquote ends the literal; it gets one of its own, and then another raw one starts.
      subst hc
      obtain ⟨l, ls, hread, hwritten, hvalue⟩ := ih (show backquote ∉ ([] : Text) by simp)
      have hmarks (r : Text) : (backquote :: t).flatMap rawOne ++ r =
          0x60 :: ((" + " : Text) ++ (0x22 :: 0x60 :: 0x22 :: ((" + " : Text) ++
            0x60 :: (t.flatMap rawOne ++ r)))) := rfl
      refine ⟨.raw body hbody, .quotedBackquote :: l :: ls, ?_, ?_, ?_⟩
      · rw [hmarks, readSum?_more (readLiteral?_raw hbody _) rfl,
          readSum?_more (l := .quotedBackquote) rfl rfl]
        rw [show readSum? (0x60 :: (t.flatMap rawOne ++ 0x60 :: rest)) = _ from hread]
        rfl
      · rw [hmarks, List.map_cons, List.map_cons, List.map_cons, Text.joinWith_cons_cons,
          Text.joinWith_cons_cons, ← List.map_cons, hwritten]
        simp [StringLiteral.toText]
        rfl
      · rw [List.flatMap_cons, List.flatMap_cons, hvalue, List.nil_append, List.filter_append]
        rfl
    · have hone : rawOne c = [c] := if_neg fun h => hc (Fin.ext h)
      obtain ⟨l, ls, hread, hwritten, hvalue⟩ := ih
        (List.not_mem_append hbody fun h : backquote ∈ [c] => hc (List.mem_singleton.mp h).symm)
      refine ⟨l, ls, ?_, ?_, ?_⟩
      · rw [List.flatMap_cons, hone]
        simpa using hread
      · rw [List.flatMap_cons, hone]
        simpa using hwritten
      · simpa using hvalue

/-- **What is written for a text stands for that text**, without its carriage returns. It is a sum
of literals; it is read as a whole, and whatever follows it is left unless that starts with a plus
sign. -/
theorem readSum?_rawLiteral (t : Text) (hrest : (skipBlanks rest).head? ≠ some 0x2B) :
    ∃ ls, readSum? (rawLiteral t ++ rest) = some (ls, rest) ∧
      Text.joinWith " + " (ls.map StringLiteral.toText) = rawLiteral t ∧
      ls.flatMap StringLiteral.value = t.filter (· ≠ 0x0D) := by
  have hwritten (r : Text) :
      rawLiteral t ++ r = 0x60 :: ([] ++ (t.flatMap rawOne ++ 0x60 :: r)) := by
    show ("`" ++ t.flatMap rawOne ++ "`") ++ r = _
    rw [List.append_assoc, List.append_assoc]
    rfl
  obtain ⟨l, ls, hread, hsum, hvalue⟩ := readSum?_open t List.not_mem_nil hrest
  refine ⟨l :: ls, ?_, ?_, hvalue⟩
  · rw [hwritten]
    exact hread
  · rw [← List.append_nil (rawLiteral t), hwritten]
    exact hsum

end ServiceWiring.Go
