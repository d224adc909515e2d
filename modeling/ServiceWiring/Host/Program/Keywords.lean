import ServiceWiring.Host.Program.Lines

/-!
# Words with what is around them

An index of a text has a line for each of its words, in the order of the words. The word and what
follows it stand in the right half of the line, what comes before it in the left half. What does not
fit there is shown at the other end of the half that has room for it, and a stroke marks each place
where something of the sentence is left out.

`Keyword.all` finds the words of a text and the sentence of each, `Layout.of` says which parts of
the sentence a line shows.
-/

namespace ServiceWiring

namespace Keyword

/-- A part of a text: where it starts and where it ends. -/
structure Part where
  /-- Where it starts. -/
  start : Nat
  /-- Where it ends. -/
  stop : Nat
deriving DecidableEq, Repr

/-- How long a part is. -/
def Part.length (p : Part) : Nat := p.stop - p.start

/-- Whether an octet is a letter. -/
def isLetter (b : UInt8) : Bool := 0x41 ≤ b && b ≤ 0x5A || 0x61 ≤ b && b ≤ 0x7A

/-- Whether an octet is a blank. -/
def isBlank (b : UInt8) : Bool := b = 0x20 || 0x09 ≤ b && b ≤ 0x0D

/-- Whether the octet at a position is of a kind. -/
def isAt (t : Array UInt8) (kind : UInt8 → Bool) (i : Nat) : Bool := (t[i]?.map kind).getD false

/-- The first position from one on, below a limit, where no octet of a kind is. -/
def skip (t : Array UInt8) (kind : UInt8 → Bool) (i limit : Nat) : Nat :=
  if i < limit && isAt t kind i then skip t kind (i + 1) limit else i
termination_by limit - i
decreasing_by simp_all; omega

/-- The last position up to one, above a limit, with no octet of a kind in front of it. -/
def skipBack (t : Array UInt8) (kind : UInt8 → Bool) (i limit : Nat) : Nat :=
  if limit < i && isAt t kind (i - 1) then skipBack t kind (i - 1) limit else i
termination_by i
decreasing_by simp_all; omega

/-- The position after a word or after one octet that belongs to none. -/
def skipOne (t : Array UInt8) (i limit : Nat) : Nat :=
  if isAt t isLetter i then skip t isLetter i (max limit (i + 1)) else i + 1

/-! ## Sentences -/

/-- Where the next sentence starts if a mark at a position closes one: the mark, with quotes and
brackets after it, comes before a line's end, a tab or two blanks. -/
def closing? (t : Array UInt8) (i : Nat) : Option Nat :=
  let closes := fun (b : UInt8) => b = 0x2E || b = 0x3F || b = 0x21
  let quotes := fun (b : UInt8) => b = 0x5D || b = 0x22 || b = 0x27 || b = 0x29 || b = 0x7D
  let gap := fun (b : UInt8) => b = 0x20 || b = 0x09 || b = 0x0A
  let j := skip t quotes (i + 1) t.size
  let ends := j = t.size || isAt t (fun b => b = 0x0A || b = 0x09) j ||
    isAt t (· = 0x20) j && isAt t (· = 0x20) (j + 1)
  if isAt t closes i && ends then some (skip t gap j t.size) else none

/-- Where the sentence that holds a position ends, with the blanks after it. -/
def sentenceEnd (t : Array UInt8) (i : Nat) : Nat :=
  if _h : i < t.size then (closing? t i).getD (sentenceEnd t (i + 1)) else t.size
termination_by t.size - i

/-- The sentences of a text from a position on, without the blanks after them. The fuel is more than
the length of the text. -/
def sentences (t : Array UInt8) (i : Nat) : Nat → List Part
  | 0 => []
  | fuel + 1 =>
    if i < t.size then
      let next := sentenceEnd t i
      ⟨i, skipBack t isBlank next i⟩ :: sentences t next fuel
    else []

/-- The words of a part of a text. The fuel is more than its length. -/
def words (t : Array UInt8) (p : Part) : Nat → List Part
  | 0 => []
  | fuel + 1 =>
    let start := skip t (!isLetter ·) p.start p.stop
    if start < p.stop then
      let stop := skip t isLetter start p.stop
      ⟨start, stop⟩ :: words t ⟨stop, p.stop⟩ fuel
    else []

end Keyword

open Keyword in
/-- A word of a text, and the sentence that it stands in. -/
structure Keyword where
  /-- The word. -/
  word : Part
  /-- The sentence. -/
  sentence : Part
deriving DecidableEq, Repr

namespace Keyword

/-- The words of a text in the order of the text. -/
def all (t : Array UInt8) : List Keyword :=
  (sentences t 0 (t.size + 1)).flatMap fun s =>
    (words t s (s.length + 1)).map fun w => ⟨w, s⟩

/-- The octets of a part. -/
def Part.octets (t : Array UInt8) (p : Part) : Octets := (t.extract p.start p.stop).toList

/-- The words of a text in the order of an index. -/
def sorted (t : Array UInt8) : List Keyword :=
  (all t).mergeSort fun a b => decide (a.word.octets t ≤ b.word.octets t)

/-! ## Lines -/

/-- A part of a line, and whether the mark is to stand at its outer end. -/
structure Piece where
  /-- The part of the text. -/
  part : Part
  /-- Whether something is left out there. -/
  isCut : Bool := false

/-- The width that a piece takes up. -/
def Piece.width (p : Piece) : Nat := p.part.length + p.isCut.toNat

/-- The octets of a piece; blanks of all kinds are shown as blanks. -/
def Piece.octets (t : Array UInt8) (p : Piece) : Octets :=
  (p.part.octets t).map fun b => if isBlank b then 0x20 else b

/-- Half the width of a line. -/
def half : Nat := 36

/-- The width between the pieces of a line. -/
def gap : Nat := 3

/-- The greatest width of what comes before the word, apart from two marks. -/
def beforeWidth : Nat := half - gap - 2

/-- The greatest width of the word and what follows it, apart from two marks. -/
def afterWidth : Nat := half - 2

/-- Goes on word by word from a position as long as a condition holds; gives the last position of
which it held and the first one of which it does not. The fuel is more than the length of the
text. -/
def advance (t : Array UInt8) (holds : Nat → Bool) (limit last i : Nat) : Nat → Nat × Nat
  | 0 => (last, i)
  | fuel + 1 => if holds i then advance t holds limit i (skipOne t i limit) fuel else (last, i)

/-- What a line shows. -/
structure Layout where
  /-- The word and what follows it. -/
  after : Piece
  /-- What comes before the word. -/
  before : Piece
  /-- More of what follows, at the start of the line. -/
  tail? : Option Piece
  /-- More of what comes before, at the end of the line. -/
  head? : Option Piece

/-- What the line of a word shows; `longest` is the length of the longest word. -/
def Layout.of (t : Array UInt8) (longest : Nat) (k : Keyword) : Layout :=
  let fuel := t.size + 1
  let start := k.word.start
  -- The word and what follows it, as far as it fits.
  let fits := fun (i : Nat) => i ≤ start + afterWidth
  let (last, i) := advance t (fun i => i < k.sentence.stop && fits i) k.sentence.stop k.word.stop
    k.word.stop fuel
  let stop := if fits i then i else last
  let afterCut := stop < k.sentence.stop
  let after : Part := ⟨start, skipBack t isBlank stop start⟩
  -- What comes before it, as far as it fits.
  let reach := half + longest
  let first := if start - k.sentence.start > reach then skipOne t (start - reach) start
    else k.sentence.start
  let beforeStop := skipBack t isBlank start first
  let (_, beforeStart) := advance t (fun i => i + beforeWidth < beforeStop) beforeStop first first
    fuel
  let beforeCut := k.sentence.start < skipBack t isBlank beforeStart 0
  let before : Part := ⟨skip t isBlank beforeStart t.size, beforeStop⟩
  -- More of what follows, if there is room on the left.
  let tailWidth := beforeWidth - before.length - gap
  let tailStart := skip t isBlank after.stop t.size
  let fitsTail := fun (i : Nat) => i < tailStart + tailWidth
  let (last, i) := advance t (fun i => i < k.sentence.stop && fitsTail i) k.sentence.stop tailStart
    tailStart fuel
  let tailStop := if fitsTail i then i else last
  let hasTail := 0 < tailWidth && tailStart < tailStop
  let tail : Piece :=
    ⟨⟨tailStart, skipBack t isBlank tailStop tailStart⟩, tailStop < k.sentence.stop⟩
  -- More of what comes before, if there is room on the right.
  let headWidth := afterWidth - after.length - gap
  let headStop := skipBack t isBlank before.start 0
  let (_, headStart) := advance t (fun i => i + headWidth < headStop) headStop first first fuel
  let hasHead := 0 < headWidth && headStart < headStop
  let head : Piece := ⟨⟨skip t isBlank headStart headStop, headStop⟩, k.sentence.start < headStart⟩
  { after := ⟨after, afterCut && !hasTail⟩
    before := ⟨before, beforeCut && !hasHead⟩
    tail? := if hasTail then some tail else none
    head? := if hasHead then some head else none }

/-- A stroke, where something is left out. -/
def mark (isCut : Bool) : Octets := if isCut then [0x2F] else []

/-- Blanks. -/
def blanks (n : Nat) : Octets := List.replicate n 0x20

/-- The line that a layout stands for. -/
def Layout.line (t : Array UInt8) (l : Layout) : Octets :=
  let left := half - gap - l.before.width
  let start := match l.tail? with
    | some p => p.octets t ++ mark p.isCut ++ blanks (left - p.width)
    | none => blanks left
  let stop := match l.head? with
    | some p => blanks (half - l.after.width - p.width) ++ mark p.isCut ++ p.octets t
    | none => []
  blanks gap ++ start ++ mark l.before.isCut ++ l.before.octets t ++ blanks gap ++
    l.after.octets t ++ mark l.after.isCut ++ stop ++ [0x0A]

/-- The index of a text. -/
def index (o : Octets) : Octets :=
  let t := o.toArray
  let longest := ((all t).map fun k => k.word.length).foldl max 0
  (sorted t).flatMap fun k => (Layout.of t longest k).line t

end Keyword

namespace Program

open ProcessM

/-- The pattern of what stands between sentences, as it is shown. -/
def shownGap : Text := "[.?!][]\"')\x7d]*\\\\($\\\\|\\t\\\\|  \\\\)[ \\t\\n]*"

/-- Writes an index of files. There is none if a sentence is nothing but its end. -/
def ptx (name : Text) (args : List Text) : ProcessM Nat :=
  withArguments name [] args 1 fun a => do
    let (o, status) ← readFiles name a.operands
    let t := o.toArray
    if (Keyword.sentences t 0 (t.size + 1)).any fun s => (Keyword.closing? t s.start).isSome then
      warn name ("error: regular expression has a match of length zero: " ++ shownGap.curly)
      return 1
    put (Keyword.index o)
    return status

end Program

end ServiceWiring
