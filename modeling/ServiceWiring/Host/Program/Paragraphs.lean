import ServiceWiring.Host.Program.Lines

/-!
# Paragraphs

A paragraph is broken anew into lines that are close to a length and end where a reader expects it.
Every way to break it has a cost, which is a sum over its lines; `Paragraph.breaks` finds the one
that costs least, from the last word to the first.

Lines of one paragraph have the same indent, and what starts a line that is to be left alone is a
lack of the mark that lines of text start with.
-/

namespace ServiceWiring

namespace Paragraph

/-- How paragraphs are found and laid out. -/
structure Layout where
  /-- The length that lines stay below. -/
  width : Nat
  /-- The length that lines should have. -/
  goal : Nat
  /-- The mark that lines of text start with, without blanks around it. -/
  mark : Octets := []
  /-- How many blanks come before the mark, at least. -/
  lead : Nat := 0
  /-- How long the mark is with the blanks that follow it. -/
  fullLength : Nat := 0
  /-- Whether the first two lines tell the indents of a paragraph. -/
  crown : Bool := false
  /-- Whether the first line of a paragraph has an indent of its own. -/
  tagged : Bool := false
  /-- Whether lines are broken but never joined. -/
  split : Bool := false
  /-- Whether one blank comes between words, and two between sentences. -/
  uniform : Bool := false
deriving DecidableEq, Repr

/-- A word of a paragraph. -/
structure Word where
  /-- The octets. -/
  text : Octets
  /-- How many blanks follow it. -/
  space : Nat
  /-- Whether it ends like a sentence. -/
  period : Bool
  /-- Whether it ends a sentence. -/
  final : Bool
deriving DecidableEq, Repr

namespace Word

/-- An octet of a text. -/
def octet (c : Char) : UInt8 := .ofNat c.toNat

/-- Whether it starts with a bracket or a quote. -/
def opens (w : Word) : Bool :=
  (w.text.head?).any fun b => ("(['`\"".toList.map octet).contains b

/-- Whether an octet is a mark of punctuation. -/
def isMark (b : UInt8) : Bool :=
  (0x21 ≤ b && b ≤ 0x2F) || (0x3A ≤ b && b ≤ 0x40) || (0x5B ≤ b && b ≤ 0x60) ||
    (0x7B ≤ b && b ≤ 0x7E)

/-- Whether it ends with a mark of punctuation. -/
def punctuated (w : Word) : Bool := (w.text.getLast?).any isMark

/-- Whether a text ends like a sentence, closing brackets and quotes aside. -/
def endsSentence (t : Octets) : Bool :=
  match t with
  | [] => false
  | first :: r =>
    let closing := ")]'\"".toList.map octet
    let last := (r.reverse.dropWhile closing.contains).headD first
    (".?!".toList.map octet).contains last

end Word

/-- A line that has been read up to its first word. -/
structure Lead where
  /-- How many blanks come before the mark. -/
  indent : Nat
  /-- The column that was reached. -/
  column : Nat
  /-- What is left of the text. -/
  rest : Octets
  /-- Whether a tab has been passed. -/
  tabs : Bool
deriving DecidableEq, Repr

namespace Layout

/-- Passes blanks from a column on. -/
def passBlanks (tabs : Bool) (column : Nat) : Octets → Bool × Nat × Octets
  | [] => (tabs, column, [])
  | b :: r =>
    if b = 0x20 then passBlanks tabs (column + 1) r
    else if b = 0x09 then passBlanks true ((column / 8 + 1) * 8) r
    else (tabs, column, b :: r)

/-- Reads the start of a line. -/
def lineLead (l : Layout) (tabs : Bool) (o : Octets) : Lead :=
  let (tabs, column, rest) := passBlanks tabs 0 o
  if l.mark.isEmpty then ⟨min l.lead column, column, rest, tabs⟩
  else
    let shared := ((l.mark.zip rest).takeWhile fun (a, b) => a = b).length
    if shared < l.mark.length then ⟨column, column + shared, rest.drop shared, tabs⟩
    else
      let (tabs, after, rest) := passBlanks tabs (column + shared) (rest.drop shared)
      ⟨column, after, rest, tabs⟩

/-- Whether a line starts as one of a paragraph does. -/
def isText (l : Layout) (s : Lead) : Bool :=
  !(s.rest.isEmpty || s.rest.head? = some 0x0A) && l.lead ≤ s.indent &&
    s.indent + l.fullLength ≤ s.column

/-- Whether a line may go on with a paragraph whose mark has an indent. -/
def goesOn (l : Layout) (indent : Nat) (s : Lead) : Bool :=
  s.indent = indent && s.indent + l.fullLength ≤ s.column &&
    !(s.rest.isEmpty || s.rest.head? = some 0x0A)

/-- Blanks from one column to another, as tabs where they fit. -/
def blanks (tabs : Bool) (column target : Nat) : Octets :=
  let stop := target / 8 * 8
  if tabs && column + 1 < stop then
    List.replicate ((stop - column / 8 * 8) / 8) 0x09 ++ List.replicate (target - stop) 0x20
  else List.replicate (target - column) 0x20

/-- The words of the line that starts at a place, and what follows the line. -/
def lineWords (l : Layout) (tabs : Bool) (column : Nat) (o : Octets) : List Word × Bool × Octets :=
  match o with
  | [] => ([], tabs, [])
  | b :: r =>
    let more := r.takeWhile (!Program.isSpace ·)
    let text := b :: more
    let start := column + text.length
    let (tabs, column, rest) := passBlanks tabs start (r.drop more.length)
    let ends := rest.isEmpty || rest.head? = some 0x0A
    let period := Word.endsSentence text
    let final := rest.isEmpty || period && (ends || 1 < column - start)
    let space := if ends || l.uniform then if final then 2 else 1 else column - start
    let word : Word := ⟨text, space, period, final⟩
    if ends then ([word], tabs, rest.drop 1)
    else if _h : rest.length ≤ r.length then
      let (words, tabs, rest) := lineWords l tabs column rest
      (word :: words, tabs, rest)
    else ([word], tabs, rest)
termination_by o.length

/-! ## Breaking -/

/-- The cost of a distance. -/
def shortCost (n : Int) : Int := (n * 10) * (n * 10)

/-- The cost of a difference between lines. -/
def raggedCost (n : Int) : Int := shortCost n / 2

/-- Where the line that starts with a word ends best. -/
structure Break where
  /-- The number of the first word of the next line. -/
  next : Nat
  /-- The length of the line. -/
  length : Int
  /-- The cost of this line and of all that follow. -/
  cost : Int
deriving DecidableEq, Repr, Inhabited

/-- The cost of a line that starts with a word, whatever its length. -/
def startCost (words : Array Word) (i : Nat) : Int :=
  let length := fun (j : Nat) => ((words[j]?.map fun w => w.text.length).getD 0 : Int)
  let flag := fun (f : Word → Bool) (j : Nat) => (words[j]?.map f).getD false
  let before : Int :=
    if i = 0 then 0
    else if flag (·.period) (i - 1) then
      if flag (·.final) (i - 1) then -(50 * 50) else 600 * 600
    else if flag Word.punctuated (i - 1) then -(40 * 40)
    else if 1 < i && flag (·.final) (i - 2) then 200 * 200 / (length (i - 1) + 2)
    else 0
  let here : Int :=
    if flag Word.opens i then -(40 * 40)
    else if flag (·.final) i then 150 * 150 / (length i + 2)
    else 0
  70 * 70 + before + here

/-- The best break for a line that starts with word `i`. `found` holds the breaks of the words after
it, `j` is the word before which the line may end, and `length` is that of the line so far. -/
def bestBreak (l : Layout) (words : Array Word) (lastLength? : Option Nat)
    (found : Nat → Break) (best? : Option Break) (j : Nat) (length : Nat) : Nat → Option Break
  | 0 => best?
  | fuel + 1 =>
    let isEnd := j = words.size
    let line : Int :=
      if isEnd then 0
      else
        let next := found j
        shortCost (l.goal - length) +
          if next.next = words.size then 0 else raggedCost (length - next.length)
    let first : Int := match lastLength? with
      | some n => raggedCost (length - n)
      | none => 0
    let cost := line + (if isEnd then 0 else (found j).cost) + first
    let best? := match best? with
      | some best => if cost < best.cost then some ⟨j, length, cost⟩ else some best
      | none => some ⟨j, length, cost⟩
    if isEnd then best?
    else
      let space := (words[j - 1]?.map (·.space)).getD 0
      let size := (words[j]?.map (·.text.length)).getD 0
      let length := length + space + size
      if length < l.width then bestBreak l words lastLength? found best? (j + 1) length fuel
      else best?

/-- The best break for each word. -/
def breaks (l : Layout) (firstIndent otherIndent lastLength : Nat) (words : Array Word) :
    Array Break :=
  (List.range words.size).foldl (fun (found : Array Break) k =>
    -- Breaks are found from the last word on; `found` holds that of the last word first.
    let i := words.size - 1 - k
    let size := (words[i]?.map (·.text.length)).getD 0
    let start := (if i = 0 then firstIndent else otherIndent) + size
    let lastLength? := if i = 0 && 0 < lastLength then some lastLength else none
    let best := (bestBreak l words lastLength?
      (fun j => found[words.size - 1 - j]?.getD default) none (i + 1) start
      (words.size + 1)).getD default
    found.push { best with cost := best.cost + startCost words i }) #[] |>.reverse

/-! ## Writing -/

/-- A line of words and the column that it reaches. -/
def writeLine (l : Layout) (tabs : Bool) (markIndent indent : Nat) (words : List Word) :
    Octets × Nat :=
  let start := blanks tabs 0 markIndent ++ l.mark
  let column := markIndent + l.mark.length
  let start := start ++ blanks tabs column indent
  let column := max column indent
  let rec go (column : Nat) : List Word → Octets × Nat
    | [] => ([], column)
    | [w] => (w.text, column + w.text.length)
    | w :: ws =>
      let column := column + w.text.length
      let (o, last) := go (column + w.space) ws
      (w.text ++ blanks tabs column (column + w.space) ++ o, last)
  let (o, column) := go column words
  (start ++ o ++ [0x0A], column)

/-- What is known while paragraphs are read. -/
structure State where
  /-- Whether a tab has been passed. -/
  tabs : Bool := false
  /-- The indent of the lines after the first one. -/
  otherIndent : Nat := 0
  /-- The length of the last line that was written of the paragraph, if it is one in parts. -/
  lastLength : Nat := 0
deriving DecidableEq, Repr

/-- The words from one number to another. -/
def part (words : Array Word) (i j : Nat) : List Word := (words.extract i j).toList

/-- The lines from a word on, up to one that starts with another. -/
def linesFrom (l : Layout) (s : State) (markIndent indent stop : Nat) (words : Array Word)
    (found : Array Break) (i : Nat) : Nat → Octets × Nat
  | 0 => ([], 0)
  | fuel + 1 =>
    let next := (found[i]?.map (·.next)).getD words.size
    let (o, length) := writeLine l s.tabs markIndent indent (part words i next)
    if next = stop || words.size ≤ next then (o, length)
    else
      let (more, length) := linesFrom l s markIndent s.otherIndent stop words found next fuel
      (o ++ more, length)

/-- How many octets and how many words are held at a time. -/
def maxHeld : Nat × Nat := (5000, 998)

/-- How many of the words are held at a time. -/
def heldCount (words : Array Word) : Nat :=
  let (count, _) := words.foldl (fun (state : Nat × Nat) w =>
    let (count, size) := state
    let size := size + w.text.length
    (if size ≤ maxHeld.1 then count + 1 else count, size)) (0, 0)
  min count maxHeld.2

/-- The first word of the line before which a part of a paragraph ends best. -/
def splitPoint (found : Array Break) (size : Nat) (i : Nat) (best? : Option (Nat × Int)) :
    Nat → Nat
  | 0 => size
  | fuel + 1 =>
    if size ≤ i then (best?.map (·.1)).getD size
    else
      let cost := fun (j : Nat) => (found[j]?.map (·.cost)).getD 0
      let next := (found[i]?.map (·.next)).getD size
      let gain := cost i - cost next
      let best? := match best? with
        | some (j, best) => if gain < best then some (i, gain) else some (j, best)
        | none => some (i, gain)
      splitPoint found size next (best?.map fun (j, best) => (j, best + 9)) fuel

/-- The indent of the lines after the first one of a paragraph whose first line has one; `next?` is
the column at which the second line starts, if there is one. -/
def otherIndent (l : Layout) (s : State) (firstIndent : Nat) (next? : Option Nat) : Nat :=
  if l.split then firstIndent
  else if l.crown then next?.getD firstIndent
  else if l.tagged then
    match next? with
    | some column => if column ≠ firstIndent then column else other
    | none => other
  else firstIndent
where
  /-- The indent if no line tells it. -/
  other : Nat :=
    if s.otherIndent = firstIndent then if firstIndent = 0 then 3 else 0 else s.otherIndent

/-- The lines of a paragraph, the words of which are held in parts. -/
def paragraphLines (l : Layout) (s : State) (markIndent firstIndent : Nat) (words : Array Word) :
    Nat → Octets × State
  | 0 => ([], s)
  | fuel + 1 =>
    let count := heldCount words
    let held := words.extract 0 count
    let found := breaks l firstIndent s.otherIndent s.lastLength held
    if count = words.size then
      let (o, length) := linesFrom l s markIndent firstIndent count held found 0 (count + 1)
      (o, { s with lastLength := length })
    else if count = 0 then
      -- A word that is too long is written as it comes.
      let cut := fun (w : Word) => { w with text := w.text.drop maxHeld.1 }
      let start := (words[0]?.map fun w => w.text.take maxHeld.1).getD []
      let (more, s) := paragraphLines l s markIndent firstIndent (words.modify 0 cut) fuel
      (start ++ more, s)
    else
      let first := (found[0]?.map (·.next)).getD count
      let stop := splitPoint found count first none (count + 1)
      let (o, length) := linesFrom l s markIndent firstIndent stop held found 0 (count + 1)
      let (more, s) := paragraphLines l { s with lastLength := length } markIndent firstIndent
        (words.extract stop words.size) fuel
      (o ++ more, s)

/-- The words of lines that go on with a paragraph, and the start of the line after them. -/
def moreWords (l : Layout) (markIndent : Nat) (column? : Option Nat) (start : Lead) :
    Nat → List Word × Lead
  | 0 => ([], start)
  | fuel + 1 =>
    if l.goesOn markIndent start && column?.all (· = start.column) then
      let (words, tabs, rest) := l.lineWords start.tabs start.column start.rest
      let (more, start) := moreWords l markIndent column? (l.lineLead tabs rest) fuel
      (words ++ more, start)
    else ([], start)

/-- The words with the last one as the end of a sentence. -/
def ended (words : List Word) : List Word :=
  match words.getLast? with
  | some w => words.dropLast ++ [{ w with period := true, final := true }]
  | none => []

/-- A line that is left alone. -/
def asIs (l : Layout) (s : Lead) (line : Octets) (isLast : Bool) : Octets :=
  let isEmpty := line.isEmpty
  if s.indent < s.column || !isEmpty then
    let shown := l.mark.take (s.column - s.indent)
    let column := s.indent + shown.length
    blanks s.tabs 0 s.indent ++ shown ++
      (if isEmpty then [] else blanks s.tabs column s.column) ++
      (if isEmpty && isLast && s.indent + l.mark.length ≤ s.column then [0x0A] else []) ++ line
  else line

/-- The paragraphs from the start of a line on. The fuel is more than the number of lines. -/
def paragraphs (l : Layout) (s : State) (start : Lead) : Nat → Octets
  | 0 => []
  | fuel + 1 =>
    if !l.isText start then
      let line := start.rest.takeWhile (· ≠ 0x0A)
      match start.rest.drop line.length with
      | [] => asIs l start line true
      | _ :: rest =>
        asIs l start line false ++ 0x0A :: paragraphs l s (l.lineLead start.tabs rest) fuel
    else
      let (first, tabs, rest) := l.lineWords start.tabs start.column start.rest
      let next := l.lineLead tabs rest
      let next? := if l.goesOn start.indent next then some next.column else none
      let other := otherIndent l s start.column next?
      let joins := !l.split && (!l.tagged || next.column ≠ start.column)
      let (more, after) :=
        if joins then moreWords l start.indent (some other) next rest.length.succ
        else ([], next)
      let s := { tabs := after.tabs, otherIndent := other, lastLength := 0 : State }
      let words := (ended (first ++ more)).toArray
      let (o, s) := paragraphLines l s start.indent start.column words
        (start.rest.length + 1)
      o ++ paragraphs l s after fuel

/-- A text with its paragraphs broken anew. -/
def apply (l : Layout) (o : Octets) : Octets :=
  paragraphs l {} (l.lineLead false o) (o.length + 2)

end Layout

end Paragraph

namespace Program

open ProcessM Paragraph

/-- The options of `fmt`. -/
def fmtFlags : List Flag :=
  [⟨'c', .nothing, "crown-margin"⟩, ⟨'p', .value, "prefix"⟩, ⟨'s', .nothing, "split-only"⟩,
    ⟨'t', .nothing, "tagged-paragraph"⟩, ⟨'u', .nothing, "uniform-spacing"⟩,
    ⟨'w', .value, "width"⟩, ⟨'g', .value, "goal"⟩]

/-- The layout that options ask for, or the value that is refused. -/
def layoutOf (a : Arguments) : Except Text Layout := do
  let number := fun (most : Nat) (t : Text) => do
    if t.isEmpty || !t.all CodePoint.isDigit || most < Text.natOfDigits t then throw t
    return Text.natOfDigits t
  let width? ← (a.value? 'w').mapM (number 2500)
  let goal? ← (a.value? 'g').mapM (number (width?.getD 75))
  let width := match width?, goal? with
    | some n, _ => n
    | none, some n => n + 10
    | none, none => 75
  let mark := Utf8.nameOctets ((a.value? 'p').getD [])
  let trimmed := mark.dropWhile (· = 0x20)
  let inner := (trimmed.reverse.dropWhile (· = 0x20)).reverse
  return {
    width, goal := goal?.getD (width * 187 / 200)
    mark := inner, lead := mark.length - trimmed.length, fullLength := trimmed.length
    crown := a.has 'c', tagged := a.has 't', split := a.has 's', uniform := a.has 'u' }

/-- Breaks paragraphs anew. -/
def fmt (name : Text) (args : List Text) : ProcessM Nat :=
  let args := match args with
    | (0x2D :: c :: r) :: more =>
      if c.isDigit then ("-w" ++ (c :: r)) :: more else args
    | args => args
  withArguments name fmtFlags args 1 fun a => do
    match layoutOf a with
    | .error t =>
      warn name ("invalid width: " ++ t.curly)
      return 1
    | .ok l =>
      (if a.operands.isEmpty then [("-" : Text)] else a.operands).foldlM
        (fun (status : Nat) (file : Text) => do
          match ← readPath file with
          | .ok o =>
            put (l.apply o)
            return status
          | .error r =>
            warn name ((if r = .isDirectory then ("read error" : Text) else
              "cannot open " ++ file.shellQuoted ++ " for reading") ++ ": " ++ r.reason)
            return 1) 0

end Program

end ServiceWiring
