import ServiceWiring.Host.Pattern.Basic
import ServiceWiring.Text.Number

/-!
# Reading regular expressions

Regular expressions come in a basic and an extended form, which differ in what needs a backslash to
be an operator and what needs one to be none. A reading goes in two steps: `tokens` finds the
operators, and `build` puts groups and alternatives together on a stack.
-/

namespace ServiceWiring.Regex

/-- Why a regular expression cannot be read. -/
inductive Flaw where
  /-- It ends with a backslash. -/
  | trailingBackslash
  /-- A group is not closed. -/
  | openGroup
  /-- A group is closed that was not opened. -/
  | closedGroup
  /-- A set is not closed. -/
  | openSet
  /-- A class of characters does not exist. -/
  | unknownClass
  /-- The ends of a range are in the wrong order. -/
  | badRange
  /-- A number of repetitions is not closed. -/
  | openCount
  /-- A number of repetitions is none. -/
  | badCount
  /-- There is nothing to repeat. -/
  | nothingToRepeat
  /-- A group that is referred to does not exist. -/
  | noGroup
deriving DecidableEq, Repr

/-- The wording of a flaw. -/
def Flaw.message : Flaw → Text
  | .trailingBackslash => "Trailing backslash"
  | .openGroup => "Unmatched ( or \\("
  | .closedGroup => "Unmatched ) or \\)"
  | .openSet => "Unmatched [, [^, [:, [., or [="
  | .unknownClass => "Invalid character class name"
  | .badRange => "Invalid range end"
  | .openCount => "Unmatched \x7b or \\\x7b"
  | .badCount => "Invalid content of \\\x7b\\\x7d"
  | .nothingToRepeat => "Invalid preceding regular expression"
  | .noGroup => "Invalid back reference"

/-- How regular expressions are read. -/
structure Form where
  /-- Whether operators need no backslash. -/
  extended : Bool
  /-- Whether every line of a text has a start and an end of its own. -/
  lines : Bool := false
  /-- Whether classes hold characters of ASCII only. -/
  narrow : Bool := false
deriving DecidableEq, Repr

/-- A part of a regular expression. -/
inductive Token where
  /-- A pattern that can be repeated. -/
  | item (p : Pattern)
  /-- Repeats the item before; `counted` tells whether the numbers are spelled out. -/
  | repetition (least : Nat) (most? : Option Nat) (counted : Bool)
  /-- Opens a group. -/
  | opening
  /-- Closes a group. -/
  | closing
  /-- Divides alternatives. -/
  | alternative
deriving Repr

/-- The text up to a mark that is followed by a closing bracket, and what follows both. -/
def cutMarked (mark : CodePoint) : Text → Option (Text × Text)
  | c :: 0x5D :: r =>
    if c = mark then some ([], r) else (cutMarked mark (0x5D :: r)).map fun (t, r) => (c :: t, r)
  | c :: r => (cutMarked mark r).map fun (t, r) => (c :: t, r)
  | [] => none

/-- One element of a set, and what follows it: a class, or a code point that may start a range. -/
def element (t : Text) : Except Flaw ((CharClass ⊕ CodePoint) × Text) :=
  match t with
  | [] => .error .openSet
  | 0x5B :: 0x3A :: r =>
    match cutMarked ':' r with
    | none => .error .openSet
    | some (name, r) =>
      match CharClass.names.lookup name with
      | some k => .ok (.inl k, r)
      | none => .error .unknownClass
  | 0x5B :: mark :: r =>
    if mark = 0x2E || mark = 0x3D then
      match cutMarked mark r with
      | some ([c], r) => .ok (.inr c, r)
      | _ => .error .openSet
    else .ok (.inr 0x5B, mark :: r)
  | c :: r => .ok (.inr c, r)

/-- The set from a place in it, and what follows the set. -/
def elements (first : Bool) (t : Text) : Except Flaw (CharSet × Text) := do
  if !first && t.head? = some 0x5D then return ({}, t.drop 1)
  let (e, r) ← element t
  let (s, r) : CharSet × Text ← match e, r with
    | .inl k, r => pure (({ classes := [k] } : CharSet), r)
    | .inr a, 0x2D :: 0x5D :: r => pure (CharSet.single a, 0x2D :: 0x5D :: r)
    | .inr a, 0x2D :: r => do
      match ← element r with
      | (.inr b, r) => if a ≤ b then pure (CharSet.range a b, r) else throw .badRange
      | _ => throw .badRange
    | .inr a, r => pure (CharSet.single a, r)
  if _h : r.length < t.length then
    let (more, r) ← elements false r
    return (s.union more, r)
  else throw .openSet
termination_by t.length

/-- The set after an opening bracket, and what follows it. -/
def charSet (form : Form) (t : Text) : Except Flaw (CharSet × Text) := do
  let (negated, r) := match t with
    | 0x5E :: r => (true, r)
    | r => (false, r)
  let (s, r) ← elements true r
  return ({ (if form.narrow then s.narrow else s) with negated }, r)

/-- The numbers of repetitions after an opening brace, and what follows the closing one. -/
def counts (form : Form) (t : Text) : Except Flaw (Nat × Option Nat × Text) := do
  let number := fun (t : Text) => (t.takeWhile CodePoint.isDigit, t.dropWhile CodePoint.isDigit)
  let (least, r) := number t
  let (most?, r) ← match r with
    | 0x2C :: r =>
      let (most, r) := number r
      pure (if most.isEmpty then none else some (Text.natOfDigits most), r)
    | r => if least.isEmpty then throw .badCount else pure (some (Text.natOfDigits least), r)
  if most?.any (· < Text.natOfDigits least) then throw .badCount
  match form.extended, r with
  | true, 0x7D :: r => return (Text.natOfDigits least, most?, r)
  | false, 0x5C :: 0x7D :: r => return (Text.natOfDigits least, most?, r)
  | _, [] => throw .openCount
  | _, _ => throw .badCount

/-- The part that a character stands for after a backslash, if it is no operator of one form only.
-/
def escaped (form : Form) (c : CodePoint) : Token :=
  let word := if form.narrow then CharSet.word.narrow else .word
  .item <| match c with
    | 0x77 => .one word
    | 0x57 => .one word.complement
    | 0x73 => .one .space
    | 0x53 => .one CharSet.space.complement
    | 0x62 => .edge .wordEdge
    | 0x42 => .edge .noWordEdge
    | 0x3C => .edge .wordStart
    | 0x3E => .edge .wordEnd
    | 0x60 => .edge .textStart
    | 0x27 => .edge .textEnd
    | c => if 0x31 ≤ c && c ≤ 0x39 then .kept (c.val - 0x30) else .one (.single c)

/-- The operator that a character stands for, if it is one of those that take a backslash in one
form and none in the other. -/
def operator? (form : Form) (c : CodePoint) (r : Text) : Except Flaw (Option (Token × Text)) := do
  match c with
  | 0x28 => return some (.opening, r)
  | 0x29 => return some (.closing, r)
  | 0x7C => return some (.alternative, r)
  | 0x2B => return some (.repetition 1 none false, r)
  | 0x3F => return some (.repetition 0 (some 1) false, r)
  | 0x7B =>
    let (least, most?, r) ← counts form r
    return some (.repetition least most? true, r)
  | _ => return none

/-- Whether an alternative of a basic expression ends here. -/
def endsHere : Text → Bool
  | [] | 0x5C :: 0x29 :: _ | 0x5C :: 0x7C :: _ => true
  | _ => false

/-- The part at the start of an expression that is not empty, and what follows it; `first` tells
whether nothing to repeat comes before it. -/
def token (form : Form) (first : Bool) (c : CodePoint) (r : Text) :
    Except Flaw (Token × Text) := do
  let literal := (Token.item (.one (.single c)), r)
  let start : Edge := if form.lines then .lineStart else .textStart
  let stop : Edge := if form.lines then .lineEnd else .textEnd
  match c with
  | 0x5C =>
    match r with
    | [] => throw .trailingBackslash
    | c :: r =>
      if form.extended then return (escaped form c, r)
      else
        match ← operator? form c r with
        | some (token, r) => return (token, r)
        | none => return (escaped form c, r)
  | 0x5B =>
    let (s, r) ← charSet form r
    return (.item (.one s), r)
  | 0x2E => return (.item (.one .characters), r)
  | 0x2A => return if first && !form.extended then literal else (.repetition 0 none false, r)
  | 0x5E => return if first || form.extended then (.item (.edge start), r) else literal
  | 0x24 => return if endsHere r || form.extended then (.item (.edge stop), r) else literal
  | c => if form.extended then return (← operator? form c r).getD literal else return literal

/-- Whether what follows a part has nothing to repeat before it. -/
def Token.startsOver : Token → Bool
  | .opening | .alternative => true
  | .item (.edge .textStart) | .item (.edge .lineStart) => true
  | _ => false

/-- The parts of an expression. -/
def tokens (form : Form) (first : Bool) (t : Text) : Except Flaw (List Token) := do
  match t with
  | [] => return []
  | c :: r =>
    let (token, rest) ← token form first c r
    if _h : rest.length ≤ r.length then
      return token :: (← tokens form token.startsOver rest)
    else return [token]
termination_by t.length
decreasing_by simp; omega

/-- A group that is being put together. -/
structure Frame where
  /-- The number of the group. -/
  number : Nat := 0
  /-- The alternatives that are complete. -/
  finished? : Option Pattern := none
  /-- The items of the last alternative, from the last to the first. -/
  items : List Pattern := []
deriving Repr

/-- The pattern of a group. -/
def Frame.pattern (f : Frame) : Pattern :=
  let last := match f.items with
    | [] => .empty
    | p :: ps => ps.foldl (fun q p => .both p q) p
  match f.finished? with
  | some p => .either p last
  | none => last

/-- The group with one more item. -/
def Frame.push (f : Frame) (p : Pattern) : Frame := { f with items := p :: f.items }

/-- The pattern of the parts; `frames` are the groups that are open, the innermost first, and
`count` is how many have been opened. -/
def build (form : Form) (count : Nat) (frames : List Frame) :
    List Token → Except Flaw Pattern
  | [] =>
    match frames with
    | [f] => .ok f.pattern
    | _ => .error .openGroup
  | token :: r =>
    match frames with
    | [] => .error .closedGroup
    | f :: fs =>
      match token with
      | .item (.kept n) =>
        if count < n then .error .noGroup else build form count (f.push (.kept n) :: fs) r
      | .item p => build form count (f.push p :: fs) r
      | .opening => build form (count + 1) ({ number := count + 1 } :: f :: fs) r
      | .closing =>
        match fs with
        | [] => .error .closedGroup
        | g :: gs => build form count (g.push (.group f.number f.pattern) :: gs) r
      | .alternative => build form count ({ f with finished? := f.pattern, items := [] } :: fs) r
      | .repetition least most? counted =>
        match f.items with
        | p :: ps => build form count ({ f with items := .times p least most? :: ps } :: fs) r
        | [] => if counted then .error .nothingToRepeat else build form count (f :: fs) r

/-- The pattern of a regular expression. -/
def read (form : Form) (t : Text) : Except Flaw Pattern := do
  build form 0 [{}] (← tokens form true t)

end ServiceWiring.Regex
