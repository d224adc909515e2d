import ServiceWiring.Host.Program.Options
import ServiceWiring.Host.Program.Printing
import ServiceWiring.Path.Basic

/-!
# Conditions

`test` tells whether a condition about texts, numbers and files holds. It comes in two builds: the
one that is part of the shell reads words greedily and forgives what is missing; the program of its
own tells most conditions by the number of their words.
-/

namespace ServiceWiring.Condition

open Printing (Build)

/-- Why a condition cannot be told. -/
inductive Flaw where
  /-- A number is none. -/
  | notNumber (t : Text)
  /-- The closing bracket is missing. -/
  | noBracket
  /-- A word stands where none may. -/
  | unexpected (t : Text)
  /-- An operand is missing, after an operator or at the end. -/
  | missing (after : Text)
  /-- A word is no operator for one operand. -/
  | notUnary (t : Text)
  /-- A word is no operator for two operands. -/
  | notBinary (t : Text)
  /-- A closing parenthesis is missing, and something else may stand in its place. -/
  | noParenthesis (found? : Option Text)
deriving DecidableEq, Repr

/-- The wording of a flaw. -/
def Flaw.message (build : Build) (f : Flaw) : Text :=
  match build, f with
  | .shell, .notNumber t => "Illegal number: " ++ t
  | .shell, .noBracket => "missing ]"
  | .shell, .unexpected t =>
    if t.isEmpty then "unexpected operator" else t ++ ": unexpected operator"
  | .shell, .missing t => t ++ ": argument expected"
  | .shell, .noParenthesis _ => "closing paren expected"
  | .program, .notNumber t => "invalid integer " ++ t.curly
  | .program, .noBracket => "missing " ++ Text.curly "]"
  | .program, .unexpected t => "extra argument " ++ t.curly
  | .program, .missing t => "missing argument after " ++ t.curly
  | .program, .noParenthesis none => Text.curly ")" ++ " expected"
  | .program, .noParenthesis (some t) => Text.curly ")" ++ " expected, found " ++ t.curly
  | _, .notUnary t => t.curly ++ ": unary operator expected"
  | _, .notBinary t => t.curly ++ ": binary operator expected"

/-- The integer that a text is, with blanks around it. -/
def integer? (t : Text) : Option Int :=
  let isBlank := fun (c : CodePoint) => c = 0x20 || 0x09 ≤ c && c ≤ 0x0D
  let t := ((t.dropWhile isBlank).reverse.dropWhile isBlank).reverse
  let (negative, ds) := match t with
    | 0x2D :: r => (true, r)
    | 0x2B :: r => (false, r)
    | t => (false, t)
  if ds.isEmpty || !ds.all CodePoint.isDigit then none
  else some (if negative then -(Text.natOfDigits ds : Int) else Text.natOfDigits ds)

/-- Whether what is at a path is as a letter asks. -/
def fileIs (w : World) (letter : CodePoint) (path : Text) : Bool :=
  let node? := (w.machine.find .look path).toOption.map (·.2)
  let channel? := match node? with
    | some (.stream n) => (w.streams.lookup n).bind fun i => w.channels[i]?
    | _ => none
  let found := match channel? with
    | some (.file place ..) => w.machine.disk.node? place
    | some .directory => some .directory
    | some .nothing => some .device
    | _ => node?
  match Char.ofNat letter.val with
  | 'e' | 'a' | 'r' | 'w' | 'O' | 'G' => found.isSome
  | 'f' => found.any fun n => (n matches .file ..)
  | 'd' => found.any fun n => (n matches .directory)
  | 'x' => found.any fun n => (n matches .file _ true | .directory)
  | 's' => found.any fun n => (n matches .file (_ :: _) _ | .directory)
  | 'c' => found.any fun n => (n matches .device)
  | 'p' => channel?.any fun c => (c matches .source _ | .sink _)
  | 'L' | 'h' =>
    ((w.machine.find .lookAtName path).toOption.map (·.2)).any fun n => (n matches .link _)
  | _ => false

/-- The letter of an operator for one operand. -/
def unaryLetter? (build : Build) (t : Text) : Option CodePoint :=
  let letters : Text := if build = .shell then "rwxefdcbpugkstznhLOGS" else "erwxNOGfdsScbpLhugktnz"
  match t with
  | [0x2D, c] => if letters.contains c then some c else none
  | _ => none

/-- Whether a condition with one operand holds. -/
def unary (w : World) (letter : CodePoint) (t : Text) : Except Flaw Bool :=
  match letter with
  | 0x7A => .ok t.isEmpty
  | 0x6E => .ok (!t.isEmpty)
  | 0x74 => if (integer? t).isSome then .ok false else .error (.notNumber t)
  | c => .ok (fileIs w c t)

/-- The operators for two operands that both builds know. -/
def binaryOperators : List Text :=
  ["=", "!=", "-eq", "-ne", "-gt", "-ge", "-lt", "-le", "-nt", "-ot", "-ef"]

/-- Whether a word is an operator for two operands. -/
def isBinary (build : Build) (t : Text) : Bool :=
  binaryOperators.contains t || build = .program && t = "==" ||
    build = .shell && (t = "<" || t = ">")

/-- Whether a condition with two operands holds. -/
def binary (w : World) (a operator b : Text) : Except Flaw Bool := do
  if operator = "=" || operator = "==" then return a == b
  else if operator = "!=" then return a != b
  else if operator = "<" then return decide (a < b)
  else if operator = ">" then return decide (b < a)
  else if operator = "-nt" then return fileIs w 0x65 a && !fileIs w 0x65 b
  else if operator = "-ot" then return fileIs w 0x65 b && !fileIs w 0x65 a
  else if operator = "-ef" then
    match w.machine.locate .look a, w.machine.locate .look b with
    | .ok p, .ok q => return fileIs w 0x65 a && decide (w.machine.disk.SameFile p q)
    | _, _ => return false
  else
    let number := fun (t : Text) => match integer? t with
      | some n => Except.ok n
      | none => Except.error (Flaw.notNumber t)
    let (n, m) := (← number a, ← number b)
    if operator = "-eq" then return n == m
    else if operator = "-ne" then return n != m
    else if operator = "-gt" then return n > m
    else if operator = "-ge" then return n ≥ m
    else if operator = "-lt" then return n < m
    else return n ≤ m

/-! ## The build of the shell -/

/-- What a word is in a condition. -/
inductive Role where
  /-- There is none. -/
  | stop
  /-- An operand. -/
  | operand
  /-- An operator for one operand. -/
  | unary (letter : CodePoint)
  /-- An operator for two operands. -/
  | binary
  /-- Asks for both of two conditions. -/
  | both
  /-- Asks for one of two conditions. -/
  | either
  /-- Negates a condition. -/
  | negation
  /-- Opens a condition of its own. -/
  | opening
  /-- Closes a condition of its own. -/
  | closing
deriving DecidableEq, Repr

/-- What the first of some words is. -/
def role : List Text → Role
  | [] => .stop
  | t :: r =>
    match unaryLetter? .shell t with
    | some letter =>
      -- What could only be an operand is one.
      match r with
      | [] => .operand
      | [_] => .unary letter
      | operator :: _ :: _ => if isBinary .shell operator then .operand else .unary letter
    | none =>
      if isBinary .shell t then .binary
      else if t = "-a" then .both
      else if t = "-o" then .either
      else if t = "!" then .negation
      else if t = "(" then if r.isEmpty then .operand else .opening
      else if t = ")" then .closing
      else .operand

mutual

/-- Whether one of several conditions holds, and the words from the last one that was used. -/
def alternatives (w : World) (known : Bool) (r : Role) (words : List Text) :
    Nat → Except Flaw (Bool × List Text)
  | 0 => .ok (known, words)
  | fuel + 1 => do
    let (value, words) ← conjunction w true r words fuel
    let known := known || value
    if role (words.drop 1) = .either then
      alternatives w known (role (words.drop 2)) (words.drop 2) fuel
    else return (known, words)

/-- Whether several conditions hold, and the words from the last one that was used. -/
def conjunction (w : World) (known : Bool) (r : Role) (words : List Text) :
    Nat → Except Flaw (Bool × List Text)
  | 0 => .ok (known, words)
  | fuel + 1 => do
    let (value, words) ← simple w r words fuel
    let known := known && value
    if role (words.drop 1) = .both then
      conjunction w known (role (words.drop 2)) (words.drop 2) fuel
    else return (known, words)

/-- Whether a single condition holds, and the words from the last one that was used. -/
def simple (w : World) (r : Role) (words : List Text) : Nat → Except Flaw (Bool × List Text)
  | 0 => .ok (false, words)
  | fuel + 1 => do
    match r with
    | .stop => return (false, words)
    | .negation =>
      let next := role (words.drop 1)
      let (value, words) ←
        simple w next (if next = .stop then words else words.drop 1) fuel
      return (!value, words)
    | .opening =>
      let words := words.drop 1
      if role words = .closing then return (false, words)
      let (value, words) ← alternatives w false (role words) words fuel
      if role (words.drop 1) ≠ .closing then throw (.noParenthesis none)
      return (value, words.drop 1)
    | .unary letter =>
      match words.drop 1 with
      | [] => throw (.missing (words.headD []))
      | t :: rest => return (← unary w letter t, t :: rest)
    | _ =>
      match words with
      | a :: operator :: rest =>
        if isBinary .shell operator then
          match rest with
          | [] => throw (.missing operator)
          | b :: rest => return (← binary w a operator b, b :: rest)
        else return (!a.isEmpty, words)
      | a :: _ => return (!a.isEmpty, words)
      | [] => return (false, [])

end

/-- Whether words hold that may be between parentheses, or none. -/
def ofShellWords (w : World) (r : Role) (words : List Text) : Except Flaw Bool := do
  let (value, rest) ← alternatives w false r words (4 * words.length + 8)
  match rest with
  | t :: _ :: _ => throw (.unexpected t)
  | _ => return value

/-- The value of the condition that words spell in the shell. A few words have one meaning only. -/
def ofShell (w : World) (negated : Bool) (words : List Text) : Except Flaw Bool := do
  let whole := fun (r : Role) (words : List Text) => do
    return (← ofShellWords w r words) != negated
  match words with
  | [] => return negated
  | [a, operator, b] =>
    if isBinary .shell operator then whole .operand words
    else if a = "(" && b = ")" then whole (role [operator]) [operator]
    else if a = "!" then ofShell w true [operator, b]
    else whole (role words) words
  | [a, b, c, d] =>
    if a = "(" && d = ")" then whole (role [b, c]) [b, c]
    else if a = "!" then ofShell w true [b, c, d]
    else whole (role words) words
  | words => whole (role words) words
termination_by words.length

/-! ## The build as a program -/

/-- Reading the words of a condition. -/
abbrev ReadM := StateT (List Text) (Except Flaw)

/-- Takes a word; `last` is the last one of all. -/
def take (last : Text) : ReadM Text := do
  match ← get with
  | [] => throw (.missing last)
  | t :: r =>
    set r
    return t

/-- Reads an operator and its operand. -/
def readUnary (w : World) (last : Text) : ReadM Bool := do
  let operator ← take last
  match unaryLetter? .program operator with
  | some letter =>
    match unary w letter (← take last) with
    | .ok value => return value
    | .error f => throw f
  | none => throw (.notUnary operator)

/-- Reads two operands and the operator between them. -/
def readBinary (w : World) (last : Text) : ReadM Bool := do
  let a ← take last
  let operator ← take last
  let b ← take last
  match binary w a operator b with
  | .ok value => return value
  | .error f => throw f

/-- Whether a word looks like an operator for one operand. -/
def looksUnary (t : Text) : Bool := t.length = 2 && t.head? = some 0x2D

mutual

/-- Reads so many words that are one condition. -/
def readCounted (w : World) (last : Text) (count : Nat) : Nat → ReadM Bool
  | 0 => throw (.missing last)
  | fuel + 1 => do
    match count, ← get with
    | 1, _ => return !(← take last).isEmpty
    | 2, a :: _ =>
      if a = "!" then
        discard (take last)
        return (← take last).isEmpty
      else if looksUnary a then readUnary w last
      else throw (.missing last)
    | 3, a :: operator :: b :: _ =>
      if isBinary .program operator then readBinary w last
      else if a = "!" then
        discard (take last)
        return !(← readCounted w last 2 fuel)
      else if a = "(" && b = ")" then
        discard (take last)
        let value := !(← take last).isEmpty
        discard (take last)
        return value
      else if operator = "-a" || operator = "-o" then readAlternatives w last fuel
      else throw (.notBinary operator)
    | 4, a :: _ :: _ :: d :: _ =>
      if a = "!" then
        discard (take last)
        return !(← readCounted w last 3 fuel)
      else if a = "(" && d = ")" then
        discard (take last)
        let value ← readCounted w last 2 fuel
        discard (take last)
        return value
      else readAlternatives w last fuel
    | _, _ => readAlternatives w last fuel

/-- Reads conditions of which one has to hold. -/
def readAlternatives (w : World) (last : Text) : Nat → ReadM Bool
  | 0 => throw (.missing last)
  | fuel + 1 => do
    let value ← readConjunction w last fuel
    if (← get).head? = some ("-o" : Text) then
      discard (take last)
      let other ← readAlternatives w last fuel
      return value || other
    else return value

/-- Reads conditions that all have to hold. -/
def readConjunction (w : World) (last : Text) : Nat → ReadM Bool
  | 0 => throw (.missing last)
  | fuel + 1 => do
    let value ← readSingle w last fuel
    if (← get).head? = some ("-a" : Text) then
      discard (take last)
      let other ← readConjunction w last fuel
      return value && other
    else return value

/-- Reads a single condition. -/
def readSingle (w : World) (last : Text) : Nat → ReadM Bool
  | 0 => throw (.missing last)
  | fuel + 1 => do
    match ← get with
    | [] => throw (.missing last)
    | a :: rest =>
      if a = "!" then
        discard (take last)
        return !(← readSingle w last fuel)
      else if a = "(" then
        discard (take last)
        let count := 1 + (rest.drop 1).findIdx (· == (")" : Text))
        let value ← readCounted w last (if 4 < count then rest.length else count) fuel
        match ← get with
        | [] => throw (.noParenthesis none)
        | t :: _ =>
          if t ≠ ")" then throw (.noParenthesis (some t))
          discard (take last)
          return value
      else if (rest.head?.any fun operator => isBinary .program operator) && 2 ≤ rest.length then
        readBinary w last
      else if looksUnary a then readUnary w last
      else
        discard (take last)
        return !a.isEmpty

end

/-- The value of the condition that words spell for the program. -/
def ofProgram (w : World) (words : List Text) : Except Flaw Bool := do
  if words.isEmpty then return false
  let last := words.getLast?.getD []
  let (value, rest) ← (readCounted w last words.length (8 * words.length + 8)).run words
  match rest with
  | [] => return value
  | t :: _ => throw (.unexpected t)

/-! ## Both builds -/

/-- The words between brackets, if there are any brackets. -/
def bracketed (name : Text) (args : List Text) : Except Flaw (List Text) :=
  if Path.base name ≠ "[" then .ok args
  else if args.getLast? = some ("]" : Text) then .ok args.dropLast
  else .error .noBracket

/-- The value of the condition that arguments spell after a name. -/
def value (build : Build) (w : World) (name : Text) (args : List Text) : Except Flaw Bool := do
  let words ← bracketed name args
  match build with
  | .shell => ofShell w false words
  | .program => ofProgram w words

end ServiceWiring.Condition
