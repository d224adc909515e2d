import ServiceWiring.Host.Pattern.Reader
import ServiceWiring.Host.Program.Rules.Basic
import ServiceWiring.Text.Number

/-!
# Tokens of rules

A slash divides after an operand and opens a pattern anywhere else. A line break is a token; after
a backslash it is none.
-/

namespace ServiceWiring.Rules

/-- A token. -/
inductive Token where
  /-- A number, as it is spelled. -/
  | number (t : Text)
  /-- A text, with its escapes replaced. -/
  | text (t : Text)
  /-- A pattern, as it is spelled. -/
  | pattern (t : Text)
  /-- A name or a word of the language. -/
  | name (t : Text)
  /-- The name of a routine. -/
  | routine (t : Text)
  /-- An operator, a bracket, or what divides actions. -/
  | mark (t : Text)
deriving DecidableEq, Repr

/-- Why a program cannot be read. -/
inductive Mistake where
  /-- A token does not belong where it stands. -/
  | unexpected (t : Text)
  /-- A text is not closed. -/
  | openText (t : Text)
  /-- A pattern is not closed. -/
  | openPattern (t : Text)
  /-- An action is not closed. -/
  | openAction
  /-- A pattern cannot be read. -/
  | badPattern (t : Text)
  /-- A character has no meaning. -/
  | unknown (c : CodePoint)
deriving DecidableEq, Repr

/-- The wording of a mistake. -/
def Mistake.message : Mistake → Text
  | .unexpected t => "syntax error at or near " ++ t
  | .openText t => "runaway string constant \"" ++ t ++ " ..."
  | .openPattern t => "runaway regular expression /" ++ t ++ " ..."
  | .openAction => "missing \x7d near end of file"
  | .badPattern t => "regular expression compile failed (syntax error)\n" ++ t
  | .unknown c => "unexpected character '" ++ [c] ++ "'"

/-- A mistake, and the number of the line on which it was found. -/
structure MistakeAt where
  /-- The mistake. -/
  mistake : Mistake
  /-- The number of the line. -/
  line : Nat
deriving DecidableEq, Repr

/-- The marks that are longer than one character. -/
def longMarks : List (Text × Text) :=
  [("&&", "&&"), ("||", "||"), ("++", "++"), ("--", "--"), ("+=", "+="),
    ("-=", "-="), ("*=", "*="), ("/=", "/="), ("%=", "%="), ("^=", "^="), ("==", "=="),
    ("<=", "<="), (">=", ">="), ("!=", "!="), ("!~", "!~"), (">>", ">>")]

/-- The marks of one character. -/
def shortMarks : Text := "\x7b\x7d()[];,+-*/%^!><|?:~$=\n"

/-- The words of the language that are no names. -/
def words : List Text :=
  ["BEGIN", "END", "break", "continue", "delete", "do", "else", "exit", "for", "func", "function",
    "getline", "if", "in", "next", "nextfile", "print", "printf", "return", "while"]

/-- Whether a slash that follows a token divides. -/
def Token.isOperand : Token → Bool
  | number _ | text _ | pattern _ => true
  | name t => !words.contains t
  | routine _ => false
  | mark t => ([")", "]", "++", "--"] : List Text).contains t

/-- The digit of base eight that a code point is. -/
def isOctal (c : CodePoint) : Bool := 0x30 ≤ c && c ≤ 0x37

/-- What a text holds up to its closing quote, and what follows that. -/
def closeText : Text → Option (Text × Text)
  | [] | 0x0A :: _ => none
  | 0x22 :: r => some ([], r)
  | 0x5C :: c :: r => (closeText r).map fun (t, r) => (0x5C :: c :: t, r)
  | c :: r => (closeText r).map fun (t, r) => (c :: t, r)

/-- What a pattern holds up to the slash that closes it, and what follows that. -/
def closePattern : Text → Option (Text × Text)
  | [] | 0x0A :: _ => none
  | 0x2F :: r => some ([], r)
  | 0x5C :: 0x2F :: r => (closePattern r).map fun (t, r) => (0x2F :: t, r)
  | 0x5C :: c :: r => (closePattern r).map fun (t, r) => (0x5C :: c :: t, r)
  | c :: r => (closePattern r).map fun (t, r) => (c :: t, r)

/-- The code point that a letter stands for after a backslash. -/
def escaped? (c : CodePoint) : Option CodePoint :=
  match c with
  | 0x22 | 0x5C => some c
  | 0x61 => some 0x07
  | 0x62 => some 0x08
  | 0x66 => some 0x0C
  | 0x6E => some 0x0A
  | 0x72 => some 0x0D
  | 0x74 => some 0x09
  | 0x76 => some 0x0B
  | _ => none

/-- A text with its escapes replaced. A backslash before another character stays. -/
def unescape : Text → Text
  | 0x5C :: c :: r =>
    if isOctal c then
      match r with
      | d :: e :: r =>
        if isOctal d && isOctal e then octal [c, d, e] :: unescape r
        else if isOctal d then octal [c, d] :: unescape (e :: r)
        else octal [c] :: unescape (d :: e :: r)
      | [d] => if isOctal d then [octal [c, d]] else octal [c] :: [d]
      | [] => [octal [c]]
    else
      match escaped? c with
      | some d => d :: unescape r
      | none => if c = 0x0A then unescape r else 0x5C :: c :: unescape r
  | c :: r => c :: unescape r
  | [] => []
where
  /-- The octet of digits of base eight. -/
  octal (ds : Text) : CodePoint :=
    Fin.ofNat _ (ds.foldl (fun n d => 8 * n + (d.val - 0x30)) 0 % 256)

/-- The length of the number at the start of a text; zero, if there is none. -/
def numberLength (t : Text) : Nat :=
  let whole := (t.takeWhile CodePoint.isDigit).length
  let fraction := match t.drop whole with
    | 0x2E :: r =>
      let places := (r.takeWhile CodePoint.isDigit).length
      if whole + places = 0 then 0 else places + 1
    | _ => 0
  let length := whole + fraction
  if length = 0 then 0
  else
    match t.drop length with
    | e :: r =>
      let sign := if r.head? = some 0x2B || r.head? = some 0x2D then 1 else 0
      let ds := ((r.drop sign).takeWhile CodePoint.isDigit).length
      if (e = 0x65 || e = 0x45) && ds ≠ 0 then length + 1 + sign + ds else length
    | [] => length

/-- The token at the start of a text that is not empty, and what follows it; `divides` tells
whether a slash divides. -/
def token (divides : Bool) (c : CodePoint) (r : Text) : Except Mistake (Token × Text) := do
  let t := c :: r
  let n := numberLength t
  if n ≠ 0 then return (.number (t.take n), t.drop n)
  if c.isWord then return (.name (t.takeWhile CodePoint.isWord), t.dropWhile CodePoint.isWord)
  if c = 0x22 then
    match closeText r with
    | some (t, r) => return (.text (unescape t), r)
    | none => throw (.openText (r.takeWhile (· ≠ 0x0A)))
  if c = 0x2F && !divides then
    match closePattern r with
    | some (t, r) => return (.pattern t, r)
    | none => throw (.openPattern (r.takeWhile (· ≠ 0x0A)))
  match longMarks.find? fun (m, _) => m.isPrefixOf t with
  | some (m, meaning) => return (.mark meaning, t.drop m.length)
  | none => if shortMarks.contains c then return (.mark [c], r) else throw (.unknown c)

/-- What follows the first line of a text, from its line break on. -/
def dropLine (t : Text) : Text := t.dropWhile (· ≠ 0x0A)

/-- The tokens of a program, each with the number of its line. -/
def tokens (line : Nat) (divides : Bool) (t : Text) : Except MistakeAt (List (Token × Nat)) := do
  match t with
  | [] => return []
  | 0x20 :: r | 0x09 :: r | 0x0D :: r => tokens line divides r
  | 0x5C :: 0x0A :: r => tokens (line + 1) divides r
  | 0x23 :: r =>
    if _h : (dropLine r).length ≤ r.length then tokens line divides (dropLine r) else return []
  | c :: r =>
    match token divides c r with
    | .error m => throw ⟨m, line⟩
    | .ok (found, rest) =>
      let after := if c = 0x0A then line + 1 else line
      if _h : rest.length ≤ r.length then
        return (found, line) :: (← tokens after found.isOperand rest)
      else return [(found, line)]
termination_by t.length
decreasing_by all_goals simp_all; try omega

end ServiceWiring.Rules
