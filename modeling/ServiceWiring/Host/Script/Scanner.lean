import ServiceWiring.Host.Script.Basic

/-!
# Words and tokens of scripts

A scan goes through the text of a script and counts its lines. The text of a redirection starts on
the line after the redirection, so it is taken out of the script where the redirection is read.

Words hold commands, which hold words again: the readers here are given the other ones as a value
of `Readers`.
-/

namespace ServiceWiring.Script

/-- Why a script cannot be read. -/
inductive Mistake where
  /-- Something stands where it may not, in the place of something else if that is known. -/
  | unexpected (found : Text) (wanted? : Option Text)
  /-- A quote is not closed. -/
  | openQuote
  /-- A brace is not closed. -/
  | openBrace
  /-- An arithmetic expression is not closed. -/
  | openExpression
  /-- A command between backquotes is not closed. -/
  | openBackquote
  /-- A loop has no name for its variable. -/
  | badLoopName
  /-- A function has a name that is none. -/
  | badFunctionName
  /-- A stream to be copied is no number. -/
  | badStream
deriving DecidableEq, Repr

/-- The wording of a mistake. -/
def Mistake.message : Mistake → Text
  | .unexpected found none => found ++ " unexpected"
  | .unexpected found (some wanted) => found ++ " unexpected (expecting " ++ wanted ++ ")"
  | .openQuote => "Unterminated quoted string"
  | .openBrace => "Missing '\x7d'"
  | .openExpression => "Missing '))'"
  | .openBackquote => "EOF in backquote substitution"
  | .badLoopName => "Bad for loop variable"
  | .badFunctionName => "Bad function name"
  | .badStream => "Bad fd number"

/-- What a script is divided into. -/
inductive Token where
  /-- The end of the script. -/
  | stop
  /-- A line break. -/
  | newline
  /-- `;` -/
  | semicolon
  /-- `&` -/
  | ampersand
  /-- `&&` -/
  | andThen
  /-- `||` -/
  | orElse
  /-- `|` -/
  | pipe
  /-- `(` -/
  | opening
  /-- `)` -/
  | closing
  /-- `;;` -/
  | caseEnd
  /-- A redirection; `strip` tells whether the tabs are dropped that lines of its text start with.
  -/
  | redirect (stream : Nat) (direction : Direction) (strip : Bool)
  /-- A word. -/
  | word (w : Word)
  /-- A word with a meaning of its own. -/
  | keyword (t : Text)

namespace Token

/-- The name of a token in messages. -/
def name : Token → Text
  | stop => "end of file"
  | newline => "newline"
  | semicolon => "\";\""
  | ampersand => "\"&\""
  | andThen => "\"&&\""
  | orElse => "\"||\""
  | pipe => "\"|\""
  | opening => "\"(\""
  | closing => "\")\""
  | caseEnd => "\";;\""
  | redirect .. => "redirection"
  | word _ => "word"
  | keyword t => "\"" ++ t ++ "\""

/-- The words with a meaning of their own. -/
def keywords : List Text :=
  ["!", "case", "do", "done", "elif", "else", "esac", "fi", "for", "if", "in", "then", "until",
    "while", "\x7b", "\x7d"]

/-- The token with a word taken for a keyword if it is one. -/
def withKeyword : Token → Token
  | word [.plain t] => if keywords.contains t then keyword t else word [.plain t]
  | t => t

/-- Whether a list of commands ends before the token. -/
def endsList : Token → Bool
  | stop | closing | caseEnd => true
  | keyword t =>
    (["do", "done", "elif", "else", "esac", "fi", "then", "\x7d"] : List Text).contains t
  | _ => false

end Token

/-- A place in a script. -/
structure Scan where
  /-- What comes after it. -/
  rest : Text
  /-- The number of its line. -/
  line : Nat := 1
  /-- How many lines were taken out after this one. -/
  takenLines : Nat := 0
  /-- A token that was given back. -/
  pushed? : Option Token := none

/-- A mistake, and the line that it is on. -/
structure MistakeAt where
  /-- The line. -/
  line : Nat
  /-- The mistake. -/
  mistake : Mistake
deriving DecidableEq, Repr

/-- Reading a script. -/
abbrev ReadM := ExceptT MistakeAt (StateM Scan)

namespace ReadM

/-- Gives up. -/
def fail {α : Type} (mistake : Mistake) : ReadM α := do throw ⟨(← get).line, mistake⟩

/-- Goes on at a later place of the same line. -/
def goTo (rest : Text) : ReadM Unit := modify fun s => { s with rest }

/-- Passes a line break. -/
def passLine (rest : Text) : ReadM Unit :=
  modify fun s => { s with rest, line := s.line + 1 + s.takenLines, takenLines := 0 }

/-- Gives a token back. -/
def push (t : Token) : ReadM Unit := modify fun s => { s with pushed? := some t }

/-- Reads another text than the script itself. -/
def within {α : Type} (t : Text) (action : ReadM α) : ReadM α := do
  let s ← get
  set ({ rest := t, line := s.line } : Scan)
  let result ← action
  set s
  return result

end ReadM

/-- What ends a word or a part of it. -/
inductive Ending where
  /-- A blank or an operator. -/
  | blank
  /-- A double quote. -/
  | doubleQuote
  /-- A closing brace; `inQuotes` tells whether the braces stand between double quotes. -/
  | brace (inQuotes : Bool)
  /-- Two closing parentheses. -/
  | parentheses
  /-- The end of the text. -/
  | never
deriving DecidableEq, Repr

namespace Ending

/-- Whether what comes before the ending is quoted. -/
def isQuoted : Ending → Bool
  | blank => false
  | brace inQuotes => inQuotes
  | doubleQuote | parentheses | never => true

/-- Whether a backslash before a code point quotes it. -/
def escapes (e : Ending) (c : CodePoint) : Bool :=
  !e.isQuoted || c = 0x24 || c = 0x60 || c = 0x5C ||
    (match e with
      | doubleQuote => c = 0x22
      | brace _ => c = 0x22 || c = 0x7D
      | _ => false)

end Ending

/-- The readers of what words and commands hold. -/
structure Readers where
  /-- Reads the commands of a substitution. -/
  list : ReadM Command
  /-- Reads the commands of a compound command. -/
  compound : ReadM Command
  /-- Reads one command. -/
  command : ReadM Command
  /-- Reads a word up to its ending. -/
  word : Ending → ReadM Word

/-! ## Words -/

/-- Whether an unquoted code point ends a word. -/
def endsWord (c : CodePoint) : Bool :=
  c = 0x20 || c = 0x09 || c = 0x0A || c = 0x3B || c = 0x26 || c = 0x7C || c = 0x3C || c = 0x3E ||
    c = 0x28 || c = 0x29

/-- Whether a code point may start the name of a variable. -/
def startsName (c : CodePoint) : Bool := c.isWord && !c.isDigit

/-- Whether a text is the name of a variable. -/
def isName (t : Text) : Bool := t.head?.any startsName && t.all CodePoint.isWord

/-- Whether a code point is the name of a parameter by itself. -/
def isSpecial (c : CodePoint) : Bool :=
  c = 0x40 || c = 0x2A || c = 0x23 || c = 0x3F || c = 0x2D || c = 0x24 || c = 0x21 || c.isDigit

/-- The parts, from the last to the first, with one more text. -/
def addText (isQuoted : Bool) (t : Text) : Word → Word
  | .plain u :: ps => if isQuoted then .quoted t :: .plain u :: ps else .plain (u ++ t) :: ps
  | .quoted u :: ps => if isQuoted then .quoted (u ++ t) :: ps else .plain t :: .quoted u :: ps
  | ps => (if isQuoted then .quoted t else .plain t) :: ps

/-- How many line breaks a text holds. -/
def lineBreaks (t : Text) : Nat := t.count 0x0A

/-- Reads what follows up to a single quote. -/
def readSingle (r : Text) : ReadM Text := do
  match Text.cut 0x27 r with
  | (t, some r) =>
    modify fun s => { s with rest := r, line := s.line + lineBreaks t }
    return t
  | (t, none) =>
    modify fun s => { s with rest := [], line := s.line + lineBreaks t }
    ReadM.fail .openQuote

/-- The text up to a backquote, and what follows it. Backslashes that protect something between
backquotes are dropped. -/
def cutBackquote (inQuotes : Bool) : Text → Option (Text × Text)
  | 0x60 :: r => some ([], r)
  | 0x5C :: c :: r =>
    let dropped := c = 0x5C || c = 0x24 || c = 0x60 || (inQuotes && c = 0x22)
    (cutBackquote inQuotes r).map fun (t, r) => (if dropped then c :: t else 0x5C :: c :: t, r)
  | c :: r => (cutBackquote inQuotes r).map fun (t, r) => (c :: t, r)
  | [] => none

/-- Reads the commands between backquotes. -/
def readBackquote (again : Readers) (inQuotes : Bool) (r : Text) : ReadM Part := do
  match cutBackquote inQuotes r with
  | none =>
    modify fun s => { s with rest := [], line := s.line + lineBreaks r }
    ReadM.fail .openBackquote
  | some (t, r) =>
    let c ← ReadM.within t again.list
    modify fun s => { s with rest := r, line := s.line + lineBreaks t }
    return .output c inQuotes

/-- The name of a parameter at the start of a text, and what follows it. -/
def cutName (t : Text) : Text × Text :=
  match t with
  | [] => ([], [])
  | c :: r =>
    if startsName c then (t.takeWhile CodePoint.isWord, t.dropWhile CodePoint.isWord)
    else if c.isDigit then (t.takeWhile CodePoint.isDigit, t.dropWhile CodePoint.isDigit)
    else if isSpecial c then ([c], r)
    else ([], t)

/-- The change that an operator after a name asks for, and what follows it. -/
def cutChange (t : Text) : Option (Change × Text) :=
  match t with
  | 0x3A :: 0x2D :: r => some (.default true, r)
  | 0x2D :: r => some (.default false, r)
  | 0x3A :: 0x3D :: r => some (.assign true, r)
  | 0x3D :: r => some (.assign false, r)
  | 0x3A :: 0x3F :: r => some (.require true, r)
  | 0x3F :: r => some (.require false, r)
  | 0x3A :: 0x2B :: r => some (.instead true, r)
  | 0x2B :: r => some (.instead false, r)
  | 0x23 :: 0x23 :: r => some (.dropStart true, r)
  | 0x23 :: r => some (.dropStart false, r)
  | 0x25 :: 0x25 :: r => some (.dropEnd true, r)
  | 0x25 :: r => some (.dropEnd false, r)
  | 0x7D :: _ => some (.keep, t)
  | _ => none

/-- Reads a parameter between braces. -/
def readBraces (again : Readers) (inQuotes : Bool) (r : Text) : ReadM Part := do
  let isLength := match r with
    | 0x23 :: 0x7D :: _ => false
    | 0x23 :: c :: _ => startsName c || isSpecial c
    | _ => false
  let (name, r) := cutName (if isLength then r.drop 1 else r)
  -- What is no operator is dropped, but not in the place of a name.
  let (change?, r) := match cutChange r with
    | some (change, r) => (if name.isEmpty then none else some change, r)
    | none => (none, if name.isEmpty then r else r.drop 1)
  ReadM.goTo r
  -- Patterns are read as they are outside quotes.
  let inside := match change? with
    | some (.dropStart _) | some (.dropEnd _) => false
    | _ => inQuotes
  let word ← again.word (.brace inside)
  match (← get).rest with
  | 0x7D :: r =>
    ReadM.goTo r
    match change? with
    | some change =>
      if !isLength then return .parameter name change word inQuotes
      else if change = .keep then return .parameter name .length [] inQuotes
      else return .malformed name
    | none => return .malformed name
  | _ => ReadM.fail .openBrace

/-- Reads what follows a dollar. -/
def readDollar (again : Readers) (inQuotes : Bool) (r : Text) : ReadM (Option Part) := do
  match r with
  | 0x28 :: 0x28 :: r =>
    ReadM.goTo r
    let expression ← again.word .parentheses
    match (← get).rest with
    | 0x29 :: 0x29 :: r =>
      ReadM.goTo r
      return some (.number expression inQuotes)
    | _ => ReadM.fail .openExpression
  | 0x28 :: r =>
    ReadM.goTo r
    let c ← again.list
    -- The token that ended the list was given back.
    let ending := (← get).pushed?
    modify fun s => { s with pushed? := none }
    match ending with
    | some .closing => return some (.output c inQuotes)
    | t? => ReadM.fail (.unexpected (t?.getD .stop).name (some Token.closing.name))
  | 0x7B :: r => some <$> readBraces again inQuotes r
  | c :: r' =>
    if startsName c then
      let (name, r) := cutName r
      ReadM.goTo r
      return some (.parameter name .keep [] inQuotes)
    else if isSpecial c then
      ReadM.goTo r'
      return some (.parameter [c] .keep [] inQuotes)
    else return none
  | [] => return none

/-- Whether a part of a word ends here; `depth` counts the open parentheses of an expression. -/
def endsAt (ending : Ending) (depth : Nat) (c : CodePoint) (r : Text) : Bool :=
  match ending with
  | .blank => endsWord c
  | .doubleQuote => c = 0x22
  | .brace _ => c = 0x7D
  | .parentheses => c = 0x29 && depth = 0 && r.head? = some 0x29
  | .never => false

/-- Reads the parts of a word up to its ending; `parts` are those before, from the last to the
first, and the fuel is no less than what is left of the script. -/
def readParts (again : Readers) (ending : Ending) (depth : Nat) (parts : Word) :
    Nat → ReadM Word
  | 0 => return parts.reverse
  | fuel + 1 => do
    let quoted := ending.isQuoted
    match (← get).rest with
    | [] => return parts.reverse
    | c :: r =>
      if endsAt ending depth c r then return parts.reverse
      match c with
      | 0x5C =>
        match r with
        | 0x0A :: r =>
          ReadM.passLine r
          readParts again ending depth parts fuel
        | d :: r =>
          ReadM.goTo r
          let t : Text := if ending.escapes d then [d] else [0x5C, d]
          readParts again ending depth (addText true t parts) fuel
        | [] =>
          ReadM.goTo r
          readParts again ending depth (addText true [c] parts) fuel
      | 0x27 =>
        if quoted then
          ReadM.goTo r
          readParts again ending depth (addText true [c] parts) fuel
        else
          let t ← readSingle r
          readParts again ending depth (addText true t parts) fuel
      | 0x22 =>
        if ending = .never then
          ReadM.goTo r
          readParts again ending depth (addText true [c] parts) fuel
        else
          ReadM.goTo r
          let word ← again.word .doubleQuote
          match (← get).rest with
          | 0x22 :: r =>
            ReadM.goTo r
            readParts again ending depth (word.reverse ++ addText true [] parts) fuel
          | _ => ReadM.fail .openQuote
      | 0x24 =>
        match ← readDollar again quoted r with
        | some part => readParts again ending depth (part :: parts) fuel
        | none =>
          ReadM.goTo r
          readParts again ending depth (addText quoted [c] parts) fuel
      | 0x60 =>
        let part ← readBackquote again quoted r
        readParts again ending depth (part :: parts) fuel
      | 0x0A =>
        ReadM.passLine r
        readParts again ending depth (addText quoted [c] parts) fuel
      | c =>
        ReadM.goTo r
        let depth := if c = 0x28 then depth + 1 else if c = 0x29 then depth - 1 else depth
        readParts again ending depth (addText quoted [c] parts) fuel

/-- Reads a word up to its ending. -/
def readWord (again : Readers) (ending : Ending) : ReadM Word := do
  readParts again ending 0 [] ((← get).rest.length + 1)

/-! ## Tokens -/

/-- The text without the blanks and the remark at its start, and how many line breaks that follow a
backslash are passed. -/
def skipBlanks : Text → Nat × Text
  | 0x20 :: r | 0x09 :: r => skipBlanks r
  | 0x5C :: 0x0A :: r =>
    let (n, r) := skipBlanks r
    (n + 1, r)
  | 0x23 :: r => (0, r.dropWhile (· ≠ 0x0A))
  | r => (0, r)

/-- The token of a redirection, and what follows it. -/
def cutRedirect (stream? : Option Nat) : Text → Option (Token × Text)
  | 0x3C :: 0x3C :: 0x2D :: r => some (.redirect (stream?.getD 0) .text true, r)
  | 0x3C :: 0x3C :: r => some (.redirect (stream?.getD 0) .text false, r)
  | 0x3C :: 0x26 :: r => some (.redirect (stream?.getD 0) .copy false, r)
  | 0x3C :: 0x3E :: r => some (.redirect (stream?.getD 0) .both false, r)
  | 0x3C :: r => some (.redirect (stream?.getD 0) .input false, r)
  | 0x3E :: 0x3E :: r => some (.redirect (stream?.getD 1) .append false, r)
  | 0x3E :: 0x26 :: r => some (.redirect (stream?.getD 1) .copy false, r)
  | 0x3E :: 0x7C :: r => some (.redirect (stream?.getD 1) .output false, r)
  | 0x3E :: r => some (.redirect (stream?.getD 1) .output false, r)
  | _ => none

/-- The token of an operator, and what follows it. -/
def cutOperator : Text → Option (Token × Text)
  | 0x26 :: 0x26 :: r => some (.andThen, r)
  | 0x26 :: r => some (.ampersand, r)
  | 0x7C :: 0x7C :: r => some (.orElse, r)
  | 0x7C :: r => some (.pipe, r)
  | 0x3B :: 0x3B :: r => some (.caseEnd, r)
  | 0x3B :: r => some (.semicolon, r)
  | 0x28 :: r => some (.opening, r)
  | 0x29 :: r => some (.closing, r)
  | c :: r =>
    if c.isDigit && (r.head? = some 0x3C || r.head? = some 0x3E) then
      cutRedirect (some (c.val - 0x30)) r
    else cutRedirect none (c :: r)
  | [] => none

/-- Reads a token as it is spelled. -/
def readToken (again : Readers) : ReadM Token := do
  match (← get).pushed? with
  | some t =>
    modify fun s => { s with pushed? := none }
    return t
  | none =>
    let (n, r) := skipBlanks (← get).rest
    modify fun s => { s with rest := r, line := s.line + n }
    match r with
    | [] => return .stop
    | 0x0A :: r =>
      ReadM.passLine r
      return .newline
    | r =>
      match cutOperator r with
      | some (t, r) =>
        ReadM.goTo r
        return t
      | none => .word <$> again.word .blank

/-- Passes line breaks, up to a token that is none. -/
def skipLines (again : Readers) : Nat → ReadM Token
  | 0 => return .stop
  | fuel + 1 => do
    match ← readToken again with
    | .newline => skipLines again fuel
    | t => return t

/-- Reads a token. Line breaks before it may be passed, and keywords may count. -/
def next (again : Readers) (keywords lines : Bool) : ReadM Token := do
  let t ← if lines then skipLines again ((← get).rest.length + 2) else readToken again
  return if keywords then t.withKeyword else t

/-! ## The texts of redirections -/

/-- The lines of a text up to one that is the mark, and what follows that one. -/
def cutLines (mark : Text) (strip : Bool) : List Text → List Text × List Text
  | [] => ([], [])
  | line :: r =>
    let line := if strip then line.dropWhile (· = 0x09) else line
    if line = mark then ([], r)
    else
      let (lines, r) := cutLines mark strip r
      (line :: lines, r)

/-- The mark that a word spells, and whether some of it is quoted. -/
def markOf (w : Word) : Text × Bool :=
  (w.flatMap fun
    | .plain t | .quoted t => t
    | .parameter name .. => 0x24 :: name
    | _ => [],
  w.any fun
    | .quoted _ => true
    | _ => false)

/-- Takes the text of a redirection out of the script: the lines after this one up to the mark. -/
def takeText (again : Readers) (strip : Bool) (w : Word) : ReadM Word := do
  let (mark, isQuoted) := markOf w
  let s ← get
  let (line, after?) := Text.cut 0x0A s.rest
  match after? with
  | none => return [.quoted []]
  | some after =>
    let lines := Text.splitOn 0x0A after
    -- What follows the last line break is a line only if it holds something.
    let lines := if lines.getLast? = some [] then lines.dropLast else lines
    let (body, r) := cutLines mark strip lines
    let text := body.flatMap (· ++ [0x0A])
    let rest := line ++ 0x0A :: r.flatMap (· ++ [0x0A])
    let passed := lines.length - r.length
    set { s with rest, takenLines := s.takenLines + passed }
    if isQuoted then return [.quoted text]
    else ReadM.within text (again.word .never)

end ServiceWiring.Script
