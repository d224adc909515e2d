import ServiceWiring.Host.Program.Condition
import ServiceWiring.Host.Program.Files
import ServiceWiring.Host.Pattern.Reader

/-!
# Programs for conditions and values

`test` tells whether a condition holds, `printf` writes its arguments in a format, `expr` writes the
value of an expression, and `seq` writes numbers.
-/

namespace ServiceWiring.Program

open ProcessM

/-- Tells whether a condition holds. -/
def test (name : Text) (args : List Text) : ProcessM Nat := do
  match Condition.value .program (← get) name args with
  | .ok value => return if value then 0 else 1
  | .error f =>
    warn name (f.message .program)
    return 2

/-- Writes arguments in a format. -/
def printf (name : Text) (args : List Text) : ProcessM Nat := do
  match (if args.head? = some ("--" : Text) then args.tail else args) with
  | [] =>
    misuse name "missing operand"
    return 1
  | format :: args =>
    let (o, complaints, status) := Printing.printf .program format args
    put o
    for complaint in complaints do warn name complaint
    return status

/-! ## Values -/

/-- Why an expression has no value. -/
inductive BadExpression where
  /-- An operand is no number. -/
  | notNumber
  /-- A number is divided by zero. -/
  | zero
  /-- Something is missing at the end. -/
  | missing (after : Text)
  /-- Something has no place. -/
  | unexpected (t : Text)
  /-- A regular expression has a flaw. -/
  | flawed (f : Regex.Flaw)
deriving DecidableEq, Repr

/-- The wording of an expression that has no value. -/
def BadExpression.message : BadExpression → Text
  | .notNumber => "non-integer argument"
  | .zero => "division by zero"
  | .missing t => "syntax error: missing argument after " ++ t.curly
  | .unexpected t => "syntax error: unexpected argument " ++ t.curly
  | .flawed f => f.message

/-- The operators of each level, from the loosest to the tightest. -/
def expressionOperators : Nat → List Text
  | 0 => ["|"]
  | 1 => ["&"]
  | 2 => ["<", "<=", "=", "==", "!=", ">=", ">"]
  | 3 => ["+", "-"]
  | 4 => ["*", "/", "%"]
  | 5 => [":"]
  | _ => []

/-- Whether a value counts as none. -/
def isNull (t : Text) : Bool :=
  t.isEmpty || (Condition.integer? t = some 0 && t.all fun c => c.isDigit || c = 0x2D)

/-- What a regular expression matches at the start of a text: its first group, or how much it is. -/
def matchValue (t expression : Text) : Except BadExpression Text := do
  match Regex.read { extended := false } expression with
  | .error f => throw (.flawed f)
  | .ok p =>
    let grouped := (expression.zip (expression.drop 1)).contains (0x5C, 0x28)
    match p.longest? (Reach.start t) with
    | some e =>
      return if grouped then (e.kept.lookup 1).getD [] else Text.ofNat e.position
    | none => return if grouped then [] else "0"

/-- The value of two values with an operator between them. -/
def combine (a operator b : Text) : Except BadExpression Text := do
  let flag := fun (b : Bool) => (if b then "1" else "0" : Text)
  if operator = "|" then return if isNull a then if isNull b then "0" else b else a
  else if operator = "&" then return if isNull a || isNull b then "0" else a
  else if operator = ":" then matchValue a b
  else if (expressionOperators 2).contains operator then
    let order := match Condition.integer? a, Condition.integer? b with
      | some n, some m => compare n m
      | _, _ => compare a b
    return flag <|
      if operator = "<" then order == .lt
      else if operator = "<=" then order != .gt
      else if operator = "=" || operator = "==" then order == .eq
      else if operator = "!=" then order != .eq
      else if operator = ">=" then order != .lt
      else order == .gt
  else
    match Condition.integer? a, Condition.integer? b with
    | some n, some m =>
      if operator = "+" then return Text.ofInt (n + m)
      else if operator = "-" then return Text.ofInt (n - m)
      else if operator = "*" then return Text.ofInt (n * m)
      else if m = 0 then throw .zero
      else if operator = "/" then return Text.ofInt (n.tdiv m)
      else return Text.ofInt (n.tmod m)
    | _, _ => throw .notNumber

/-- The value of an expression at the start of words, and what follows it. With a value and no words
before, more operators of the level may follow. -/
def expression (level : Nat) (value? : Option Text) (last : Text) (words : List Text) :
    Nat → Except BadExpression (Text × List Text)
  | 0 => .error (.missing last)
  | fuel + 1 => do
    if 6 ≤ level then
      match words with
      | [] => throw (.missing last)
      | t :: rest =>
        if t = "(" then
          let (value, rest) ← expression 0 none t rest fuel
          match rest with
          | [0x29] :: rest => return (value, rest)
          | _ => throw (.missing value)
        else if t = "length" && !rest.isEmpty then
          let (value, rest) ← expression 6 none t rest fuel
          return (Text.ofNat value.length, rest)
        else if t = "substr" && 3 ≤ rest.length then
          let (value, rest) ← expression 6 none t rest fuel
          let (start, rest) ← expression 6 none t rest fuel
          let (length, rest) ← expression 6 none t rest fuel
          let number := fun (t : Text) => ((Condition.integer? t).getD 0).toNat
          if number start = 0 then return ([], rest)
          return ((value.drop (number start - 1)).take (number length), rest)
        else if t = "index" && 2 ≤ rest.length then
          let (value, rest) ← expression 6 none t rest fuel
          let (set, rest) ← expression 6 none t rest fuel
          let at? := value.findIdx? set.contains
          return (Text.ofNat ((at?.map (· + 1)).getD 0), rest)
        else if t = "match" && 2 ≤ rest.length then
          let (value, rest) ← expression 6 none t rest fuel
          let (regex, rest) ← expression 6 none t rest fuel
          return (← matchValue value regex, rest)
        else return (t, rest)
    else
      match value? with
      | none =>
        let (value, rest) ← expression (level + 1) none last words fuel
        expression level (some value) last rest fuel
      | some value =>
        match words with
        | operator :: rest =>
          if (expressionOperators level).contains operator then
            let (b, rest) ← expression (level + 1) none operator rest fuel
            expression level (some (← combine value operator b)) operator rest fuel
          else return (value, words)
        | [] => return (value, [])

/-- Writes the value of an expression. -/
def expr (name : Text) (args : List Text) : ProcessM Nat := do
  let args := match args with
    | [0x2D, 0x2D] :: r => r
    | args => args
  if args.isEmpty then
    misuse name "missing operand"
    return 2
  let result := do
    match ← expression 0 none [] args (16 * args.length + 16) with
    | (value, []) => return value
    | (_, t :: _) => throw (BadExpression.unexpected t)
  match result with
  | .ok value =>
    say (value ++ [0x0A])
    return if isNull value then 1 else 0
  | .error e =>
    warn name e.message
    return 2

/-! ## Numbers -/

/-- The numbers from one to another. -/
def numbersFrom (step last : Int) (n : Int) : Nat → List Int
  | 0 => []
  | fuel + 1 =>
    if (0 < step && last < n) || (step < 0 && n < last) then []
    else n :: numbersFrom step last (n + step) fuel

/-- Writes numbers. -/
def seq (name : Text) (args : List Text) : ProcessM Nat := do
  let options := args.takeWhile fun a =>
    a.head? = some 0x2D && !(a.drop 1).head?.any CodePoint.isDigit
  let isValued := (["-s", "-f"] : List Text).contains (options.getLast?.getD [])
  let (options, operands) :=
    if isValued then (args.take (options.length + 1), args.drop (options.length + 1))
    else (options, args.drop options.length)
  match Arguments.read [⟨'s', .value, "separator"⟩, ⟨'w', .nothing, "equal-width"⟩,
    ⟨'f', .value, "format"⟩] false options with
  | .error e =>
    misuse name e.message
    return 1
  | .ok a =>
    match operands.find? fun t => (Condition.integer? t).isNone with
    | some t =>
      misuse name ("invalid floating point argument: " ++ t.curly)
      return 1
    | none =>
      let numbers := operands.filterMap Condition.integer?
      let bounds : Option (Int × Int × Int) := match numbers with
        | [last] => some (1, 1, last)
        | [first, last] => some (first, 1, last)
        | [first, step, last] => some (first, step, last)
        | _ => none
      match bounds with
      | none =>
        if operands.isEmpty then missing name "operand"
        else
          misuse name ("extra operand " ++ Text.curly (operands[3]?.getD []))
          return 1
      | some (first, step, last) =>
        if step = 0 then
          misuse name ("invalid Zero increment value: " ++ Text.curly (operands[1]?.getD []))
          return 1
        let ns := numbersFrom step last first ((last - first).natAbs + 1)
        let ts := ns.map Text.ofInt
        let width := (ts.map (·.length)).foldl max 0
        let ts := if a.has 'w' then ts.map (Text.padLeft width '0') else ts
        let ts := match a.value? 'f' with
          | some format =>
            ts.map fun t => Utf8.decodeName (Printing.printf .program format [t]).1
          | none => ts
        unless ts.isEmpty do
          say (Text.joinWith ((a.value? 's').getD "\n") ts ++ [0x0A])
        return 0

/-- Waits, which takes no time here. -/
def sleep (name : Text) (args : List Text) : ProcessM Nat := do
  match args with
  | [] => missing name "operand"
  | args =>
    let isTime := fun (t : Text) =>
      let t := match t.getLast? with
        | some c => if c = 0x73 || c = 0x6D || c = 0x68 || c = 0x64 then t.dropLast else t
        | none => t
      !t.isEmpty && t.all fun c => c.isDigit || c = 0x2E
    match args.find? fun t => !isTime t with
    | none => return 0
    | some t =>
      misuse name ("invalid time interval " ++ t.curly)
      return 1

end ServiceWiring.Program
