import ServiceWiring.Host.Script.Scanner
import ServiceWiring.Text.Number

/-!
# Arithmetic of the shell

Expressions over integers of 64 bits, with variables that may be assigned. An expression has its
value while it is read, so what comes before a mistake has had its effect.
-/

namespace ServiceWiring.Arithmetic

/-- What an expression is divided into. -/
inductive Token where
  /-- A number. -/
  | number (n : Int)
  /-- The name of a variable. -/
  | name (t : Text)
  /-- An operator. -/
  | operator (t : Text)
  /-- Something else. -/
  | other
deriving DecidableEq, Repr

/-- Why an expression has no value. -/
inductive Mistake where
  /-- Something is missing. -/
  | expecting (what : Text)
  /-- A number is divided by zero. -/
  | zero
  /-- The value of a variable is no number. -/
  | notNumber (t : Text)
deriving DecidableEq, Repr

/-- The wording of a mistake in an expression. -/
def Mistake.message (expression : Text) : Mistake → Text
  | .expecting what => "arithmetic expression: expecting " ++ what ++ ": \"" ++ expression ++ "\""
  | .zero => "arithmetic expression: division by zero: \"" ++ expression ++ "\""
  | .notNumber t => "Illegal number: " ++ t

/-- The integer of 64 bits that is left of a number. -/
def wrap (n : Int) : Int := n.bmod (2 ^ 64)

/-- The greatest and the least integer bound a number. -/
def clamp (n : Int) : Int := min (max n (-(2 ^ 63 : Nat))) (2 ^ 63 - 1 : Nat)

/-- The number that the digits of a base at the start of a text are, and what follows them. -/
def digits (base : Nat) (t : Text) : Nat × Text :=
  let isDigit := fun c => (Text.hexDigit? c).any (· < base)
  ((t.takeWhile isDigit).foldl (fun n d => base * n + (Text.hexDigit? d).getD 0) 0,
    t.dropWhile isDigit)

/-- The number at the start of a text, in a base that it tells, and what follows it. -/
def readNumber (t : Text) : Nat × Text :=
  match t with
  | 0x30 :: x :: d :: r =>
    if (x = 0x78 || x = 0x58) && (Text.hexDigit? d).isSome then digits 16 (d :: r)
    else digits 8 t
  | 0x30 :: _ => digits 8 t
  | t => digits 10 t

/-- The integer that the value of a variable is. -/
def integerOf (t : Text) : Except Mistake Int :=
  let isBlank := fun (c : CodePoint) => c = 0x20 || 0x09 ≤ c && c ≤ 0x0D
  let (negative, r) := match t.dropWhile isBlank with
    | 0x2D :: r => (true, r)
    | 0x2B :: r => (false, r)
    | r => (false, r)
  let (n, r) := readNumber r
  if r.all isBlank then .ok (clamp (if negative then -n else n)) else .error (.notNumber t)

/-- The operators, each after those that it starts. -/
def operators : List Text :=
  let long : List Text :=
    ["<<=", ">>=", "<<", ">>", "<=", ">=", "==", "!=", "&&", "||", "*=", "/=", "%=", "+=", "-=",
      "&=", "^=", "|="]
  let short : List Text :=
    ["=", "<", ">", "!", "~", "&", "|", "^", "+", "-", "*", "/", "%", "?", ":", "(", ")"]
  long ++ short

/-- The tokens of an expression. The fuel is more than its length. -/
def tokens (t : Text) : Nat → List Token
  | 0 => []
  | fuel + 1 =>
    match t with
    | [] => []
    | c :: r =>
      if c = 0x20 || c = 0x09 || c = 0x0A then tokens r fuel
      else if c.isDigit then
        let (n, r) := readNumber t
        .number (clamp n) :: tokens r fuel
      else if Script.startsName c then
        .name (t.takeWhile CodePoint.isWord) :: tokens (t.dropWhile CodePoint.isWord) fuel
      else
        match operators.find? (·.isPrefixOf t) with
        | some o => .operator o :: tokens (t.drop o.length) fuel
        | none => [.other]

/-- What is left of an expression, and the variables that it has assigned so far. -/
structure Progress where
  /-- The tokens that are left. -/
  rest : List Token
  /-- The new values, the last one first. -/
  assigned : List (Text × Int) := []

/-- Reading an expression. -/
abbrev ReadM := StateT Progress (Except Mistake)

/-- Takes a token. -/
def take? : ReadM (Option Token) :=
  modifyGet fun p => (p.rest.head?, { p with rest := p.rest.tail })

/-- Takes one of the given operators, if it comes next. -/
def takeOperator? (among : Text → Bool) : ReadM (Option Text) := do
  match (← get).rest with
  | .operator o :: r =>
    if among o then
      modify fun p => { p with rest := r }
      return some o
    else return none
  | _ => return none

/-- The value of a variable. -/
def valueOf (look : Text → Option Text) (name : Text) : ReadM Int := do
  match (← get).assigned.lookup name with
  | some n => return n
  | none => integerOf ((look name).getD [])

/-- How tightly an operator between two numbers binds; a lower level is tighter. -/
def level? (o : Text) : Option Nat :=
  (([["*", "/", "%"], ["+", "-"], ["<<", ">>"], ["<", "<=", ">", ">="], ["==", "!="], ["&"], ["^"],
    ["|"]] : List (List Text)).findIdx? (·.contains o))

/-- The value of two numbers with an operator between them. -/
def combine (o : Text) (a b : Int) : Except Mistake Int :=
  let flag := fun (b : Bool) => Except.ok (if b then (1 : Int) else 0)
  let bits := fun (f : Nat → Nat → Nat) =>
    Except.ok (wrap (f (a % (2 ^ 64 : Nat)).toNat (b % (2 ^ 64 : Nat)).toNat))
  let places := (b % 64).toNat
  if o = "*" then .ok (wrap (a * b))
  else if o = "/" || o = "%" then
    if b = 0 then .error .zero
    else .ok (wrap (if o = "/" then a.tdiv b else a.tmod b))
  else if o = "+" then .ok (wrap (a + b))
  else if o = "-" then .ok (wrap (a - b))
  else if o = "<<" then .ok (wrap (a * 2 ^ places))
  else if o = ">>" then .ok (a / 2 ^ places)
  else if o = "<" then flag (a < b)
  else if o = "<=" then flag (a ≤ b)
  else if o = ">" then flag (b < a)
  else if o = ">=" then flag (b ≤ a)
  else if o = "==" then flag (a == b)
  else if o = "!=" then flag (a != b)
  else if o = "&" then bits Nat.land
  else if o = "^" then bits Nat.xor
  else bits Nat.lor

/-- The operator within one that also assigns. -/
def assigning? (o : Text) : Option Text :=
  if o = "=" then some []
  else if 2 ≤ o.length && o.getLast? = some 0x3D && (level? o).isNone && o ≠ "!=" then
    some o.dropLast
  else none

mutual

/-- The value of an assignment or of a choice. Where `skipped`, nothing has an effect. -/
def assignment (look : Text → Option Text) (skipped : Bool) : Nat → ReadM Int
  | 0 => throw (.expecting "primary")
  | fuel + 1 => do
    match (← get).rest with
    | .name v :: .operator o :: r =>
      match assigning? o with
      | some inner =>
        modify fun p => { p with rest := r }
        let n ← assignment look skipped fuel
        if skipped then return n
        let n ← if inner.isEmpty then pure n else combine inner (← valueOf look v) n
        modify fun p => { p with assigned := (v, n) :: p.assigned }
        return n
      | none => choice look skipped fuel
    | _ => choice look skipped fuel

/-- The value of a condition and its two alternatives, or of what has none. -/
def choice (look : Text → Option Text) (skipped : Bool) : Nat → ReadM Int
  | 0 => throw (.expecting "primary")
  | fuel + 1 => do
    let a ← either look skipped fuel
    match ← takeOperator? (· = "?") with
    | none => return a
    | some _ =>
      let b ← assignment look (skipped || a = 0) fuel
      if (← takeOperator? (· = ":")).isNone then throw (.expecting "':'")
      let c ← choice look (skipped || a ≠ 0) fuel
      return if a ≠ 0 then b else c

/-- Whether one of two conditions holds. -/
def either (look : Text → Option Text) (skipped : Bool) : Nat → ReadM Int
  | 0 => throw (.expecting "primary")
  | fuel + 1 => do
    let a ← both look skipped fuel
    match ← takeOperator? (· = "||") with
    | none => return a
    | some _ =>
      let b ← either look (skipped || a ≠ 0) fuel
      return if a ≠ 0 || b ≠ 0 then 1 else 0

/-- Whether both of two conditions hold. -/
def both (look : Text → Option Text) (skipped : Bool) : Nat → ReadM Int
  | 0 => throw (.expecting "primary")
  | fuel + 1 => do
    let a ← operation look skipped 8 fuel
    match ← takeOperator? (· = "&&") with
    | none => return a
    | some _ =>
      let b ← both look (skipped || a = 0) fuel
      return if a ≠ 0 && b ≠ 0 then 1 else 0

/-- The value of operands with operators between them that bind more tightly than a level. -/
def operation (look : Text → Option Text) (skipped : Bool) (limit : Nat) : Nat → ReadM Int
  | 0 => throw (.expecting "primary")
  | fuel + 1 => do
    operationFrom look skipped limit (← operand look skipped fuel) fuel

/-- The same with the first operand read already. -/
def operationFrom (look : Text → Option Text) (skipped : Bool) (limit : Nat) (a : Int) :
    Nat → ReadM Int
  | 0 => throw (.expecting "primary")
  | fuel + 1 => do
    match ← takeOperator? fun o => (level? o).any (· < limit) with
    | none => return a
    | some o =>
      let b ← operation look skipped ((level? o).getD 0) fuel
      let n ← if skipped then pure b else combine o a b
      operationFrom look skipped limit n fuel

/-- The value of a number, of a variable, or of an expression between parentheses, which may have
signs in front. -/
def operand (look : Text → Option Text) (skipped : Bool) : Nat → ReadM Int
  | 0 => throw (.expecting "primary")
  | fuel + 1 => do
    match ← take? with
    | some (.number n) => return n
    | some (.name v) => if skipped then return 0 else valueOf look v
    | some (.operator o) =>
      if o = "(" then
        let n ← assignment look skipped fuel
        if (← takeOperator? (· = ")")).isNone then throw (.expecting "')'")
        return n
      else if o = "+" then operand look skipped fuel
      else if o = "-" then return wrap (-(← operand look skipped fuel))
      else if o = "!" then return if (← operand look skipped fuel) = 0 then 1 else 0
      else if o = "~" then return -(← operand look skipped fuel) - 1
      else throw (.expecting "primary")
    | _ => throw (.expecting "primary")

end

/-- The value of an expression, and the values that it assigns to variables, in order. -/
def evaluate (look : Text → Option Text) (t : Text) :
    Except Mistake (Int × List (Text × Int)) := do
  let ts := tokens t (t.length + 1)
  let (n, p) ← (assignment look false (8 * ts.length + 16)).run { rest := ts }
  unless p.rest.isEmpty do throw (.expecting "EOF")
  return (n, p.assigned.reverse)

end ServiceWiring.Arithmetic
