import ServiceWiring.Host.Program.Rules.Scanner
import ServiceWiring.Text.Digits

/-!
# Reading rules

An expression is read by levels, from the operators that bind least to those that bind most. Where
values are written, a sign for "greater" outside of parentheses names what they are written to.
-/

namespace ServiceWiring.Rules

/-- The tokens that are left. -/
abbrev ReadM := ExceptT Mistake (StateM (List (Token × Nat)))

namespace Reading

/-- The next token, if there is one. -/
def peek : ReadM (Option Token) := return (← get).head?.map (·.1)

/-- Passes the next token. -/
def pass : ReadM Unit := modify (·.drop 1)

/-- How a token is shown. -/
def shown : Token → Text
  | .number t | .pattern t | .name t | .routine t => t
  | .text t => t
  | .mark t => if t = "\n" then "end of line" else t

/-- Refuses the next token. -/
def refuse {α : Type} : ReadM α := do
  match ← peek with
  | some t => throw (.unexpected (shown t))
  | none => throw (.unexpected "end of file")

/-- Whether the next token is a mark. -/
def sees (t : Text) : ReadM Bool := return (← peek) = some (.mark t)

/-- Whether the next token is a word. -/
def seesWord (t : Text) : ReadM Bool := return (← peek) = some (.name t)

/-- Passes a mark, if it comes next. -/
def accept (t : Text) : ReadM Bool := do
  if ← sees t then
    pass
    return true
  else return false

/-- Passes a mark, which has to come next. -/
def expect (t : Text) : ReadM Unit := do
  unless ← accept t do refuse

/-- Passes a name, which has to come next. -/
def name : ReadM Text := do
  match ← peek with
  | some (.name t) =>
    if words.contains t then refuse
    pass
    return t
  | _ => refuse

/-- Passes line breaks. -/
def passBreaks : ReadM Unit := modify (·.dropWhile fun (t, _) => t = .mark "\n")

/-- Passes what may come between actions. -/
def passDividers : ReadM Unit :=
  modify (·.dropWhile fun (t, _) => t = .mark "\n" || t = .mark ";")

/-- The pattern that a text spells. -/
def patternOf (t : Text) : Except Regex.Flaw Pattern :=
  Regex.read { extended := true, narrow := true } (spelled t)
where
  /-- The text with the escapes that stand for a character replaced. -/
  spelled : Text → Text
    | 0x5C :: c :: r =>
      match escaped? c with
      | some d =>
        if c = 0x22 || d < 0x20 then d :: spelled r else 0x5C :: c :: spelled r
      | none => 0x5C :: c :: spelled r
    | c :: r => c :: spelled r
    | [] => []

/-- The number that a token spells. -/
def numberOf (t : Text) : Binary64 :=
  let (mantissa, exponent) := (t.takeWhile fun c => c.isDigit || c = 0x2E,
    (t.dropWhile fun c => c.isDigit || c = 0x2E).drop 1)
  let (whole, places?) := Text.cut '.' mantissa
  let places := places?.getD []
  let ds := whole ++ places
  let e : Int := match exponent with
    | 0x2D :: r => -(Text.natOfDigits r : Int)
    | 0x2B :: r | r => Text.natOfDigits r
  Binary64.ofDecimal false (Text.natOfDigits ds) ds.length (e - places.length)

/-! ## Operators -/

/-- The operators that join two expressions on a level, and what they make of them. -/
def operators : Nat → List (Text × (Expr → Expr → Expr))
  | 0 => [("||", .either)]
  | 1 => [("&&", .both)]
  | 3 => [("~", .accepts), ("!~", fun a b => .not (.accepts a b))]
  | 4 => [("<", .compare .less), ("<=", .compare .notGreater), ("==", .compare .equal),
      ("!=", .compare .notEqual), (">=", .compare .notLess), (">", .compare .greater)]
  | 6 => [("+", .calculate .add), ("-", .calculate .subtract)]
  | 7 => [("*", .calculate .multiply), ("/", .calculate .divide), ("%", .calculate .remainder)]
  | _ => []

/-- The operators that give something a value. -/
def assignments : List (Text × Option Operation) :=
  [("=", none), ("+=", some .add), ("-=", some .subtract), ("*=", some .multiply),
    ("/=", some .divide), ("%=", some .remainder), ("^=", some .power)]

/-- Whether a token can start an expression that is joined to the one before it. -/
def startsOperand : Token → Bool
  | .number _ | .text _ | .pattern _ | .routine _ => true
  | .name t => !words.contains t
  | .mark t => (["(", "$", "++", "--"] : List Text).contains t

/-- The operator of a level that comes next. Where values are `written`, none is "greater". -/
def operator? (written : Bool) (level : Nat) : ReadM (Option (Expr → Expr → Expr)) := do
  match ← peek with
  | some (.mark t) => return if written && t = ">" then none else (operators level).lookup t
  | _ => return none

/-- The arguments of a function that takes the record where it is given none. -/
def arguments (f : Function) (args : List Expr) : List Expr :=
  match f, args with
  | .length, [] => [.record]
  | .sub, [p, t] => [p, t, .record]
  | .gsub, [p, t] => [p, t, .record]
  | _, args => args

/-- One index made of several ones. -/
def joined : List Expr → Expr
  | [] => .text []
  | [e] => e
  | e :: es => .join (.join e (.named "SUBSEP")) (joined es)

/-- What reads the expressions inside of others. -/
structure Readers where
  /-- Reads an expression. -/
  expression : Bool → ReadM Expr
  /-- Reads what the operators of a level join. -/
  level : Bool → Nat → ReadM Expr
  /-- Reads what follows an expression on a level. -/
  more : Bool → Nat → Expr → ReadM Expr
  /-- Reads an expression with signs in front. -/
  unary : ReadM Expr
  /-- Reads an operand. -/
  operand : ReadM Expr
  /-- Reads expressions with commas between them. -/
  expressions : Bool → ReadM (List Expr)

namespace Readers

/-- Reads what may be given a value before it is used. -/
def readExpression (again : Readers) (written : Bool) : ReadM Expr := do
  let e ← again.level written 0
  if e.isTarget then
    if let some (.mark t) ← peek then
      if let some op? := assignments.lookup t then
        pass
        passBreaks
        return .assign e op? (← again.expression written)
  if ← accept "?" then
    passBreaks
    let yes ← again.expression written
    passBreaks
    expect ":"
    passBreaks
    return .choose e yes (← again.expression written)
  return e

/-- Reads what a record is read into. -/
def readTarget (again : Readers) : ReadM Expr := do
  match ← peek with
  | some (.mark t) => if t = "$" then again.operand else return .record
  | some (.name t) => if words.contains t then return .record else again.operand
  | _ => return .record

/-- Reads what follows an expression on a level. -/
def readMore (again : Readers) (written : Bool) (n : Nat) (e : Expr) : ReadM Expr := do
  match ← operator? written n with
  | some make =>
    pass
    if n ≤ 1 then passBreaks
    again.more written n (make e (← again.level written (n + 1)))
  | none =>
    if n = 2 && (← seesWord "in") then
      pass
      let e := match e with
        | .several es => joined es
        | e => e
      again.more written n (.holds e (← name))
    else if n = 4 && (← sees "|") && (← get)[1]?.any (·.1 = .name "getline") then
      pass
      pass
      again.more written n (.read .command e (← again.readTarget))
    else if n = 5 && (← peek).any startsOperand then
      again.more written n (.join e (← again.level written (n + 1)))
    else return e

/-- Reads an operand that may be changed before or after it is used. -/
def readStepped (again : Readers) : ReadM Expr := do
  let e ← again.operand
  if e.isTarget then
    if ← accept "++" then return .step e true true
    if ← accept "--" then return .step e false true
  return e

/-- Zero, to which signs refer. -/
def zero : Expr := .number (Binary64.zero false)

/-- Reads an expression with signs in front. -/
def readUnary (again : Readers) : ReadM Expr := do
  if ← accept "!" then return .not (← again.unary)
  if ← accept "-" then return .calculate .subtract zero (← again.unary)
  if ← accept "+" then return .calculate .add zero (← again.unary)
  let e ← again.readStepped
  if ← accept "^" then return .calculate .power e (← again.unary)
  return e

/-- Reads what stands between parentheses. -/
def readArguments (again : Readers) : ReadM (List Expr) := do
  passBreaks
  let es ← if ← sees ")" then pure [] else again.expressions false
  passBreaks
  expect ")"
  return es

/-- Reads what a name starts. -/
def readNamed (again : Readers) (t : Text) : ReadM Expr := do
  if t = "getline" then
    let target ← again.readTarget
    if ← accept "<" then return .read .file (← again.readStepped) target
    return .read .input (.text []) target
  match Function.names.lookup t with
  | some f =>
    if ← accept "(" then return .call f (arguments f (← again.readArguments))
    else if f = .length then return .call f [.record]
    else refuse
  | none =>
    if ← accept "[" then
      let es ← again.expressions false
      expect "]"
      return .item t (joined es)
    else return .named t

/-- Reads an operand. -/
def readOperand (again : Readers) : ReadM Expr := do
  match ← peek with
  | some (.number t) =>
    pass
    return .number (numberOf t)
  | some (.text t) =>
    pass
    return .text t
  | some (.pattern t) =>
    pass
    match patternOf t with
    | .ok p => return .pattern p
    | .error _ => throw (.badPattern t)
  | some (.routine t) =>
    pass
    expect "("
    return .apply t (← again.readArguments)
  | some (.name t) =>
    if words.contains t && t ≠ "getline" then refuse
    pass
    again.readNamed t
  | some (.mark t) =>
    if t = "(" then
      pass
      return .several (← again.readArguments)
    else if t = "$" then
      pass
      if ← accept "-" then return .field (.calculate .subtract zero (← again.operand))
      return .field (← again.operand)
    else if t = "++" || t = "--" then
      pass
      let e ← again.operand
      unless e.isTarget do refuse
      return .step e (t = "++") false
    else refuse
  | none => refuse

/-- Reads expressions with commas between them. -/
def readExpressions (again : Readers) (written : Bool) : ReadM (List Expr) := do
  let e ← again.expression written
  if ← accept "," then
    passBreaks
    return e :: (← again.expressions written)
  else return [e]

/-- Reads what the operators of a level join. -/
def readLevel (again : Readers) (written : Bool) (n : Nat) : ReadM Expr := do
  again.more written n (← again.level written (n + 1))

/-- The readers that read expressions as deep as the fuel allows. -/
def ofFuel : Nat → Readers
  | 0 =>
    { expression := fun _ => refuse, level := fun _ _ => refuse, more := fun _ _ _ => refuse
      unary := refuse, operand := refuse, expressions := fun _ => refuse }
  | fuel + 1 =>
    { expression := fun written s => readExpression (ofFuel fuel) written s
      level := fun written n s =>
        if 8 ≤ n then (ofFuel fuel).unary s
        else readLevel (ofFuel fuel) written n s
      more := fun written n e s => readMore (ofFuel fuel) written n e s
      unary := fun s => readUnary (ofFuel fuel) s
      operand := fun s => readOperand (ofFuel fuel) s
      expressions := fun written s => readExpressions (ofFuel fuel) written s }

end Readers

/-! ## Actions -/

/-- What reads the actions inside of others. -/
structure ActionReaders where
  /-- What reads expressions. -/
  expressions : Readers
  /-- Reads an action. -/
  action : ReadM Action
  /-- Reads actions up to the brace that closes them. -/
  actions : ReadM Action

namespace ActionReaders

/-- Passes what ends an action, unless a brace follows that closes several. -/
def endAction : ReadM Unit := do
  if (← sees "\x7d") || (← peek).isNone then return
  if (← sees ";") || (← sees "\n") then pass else refuse

/-- Reads the values that are written, and what they are written to. -/
def readWrite (again : ActionReaders) (formatted : Bool) : ReadM Action := do
  let ends := fun (t : Token) =>
    match t with
    | .mark t => ([";", "\n", "\x7d", ">", ">>", "|"] : List Text).contains t
    | _ => false
  let es ← if (← peek).all ends then pure [] else again.expressions.expressions true
  let es := match es with
    | [.several es] => es
    | es => es
  let sink : Sink ←
    if ← accept ">" then pure .file
    else if ← accept ">>" then pure .fileEnd
    else if ← accept "|" then pure .command
    else pure .output
  let place ← if sink = .output then pure (.text []) else again.expressions.level true 5
  return .write formatted (if es.isEmpty then [.record] else es) sink place

/-- Reads an action that holds no others. -/
def readSimple (again : ActionReaders) : ReadM Action := do
  match ← peek with
  | some (.name t) =>
    if t = "print" || t = "printf" then
      pass
      again.readWrite (t = "printf")
    else if t = "delete" then
      pass
      let array ← name
      if ← accept "[" then
        let es ← again.expressions.expressions false
        expect "]"
        return .delete array (some (joined es))
      else return .delete array none
    else return .evaluate (← again.expressions.expression false)
  | _ => return .evaluate (← again.expressions.expression false)

/-- Reads an action after a test or the head of a loop. -/
def readBody (again : ActionReaders) : ReadM Action := do
  passBreaks
  if ← accept ";" then return .nothing
  again.action

/-- Reads a test in parentheses. -/
def readTest (again : ActionReaders) : ReadM Expr := do
  expect "("
  let e ← again.expressions.expression false
  expect ")"
  return e

/-- Reads the head and the body of a loop with a counter, or over an array. -/
def readFor (again : ActionReaders) : ReadM Action := do
  expect "("
  match ← get with
  | (.name n, _) :: (.name t, _) :: (.name array, _) :: (.mark m, _) :: r =>
    if t = "in" && m = ")" then
      set r
      return .each n array (← again.readBody)
  | _ => pure ()
  let first ← if ← sees ";" then pure .nothing else again.readSimple
  expect ";"
  passBreaks
  let test ← if ← sees ";" then pure (.number (Binary64.ofInt 1))
    else again.expressions.expression false
  expect ";"
  passBreaks
  let after ← if ← sees ")" then pure .nothing else again.readSimple
  expect ")"
  return .sequence first (.loop test (← again.readBody) after)

/-- Reads the value that something ends with, if there is one. -/
def readValue? (again : ActionReaders) : ReadM (Option Expr) := do
  if (← sees ";") || (← sees "\n") || (← sees "\x7d") || (← peek).isNone then return none
  else return some (← again.expressions.expression false)

/-- Reads an action. -/
def readAction (again : ActionReaders) : ReadM Action := do
  let word := fun (a : ReadM Action) => do
    pass
    a
  let plain := fun (a : ReadM Action) => do
    let a ← a
    endAction
    return a
  if ← accept "\x7b" then return ← again.actions
  if ← accept ";" then return .nothing
  match ← peek with
  | some (.name t) =>
    if t = "if" then word do
      let test ← again.readTest
      let yes ← again.readBody
      let before ← get
      passDividers
      if ← seesWord "else" then
        pass
        return .choose test yes (← again.readBody)
      else
        set before
        return .choose test yes .nothing
    else if t = "while" then word do
      let test ← again.readTest
      return .loop test (← again.readBody) .nothing
    else if t = "do" then word do
      let body ← again.readBody
      passDividers
      unless ← seesWord "while" do refuse
      pass
      plain (return .again body (← again.readTest))
    else if t = "for" then word again.readFor
    else if t = "break" then plain (word (return .stop))
    else if t = "continue" then plain (word (return .skip))
    else if t = "next" then plain (word (return .next))
    else if t = "exit" then plain (word (return .leave (← again.readValue?)))
    else if t = "return" then plain (word (return .back (← again.readValue?)))
    else plain again.readSimple
  | _ => plain again.readSimple

/-- Reads actions up to the brace that closes them. -/
def readActions (again : ActionReaders) : ReadM Action := do
  passDividers
  if ← accept "\x7d" then return .nothing
  if (← peek).isNone then throw .openAction
  let a ← again.action
  return .sequence a (← again.actions)

/-- The readers that read actions as deep as the fuel allows. -/
def ofFuel (expressions : Readers) : Nat → ActionReaders
  | 0 => { expressions, action := refuse, actions := refuse }
  | fuel + 1 =>
    { expressions
      action := fun s => readAction (ofFuel expressions fuel) s
      actions := fun s => readActions (ofFuel expressions fuel) s }

/-- Reads one rule. -/
def readRule (again : ActionReaders) : ReadM Rule := do
  let occasion : Occasion ←
    if ← seesWord "BEGIN" then
      pass
      pure .start
    else if ← seesWord "END" then
      pass
      pure .stop
    else if ← sees "\x7b" then pure .always
    else do
      let e ← again.expressions.expression false
      if ← accept "," then
        passBreaks
        pure (.between e (← again.expressions.expression false))
      else pure (.whenever e)
  if ← accept "\x7b" then return ⟨occasion, ← again.actions⟩
  match occasion with
  | .start | .stop => refuse
  | _ => return ⟨occasion, .write false [.record] .output (.text [])⟩

/-- Reads names with commas between them, up to the parenthesis that closes them. -/
def readParameters : Nat → ReadM (List Text)
  | 0 => refuse
  | fuel + 1 => do
    passBreaks
    if ← accept ")" then return []
    let t ← name
    passBreaks
    discard (accept ",")
    return t :: (← readParameters fuel)

/-- Reads a routine after the word that starts it. -/
def readRoutine (again : ActionReaders) : ReadM Routine := do
  match ← peek with
  | some (.routine name) =>
    pass
    expect "("
    let parameters ← readParameters ((← get).length + 1)
    passBreaks
    expect "\x7b"
    return ⟨name, parameters, ← again.actions⟩
  | _ => refuse

/-- Reads rules and routines up to the end. -/
def readAll (again : ActionReaders) (found : Book) : Nat → ReadM Book
  | 0 => refuse
  | fuel + 1 => do
    passDividers
    if (← peek).isNone then return found
    if (← seesWord "function") || (← seesWord "func") then
      pass
      let r ← again.readRoutine
      readAll again { found with routines := found.routines ++ [r] } fuel
    else
      let r ← again.readRule
      readAll again { found with rules := found.rules ++ [r] } fuel

end ActionReaders

end Reading

/-- The names of the routines. -/
def routineNames : List (Token × Nat) → List Text
  | (.name word, _) :: (.name t, n) :: r =>
    let more := routineNames ((.name t, n) :: r)
    if word = "function" || word = "func" then t :: more else more
  | _ :: r => routineNames r
  | [] => []

/-- The program that a text spells. -/
def readBook (t : Text) : Except MistakeAt Book := do
  let found ← tokens 1 false t
  let names := routineNames found
  let found := found.map fun (token, n) =>
    match token with
    | .name t => (if names.contains t then Token.routine t else .name t, n)
    | token => (token, n)
  let fuel := 16 * (found.length + 2)
  let readers := Reading.ActionReaders.ofFuel (Reading.Readers.ofFuel fuel) fuel
  match (readers.readAll {} (found.length + 1)).run.run found with
  | (.ok book, _) => return book
  | (.error mistake, left) =>
    let last := (found.getLast?.map (·.2)).getD 1
    let line := match left, mistake with
      | _, .openAction => last + 1
      | (_, line) :: _, _ => line
      | [], _ => last
    throw ⟨mistake, line⟩

end ServiceWiring.Rules
