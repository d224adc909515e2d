import ServiceWiring.Host.Shell.Arithmetic
import ServiceWiring.Host.Shell.Basic
import ServiceWiring.Host.Shell.Field

/-!
# Expansion of words

Parameters, arithmetic and the output of commands take their places in the words of a command. The
functions here are given what runs a command for its output.
-/

namespace ServiceWiring.Expansion

open Script (Part Word Change Command)
open ServiceWiring.ShellM ServiceWiring.Field

/-! ## Parameters -/

/-- The letters of the options, in the order in which they are told. -/
def letterOrder : Text := "ubaCEVvxsnmiIfe"

/-- What stands between the arguments in one text. -/
def argumentGap : ShellM Text := do
  match ← value? "IFS" with
  | none => return " "
  | some separators => return separators.take 1

/-- The value of a parameter, if it is set. -/
def parameter? (name : Text) : ShellM (Option Text) := do
  let s ← get
  match name with
  | [c] =>
    match Char.ofNat c.val with
    | '@' | '*' =>
      if s.arguments.isEmpty then return none
      return some (Text.joinWith (← argumentGap) s.arguments)
    | '#' => return some (Text.ofNat s.arguments.length)
    | '?' => return some (Text.ofNat s.status)
    | '$' => return some (Text.ofNat s.number)
    | '!' => return s.jobs.head?.map fun (n, _) => Text.ofNat n
    | '-' => return some (letterOrder.filter s.letters.contains)
    | '0' => return some s.name
    | _ =>
      if c.isDigit then return s.arguments[c.val - 0x31]?
      else value? name
  | name =>
    if name.all CodePoint.isDigit then
      let n := Text.natOfDigits name
      return if n = 0 then some s.name else s.arguments[n - 1]?
    else value? name

/-- Whether a parameter stands for all arguments. -/
def isList (name : Text) : Bool := name = "@" || name = "*"

/-- The marks of a parameter's value. Where fields are made, arguments stay apart. -/
def valueMarks (name : Text) (isQuoted makesFields : Bool) (value : Text) : ShellM (List Mark) := do
  let s ← get
  let one := fun (t : Text) => marks isQuoted (!isQuoted) t
  if makesFields && name = "@" && isQuoted then
    return (s.arguments.map fun t => .quotes :: one t).intersperse [.border] |>.flatten
  else if makesFields && isList name && !isQuoted then
    return (s.arguments.map one).intersperse [.gap] |>.flatten
  else return one value

/-! ## Tildes -/

/-- The directory of a user whose name follows a tilde. -/
def home? (user : Text) : ShellM (Option Text) := do
  if user.isEmpty then value? "HOME"
  else if user = "root" then return some "/root"
  else return none

/-- The marks of text outside quotes. A tilde stands for a directory at its start if it may, and in
an assignment after a colon. -/
def plainMarks (assigns mayStart isLast : Bool) (t : Text) : Nat → ShellM (List Mark)
  | 0 => return marks false false t
  | fuel + 1 => do
    let ends := fun (c : CodePoint) => c = Path.slash || assigns && c = 0x3A
    let rest := fun (t : Text) => do
      match Text.cut 0x3A t with
      | (u, some v) =>
        if assigns then
          return marks false false (u ++ [0x3A]) ++ (← plainMarks assigns true isLast v fuel)
        else return marks false false t
      | (u, none) => return marks false false u
    match t with
    | 0x7E :: r =>
      let user := r.takeWhile fun c => !ends c
      let after := r.drop user.length
      if mayStart && (!after.isEmpty || isLast) then
        match ← home? user with
        | some path => return marks true false path ++ (← rest after)
        | none => rest t
      else rest t
    | t => rest t

/-! ## Words -/

/-- Marks that may separate fields where they are not quoted. -/
def dividing (ms : List Mark) : List Mark :=
  ms.map fun
    | .char c isQuoted _ => .char c isQuoted (!isQuoted)
    | m => m

/-- The value of an arithmetic expression. -/
def arithmetic (t : Text) : ShellM Text := do
  let s ← get
  match Arithmetic.evaluate (fun name => (s.bindings.lookup name).bind (·.value?)) t with
  | .error mistake => fail (mistake.message t)
  | .ok (n, assigned) =>
    for (name, n) in assigned do
      setVariable name (Text.ofInt n)
    return Text.ofInt n

/-- Whether a part of a word with a value of its own stands between quotes. -/
def isInQuotes : Part → Bool
  | .parameter _ _ _ isQuoted | .output _ isQuoted | .number _ isQuoted => isQuoted
  | _ => false

mutual

/-- The marks of a part of a word. -/
def part (run : Command → ShellM Text) (makesFields : Bool) : Part → ShellM (List Mark)
  | .plain t => return marks false false t
  | .quoted t => return .quotes :: marks true false t
  | .malformed _ => fail "Bad substitution"
  | .output c isQuoted => return marks isQuoted (!isQuoted) (← run c)
  | .number e isQuoted => do
    let t := text (← parts run false false false e)
    return marks isQuoted (!isQuoted) (← arithmetic t)
  | .parameter name change word isQuoted => do
    let value? ← parameter? name
    let missing := fun (orEmpty : Bool) => value?.isNone || orEmpty && value? = some []
    let needed : ShellM Text := do
      match value? with
      | some value => return value
      | none =>
        if (← hasOption 'u') && !isList name then fail (name ++ ": parameter not set")
        return []
    let itself := do valueMarks name isQuoted makesFields (← needed)
    let other := do
      let ms ← parts run makesFields false true word
      return if isQuoted then ms else dividing ms
    match change with
    | .keep => itself
    | .length => return marks isQuoted false (Text.ofNat (Utf8.nameOctets (← needed)).length)
    | .default orEmpty => if missing orEmpty then other else itself
    | .instead orEmpty => if missing orEmpty then return [] else other
    | .assign orEmpty =>
      if missing orEmpty then
        let value := text (← parts run false false true word)
        setVariable name value
        return marks isQuoted (!isQuoted) value
      else itself
    | .require orEmpty =>
      if missing orEmpty then
        let message := text (← parts run false false true word)
        let usual : Text := if orEmpty then "parameter not set or null" else "parameter not set"
        fail (name ++ ": " ++ if word.isEmpty then usual else message)
      else itself
    | .dropStart longest =>
      let p ← parts run false false true word
      return marks isQuoted (!isQuoted) (dropStart longest p (← needed))
    | .dropEnd longest =>
      let p ← parts run false false true word
      return marks isQuoted (!isQuoted) (dropEnd longest p (← needed))

/-- The marks of the parts of a word; `mayStart` tells whether a tilde may stand at its start. -/
def parts (run : Command → ShellM Text) (makesFields assigns mayStart : Bool) :
    List Part → ShellM (List Mark)
  | [] => return []
  | .plain t :: r => do
    let ms ← plainMarks assigns mayStart r.isEmpty t (t.length + 1)
    return ms ++ (← parts run makesFields assigns false r)
  | p :: r => do
    let ms ← part run makesFields p
    -- Quotes around the arguments alone make no field of nothing.
    let alone := match p, r with
      | .quoted [], .parameter [0x40] .keep [] true :: after =>
        makesFields && !after.head?.any isInQuotes
      | _, _ => false
    return (if alone then [] else ms) ++ (← parts run makesFields assigns false r)

end

/-- The text of a word that is not divided. In an assignment tildes may follow colons. -/
def wordText (run : Command → ShellM Text) (assigns : Bool) (w : Word) : ShellM Text :=
  return text (← parts run false assigns true w)

/-- The text that a redirection holds. -/
def heldText (run : Command → ShellM Text) (w : Word) : ShellM Text :=
  return text (← parts run false false false w)

/-- The marks of a word that is a pattern. -/
def wordPattern (run : Command → ShellM Text) (w : Word) : ShellM (List Mark) :=
  parts run false false true w

/-- The fields of a word. -/
def wordFields (run : Command → ShellM Text) (w : Word) : ShellM (List Text) := do
  let ms ← parts run true false true w
  let fields := split (← separators) [] .nothing ms
  if ← hasOption 'f' then return fields.map text
  let machine := (← get).world.machine
  return fields.flatMap (paths machine)

end ServiceWiring.Expansion
