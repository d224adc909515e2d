import ServiceWiring.Host.Program.World
import ServiceWiring.Text.Number

/-!
# Options of programs

Most programs take options of one letter, which may share a dash and may have a value, and options
with a long name, which may be shortened. Options and other arguments may come in any order, and
after `--` nothing is an option.
-/

namespace ServiceWiring

/-- What an option takes. -/
inductive Takes where
  /-- Nothing. -/
  | nothing
  /-- A value. -/
  | value
  /-- A value, if it stands in the same argument. -/
  | attached
deriving DecidableEq, Repr

/-- An option that a program has. -/
structure Flag where
  /-- The letter that it is known by. -/
  letter : CodePoint
  /-- What it takes. -/
  takes : Takes := .nothing
  /-- The long name, if there is one. -/
  name : Text := []
deriving DecidableEq, Repr

/-- Why the options of a program are refused. -/
inductive BadOption where
  /-- A letter stands for no option. -/
  | unknownLetter (c : CodePoint)
  /-- An option lacks its value. -/
  | noValue (c : CodePoint)
  /-- A long name stands for no option. -/
  | unknownName (arg : Text)
  /-- An option with a long name lacks its value. -/
  | noNamedValue (name : Text)
  /-- An option with a long name takes no value but has one. -/
  | needlessValue (name : Text)
  /-- A shortened name has several meanings. -/
  | ambiguous (arg : Text) (names : List Text)
deriving DecidableEq, Repr

/-- The wording of a refusal. -/
def BadOption.message : BadOption → Text
  | .unknownLetter c => "invalid option -- '" ++ [c] ++ "'"
  | .noValue c => "option requires an argument -- '" ++ [c] ++ "'"
  | .unknownName arg => "unrecognized option '" ++ arg ++ "'"
  | .noNamedValue name => "option '--" ++ name ++ "' requires an argument"
  | .needlessValue name => "option '--" ++ name ++ "' doesn't allow an argument"
  | .ambiguous arg names =>
    let one : Text → Text := fun name => " '--" ++ name ++ "'"
    "option '" ++ arg ++ "' is ambiguous; possibilities:" ++ names.flatMap one

/-- The options with the given letters; those before a colon take a value. -/
def Flag.ofLetters : Text → List Flag
  | c :: 0x3A :: r => { letter := c, takes := .value } :: ofLetters r
  | c :: r => { letter := c } :: ofLetters r
  | [] => []

/-- The options of a program and its other arguments, each in order. -/
structure Arguments where
  /-- The letters of the options, each with its value. -/
  options : List (CodePoint × Text) := []
  /-- The other arguments. -/
  operands : List Text := []
deriving Repr

namespace Arguments

/-- Whether an option is given. -/
def has (a : Arguments) (c : Char) : Bool := a.options.any (·.1 = CodePoint.ofChar c)

/-- The last value of an option. -/
def value? (a : Arguments) (c : Char) : Option Text :=
  a.options.reverse.lookup (CodePoint.ofChar c)

/-- All values of an option. -/
def values (a : Arguments) (c : Char) : List Text :=
  (a.options.filter (·.1 = CodePoint.ofChar c)).map (·.2)

/-- The options that share a dash, and the letter of the last one if its value is still to come. -/
def cluster (flags : List Flag) :
    Text → Except BadOption (List (CodePoint × Text) × Option CodePoint)
  | [] => .ok ([], none)
  | c :: r =>
    match flags.find? (·.letter = c) with
    | none => .error (.unknownLetter c)
    | some flag =>
      match flag.takes with
      | .nothing => do
        let (options, last?) ← cluster flags r
        return ((c, []) :: options, last?)
      | .attached => .ok ([(c, r)], none)
      | .value => .ok (if r.isEmpty then ([], some c) else ([(c, r)], none))

/-- The option that a long name stands for, and its value if it has one; `value?` follows an equals
sign. -/
def named (flags : List Flag) (arg name : Text) (value? : Option Text) :
    Except BadOption (Flag × Option Text) := do
  let meant := flags.filter fun f => !f.name.isEmpty && name.isPrefixOf f.name
  let flag ← match meant.find? (·.name = name), meant with
    | some flag, _ => pure flag
    | none, [] => throw (.unknownName arg)
    | none, flag :: more =>
      if more.all fun f => f.letter = flag.letter then pure flag
      else throw (.ambiguous arg (meant.map (·.name)))
  if flag.takes = .nothing && value?.isSome then throw (.needlessValue flag.name)
  return (flag, value?)

/-- The options and the other arguments. With `anywhere` options may follow other arguments. -/
def read (flags : List Flag) (anywhere : Bool) : List Text → Except BadOption Arguments
  | [] => .ok {}
  | arg :: r => do
    match arg with
    | [0x2D, 0x2D] => return { operands := r }
    | 0x2D :: 0x2D :: body =>
      let (name, value?) := Text.cut 0x3D body
      let (flag, value?) ← named flags arg name value?
      match flag.takes, value?, r with
      | .value, none, [] => throw (.noNamedValue flag.name)
      | .value, none, value :: r =>
        let a ← read flags anywhere r
        return { a with options := (flag.letter, value) :: a.options }
      | _, value?, r =>
        let a ← read flags anywhere r
        return { a with options := (flag.letter, value?.getD []) :: a.options }
    | 0x2D :: c :: body =>
      match ← cluster flags (c :: body), r with
      | (options, none), r =>
        let a ← read flags anywhere r
        return { a with options := options ++ a.options }
      | (_, some c), [] => throw (.noValue c)
      | (options, some c), value :: r =>
        let a ← read flags anywhere r
        return { a with options := options ++ (c, value) :: a.options }
    | _ =>
      if anywhere then
        let a ← read flags anywhere r
        return { a with operands := arg :: a.operands }
      else return { operands := arg :: r }

end Arguments

/-! ## Complaints of programs -/

namespace ProcessM

/-- Complains in the name of a program. -/
def warn (name message : Text) : ProcessM Unit := complain (name ++ ": " ++ message)

/-- Complains and points at the help of a program. -/
def misuse (name message : Text) : ProcessM Unit := do
  warn name message
  complain ("Try '" ++ name ++ " --help' for more information.")

/-- Does something with the arguments of a program, or complains about its options. -/
def withArguments (name : Text) (flags : List Flag) (args : List Text) (status : Nat)
    (action : Arguments → ProcessM Nat) : ProcessM Nat := do
  match Arguments.read flags true args with
  | .ok a => action a
  | .error e =>
    misuse name e.message
    return status

end ProcessM

namespace Text

/-- A text between curly quotes. -/
def curly (t : Text) : Text := 0x2018 :: t ++ [0x2019]

/-- Whether a code point has a meaning in the shell. -/
def isShellMark (c : CodePoint) : Bool :=
  c.val ≤ 0x20 || c.val = 0x7F ||
    (Text.ofString "!\"$&'()*;<=>?[\\^`|").contains c

/-- A text as the shell reads it back, between quotes. -/
def shellQuoted (t : Text) : Text :=
  let isRead := fun (c : CodePoint) => (Text.ofString "\"$`\\!").contains c
  if t.contains 0x27 && !t.any isRead then
    0x22 :: t ++ [0x22]
  else 0x27 :: (t.flatMap fun c => if c = 0x27 then "'\\''" else [c]) ++ [0x27]

/-- A text as the shell reads it back, between quotes only if it needs them. -/
def shellWord (t : Text) : Text :=
  if t.isEmpty || t.any isShellMark || t.head? = some 0x23 || t.head? = some 0x7E then t.shellQuoted
  else t

end Text

end ServiceWiring
