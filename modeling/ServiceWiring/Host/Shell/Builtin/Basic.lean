import ServiceWiring.Host.Shell.Basic
import ServiceWiring.Host.Shell.Field

/-!
# Commands of the shell itself

Some commands are part of the shell. Those that are special end the shell if they fail, and keep the
assignments in front of them.
-/

namespace ServiceWiring

/-- A command that is part of the shell. -/
inductive Builtin where
  /-- Leaves loops, or with `again` goes on with their next turn. -/
  | leaveLoops (again : Bool)
  /-- Changes the working directory. -/
  | enter
  /-- Finds a command without regard to functions. -/
  | command
  /-- Does nothing, and succeeds or fails. -/
  | done (succeeds : Bool)
  /-- Writes its arguments. -/
  | echo
  /-- Runs its arguments as a script. -/
  | evaluate
  /-- Replaces the shell by a program. -/
  | replace
  /-- Ends the shell. -/
  | leave
  /-- Shows variables to programs, or with `protects` protects them. -/
  | declare (protects : Bool)
  /-- Reads the options of a script. -/
  | readOptions
  /-- Sends signals. -/
  | kill
  /-- Gives a function variables of its own. -/
  | hide
  /-- Writes its arguments in a format. -/
  | printf
  /-- Writes the working directory. -/
  | directory
  /-- Reads a line. -/
  | readLine
  /-- Leaves a function or a script. -/
  | back
  /-- Sets options and arguments. -/
  | set
  /-- Drops arguments. -/
  | shift
  /-- Runs a script in this shell. -/
  | source
  /-- Tells whether a condition holds. -/
  | test
  /-- Writes how much time has been used. -/
  | times
  /-- Sets what is run when a signal arrives. -/
  | trap
  /-- Tells what kind of command a name stands for. -/
  | type
  /-- Writes which rights new files lack. -/
  | mask
  /-- Removes variables and functions. -/
  | unset
  /-- Waits for programs. -/
  | wait
deriving DecidableEq, Repr

namespace Builtin

/-- The commands that are special, by their names. -/
def special : List (Text × Builtin) :=
  [(".", source), (":", done true), ("break", leaveLoops false), ("continue", leaveLoops true),
    ("eval", evaluate), ("exec", replace), ("exit", leave), ("export", declare false),
    ("local", hide), ("readonly", declare true), ("return", back), ("set", set), ("shift", shift),
    ("times", times), ("trap", trap), ("unset", unset)]

/-- The other commands, by their names. -/
def plain : List (Text × Builtin) :=
  [("[", test), ("alias", done true), ("bg", done true), ("cd", enter), ("chdir", enter),
    ("command", command), ("echo", echo), ("false", done false), ("fg", done true),
    ("getopts", readOptions), ("hash", done true), ("jobs", done true), ("kill", kill),
    ("printf", printf), ("pwd", directory), ("read", readLine), ("test", test),
    ("true", done true), ("type", type), ("ulimit", done true), ("umask", mask),
    ("unalias", done true), ("wait", wait)]

/-- The command of a name, and whether it is special. -/
def named? (name : Text) : Option (Builtin × Bool) :=
  match special.lookup name with
  | some b => some (b, true)
  | none => (plain.lookup name).map (·, false)

/-- Whether arguments that are assignments are expanded as such. -/
def assigns : Builtin → Bool
  | declare _ | hide => true
  | _ => false

end Builtin

namespace ShellM

/-- Writes to the output. The status tells whether that was possible. -/
def emit (o : Octets) : ShellM Nat := do
  if ← lift (ProcessM.write 1 o) then return 0
  warn ((← get).speaker?.getD [] ++ ": I/O error")
  return 1

/-- Writes a text to the output. -/
def emitText (t : Text) : ShellM Nat := emit (Utf8.nameOctets t)

/-- The letters of the options at the start of arguments, each with its value, and the other
arguments. A letter before a colon takes a value. -/
def optionsOf (letters : Text) : List Text → ShellM (List (CodePoint × Text) × List Text)
  | [] => return ([], [])
  | arg :: r => do
    match arg with
    | [0x2D] => return ([], arg :: r)
    | [0x2D, 0x2D] => return ([], r)
    | 0x2D :: cluster =>
      let (options, wanting?) ← read cluster
      match wanting?, r with
      | none, r =>
        let (more, rest) ← optionsOf letters r
        return (options ++ more, rest)
      | some c, value :: r =>
        let (more, rest) ← optionsOf letters r
        return (options ++ (c, value) :: more, rest)
      | some c, [] => fail ("No arg for -" ++ [c] ++ " option")
    | _ => return ([], arg :: r)
where
  /-- The options of one argument, and the letter that wants the next argument for its value. -/
  read : Text → ShellM (List (CodePoint × Text) × Option CodePoint)
    | [] => return ([], none)
    | c :: r => do
      if c = 0x3A || !letters.contains c then fail ("Illegal option -" ++ [c])
      if (letters.zip (letters.drop 1)).contains (c, 0x3A) then
        return if r.isEmpty then ([], some c) else ([(c, r)], none)
      let (options, wanting?) ← read r
      return ((c, []) :: options, wanting?)

/-- The number that an argument is. -/
def numberOf (t : Text) : ShellM Nat := do
  if t.isEmpty || !t.all CodePoint.isDigit then fail ("Illegal number: " ++ t)
  return Text.natOfDigits t

/-- A text between single quotes, as the shell reads it back. -/
def singleQuoted (t : Text) : Text :=
  let quote : Text := "'"
  let broken : Text := "'\"'\"'"
  quote ++ Text.joinWith broken (Text.splitOn 0x27 t) ++ quote

end ShellM

end ServiceWiring
