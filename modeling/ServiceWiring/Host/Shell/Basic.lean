import ServiceWiring.Host.Program.Options
import ServiceWiring.Host.Script.Reader

/-!
# The state of a shell

A shell runs scripts. It has variables and functions, the arguments of its script, options, and the
status of the last command. `ShellM` is what a command does to a shell; a command may also be left
before its end, which is a `Jump`.
-/

namespace ServiceWiring

/-- A variable of a shell. -/
structure Variable where
  /-- The value, if there is one. -/
  value? : Option Text := none
  /-- Whether programs see it in their environment. -/
  isExported : Bool := false
  /-- Whether it may not be changed. -/
  isReadOnly : Bool := false
deriving DecidableEq, Repr

/-- Why commands are left before their end. -/
inductive Jump where
  /-- The shell ends. -/
  | leave
  /-- The shell is replaced by a program, which has ended, or a signal ends it. -/
  | finished (e : Ending)
  /-- An error, which ends the shell unless a command may fail. -/
  | failed
  /-- So many loops are left, or all but the outermost, which goes on. -/
  | loops (count : Nat) (again : Bool)
  /-- A function or a script is left. -/
  | back
deriving DecidableEq, Repr

/-- A shell. -/
structure Shell where
  /-- What the programs work on. -/
  world : World
  /-- The name that the shell goes by in messages. -/
  name : Text
  /-- Whether it is the larger build, which says more in its messages. -/
  isLarge : Bool := false
  /-- The arguments of the script or of the function. -/
  arguments : List Text := []
  /-- The variables. -/
  bindings : List (Text × Variable) := []
  /-- The functions. -/
  functions : List (Text × Script.Command) := []
  /-- The status of the last command. -/
  status : Nat := 0
  /-- The line of the command that is running. -/
  line : Nat := 0
  /-- The line up to which the script has been read. -/
  readLine : Nat := 0
  /-- The command of the shell that is running, as messages name it. -/
  speaker? : Option Text := none
  /-- The options. -/
  letters : List CodePoint := []
  /-- What is run when signals arrive, or at the end for the number zero. -/
  traps : List (Nat × Text) := []
  /-- The number of the program. -/
  number : Nat := 0
  /-- Whether it is a copy of a shell that runs a part of its script. -/
  isForked : Bool := false
  /-- The numbers of the programs that were not waited for, the last one first, and how they ended.
  -/
  jobs : List (Nat × Nat) := []
  /-- In a function, the variables that get their old values back after it. -/
  hidden? : Option (List (Text × Option Variable)) := none
  /-- The path of the working directory, as it was entered. -/
  path : Text := []
  /-- How many loops are running. -/
  loops : Nat := 0
  /-- The status that an assignment takes from the last substitution. -/
  substituted : Nat := 0
  /-- How many letters of an argument `getopts` has passed. -/
  passedLetters : Nat := 0

/-- What a command does to a shell. -/
abbrev ShellM := ExceptT Jump (StateM Shell)

namespace ShellM

/-- Does something as a program. -/
def lift {α : Type} (action : ProcessM α) : ShellM α :=
  modifyGet fun s =>
    let (a, world) := action.run s.world
    (a, { s with world })

/-- Leaves with the status of the last command. -/
def leave {α : Type} (status : Nat) : ShellM α := do
  modify fun s => { s with status }
  throw .leave

/-- Sets the status of the last command. -/
def setStatus (status : Nat) : ShellM Unit := modify fun s => { s with status }

/-- What an action does, and how it was left if it did not come to its end. -/
def attempt {α : Type} (action : ShellM α) : ShellM (Except Jump α) :=
  fun s =>
    let (result, s) := action s
    (.ok result, s)

/-- Whether an option is on. -/
def hasOption (c : Char) : ShellM Bool := return (← get).letters.contains (CodePoint.ofChar c)

/-! ## Messages -/

/-- A message with the name of the shell, the line and the command in front. -/
def said (s : Shell) (t : Text) : Text :=
  let number := (if s.isLarge then "line " else "") ++ Text.ofNat s.line
  let place : Text := s.name ++ ": " ++ number ++ ": "
  match s.speaker? with
  | some speaker => place ++ speaker ++ ": " ++ t
  | none => place ++ t

/-- Writes a message. -/
def warn (t : Text) : ShellM Unit := do
  lift (ProcessM.complain (said (← get) t))

/-- Writes a message and fails. -/
def fail {α : Type} (t : Text) : ShellM α := do
  warn t
  setStatus 2
  throw .failed

/-! ## Variables -/

/-- A variable. -/
def variableOf? (name : Text) : ShellM (Option Variable) := return (← get).bindings.lookup name

/-- The value of a variable. -/
def value? (name : Text) : ShellM (Option Text) := return (← variableOf? name).bind (·.value?)

/-- Puts a variable in the place of the one of its name, if there is any. -/
def putVariable (name : Text) (v? : Option Variable) : ShellM Unit :=
  modify fun s =>
    let others := s.bindings.filter (·.1 ≠ name)
    { s with bindings := match v? with
        | some v => (name, v) :: others
        | none => others }

/-- Gives a variable a value. -/
def setVariable (name value : Text) : ShellM Unit := do
  let v := (← variableOf? name).getD {}
  if v.isReadOnly then fail (name ++ ": is read only")
  let isExported := v.isExported || (← hasOption 'a')
  if name = "OPTIND" then modify fun s => { s with passedLetters := 0 }
  putVariable name (some { v with value? := some value, isExported })

/-- The variables that programs see, with their values. -/
def environment (s : Shell) : List (Text × Text) :=
  s.bindings.filterMap fun (name, v) =>
    if v.isExported then v.value?.map fun value => (name, value) else none

/-- The characters that fields are separated by. -/
def separators : ShellM Text := return (← value? "IFS").getD " \t\n"

/-! ## Parts of the shell that run by themselves -/

/-- The streams as they are now come back after an action. -/
def keepingStreams {α : Type} (action : ShellM α) : ShellM α := do
  let streams := (← get).world.streams
  let result ← attempt action
  modify fun s => { s with world := { s.world with streams } }
  match result with
  | .ok a => return a
  | .error jump => throw jump

/-- How a shell ends that is left. -/
def endingOf (s : Shell) : Except Jump Unit → Ending
  | .error (.finished e) => e
  | _ => .exited (s.status % 256)

/-- The status of a program that ended. A signal is reported. -/
def statusOf (e : Ending) : ShellM Nat := do
  match e with
  | .exited status => return status
  | .killed n =>
    unless n = 2 || n = 13 do
      lift (ProcessM.complain (signalReason n))
    return 128 + n

/-- Runs an action in a copy of the shell, and tells how that copy ended. What it did to files and
pipes stays. -/
def forked (action : ShellM Unit) : ShellM Ending := do
  let s ← get
  let started := s.world.started + 1
  let traps := s.traps.filter fun (n, t) => n ≠ 0 && t.isEmpty
  let copy : Shell :=
    { s with isForked := true, traps, jobs := [], world := { s.world with started } }
  let (result, copy) := action.run.run copy
  set { s with world :=
    { copy.world with
      streams := s.world.streams
      running := s.world.running
      machine := { copy.world.machine with
        directory := s.world.machine.directory, environment := s.world.machine.environment } } }
  return endingOf copy result

end ShellM

end ServiceWiring
