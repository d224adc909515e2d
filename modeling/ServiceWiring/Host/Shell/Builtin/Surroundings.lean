import ServiceWiring.Host.Shell.Builtin.Variables
import ServiceWiring.Host.Program.Condition
import ServiceWiring.Path.Normal

/-!
# Commands for the surroundings of a shell

The commands of the shell that deal with the working directory, with signals and programs, and with
what names of commands stand for; and those that are programs of their own as well.
-/

namespace ServiceWiring.ShellM

/-! ## Directories -/

/-- Enters the directory of a path, if it is one. A path is walked by its names, so that a step back
undoes a step through a link. -/
def tryDirectory (physical : Bool) (path : Text) : ShellM Bool := do
  let s ← get
  let logical := Path.normalize (Path.join s.path path)
  let m := s.world.machine
  match m.find .look (if physical then path else logical) with
  | .ok (place, .directory) =>
    let shown := if physical then Machine.pathOf place else logical
    set { s with
      path := shown, world := { s.world with machine := { m with directory := place } } }
    for (name, value) in ([("OLDPWD", s.path), ("PWD", shown)] : List (Text × Text)) do
      setVariable name value
      putVariable name (some { (← variableOf? name).getD {} with isExported := true })
    return true
  | _ => return false

/-- Changes the working directory. -/
def enter (args : List Text) : ShellM Nat := do
  let (options, args) ← optionsOf "LP" args
  let physical := options.getLast?.any fun (c, _) => c = 0x50
  let (target, shows) ← match args with
    | [] => pure ((← value? "HOME").getD [], false)
    | path :: _ =>
      if path = "-" then pure ((← value? "OLDPWD").getD [], true) else pure (path, false)
  let first := Path.base (target.takeWhile (· ≠ Path.slash))
  let isPlain := !Path.isAbsolute target && first ≠ "." && first ≠ ".."
  let starts : List Text := match ← value? "CDPATH" with
    | some t => if isPlain then Text.splitOn 0x3A t else [[]]
    | none => [[]]
  let wanted : Text := if target.isEmpty then "." else target
  for start in starts do
    if ← tryDirectory physical (if start.isEmpty then wanted else Path.join start wanted) then
      if shows || !start.isEmpty then
        return ← emitText ((← get).path ++ "\n")
      return 0
  fail ("can't cd to " ++ target)

/-- Writes the working directory. -/
def directory (args : List Text) : ShellM Nat := do
  let (options, _) ← optionsOf "LP" args
  let s ← get
  let physical := options.getLast?.any fun (c, _) => c = 0x50
  emitText ((if physical then Machine.pathOf s.world.machine.directory else s.path) ++ "\n")

/-! ## Programs -/

/-- The directories in which programs are looked for. -/
def searchDirectories : ShellM (List Text) := do
  match ← value? "PATH" with
  | some t => return Text.splitOn 0x3A t
  | none => return []

/-- The path of a name in a directory of the search path. -/
def inDirectory (name dir : Text) : Text := if dir.isEmpty then name else Path.join dir name

/-- The path of a program by its name, or why there is none. -/
def findProgram (name : Text) : ShellM (Except Refusal Text) := do
  let m := (← get).world.machine
  let paths := (← searchDirectories).map (inDirectory name)
  return paths.foldl (fun (found : Except Refusal Text) path =>
    match found, m.find .look path with
    | .ok found, _ => .ok found
    | _, .ok (_, .file ..) => .ok path
    | _, .ok _ => .error .denied
    | .error r, .error fault =>
      if fault.meansAbsent then .error r else .error fault.refusal) (.error .noEntry)

/-- Complains that a program cannot be started. -/
def warnStart (name : Text) (r : Refusal) : ShellM Unit := do
  let isAbsent := r = .noEntry || r = .notDirectory
  let reason : Text :=
    if !(← get).isLarge then if isAbsent then "not found" else r.reason
    else if isAbsent && !name.contains Path.slash then "command not found"
    else r.reason
  warn (name ++ ": " ++ reason)

/-- Tells what kind of command a name stands for, in a sentence or as a word that finds it. -/
def describe (inWords : Bool) (name : Text) : ShellM Nat := do
  let tell := fun (kind : Text) => do
    emitText ((if inWords then name ++ " is " ++ kind else name) ++ "\n")
  if Script.Token.keywords.contains name then tell "a shell keyword"
  else if ((← get).functions.lookup name).isSome then tell "a shell function"
  else
    match Builtin.named? name with
    | some (_, isSpecial) =>
      tell (if isSpecial then "a special shell builtin" else "a shell builtin")
    | none =>
      let path? ← if name.contains Path.slash then
          pure (((← get).world.machine.find .look name).toOption.map fun _ => name)
        else do pure (← findProgram name).toOption
      match path? with
      | some path => emitText ((if inWords then name ++ " is " ++ path else path) ++ "\n")
      | none =>
        if inWords then discard (emitText (name ++ ": not found\n"))
        return 127

/-- Waits for programs, which have all ended already. -/
def wait (args : List Text) : ShellM Nat := do
  args.foldlM (fun _ t => do
    let n ← numberOf t
    return ((← get).jobs.lookup n).getD 127) 0

/-! ## Signals -/

/-- The names of the signals, as the shell knows them. -/
def signalTable : List (Text × Nat) :=
  let low := signals.filter fun (name, n) => n < 34 && name ≠ "STKFLT"
  let name : Nat → Text := fun n =>
    if n = 34 then "RTMIN" else if n = 64 then "RTMAX"
    else if n < 50 then "RTMIN+" ++ Text.ofNat (n - 34)
    else "RTMAX-" ++ Text.ofNat (64 - n)
  low ++ (List.range 31).map fun i => (name (i + 34), i + 34)

/-- The signal that a number or a name in any case stands for. -/
def signalOf? (t : Text) : Option Nat :=
  if !t.isEmpty && t.all CodePoint.isDigit then
    let n := Text.natOfDigits t
    if n < 65 then some n else none
  else
    let upper := t.map fun c => if c.isLower then c - 0x20 else c
    signalTable.lookup upper

/-- The name of a signal, or its number if it has none. -/
def signalName (n : Nat) : Text :=
  if n = 0 then "EXIT"
  else match signalTable.find? (·.2 = n) with
    | some (name, _) => name
    | none => Text.ofNat n

/-- Writes the names of signals. -/
def listSignals (args : List Text) : ShellM Nat := do
  match args with
  | [] =>
    let names : List Text := ("0" : Text) :: (List.range 64).map fun i => signalName (i + 1)
    emitText (names.flatMap (· ++ [0x0A]))
  | t :: _ =>
    let n ← numberOf t
    emitText (signalName (if 128 < n then n - 128 else n) ++ [0x0A])

/-- Sends a signal to a program. One that the shell sends itself ends it at once. -/
def send (signal number : Nat) : ShellM Nat := do
  let s ← get
  if number = s.number && !s.isForked then
    match s.traps.lookup signal with
    | some _ =>
      set { s with world := { s.world with signals := (number, signal) :: s.world.signals } }
      return 0
    | none =>
      unless isHarmless signal do throw (.finished (.killed signal))
      return 0
  else if s.world.running.contains number then
    set { s with world := { s.world with signals := (number, signal) :: s.world.signals } }
    return 0
  else if (s.jobs.lookup number).isSome then return 0
  else
    warn "No such process\n"
    return 1

/-- Sends signals. -/
def kill (args : List Text) : ShellM Nat := do
  let usage : Text := "Usage: kill [-s sigspec | -signum | -sigspec] [pid | job]... or\n" ++
    ("kill -l [exitstatus]" : Text)
  let (signal?, lists, targets) ← match args with
    | (0x2D :: spec) :: r =>
      match signalOf? spec with
      | some n => pure (some n, false, r)
      | none =>
        let (options, r) ← optionsOf "ls:" args
        let signal? ← match options.reverse.lookup 0x73 with
          | none => pure none
          | some name =>
            match signalOf? name with
            | some n => pure (some n)
            | none => fail ("invalid signal number or name: " ++ name)
        pure (signal?, options.any (·.1 = 0x6C), r)
    | args => pure (none, false, args)
  if lists then return ← listSignals targets
  if targets.isEmpty then fail usage
  targets.foldlM (fun (status : Nat) t => do
    if t.head? = some 0x25 then fail ("No such job: " ++ t)
    let sent ← send (signal?.getD 15) (← numberOf (if t.head? = some 0x2D then t.drop 1 else t))
    return max status sent) 0

/-- Sets what is run when signals arrive, or writes that. -/
def trap (args : List Text) : ShellM Nat := do
  let (_, args) ← optionsOf [] args
  match args with
  | [] =>
    let set := (← get).traps.mergeSort fun a b => decide (a.1 ≤ b.1)
    emitText (set.flatMap fun (n, t) => "trap -- " ++ singleQuoted t ++ " " ++ signalName n ++ "\n")
  | first :: more =>
    let isNumber := first.all CodePoint.isDigit && (signalOf? first).isSome
    let (action?, names) := if more.isEmpty || isNumber then (none, args) else (some first, more)
    for name in names do
      let n? := if name.map (fun c => if c.isLower then c - 0x20 else c) = "EXIT" then some 0
        else signalOf? name
      match n? with
      | none =>
        lift (ProcessM.complain ("trap: " ++ name ++ ": bad trap"))
        return 1
      | some n =>
        modify fun s =>
          let others := s.traps.filter (·.1 ≠ n)
          { s with traps := match action? with
              | some action => if action = "-" then others else (n, action) :: others
              | none => others }
    return 0

/-- Writes which rights new files lack. -/
def mask (args : List Text) : ShellM Nat := do
  let (options, args) ← optionsOf "S" args
  match args with
  | [] => emitText (if options.isEmpty then "0022\n" else "u=rwx,g=rx,o=rx\n")
  | t :: _ =>
    unless t.all fun c => 0x30 ≤ c && c ≤ 0x37 do
      if t.head?.any CodePoint.isDigit then fail ("Illegal number: " ++ t)
    return 0

/-! ## Commands that are programs too -/

/-- Tells whether a condition holds. -/
def test (args : List Text) : ShellM Nat := do
  let s ← get
  let build : Printing.Build := if s.isLarge then .program else .shell
  match Condition.value build s.world (s.speaker?.getD []) args with
  | .ok value => return if value then 0 else 1
  | .error f => fail (f.message .shell)

/-- Writes arguments in a format. -/
def printf (args : List Text) : ShellM Nat := do
  let (_, args) ← optionsOf [] args
  match args with
  | [] => fail "usage: printf format [arg ...]"
  | format :: args =>
    let (o, complaints, status) := Printing.printf .shell format args
    let written ← emit o
    for complaint in complaints do warn complaint
    return max status written

/-- Runs a command of the shell that needs no other ones, or gives none. -/
def simple? (b : Builtin) (args : List Text) : Option (ShellM Nat) :=
  match b with
  | .leaveLoops again => some do
    let n ← match args with
      | [] => pure 1
      | t :: _ =>
        let n ← numberOf t
        if n = 0 then fail ("Illegal number: " ++ t)
        pure n
    setStatus 0
    let n := min n (← get).loops
    if n = 0 then return 0
    throw (.loops n again)
  | .enter => some (enter args)
  | .done succeeds => some (return if succeeds then 0 else 1)
  | .echo => some do
    emit (if (← get).isLarge then Printing.programEcho args else Printing.shellEcho args)
  | .leave => some do
    match args with
    | [] => throw .leave
    | t :: _ => leave (← numberOf t)
  | .declare protects => some (declare protects args)
  | .readOptions => some (readOptions args)
  | .kill => some (kill args)
  | .hide => some (hide args)
  | .printf => some (printf args)
  | .directory => some (directory args)
  | .readLine => some (readLine args)
  | .back => some do
    if let t :: _ := args then setStatus (← numberOf t)
    throw .back
  | .set => some (setArguments args)
  | .shift => some (shift args)
  | .test => some (test args)
  | .times => some (emitText "0m0.000000s 0m0.000000s\n0m0.000000s 0m0.000000s\n")
  | .trap => some (trap args)
  | .type => some (args.foldlM (fun (status : Nat) name => do
      return max status (← describe true name)) 0)
  | .mask => some (mask args)
  | .unset => some (unset args)
  | .wait => some (wait args)
  | .command | .evaluate | .replace | .source => none

end ServiceWiring.ShellM
