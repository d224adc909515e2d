import ServiceWiring.Host.Program.Lines
import ServiceWiring.Host.Shell.Execution

/-!
# Programs that start others

Programs that start one other program in a setting of its own, or one with arguments that they read.
A program that cannot be started is complained about; the status then tells whether it was found.
-/

namespace ServiceWiring.Launch

open ProcessM

/-- The directories in which programs are looked for. -/
def searchPath (m : Machine) : List Text :=
  Text.splitOn 0x3A ((m.environmentValue? "PATH").getD "/bin:/usr/bin")

/-- The paths at which a program may be that is called by a name. -/
def pathsOf (m : Machine) (name : Text) : List Text :=
  if name.contains Path.slash then [name]
  else (searchPath m).map fun dir => Path.join dir name

/-- The first start that succeeds, or the refusal that counts: one that tells more than that nothing
is there comes first. -/
def startFirst (start : Text → ProcessM (Except Refusal Ending)) (last : Refusal) :
    List Text → ProcessM (Except Refusal Ending)
  | [] => return .error last
  | path :: r => do
    let isAbsence := fun (r : Refusal) => r = .noEntry || r = .notDirectory
    match ← start path with
    | .ok ending => return .ok ending
    | .error refusal => startFirst start (if isAbsence last then refusal else last) r

/-- The status of a program that ended, as another program passes it on. -/
def statusOf : Ending → Nat
  | .exited status => status
  | .killed n => 128 + n

/-- The fields of a text between blanks. -/
def fieldsOf (t : Text) : List Text :=
  (Text.splitOn 0x20 (t.map fun c => if c = 0x09 || c = 0x0A then 0x20 else c)).filter
    (!·.isEmpty)

/-- Starts a program in another environment, or writes the environment. -/
def env (again : Engine) (name : Text) (args : List Text) : ProcessM Ending := do
  let flags : List Flag :=
    [⟨'i', .nothing, "ignore-environment"⟩, ⟨'u', .value, "unset"⟩, ⟨'0', .nothing, "null"⟩,
      ⟨'C', .value, "chdir"⟩, ⟨'S', .value, "split-string"⟩, ⟨'v', .nothing, "debug"⟩]
  match Arguments.read flags false args with
  | .error e =>
    misuse name e.message
    return .exited 125
  | .ok a =>
    let operands := ((a.value? 'S').map fieldsOf).getD [] ++ a.operands
    let (operands, empty) := match operands with
      | [0x2D] :: r => (r, true)
      | r => (r, a.has 'i')
    let isAssignment := fun (t : Text) => t.contains 0x3D
    let assigned := (operands.takeWhile isAssignment).map fun t =>
      let (name, value?) := Text.cut 0x3D t
      ((name, value?.getD []) : Text × Text)
    let m ← machine
    let kept := if empty then [] else
      m.environment.filter fun (name, _) => !(a.values 'u').contains name
    let environment := assigned.foldl (fun (e : List (Text × Text)) (name, value) =>
      if (e.lookup name).isSome then e.map fun (n, v) => (n, if n = name then value else v)
      else e ++ [(name, value)]) kept
    match operands.dropWhile isAssignment with
    | [] =>
      let ending : CodePoint := if a.has '0' then 0 else 0x0A
      say (environment.flatMap fun (name, value) => name ++ (0x3D :: value ++ [ending]))
      return .exited 0
    | program :: more =>
      setMachine { m with environment }
      match ← startFirst (again.start · (program :: more)) .noEntry
          (pathsOf { m with environment } program) with
      | .ok ending => return ending
      | .error r =>
        warn name (program.curly ++ ": " ++ r.reason)
        if r = .noEntry && program.contains 0x20 then
          warn name "use -[v]S to pass options in shebang lines"
        return .exited (if r = .noEntry then 127 else 126)

/-! ## One program in a setting of its own -/

/-- How a program that starts another one speaks of it. -/
structure Starter where
  /-- Its own name. -/
  name : Text
  /-- What it says of a program that it could not start. -/
  failed : Text → Text

/-- Starts a program as the last thing that another one does. -/
def Starter.start (s : Starter) (again : Engine) (argv : List Text) : ProcessM Ending := do
  let program := argv.headD []
  match ← startFirst (again.start · argv) .noEntry (pathsOf (← machine) program) with
  | .ok ending => return ending
  | .error r =>
    warn s.name (s.failed program ++ ": " ++ r.reason)
    return .exited (if r = .noEntry then 127 else 126)

/-- Reads the options of a program that starts another one, which come before that one's name. Bad
options end it with a status. -/
def withSetting (name : Text) (flags : List Flag) (args : List Text) (status : Nat)
    (action : Arguments → ProcessM Ending) : ProcessM Ending := do
  match Arguments.read flags false args with
  | .error e =>
    misuse name e.message
    return .exited status
  | .ok a => action a

/-- Says that the arguments are not right, and ends with a status. -/
def refuse (name message : Text) (status : Nat) : ProcessM Ending := do
  misuse name message
  return .exited status

/-- Whether a text is a number, which may have a sign. -/
def isSigned (t : Text) : Bool :=
  let ds := match t with
    | c :: r => if c = 0x2B || c = 0x2D then r else t
    | [] => []
  !ds.isEmpty && ds.all CodePoint.isDigit

/-- Starts a program with another claim on the processor, or tells that claim, which is zero. -/
def nice (again : Engine) (name : Text) (args : List Text) : ProcessM Ending :=
  let flags : List Flag := [⟨'n', .value, "adjustment"⟩]
  -- A dash and a number are the claim itself.
  let args := match args with
    | (0x2D :: t) :: r => if isSigned t then ("-n" : Text) :: t :: r else args
    | _ => args
  withSetting name flags args 125 fun a => do
    match a.value? 'n', a.operands with
    | none, [] =>
      say "0\n"
      return .exited 0
    | some t, operands =>
      if !isSigned t then
        warn name ("invalid adjustment " ++ t.curly)
        return .exited 125
      if operands.isEmpty then
        refuse name "a command must be given with an adjustment" 125
      else Starter.start ⟨name, Text.curly⟩ again operands
    | none, operands => Starter.start ⟨name, Text.curly⟩ again operands

/-- Starts a program that goes on when its terminal is gone. -/
def nohup (again : Engine) (name : Text) (args : List Text) : ProcessM Ending :=
  withSetting name [] args 125 fun a =>
    if a.operands.isEmpty then refuse name "missing operand" 125
    else
      let failed : Text → Text := fun t => "failed to run command " ++ t.shellQuoted
      Starter.start ⟨name, failed⟩ again a.operands

/-- Whether a text is a length of time. -/
def isDuration (t : Text) : Bool :=
  let whole := t.takeWhile CodePoint.isDigit
  let r := t.drop whole.length
  let (part, r) : Text × Text := match r with
    | 0x2E :: r => (r.takeWhile CodePoint.isDigit, r.dropWhile CodePoint.isDigit)
    | r => ([], r)
  let units : List Text := ["", "s", "m", "h", "d"]
  !(whole ++ part).isEmpty && units.contains r

/-- Starts a program that has so much time; all of them end in time. -/
def timeout (again : Engine) (name : Text) (args : List Text) : ProcessM Ending :=
  let flags : List Flag :=
    [⟨'k', .value, "kill-after"⟩, ⟨'s', .value, "signal"⟩, ⟨'v', .nothing, "verbose"⟩,
      ⟨'f', .nothing, "foreground"⟩, ⟨'p', .nothing, "preserve-status"⟩]
  withSetting name flags args 125 fun a =>
    match a.operands with
    | [] | [_] => do
      complain ("Try '" ++ name ++ " --help' for more information.")
      return .exited 125
    | time :: operands =>
      match (a.values 'k' ++ [time]).find? (!isDuration ·) with
      | some t => refuse name ("invalid time interval " ++ t.curly) 125
      | none =>
        let failed : Text → Text := fun t => "failed to run command " ++ t.curly
        Starter.start ⟨name, failed⟩ again operands

/-- Starts a program whose streams are passed on piece by piece or as a whole. -/
def stdbuf (again : Engine) (name : Text) (args : List Text) : ProcessM Ending :=
  let flags : List Flag :=
    [⟨'i', .value, "input"⟩, ⟨'o', .value, "output"⟩, ⟨'e', .value, "error"⟩]
  withSetting name flags args 125 fun a => do
    let isSize := fun (t : Text) =>
      let ds := t.takeWhile CodePoint.isDigit
      !ds.isEmpty && (Program.multiplier? (t.drop ds.length)).isSome
    match a.options.find? fun (_, t) => !(t = "L" || isSize t) with
    | some (_, t) =>
      warn name ("invalid mode " ++ t.curly)
      return .exited 125
    | none =>
      if (a.value? 'i') = some ("L" : Text) then
        refuse name "line buffering stdin is meaningless" 125
      else if a.operands.isEmpty then refuse name "missing operand" 125
      else if a.options.isEmpty then refuse name "you must specify a buffering mode option" 125
      else
        let failed : Text → Text := fun t => "failed to run command " ++ t.curly
        Starter.start ⟨name, failed⟩ again a.operands

/-- Starts a program in a session of its own. -/
def setsid (again : Engine) (name : Text) (args : List Text) : ProcessM Ending :=
  let flags : List Flag :=
    [⟨'c', .nothing, "ctty"⟩, ⟨'f', .nothing, "fork"⟩, ⟨'w', .nothing, "wait"⟩]
  withSetting name flags args 1 fun a => do
    if a.operands.isEmpty then refuse name "no command specified" 1
    else
      let failed : Text → Text := fun t => "failed to execute " ++ t
      let ending ← Starter.start ⟨name, failed⟩ again a.operands
      return if a.has 'f' && !a.has 'w' then .exited 0 else ending

/-- Starts a program on a machine of another kind, or a shell if none is named. -/
def setarch (again : Engine) (name : Text) (args : List Text) : ProcessM Ending :=
  withSetting name (Flag.ofLetters "vRFZLXBIST3") args 1 fun a => do
    let operands := if name = "setarch" then a.operands.drop 1 else a.operands
    if name = "setarch" && a.operands.isEmpty && a.options.isEmpty then
      warn name "no architecture argument or personality flags specified"
      return .exited 1
    match operands with
    | [] =>
      match ← again.start "/bin/sh" ["-sh"] with
      | .ok ending => return ending
      | .error _ => return .exited 127
    | operands =>
      let failed : Text → Text := fun t => "failed to execute " ++ t
      Starter.start ⟨name, failed⟩ again operands

/-! ## Arguments that are read -/

/-- The items that a text holds, between blanks; quotes and backslashes keep blanks. `item?` is the
item that has begun. -/
def items (item? : Option Text) (quote? : Option CodePoint) : Text → List Text
  | [] => item?.toList
  | c :: r =>
    match quote? with
    | some q =>
      if c = q then items item? none r else items (some (item?.getD [] ++ [c])) quote? r
    | none =>
      if c = 0x20 || c = 0x09 || c = 0x0A then item?.toList ++ items none none r
      else if c = 0x27 || c = 0x22 then items (some (item?.getD [])) (some c) r
      else if c = 0x5C then
        match r with
        | d :: r => items (some (item?.getD [] ++ [d])) none r
        | [] => item?.toList
      else items (some (item?.getD [] ++ [c])) none r

/-- The runs of so many items. -/
def chunks (n : Nat) (ts : List Text) : Nat → List (List Text)
  | 0 => []
  | fuel + 1 => if ts.isEmpty then [] else ts.take n :: chunks n (ts.drop n) fuel

/-- The text with another one in the place of each occurrence of a mark. The fuel is more than its
length. -/
def replaceMark (mark new : Text) (t : Text) : Nat → Text
  | 0 => t
  | fuel + 1 =>
    if !mark.isEmpty && mark.isPrefixOf t then
      new ++ replaceMark mark new (t.drop mark.length) fuel
    else
      match t with
      | [] => []
      | c :: r => c :: replaceMark mark new r fuel

/-- Starts a program with arguments that are read. -/
def xargs (again : Engine) (name : Text) (args : List Text) : ProcessM Ending := do
  let flags : List Flag :=
    [⟨'0', .nothing, "null"⟩, ⟨'r', .nothing, "no-run-if-empty"⟩, ⟨'n', .value, "max-args"⟩,
      ⟨'I', .value, []⟩, ⟨'d', .value, "delimiter"⟩, ⟨'t', .nothing, "verbose"⟩,
      ⟨'L', .value, "max-lines"⟩, ⟨'P', .value, "max-procs"⟩, ⟨'x', .nothing, "exit"⟩]
  match Arguments.read flags false args with
  | .error e =>
    misuse name e.message
    return .exited 1
  | .ok a =>
    let input := match ← readAll 0 with
      | .ok o => Utf8.decodeName o
      | .error _ => []
    let separated := fun (mark : CodePoint) =>
      let pieces := Text.splitOn mark input
      if pieces.getLast? = some [] then pieces.dropLast else pieces
    let mark? := a.value? 'I'
    let found := if a.has '0' then separated 0
      else if let some d := a.value? 'd' then
        separated (if d = "\\n" then 0x0A else if d = "\\t" then 0x09 else d.headD 0x0A)
      else if mark?.isSome then
        ((separated 0x0A).map fun t => t.dropWhile fun c => c = 0x20 || c = 0x09).filter
          (!·.isEmpty)
      else items none none input
    let command : List Text := if a.operands.isEmpty then ["echo"] else a.operands
    let calls := match mark?, a.value? 'n' with
      | some mark, _ => found.map fun t =>
          command.take 1 ++ (command.drop 1).map fun w => replaceMark mark t w (w.length + 1)
      | none, some n =>
        (chunks (max 1 (Text.natOfDigits n)) found (found.length + 1)).map (command ++ ·)
      | none, none => if found.isEmpty && a.has 'r' then [] else [command ++ found]
    let calls := if calls.isEmpty && mark?.isNone && !a.has 'r' then [command] else calls
    let i ← addChannel .nothing
    lead 0 i
    -- A program that cannot be started, a signal or the last status stop the whole.
    let (status, _) ← calls.foldlM (fun (state : Nat × Bool) argv => do
      let (status, stopped) := state
      if stopped then return state
      if a.has 't' then complain (Text.joinWith " " argv)
      let program := argv.headD []
      match ← apart (startFirst (again.start · argv) .noEntry (pathsOf (← machine) program)) with
      | .error r =>
        warn name (program ++ ": " ++ r.reason)
        return (if r = .noEntry then 127 else 126, true)
      | .ok (.killed n) =>
        warn name (program ++ ": terminated by signal " ++ Text.ofNat n)
        return (125, true)
      | .ok (.exited 0) => return (status, false)
      | .ok (.exited 255) =>
        warn name (program ++ ": exited with status 255; aborting")
        return (124, true)
      | .ok (.exited _) => return (123, false)) (0, false)
    return .exited status

/-- Runs a program to its end for another one; the result is its status. -/
def runFor (again : Engine) (name : Text) (argv : List Text) : ProcessM Nat := do
  return statusOf (← apart (Starter.start ⟨name, Text.curly⟩ again argv))

/-- Runs a command in a shell of its own. -/
def runInShell (again : Engine) (command : Text) : ProcessM Nat := do
  match ← again.start "/bin/sh" ["sh", "-c", command] with
  | .ok ending => return statusOf ending
  | .error _ => return 127

end ServiceWiring.Launch
