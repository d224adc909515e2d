import ServiceWiring.Host.Shell.Builtin.Surroundings
import ServiceWiring.Host.Shell.Redirection

/-!
# Running commands

What the commands of a script do to a shell. Commands hold one another, run scripts and start
programs, so the functions here are given an `Engine` that does those things one level deeper.

Most commands are `tested` where a failure of theirs is looked at; elsewhere a failure may end the
shell.
-/

namespace ServiceWiring

open Script (Command Word Redirect)

/-- What running a command needs of the level below. -/
structure Engine where
  /-- Runs a command; the flag tells whether its failure is looked at. -/
  run : Bool → Command → ShellM Unit
  /-- Runs a script in the same shell. -/
  script : Bool → Text → ShellM Unit
  /-- Starts the program at a path with arguments, of which the first one is its name. -/
  start : Text → List Text → ProcessM (Except Refusal Ending)

namespace Engine

open ShellM

/-- The greatest number of turns of a loop. -/
def maxTurns : Nat := 1000000000

/-- Ends the shell if the last command failed and that is asked for. -/
def check (tested : Bool) : ShellM Unit := do
  if !tested && (← get).status ≠ 0 && (← hasOption 'e') then throw .leave

/-- Takes the signals that were sent to the shell: each runs what was set for it, or ends the shell
if it is deadly. -/
def receive (again : Engine) : ShellM Unit := do
  let s ← get
  if !s.isForked then
    let mine := (s.world.signals.filter (·.1 = s.number)).reverse
    unless mine.isEmpty do
      set { s with world := { s.world with signals := s.world.signals.filter (·.1 ≠ s.number) } }
      for (_, n) in mine do
        match s.traps.lookup n with
        | some t =>
          let status := (← get).status
          again.script false t
          setStatus status
        | none => unless isHarmless n do throw (.finished (.killed n))

/-- A whole script: an action, and after it what is to be run at the end. -/
def whole (again : Engine) (action : ShellM Unit) : ShellM Unit := do
  match ← attempt action with
  | .error (.finished e) => throw (.finished e)
  | _ =>
    let s ← get
    if let some t := s.traps.lookup 0 then
      set { s with traps := s.traps.filter (·.1 ≠ 0) }
      match ← attempt (again.script false t) with
      | .error (.finished e) => throw (.finished e)
      | .error .leave => return
      | _ => setStatus s.status

/-- Runs a command in a copy of the shell with other streams, and waits for it. -/
def runForked (again : Engine) (tested : Bool) (c : Command) (prepare : ProcessM Unit) :
    ShellM Unit := do
  let ending ← forked do
    lift prepare
    whole again (again.run tested c)
  receive again
  setStatus (← statusOf ending)

/-- What was written to a channel. -/
def takeOutput (i : Nat) : ProcessM Octets := do
  match ← ProcessM.channel i with
  | .sink pieces =>
    ProcessM.setChannel i .nothing
    return pieces.reverse.flatten
  | _ => return []

/-- What a command writes, without the line breaks at its end. -/
def outputOf (again : Engine) (c : Command) : ShellM Text := do
  let before := (← get).status
  let i ← lift (ProcessM.addChannel (.sink []))
  runForked again false c (ProcessM.lead 1 i)
  modify fun s => { s with substituted := s.status, status := before }
  let o ← lift (takeOutput i)
  let o := (o.filter (· ≠ 0)).reverse.dropWhile (· = 0x0A)
  return Utf8.decodeName o.reverse

/-- Runs commands of which each reads what the one before it writes. -/
def pipe (again : Engine) (tested : Bool) (input? : Option Nat) : List Command → ShellM Unit
  | [] => return
  | c :: rest => do
    let output? ← if rest.isEmpty then pure none
      else do pure (some (← lift (ProcessM.addChannel (.sink []))))
    runForked again tested c do
      if let some i := input? then ProcessM.lead 0 i
      if let some i := output? then ProcessM.lead 1 i
    let next? ← output?.mapM fun i => do
      lift (ProcessM.addChannel (.source (← lift (takeOutput i))))
    pipe again tested next? rest

/-! ## Loops -/

/-- Whether a loop goes on after one of its commands. -/
def inLoop (action : ShellM Unit) : ShellM Bool := do
  match ← attempt action with
  | .ok () => return true
  | .error (.loops n again) =>
    if n ≤ 1 then return again else throw (.loops (n - 1) again)
  | .error jump => throw jump

/-- Runs a loop, and knows that one more is running. -/
def asLoop (action : ShellM Unit) : ShellM Unit := do
  let loops := (← get).loops
  modify fun s => { s with loops := loops + 1 }
  let result ← attempt action
  modify fun s => { s with loops }
  if let .error jump := result then throw jump

/-- The turns of a loop; `last` is the status of the turn before. -/
def turns (again : Engine) (tested untilSuccess : Bool) (test body : Command) (last : Nat) :
    Nat → ShellM Unit
  | 0 => setStatus last
  | n + 1 => do
    match ← attempt (again.run true test) with
    | .error (.loops k goesOn) =>
      if k ≤ 1 then
        if goesOn then turns again tested untilSuccess test body last n else setStatus 0
      else throw (.loops (k - 1) goesOn)
    | .error jump => throw jump
    | .ok () =>
      if ((← get).status = 0) = untilSuccess then setStatus last
      else if ← inLoop (again.run tested body) then
        turns again tested untilSuccess test body (← get).status n

/-- The turns of a loop over texts. -/
def turnsOver (again : Engine) (tested : Bool) (name : Text) (body : Command) :
    List Text → ShellM Unit
  | [] => return
  | t :: r => do
    setVariable name t
    if ← inLoop (again.run tested body) then turnsOver again tested name body r

/-- Runs the first command one of whose patterns a text matches. -/
def select (again : Engine) (tested : Bool) (t : Text) :
    List (List Word × Command) → ShellM Unit
  | [] => setStatus 0
  | (patterns, body) :: r => do
    let isMatch ← patterns.anyM fun w => do
      return Field.matchesText (← Expansion.wordPattern (outputOf again) w) t
    if isMatch then
      match body with
      | .nothing => setStatus 0
      | body => again.run tested body
    else select again tested t r

/-! ## Programs -/

/-- Starts a program by the first of several paths that has one. `last` is the refusal that counts
if there is none. -/
def startFirst (again : Engine) (argv : List Text) (last : Refusal) :
    List Text → ShellM (Except Refusal Ending)
  | [] => return .error last
  | path :: r => do
    let seen := environment (← get)
    let begin := fun (path : Text) (argv : List Text) => lift <| ProcessM.apart do
      ProcessM.setMachine { (← ProcessM.machine) with environment := seen }
      again.start path argv
    match ← begin path argv with
    | .ok ending => return .ok ending
    | .error .notProgram =>
      -- A file that is no program is taken for a script.
      begin "/bin/sh" ("/bin/sh" :: path :: argv.drop 1)
    | .error r' =>
      startFirst again argv (if r' = .noEntry || r' = .notDirectory then last else r') r

/-- The status that a shell has if a program cannot be started. -/
def startStatus (r : Refusal) : Nat :=
  if [.noEntry, .notDirectory, .linkLoop, .tooLong].contains r then 127 else 126

/-- Starts the program that is called by a name. -/
def launch (again : Engine) (argv : List Text) : ShellM (Except Refusal Ending) := do
  let name := argv.headD []
  let paths ← if name.contains Path.slash then pure [name]
    else do pure ((← searchDirectories).map (inDirectory name))
  startFirst again argv .noEntry paths

/-- Runs a program that is called by a name, and waits for it. -/
def runProgram (again : Engine) (argv : List Text) : ShellM Unit := do
  let name := argv.headD []
  let found ← if name.contains Path.slash then pure (.ok name) else findProgram name
  match found with
  | .error r =>
    warnStart name r
    setStatus 127
  | .ok _ =>
    match ← launch again argv with
    | .ok ending =>
      receive again
      setStatus (← statusOf ending)
    | .error r =>
      warnStart name r
      setStatus (startStatus r)

/-- Runs the body of a function. -/
def runFunction (again : Engine) (tested : Bool) (body : Command) (args : List Text) :
    ShellM Unit := do
  let before ← get
  set { before with arguments := args, hidden? := some [], loops := 0 }
  let result ← attempt (again.run tested body)
  for (name, v?) in ((← get).hidden?.getD []) do
    putVariable name v?
  modify fun s =>
    { s with arguments := before.arguments, hidden? := before.hidden?, loops := before.loops }
  match result with
  | .ok () | .error .back => return
  | .error jump => throw jump

/-- Runs a script from a file in this shell. -/
def source (again : Engine) (tested : Bool) (args : List Text) : ShellM Nat := do
  match args with
  | [] => return 0
  | name :: _ =>
    let m := (← get).world.machine
    let isFile := fun path => (m.find .look path).toOption.any fun (_, n) => (n matches .file ..)
    let path ← if name.contains Path.slash then pure name
      else
        match ((← searchDirectories).map (inDirectory name)).find? isFile with
        | some path => pure path
        | none => fail (name ++ ": not found")
    match ← lift (ProcessM.readAt path) with
    | .error r =>
      let reason : Text := if r = .noEntry || r = .notDirectory then "No such file" else r.reason
      fail ("cannot open " ++ path ++ ": " ++ reason)
    | .ok o =>
      modify fun s => { s with speaker? := some path }
      match ← attempt (again.script tested (Utf8.decodeName o)) with
      | .ok () | .error .back => return (← get).status
      | .error jump => throw jump

/-- Replaces the shell by a program. -/
def replace (again : Engine) (argv : List Text) : ShellM Nat := do
  match argv with
  | [] => return 0
  | name :: _ =>
    match ← launch again argv with
    | .ok ending => throw (.finished ending)
    | .error r =>
      warnStart name r
      leave (startStatus r)

/-! ## Calls -/

/-- What a call runs. -/
inductive Callee where
  /-- A function. -/
  | function (body : Command)
  /-- A command of the shell, and whether it counts as special. -/
  | builtin (b : Builtin) (isSpecial : Bool)
  /-- A program. -/
  | program

/-- What a name calls. -/
def callee (name : Text) : ShellM Callee := do
  match (← get).functions.lookup name with
  | some body => return .function body
  | none =>
    match Builtin.named? name with
    | some (b, isSpecial) => return .builtin b isSpecial
    | none => return .program

/-- Does something in the name of a command of the shell, and sets the status. A failure of one that
is not special has no other effect. -/
def speaking (name : Text) (isSpecial : Bool) (action : ShellM Nat) : ShellM Unit := do
  let speaker? := (← get).speaker?
  modify fun s => { s with speaker? := some name }
  let result ← attempt action
  modify fun s => { s with speaker? }
  match result with
  | .ok status => setStatus status
  | .error .failed => if isSpecial then throw .failed
  | .error jump => throw jump

/-- Runs a command of the shell. -/
def runBuiltin (again : Engine) (tested isSpecial : Bool) (b : Builtin) (name : Text)
    (args : List Text) : ShellM Unit := do
  match simple? b args with
  | some action => speaking name isSpecial action
  | none =>
    match b with
    | .evaluate => speaking name isSpecial do
        again.script tested (Text.joinWith " " args)
        return (← get).status
    | .source => speaking name isSpecial (source again tested args)
    | .replace => speaking name isSpecial (replace again args)
    | _ =>
      -- The command that finds others is taken off before.
      speaking name isSpecial do
        let (options, rest) ← optionsOf "pvV" args
        match options.getLast?, rest with
        | some (c, _), name :: _ => describe (c = 0x56) name
        | _, _ => return 0

/-- The words after `command` if it is to run another command. -/
def commanded? : List Text → Option (List Text)
  | name :: r =>
    if name ≠ "command" then none
    else
      let r := if r.head? = some ("-p" : Text) then r.drop 1 else r
      let r := if r.head? = some ("--" : Text) then r.drop 1 else r
      match r with
      | [] => none
      | (0x2D :: _ :: _) :: _ => none
      | r => some r
  | [] => none

/-- The fields of the words of a call. The arguments of commands that declare variables may be
assignments. -/
def callFields (again : Engine) : List Word → ShellM (List Text)
  | [] => return []
  | w :: ws => do
    match ← Expansion.wordFields (outputOf again) w with
    | [] => callFields again ws
    | name :: more =>
      let declares ← match ← callee name with
        | .builtin b _ => pure b.assigns
        | _ => pure false
      let rest ← ws.mapM fun w => do
        match Script.assignment? w with
        | some (target, value) =>
          if declares then
            let t ← Expansion.wordText (outputOf again) true value
            return [target ++ (0x3D :: t)]
          else Expansion.wordFields (outputOf again) w
        | none => Expansion.wordFields (outputOf again) w
      return name :: more ++ rest.flatten

/-- Writes the words of a call before it runs, if that is asked for. -/
def trace (stream? : Option Nat) (assignments : List (Text × Text)) (fields : List Text) :
    ShellM Unit := do
  if ← hasOption 'x' then
    let shown := assignments.map fun (name, value) => name ++ (0x3D :: value)
    let start := (← value? "PS4").getD "+ "
    let line := start ++ Text.joinWith " " (shown ++ fields) ++ [0x0A]
    if let some i := stream? then lift (ProcessM.writeTo i (Utf8.nameOctets line))

/-- Runs a call whose words are expanded and whose streams are led to where they belong. -/
def perform (again : Engine) (tested : Bool) (fields : List Text) : ShellM Unit := do
  match commanded? fields with
  | some fields =>
    match Builtin.named? (fields.headD []) with
    | some (b, _) => runBuiltin again tested false b (fields.headD []) (fields.drop 1)
    | none => runProgram again fields
  | none =>
    match fields with
    | [] => modify fun s => { s with status := s.substituted }
    | name :: args =>
      match ← callee name with
      | .function body => runFunction again tested body args
      | .builtin b isSpecial => runBuiltin again tested isSpecial b name args
      | .program => runProgram again fields

/-- Runs a call. -/
def call (again : Engine) (tested : Bool) (assignments : List (Text × Word)) (words : List Word)
    (redirects : List Redirect) : ShellM Unit := do
  modify fun s => { s with substituted := 0 }
  let fields ← callFields again words
  let isSpecial ← match fields with
    | [] => pure false
    | name :: _ => do
      match ← callee name with
      | .builtin _ isSpecial => pure isSpecial
      | _ => pure false
  let replaces := isSpecial && fields.head? = some ("exec" : Text)
  let errors? ← lift (ProcessM.channelOf? 2)
  let targets ← targetsOf (outputOf again) redirects
  let streams := (← get).world.streams
  let bindings := (← get).bindings
  let result ← attempt do
    if ← redirect targets then
      let keeps := fields.isEmpty || isSpecial
      let values ← assignments.mapM fun (name, w) => do
        let value ← Expansion.wordText (outputOf again) true w
        setVariable name value
        if !keeps || (replaces && 1 < fields.length) then
          putVariable name (some { (← variableOf? name).getD {} with isExported := true })
        return (name, value)
      trace errors? values fields
      perform again tested fields
    else
      setStatus 2
      if isSpecial then throw .failed
  if !(replaces && fields.length = 1) then
    modify fun s => { s with world := { s.world with streams } }
  if !fields.isEmpty && !isSpecial then
    for (name, _) in assignments do putVariable name (bindings.lookup name)
  match result with
  | .ok () => return
  | .error jump => throw jump

/-! ## Commands -/

/-- Runs a command. -/
def runCommand (again : Engine) (tested : Bool) (c : Command) : ShellM Unit := do
  if ← hasOption 'n' then return
  match c with
  | .nothing => return
  | .call line assignments words redirects =>
    modify fun s => { s with line }
    call again tested assignments words redirects
    receive again
    check tested
  | .pipe commands =>
    pipe again tested none commands
    check tested
  | .negate c =>
    again.run true c
    modify fun s => { s with status := if s.status = 0 then 1 else 0 }
  | .andThen c d =>
    again.run true c
    if (← get).status = 0 then again.run tested d
  | .orElse c d =>
    again.run true c
    if (← get).status ≠ 0 then again.run tested d
  | .sequence c d =>
    again.run tested c
    again.run tested d
  | .background c =>
    let i ← lift (ProcessM.addChannel .nothing)
    let number := (← get).world.started + 1
    runForked again false c (ProcessM.lead 0 i)
    modify fun s => { s with status := 0, jobs := (number, s.status) :: s.jobs }
  | .subshell c =>
    runForked again tested c (pure ())
    check tested
  | .redirected line (.subshell c) redirects =>
    modify fun s => { s with line }
    let targets ← targetsOf (outputOf again) redirects
    let ending ← forked <| whole again do
      if ← redirect targets then again.run tested c else throw .failed
    receive again
    setStatus (← statusOf ending)
    check tested
  | .redirected line c redirects =>
    modify fun s => { s with line }
    let targets ← targetsOf (outputOf again) redirects
    keepingStreams do
      if ← redirect targets then again.run tested c else setStatus 2
  | .choice test yes no? =>
    again.run true test
    if (← get).status = 0 then again.run tested yes
    else
      match no? with
      | some no => again.run tested no
      | none => setStatus 0
  | .loop untilSuccess test body =>
    asLoop (turns again tested untilSuccess test body 0 maxTurns)
  | .each line name words? body =>
    modify fun s => { s with line }
    let texts ← match words? with
      | some words => do pure (← words.mapM (Expansion.wordFields (outputOf again))).flatten
      | none => do pure (← get).arguments
    setStatus 0
    asLoop (turnsOver again tested name body texts)
  | .select line w cases =>
    modify fun s => { s with line }
    select again tested (← Expansion.wordText (outputOf again) false w) cases
  | .define name body =>
    modify fun s =>
      { s with status := 0, functions := (name, body) :: s.functions.filter (·.1 ≠ name) }

/-- Runs the commands of a script from a place on; `isNew` tells whether none has run before. -/
def runFrom (again : Engine) (tested isNew : Bool) (scan : Script.Scan) : Nat → ShellM Unit
  | 0 => return
  | n + 1 => do
    if scan.isDone then
      if isNew then setStatus 0
    else
      match Script.nextCommand scan with
      | (.error mistake, _) =>
        modify fun s => { s with line := mistake.line }
        fail ("Syntax error: " ++ mistake.mistake.message)
      | (.ok none, scan) => runFrom again tested isNew scan n
      | (.ok (some c), scan) =>
        modify fun s => { s with readLine := scan.line }
        again.run tested c
        runFrom again tested false scan n

/-- Runs a script. -/
def runScript (again : Engine) (tested : Bool) (t : Text) : ShellM Unit :=
  runFrom again tested true { rest := t } (t.length + 2)

end Engine

end ServiceWiring
