import ServiceWiring.Host.Program.Rules.Command
import ServiceWiring.Host.Program.Starting
import ServiceWiring.Host.Program.Toolbox

/-!
# Starting programs

A program is started by its path, or by its name, which is looked for in the directories of the
search path. A file that may be run and starts with `#!` names the program that runs it. Some
programs start others: the shell, and those that set up an environment or read arguments.
-/

namespace ServiceWiring

namespace Launch

open ProcessM

/-! ## Scripts -/

/-- How many octets of a file tell which program runs it. -/
def headLength : Nat := 256

/-- A blank in the first line of a script. -/
def isBlank (b : UInt8) : Bool := b = 0x20 || b = 0x09

/-- The program that the first line of a script names, and the argument that follows it. -/
def interpreter? (script : Octets) : Option (Text × List Text) :=
  match script.take headLength with
  | 0x23 :: 0x21 :: r =>
    let line := r.takeWhile fun b => b ≠ 0x0A && b ≠ 0
    -- A line that is longer than what is looked at may have lost a part of the name.
    let isCut := headLength ≤ script.length && line.length = r.length
    let line := line.dropWhile isBlank
    let name := line.takeWhile (!isBlank ·)
    if name.isEmpty || isCut && name.length = line.length then none
    else
      let rest := (((line.drop name.length).dropWhile isBlank).reverse.dropWhile isBlank).reverse
      some (Utf8.decodeName name, if rest.isEmpty then [] else [Utf8.decodeName rest])
  | _ => none

/-- The path of the program that is started at a path, with its arguments. The fuel bounds how many
scripts may run one another. -/
def resolve (m : Machine) (path : Text) (argv : List Text) :
    Nat → Except Refusal (Tool × List Text)
  | 0 => .error .linkLoop
  | fuel + 1 =>
    match m.find .look path with
    | .error fault => .error fault.refusal
    | .ok (_, .file content true) =>
      match interpreter? content with
      | some (program, more) =>
        resolve m program (program :: more ++ path :: argv.drop 1) fuel
      | none =>
        match Tool.ofContent? content with
        | some t => .ok (t, argv)
        | none => .error .notProgram
    | .ok _ => .error .denied

/-- How many scripts may run one another, and one. -/
def maxScripts : Nat := 6

/-! ## The shell -/

/-- What a shell is asked to run. -/
structure Request where
  /-- The script. -/
  script : Text
  /-- The name that the shell goes by. -/
  name : Text
  /-- The arguments of the script. -/
  arguments : List Text

open ShellM in
/-- Reads the options of a shell and finds out what it is to run. -/
def readRequest (args : List Text) : ShellM Request := do
  let name := (← get).name
  let (asText, rest) ← options false args
  if asText then
    match rest with
    | [] => fail "-c requires an argument"
    | script :: [] => return ⟨script, name, []⟩
    | script :: name :: more => return ⟨script, name, more⟩
  else
    let file? ← if ← hasOption 's' then pure none else pure rest.head?
    match file? with
    | none =>
      unless ← hasOption 's' do setOption true 0x73
      match ← lift (readAll 0) with
      | .ok o => return ⟨decode o, name, rest⟩
      | .error _ => return ⟨[], name, rest⟩
    | some file =>
      match ← lift (readAt file) with
      | .ok o => return ⟨decode o, file, rest.drop 1⟩
      | .error r =>
        if r = .isDirectory then return ⟨[], file, rest.drop 1⟩
        let reason : Text := if r = .noEntry || r = .notDirectory then "No such file" else r.reason
        fail ("cannot open " ++ file ++ ": " ++ reason)
where
  /-- Sets the options at the start of arguments; tells whether the script is one of those that
  follow, and gives them. -/
  options (asText : Bool) : List Text → ShellM (Bool × List Text)
    | [] => return (asText, [])
    | arg :: r => do
      match arg with
      | [0x2D] | [0x2D, 0x2D] => return (asText, r)
      | sign :: letters =>
        if sign ≠ 0x2D && sign ≠ 0x2B then return (asText, arg :: r)
        let on := sign = 0x2D
        let (named, plain) := letters.partition (· = 0x6F)
        for c in plain do
          unless on && c = 0x63 do setOption on c
        let asText := asText || on && plain.contains 0x63
        match named, r with
        | _ :: _, name :: r =>
          match optionNames.lookup name with
          | some c => setOption on c
          | none => fail ("Illegal option -o " ++ name)
          options asText r
        | _, r => options asText r
      | [] => return (asText, arg :: r)
  /-- The text of a script. -/
  decode (o : Octets) : Text := Utf8.decodeName (o.filter (· ≠ 0))

/-- The variables that a shell starts with. -/
def startVariables (environment : List (Text × Text)) (path : Text) (parent : Nat) :
    List (Text × Variable) :=
  let own : List (Text × Text) :=
    [("IFS", " \t\n"), ("OPTIND", "1"), ("PS1", "# "), ("PS2", "> "), ("PS4", "+ "),
      ("PPID", Text.ofNat parent)]
  let inherited := environment.filter fun (name, _) =>
    Script.isName name && name ≠ "PWD" && (own.lookup name).isNone
  let shown : List (Text × Variable) :=
    ((("PWD" : Text), path) :: inherited).map fun (name, value) =>
      (name, { value? := some value, isExported := true })
  let hidden : List (Text × Variable) :=
    own.map fun (name, value) => (name, { value? := some value })
  shown ++ hidden

open ShellM in
/-- Runs a shell. -/
def runShell (again : Engine) (name : Text) (args : List Text) : ProcessM Ending := do
  let w ← get
  let m := w.machine
  let physical := Machine.pathOf m.directory
  let path := match m.environmentValue? "PWD" with
    | some t =>
      if Path.isAbsolute t && (m.locate .look t).toOption = some m.directory then t else physical
    | none => physical
  let number := w.started + 1
  let shell : Shell :=
    { world := { w with started := number, running := number :: w.running }
      name, path, number, isLarge := Path.base name = "bash"
      bindings := startVariables m.environment path (w.running.headD 1) }
  let action : ShellM Unit := do
    let r ← readRequest args
    modify fun s => { s with name := r.name, arguments := r.arguments }
    whole r
  let (result, shell) := action.run.run shell
  set { shell.world with running := w.running }
  return endingOf shell result
where
  /-- Runs the script that was asked for. -/
  whole (r : Request) : ShellM Unit := again.whole (again.script false r.script)

/-! ## All programs -/

/-- Starts the program at a path with arguments, of which the first one is its name. -/
def start (again : Engine) (path : Text) (argv : List Text) : ProcessM (Except Refusal Ending) := do
  match resolve (← machine) path argv maxScripts with
  | .error r => return .error r
  | .ok (t, argv) =>
    let name := argv.headD []
    let args := argv.drop 1
    match t.run? name args, t with
    | some action, _ => return .ok (.exited (← action))
    | none, .shell => return .ok (← runShell again name args)
    | none, .awk => return .ok (.exited (← Program.awk (runInShell again) name args))
    | none, .env => return .ok (← env again name args)
    | none, .find => return .ok (.exited (← Program.find (runFor again name) name args))
    | none, .nice => return .ok (← nice again name args)
    | none, .nohup => return .ok (← nohup again name args)
    | none, .setarch => return .ok (← setarch again name args)
    | none, .setsid => return .ok (← setsid again name args)
    | none, .stdbuf => return .ok (← stdbuf again name args)
    | none, .timeout => return .ok (← timeout again name args)
    | none, _ => return .ok (← xargs again name args)

/-- The engine that commands run on. The fuel bounds how deep commands hold one another, call
functions and start programs. -/
def engine : Nat → Engine
  | 0 =>
    { run := fun _ _ => throw .leave, script := fun _ _ => throw .leave,
      start := fun _ _ => return .error .linkLoop }
  | fuel + 1 =>
    { run := fun tested c s => (engine fuel).runCommand tested c s
      script := fun tested t s => (engine fuel).runScript tested t s
      start := fun path argv w => start (engine fuel) path argv w }

/-- How deep commands may hold one another. -/
def maxDepth : Nat := 3000

/-- Starts a command that is one name or one path, and runs it in the model. -/
def launcher : Launcher := fun m command input? =>
  let world : World :=
    { machine := m
      channels := #[.source (input?.getD []), .sink [], .sink []]
      streams := [(0, 0), (1, 1), (2, 2)] }
  let again := engine maxDepth
  let begin := startFirst (again.start · [command]) .noEntry (pathsOf m command)
  match m.locate .look command with
  | .error .nullCharacter => .error .nullCharacter
  | .error .unencodable => .error .unencodable
  | _ =>
    match begin.run world, input? with
    | (.error refusal, _), _ => .error (.refused refusal command)
    | (.ok _, _), none => .ok (m.disk, ⟨[], [], .killed 9⟩)
    | (.ok ending, world), some _ =>
      let written := fun (i : Nat) => match world.channels[i]? with
        | some (.sink pieces) => pieces.reverse.flatten
        | _ => []
      .ok (world.machine.disk, ⟨written 1, written 2, ending⟩)

end Launch

end ServiceWiring
