import ServiceWiring.Host.Shell.Builtin.Basic

/-!
# Commands for variables and arguments

The commands of the shell that declare, remove and read variables, and those that set options and
arguments.
-/

namespace ServiceWiring.ShellM

open ServiceWiring.Field

/-- The variables that a test accepts, by name, as commands that declare them. -/
def declarations (start : Text) (accept : Variable → Bool) : ShellM Text := do
  let chosen := (← get).bindings.filter fun (_, v) => accept v
  let sorted := chosen.mergeSort fun a b =>
    decide (Utf8.nameOctets a.1 ≤ Utf8.nameOctets b.1)
  return sorted.flatMap fun (name, v) =>
    let value : Text := match v.value? with
      | some value => "=" ++ singleQuoted value
      | none => []
    start ++ name ++ value ++ "\n"

/-- The name and the value of an assignment, or of a name alone. -/
def checkedName (t : Text) : ShellM (Text × Option Text) := do
  let (name, value?) := Text.cut 0x3D t
  unless Script.isName name do fail (name ++ ": bad variable name")
  return (name, value?)

/-- Shows variables to programs, or protects them. -/
def declare (protects : Bool) (args : List Text) : ShellM Nat := do
  let (options, names) ← optionsOf "p" args
  if !options.isEmpty || names.isEmpty then
    emitText (← declarations (if protects then "readonly " else "export ") fun v =>
      if protects then v.isReadOnly else v.isExported)
  else
    for t in names do
      let (name, value?) ← checkedName t
      if let some value := value? then setVariable name value
      let v := (← variableOf? name).getD {}
      putVariable name (some (if protects then { v with isReadOnly := true }
        else { v with isExported := true }))
    return 0

/-- Remembers what a variable was before a function changes it. -/
def remember (name : Text) : ShellM Unit := do
  let v? ← variableOf? name
  modify fun s => { s with hidden? := s.hidden?.map fun hidden =>
    if (hidden.lookup name).isSome then hidden else (name, v?) :: hidden }

/-- Gives a function variables of its own. -/
def hide (args : List Text) : ShellM Nat := do
  if (← get).hidden?.isNone then fail "not in a function"
  for t in args do
    if t ≠ "-" then
      let (name, value?) ← checkedName t
      remember name
      match value? with
      | some value => setVariable name value
      | none =>
        if (← variableOf? name).isNone then putVariable name (some {})
  return 0

/-- Removes variables or functions. -/
def unset (args : List Text) : ShellM Nat := do
  let (options, names) ← optionsOf "vf" args
  for name in names do
    if (options.getLast?.any fun (c, _) => c = 0x66) then
      modify fun s => { s with functions := s.functions.filter (·.1 ≠ name) }
    else
      let (name, _) ← checkedName name
      if ((← variableOf? name).any fun v => v.isReadOnly) then fail (name ++ ": is read only")
      putVariable name none
  return 0

/-! ## Options and arguments -/

/-- The options by their names. -/
def optionNames : List (Text × CodePoint) :=
  [("errexit", 0x65), ("noglob", 0x66), ("ignoreeof", 0x49), ("interactive", 0x69),
    ("monitor", 0x6D), ("noexec", 0x6E), ("stdin", 0x73), ("xtrace", 0x78), ("verbose", 0x76),
    ("vi", 0x56), ("emacs", 0x45), ("noclobber", 0x43), ("allexport", 0x61), ("notify", 0x62),
    ("nounset", 0x75)]

/-- Turns an option on or off. -/
def setOption (on : Bool) (c : CodePoint) : ShellM Unit := do
  unless optionNames.any (·.2 = c) do fail ("Illegal option -" ++ [c])
  modify fun s =>
    let others := s.letters.filter (· ≠ c)
    { s with letters := if on then c :: others else others }

/-- Writes which options are on: as a table, or as commands that set them. -/
def showOptions (asTable : Bool) : ShellM Unit := do
  let letters := (← get).letters
  let lines := optionNames.map fun (name, c) =>
    let on := letters.contains c
    let state : Text := if on then "on" else "off"
    let sign : Text := if on then "set -o " else "set +o "
    let cell : Text := name ++ List.replicate (16 - name.length) 0x20
    let line : Text := if asTable then cell ++ state else sign ++ name
    line ++ ("\n" : Text)
  let title : Text := if asTable then "Current option settings\n" else []
  discard (emitText (title ++ lines.flatten))

/-- Reads options from the start of arguments and sets them; the arguments after them come back. The
flag tells whether they were ended by dashes. -/
def takeOptions (fuel : Nat) (args : List Text) : ShellM (List Text × Bool) := do
  match fuel, args with
  | fuel + 1, (sign :: letters) :: r =>
    if sign ≠ 0x2D && sign ≠ 0x2B then return (args, false)
    let on := sign = 0x2D
    if on && letters.isEmpty then
      modify fun s => { s with letters := s.letters.filter fun c => c ≠ 0x78 && c ≠ 0x76 }
      return (r, false)
    if on && letters = "-" then return (r, true)
    let r ← letters.foldlM (fun (r : List Text) c => do
      if c ≠ 0x6F then
        setOption on c
        return r
      match r with
      | [] =>
        showOptions on
        return []
      | name :: r =>
        match optionNames.lookup name with
        | some c => setOption on c
        | none => fail ("Illegal option -o " ++ name)
        return r) r
    takeOptions fuel r
  | _, _ => return (args, false)

/-- Sets options and arguments. -/
def setArguments (args : List Text) : ShellM Nat := do
  if args.isEmpty then return ← emitText (← declarations [] fun v => v.value?.isSome)
  let (rest, ended) ← takeOptions (args.length + 1) args
  if !rest.isEmpty || ended then modify fun s => { s with arguments := rest }
  return 0

/-- Drops arguments. -/
def shift (args : List Text) : ShellM Nat := do
  let n ← match args with
    | [] => pure 1
    | t :: _ => numberOf t
  if (← get).arguments.length < n then fail "can't shift that many"
  modify fun s => { s with arguments := s.arguments.drop n }
  return 0

/-- Reads the next option of a script into a variable. -/
def readOptions (args : List Text) : ShellM Nat := do
  match args with
  | letters :: target :: given =>
    let s ← get
    let given := if given.isEmpty then s.arguments else given
    let index := Text.natOfDigits ((← value? "OPTIND").getD "1") - 1
    -- The letters of the argument that was begun, or of the next one.
    let current := ((given[index - 1]?).getD []).drop s.passedLetters
    let (index, begun) := if s.passedLetters ≠ 0 && 0 < index && !current.isEmpty then
        (index - 1, s.passedLetters) else (index, 1)
    let finish := fun (c : CodePoint) (index passed : Nat) (isOver : Bool) => do
      setVariable "OPTIND" (Text.ofNat (index + 1))
      modify fun s => { s with passedLetters := passed }
      setVariable target [c]
      return if isOver then 1 else 0
    let silent := letters.head? = some 0x3A
    match (given[index]?).getD [] with
    | 0x2D :: c₀ :: cs =>
      if c₀ = 0x2D && cs.isEmpty then finish 0x3F (index + 1) 0 true
      else
        match (c₀ :: cs).drop (begun - 1) with
        | [] => finish 0x3F index 0 true
        | c :: r =>
          let next := fun _ : Unit => (index + 1, if r.isEmpty then 0 else begun + 1)
          let complain := fun (t : Text) => do
            if silent then setVariable "OPTARG" [c]
            else
              lift (ProcessM.complain t)
              putVariable "OPTARG" none
          if c = 0x3A || !letters.contains c then
            complain ("Illegal option -" ++ [c])
            let (index, passed) := next ()
            finish 0x3F index passed false
          else if !(letters.zip (letters.drop 1)).contains (c, 0x3A) then
            setVariable "OPTARG" []
            let (index, passed) := next ()
            finish c index passed false
          else if !r.isEmpty then
            setVariable "OPTARG" r
            finish c (index + 1) 0 false
          else
            match given[index + 1]? with
            | some value =>
              setVariable "OPTARG" value
              finish c (index + 2) 0 false
            | none =>
              complain ("No arg for -" ++ [c] ++ " option")
              finish (if silent then 0x3A else 0x3F) (index + 1) 0 false
    | _ => finish 0x3F index 0 true
  | _ => fail "Usage: getopts optstring var [arg...]"

/-! ## Reading -/

/-- The marks of what a line holds, and whether a backslash at its end joins the next line to it. -/
def lineMarks (raw : Bool) : Text → List Mark × Bool
  | [] => ([], false)
  | 0x5C :: r =>
    if raw then
      let (ms, joins) := lineMarks raw r
      (.char 0x5C false true :: ms, joins)
    else
      match r with
      | [] => ([], true)
      | c :: r =>
        let (ms, joins) := lineMarks raw r
        (.char c true false :: ms, joins)
  | c :: r =>
    let (ms, joins) := lineMarks raw r
    (.char c false true :: ms, joins)

/-- Reads a line that may go on over several, and whether its end was reached. -/
def readMarks (raw : Bool) : Nat → ShellM (List Mark × Bool)
  | 0 => return ([], false)
  | fuel + 1 => do
    let o ← lift (ProcessM.readLine 0)
    let ended := o.getLast? = some 0x0A
    let bare := (if ended then o.dropLast else o).filter (· ≠ 0)
    let (ms, joins) := lineMarks raw (Utf8.decodeName bare)
    if joins && ended then
      let (more, ended) ← readMarks raw fuel
      return (ms ++ more, ended)
    else return (ms, ended)

/-- Reads a line into variables. -/
def readLine (args : List Text) : ShellM Nat := do
  let (options, names) ← optionsOf "p:r" args
  if names.isEmpty then fail "arg count"
  let (ms, ended) ← readMarks (options.any (·.1 = 0x72)) 1000000
  let fields := splitAtMost (← separators) names.length ms
  for (name, i) in names.zipIdx do
    unless Script.isName name do fail (name ++ ": bad variable name")
    setVariable name (fields[i]?.getD [])
  return if ended then 0 else 1

end ServiceWiring.ShellM
