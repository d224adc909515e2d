import ServiceWiring.Path.Location
import ServiceWiring.Text.Digits
import ServiceWiring.Text.Quoted

/-!
# Arguments

The arguments of the command line. A switch may be shortened as long as it stays the only one that
starts so, its value may follow it or an equals sign, and switches of one letter may share a dash.
After `--` every argument is taken as it is, and a `--` in the place of a value stands for none.

Arguments are read in two passes. The first one says what each argument is taken for by itself, and
a shortened switch with several meanings ends it. The second one goes from left to right.
-/

namespace ServiceWiring.CommandLine

/-- A switch of the command line. -/
inductive Switch where
  /-- Asks for help. -/
  | help
  /-- Names the output directory. -/
  | out
  /-- Asks for stubs. -/
  | impl
  /-- Asks for stubs to be overwritten. -/
  | force
  /-- Names the import path segment of the stubs. -/
  | implPath
  /-- Names the import path segment of the wirings. -/
  | descPath
  /-- Names the directory of the swagger documents. -/
  | swaggerDir
  /-- Names the formatter command. -/
  | gofmt
  /-- Asks for unformatted source. -/
  | noGofmt
  /-- Asks for all reports. -/
  | verbose
deriving DecidableEq, Repr

namespace Switch

/-- The names of the switches, in the order in which they are listed. -/
def names : List (Text × Switch) :=
  [("-h", help), ("--help", help), ("--out", out), ("--impl", impl), ("--force", force),
    ("--impl-path", implPath), ("--desc-path", descPath), ("--swagger-dir", swaggerDir),
    ("--gofmt", gofmt), ("--no-gofmt", noGofmt), ("-v", verbose), ("--verbose", verbose)]

/-- The switch with a name. -/
def ofName? (name : Text) : Option Switch := names.lookup name

/-- All names of a switch, with slashes between them. -/
def label (s : Switch) : Text := Text.joinWith "/" ((names.filter (·.2 = s)).map (·.1))

/-- Whether a value follows the switch. -/
def takesValue : Switch → Bool
  | out | implPath | descPath | swaggerDir | gofmt => true
  | help | impl | force | noGofmt | verbose => false

/-- The switch that may not be given together with this one. -/
def rival? : Switch → Option Switch
  | gofmt => some noGofmt
  | noGofmt => some gofmt
  | _ => none

end Switch

/-- What a run is told by its arguments. -/
structure Settings where
  /-- Where the descriptor set is. -/
  descriptors : Location
  /-- The output directory, unless it was given no value. -/
  out? : Option Location := some (Location.ofText ".")
  /-- Whether stubs are wanted. -/
  impl : Bool := false
  /-- Whether stubs are overwritten. -/
  force : Bool := false
  /-- The import path segment of the stubs. -/
  implPath : Text := []
  /-- The import path segment of the wirings, unless it was given no value. -/
  descPath? : Option Text := some []
  /-- The directory of the swagger documents, if there is one. -/
  swaggerDir? : Option Location := none
  /-- The formatter command, unless it was given no value. -/
  gofmt? : Option Text := some "gofmt"
  /-- Whether the source stays unformatted. -/
  noGofmt : Bool := false
  /-- Whether all reports are shown. -/
  verbose : Bool := false
deriving Repr

/-- Why arguments are refused. -/
inductive Misuse where
  /-- A shortened switch has several meanings. -/
  | ambiguous (given : Text) (meanings : List Text)
  /-- A switch lacks its value. -/
  | noValue (s : Switch)
  /-- A switch takes no value but has one. -/
  | needlessValue (s : Switch) (value : Text)
  /-- Two switches may not be given together. -/
  | rivals (s rival : Switch)
  /-- The descriptor set is not named. -/
  | noDescriptors
  /-- Some arguments have no meaning. -/
  | unknown (given : List Text)
deriving DecidableEq, Repr

/-- The wording of a misuse. -/
def Misuse.message : Misuse → Text
  | .ambiguous given meanings =>
    "ambiguous option: " ++ given ++ " could match " ++ Text.joinWith ", " meanings
  | .noValue s => "argument " ++ s.label ++ ": expected one argument"
  | .needlessValue s value =>
    "argument " ++ s.label ++ ": ignored explicit argument " ++ value.quoted
  | .rivals s rival => "argument " ++ s.label ++ ": not allowed with argument " ++ rival.label
  | .noDescriptors => "the following arguments are required: descriptors"
  | .unknown given => "unrecognized arguments: " ++ Text.joinWith " " given

/-- What the arguments ask for. -/
inductive Request where
  /-- Help. -/
  | help
  /-- A run. -/
  | run (s : Settings)
deriving Repr

/-! ## What an argument is taken for -/

/-- What an argument is taken for. -/
inductive Kind where
  /-- A value. -/
  | value
  /-- The mark after which all arguments are values. -/
  | mark
  /-- A switch by its long or its short name, perhaps with a value in the same argument. -/
  | switch (s : Switch) (short : Bool) (attached? : Option Text)
  /-- A switch that does not exist. -/
  | unknown
deriving DecidableEq, Repr

/-- The dash that switches start with. -/
abbrev dash : CodePoint := 0x2D

/-- Whether a text is a negative number, with digits of any script. One line break may follow it. -/
def isNegativeNumber (t : Text) : Bool :=
  let t := if t.getLast? = some 0x0A then t.dropLast else t
  match t with
  | 0x2D :: r =>
    let (whole, rest) := (r.takeWhile CodePoint.isDecimal, r.dropWhile CodePoint.isDecimal)
    match rest with
    | [] => !whole.isEmpty
    | 0x2E :: fraction => !fraction.isEmpty && fraction.all CodePoint.isDecimal
    | _ => false
  | _ => false

/-- The meanings of an argument that is no exact name: long names that it shortens, or a short name
with something attached. -/
def meanings (arg : Text) : List (Text × Kind) :=
  if ("--" : Text).isPrefixOf arg then
    let (name, attached?) := Text.cut '=' arg
    (Switch.names.filter fun (n, _) => name.isPrefixOf n).map fun (n, s) =>
      (n, .switch s false attached?)
  else
    (Switch.names.filter fun (n, _) => n = arg.take 2).map fun (n, s) =>
      (n, .switch s true (some (arg.drop 2)))

/-- What an argument before the mark is taken for. -/
def classify (arg : Text) : Except Misuse Kind :=
  if arg.head? ≠ some dash then .ok .value
  else
    let short := (arg.drop 1).head? ≠ some dash
    match Switch.ofName? arg with
    | some s => .ok (.switch s short none)
    | none =>
      if arg.length = 1 then .ok .value
      else
        match Text.cut '=' arg with
        | (name, some value) =>
          match Switch.ofName? name with
          | some s => .ok (.switch s short (some value))
          | none => guess arg
        | _ => guess arg
where
  /-- What an argument that names no switch is taken for. -/
  guess (arg : Text) : Except Misuse Kind :=
    match meanings arg with
    | [(_, kind)] => .ok kind
    | [] => .ok (if isNegativeNumber arg || arg.contains ' ' then .value else .unknown)
    | several => .error (.ambiguous arg (several.map (·.1)))

/-- What each argument is taken for. -/
def classifyAll : List Text → Except Misuse (List (Text × Kind))
  | [] => .ok []
  | arg :: r =>
    if arg = "--" then .ok ((arg, .mark) :: r.map (·, .value))
    else do
      let kind ← classify arg
      return (arg, kind) :: (← classifyAll r)

/-! ## From left to right -/

/-- What was read so far. -/
structure Progress where
  /-- The path of the descriptor set. -/
  descriptors? : Option Text := none
  /-- The switches with their values, in order. -/
  given : List (Switch × Option Text) := []
  /-- The arguments without a meaning, in order. -/
  extras : List Text := []
deriving Repr

/-- Takes a switch with its value, if it has one; without a rival that was given before. -/
def Progress.take (p : Progress) (s : Switch) (value? : Option Text) : Except Misuse Progress :=
  let value? := value?.filter fun value => value ≠ [dash, dash]
  match s.rival? with
  | some rival =>
    if p.given.any (·.1 = rival) then .error (.rivals s rival)
    else .ok { p with given := p.given ++ [(s, value?)] }
  | none => .ok { p with given := p.given ++ [(s, value?)] }

/-- The switches that share a dash, from one with something attached: each letter has to name a
switch. The last one may take what follows as its value. -/
def cluster (s : Switch) : Text → Except Misuse (List (Switch × Option Text))
  | [] => .error (.needlessValue s [])
  | c :: r =>
    match Switch.ofName? [dash, c] with
    | none => .error (.needlessValue s (c :: r))
    | some t =>
      if r.isEmpty then .ok [(s, none), (t, none)]
      else if t.takesValue then .ok [(s, none), (t, some r)]
      else return (s, none) :: (← cluster t r)

/-- Takes switches with their values. -/
def Progress.takeAll (p : Progress) (ss : List (Switch × Option Text)) : Except Misuse Progress :=
  ss.foldlM (fun p (s, value?) => p.take s value?) p

/-- Whether help was asked for. -/
def Progress.asksHelp (p : Progress) : Bool := p.given.any (·.1 = .help)

/-- Reads arguments from left to right; it stops where help is asked for. -/
def readFrom (p : Progress) : List (Text × Kind) → Except Misuse Progress
  | [] => .ok p
  | (arg, .unknown) :: r => readFrom { p with extras := p.extras ++ [arg] } r
  | (arg, .value) :: r =>
    match p.descriptors? with
    | none =>
      -- A mark right after the value is used up with it.
      match r with
      | (_, .mark) :: r => readFrom { p with descriptors? := some arg } r
      | r => readFrom { p with descriptors? := some arg } r
    | some _ => readFrom { p with extras := p.extras ++ [arg] } r
  | (arg, .mark) :: r =>
    match p.descriptors?, r with
    | none, (value, .value) :: r => readFrom { p with descriptors? := some value } r
    | _, r => readFrom { p with extras := p.extras ++ [arg] } r
  | (_, .switch s short attached?) :: r => do
    match attached? with
    | none =>
      if s.takesValue then
        match r with
        | (value, .value) :: r => readFrom (← p.take s (some value)) r
        | _ => throw (.noValue s)
      else
        let p ← p.take s none
        if p.asksHelp then return p else readFrom p r
    | some value =>
      if s.takesValue then readFrom (← p.take s (some value)) r
      else if !short then throw (.needlessValue s value)
      else
        let p ← p.takeAll (← cluster s value)
        if p.asksHelp then return p else readFrom p r

/-- The settings after one more switch. -/
def Settings.apply (settings : Settings) : Switch × Option Text → Settings
  | (.out, value?) => { settings with out? := value?.map .ofText }
  | (.impl, _) => { settings with impl := true }
  | (.force, _) => { settings with force := true }
  | (.implPath, value?) => { settings with implPath := value?.getD [] }
  | (.descPath, value?) => { settings with descPath? := value? }
  | (.swaggerDir, value?) => { settings with swaggerDir? := value?.map .ofText }
  | (.gofmt, value?) => { settings with gofmt? := value? }
  | (.noGofmt, _) => { settings with noGofmt := true }
  | (.verbose, _) => { settings with verbose := true }
  | (.help, _) => settings

/-- What the arguments ask for. -/
def parse (args : List Text) : Except Misuse Request := do
  let p ← readFrom {} (← classifyAll args)
  if p.asksHelp then return .help
  match p.descriptors? with
  | none => throw .noDescriptors
  | some path =>
    if !p.extras.isEmpty then throw (.unknown p.extras)
    return .run (p.given.foldl Settings.apply { descriptors := .ofText path })

end ServiceWiring.CommandLine
