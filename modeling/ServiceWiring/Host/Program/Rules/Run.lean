import ServiceWiring.Host.Program.Rules.Value

/-!
# Running rules

The rules for the start come first, then for each record of the input those that hold for it, then
those for the end. What is written to a command waits until the command is closed.
-/

namespace ServiceWiring.Rules

open ProcessM

/-- Why the course of actions breaks off. -/
inductive Jump where
  /-- To the end of a loop. -/
  | stop
  /-- To the next turn of a loop. -/
  | skip
  /-- To the next record. -/
  | next
  /-- To the end of the input. -/
  | leave
  /-- Back from a routine, with a value. -/
  | back (v : Value)
  /-- To the end of all, for a reason. -/
  | fail (reason : Text)
deriving DecidableEq, Repr

/-- What a run of rules has come to. -/
structure State where
  /-- The variables that are set. -/
  values : List (Text × Value)
  /-- The arrays, and the items of each. -/
  arrays : List (Text × List (Text × Value)) := []
  /-- The record. -/
  record : Text := []
  /-- Its fields. -/
  fields : List Text := []
  /-- The rest of the file that is being read, if there is one. -/
  unread? : Option Text := none
  /-- The files that are left, and what is assigned between them. -/
  operands : List Text
  /-- Whether a file was among them. -/
  hasInput : Bool := false
  /-- What is left of files and of what commands wrote, by name. -/
  sources : List (Text × Text) := []
  /-- The files that are written, by name, and their channels. -/
  sinks : List (Text × Nat) := []
  /-- The commands that are written to, by name, and what they are to read, last pieces first. -/
  pipes : List (Text × List Octets) := []
  /-- The numbers of the rules whose stretch of records has begun. -/
  begun : List Nat := []
  /-- The status at the end. -/
  status : Nat := 0
  /-- The last random number. -/
  random : Nat := 1
  /-- Where random numbers started. -/
  seed : Nat := 0
  /-- The routines. -/
  routines : List Routine := []
  /-- Runs a command; the result is its status. -/
  runCommand : Text → ProcessM Nat

/-- What is done to a run of rules. -/
abbrev RunM := ExceptT Jump (StateT State ProcessM)

namespace Run

/-- Does something as a program does it. -/
def lift {α : Type} (action : ProcessM α) : RunM α := ExceptT.lift (StateT.lift action)

/-! ## Variables -/

/-- The value of a variable. -/
def variableOf (name : Text) : RunM Value := do
  let s ← get
  if name = "NF" then return .ofNat s.fields.length
  return (s.values.lookup name).getD .unset

/-- The format of numbers that become texts. -/
def conversion : RunM Text := return (← variableOf "CONVFMT").toText "%.6g"

/-- The text of a variable. -/
def textOf (name : Text) : RunM Text := return (← variableOf name).toText (← conversion)

/-- Breaks the run off for something that went wrong at a record. -/
def abort {α : Type} (reason : Text) : RunM α := do
  let place := "\n\tFILENAME=\"" ++ (← textOf "FILENAME") ++ "\" FNR=" ++ (← textOf "FNR") ++
    " NR=" ++ (← textOf "NR")
  throw (.fail ("run time error: " ++ reason ++ place))

/-- The items of an array. -/
def itemsOf (array : Text) : RunM (List (Text × Value)) :=
  return ((← get).arrays.lookup array).getD []

/-- Changes the items of an array. -/
def setItems (array : Text) (items : List (Text × Value)) : RunM Unit :=
  modify fun s => { s with arrays := (array, items) :: s.arrays.filter (·.1 ≠ array) }

/-- Gives an item of an array a value. What was used last comes first. -/
def setItem (array index : Text) (v : Value) : RunM Unit := do
  setItems array ((index, v) :: (← itemsOf array).filter (·.1 ≠ index))

/-- Where the items of an index are kept, of 64 places. -/
def placeOf (index : Text) : Nat :=
  index.foldl (fun h c => Nat.xor h c.val * 16777619 % 2 ^ 32) 2166136261 % 64

/-- The indexes of an array in the order of their places. On one place, what was used last comes
first, or the greater one of two numbers. -/
def indexesOf (array : Text) : RunM (List Text) := do
  let indexes := (← itemsOf array).map (·.1)
  let isNumber := fun (t : Text) => !t.isEmpty && t.all CodePoint.isDigit
  let indexes :=
    if indexes.all isNumber then
      indexes.mergeSort fun a b => decide (Text.natOfDigits b ≤ Text.natOfDigits a)
    else indexes
  return indexes.mergeSort fun a b => decide (placeOf a ≤ placeOf b)

/-! ## Fields -/

/-- The pieces of a text between the matches of a pattern that are not empty; `piece` is what there
is of the next one, from the last code point to the first. -/
def splitAtMatches (p : Pattern) (piece : Text) (position : Nat) (before? : Option CodePoint)
    (t : Text) : Nat → List Text
  | 0 => [piece.reverse ++ t]
  | fuel + 1 =>
    match t with
    | [] => [piece.reverse]
    | c :: r =>
      match p.longest? { position, before?, rest := t } with
      | some e =>
        if position < e.position then
          piece.reverse :: splitAtMatches p [] e.position e.before? e.rest fuel
        else splitAtMatches p (c :: piece) (position + 1) (some c) r fuel
      | none => splitAtMatches p (c :: piece) (position + 1) (some c) r fuel

/-- The pieces of a text that are separated in the way that a text tells. With `lines` a line break
separates too. -/
def split (lines : Bool) (separator t : Text) : List Text :=
  let breaks := fun (pieces : List Text) =>
    if lines then pieces.flatMap (Text.splitOn 0x0A) else pieces
  if t.isEmpty then []
  else
    match separator with
    | [] => t.map fun c => [c]
    | [c] =>
      if c = 0x20 then
        (Text.splitOn 0x20 (t.map fun c => if c = 0x09 || c = 0x0A then 0x20 else c)).filter
          (!·.isEmpty)
      else breaks (Text.splitOn c t)
    | _ =>
      match Reading.patternOf separator with
      | .ok p => breaks (splitAtMatches p [] 0 none t (t.length + 1))
      | .error _ => [t]

/-- Makes a text the record. -/
def setRecord (t : Text) : RunM Unit := do
  let fields := split ((← textOf "RS").isEmpty) (← textOf "FS") t
  modify fun s => { s with record := t, fields }

/-- Makes texts the fields, and the record what they are together. -/
def setFields (fields : List Text) : RunM Unit := do
  let separator ← textOf "OFS"
  modify fun s => { s with fields, record := Text.joinWith separator fields }

/-- The text of a field. -/
def fieldOf (n : Int) : RunM Text := do
  if n < 0 then abort ("negative field index $" ++ Text.ofInt n)
  let s ← get
  return if n = 0 then s.record else s.fields[n.toNat - 1]?.getD []

/-- Makes a text a field. -/
def setField (n : Int) (t : Text) : RunM Unit := do
  if n < 0 then abort ("negative field index $" ++ Text.ofInt n)
  if n = 0 then setRecord t
  else
    let fields := (← get).fields
    let fields := fields ++ List.replicate (n.toNat - fields.length) []
    setFields (fields.set (n.toNat - 1) t)

/-- Gives a variable a value. -/
def setVariable (name : Text) (v : Value) : RunM Unit := do
  if name = "NF" then
    let n := v.toNumber.toInt.toNat
    let fields := (← get).fields
    setFields (fields.take n ++ List.replicate (n - fields.length) [])
  else modify fun s => { s with values := (name, v) :: s.values.filter (·.1 ≠ name) }

/-- Sets a variable as an argument asks for it. -/
def assignText (t : Text) : RunM Unit := do
  let (name, value?) := Text.cut '=' t
  setVariable name (.input (unescape (value?.getD [])))

/-! ## Records -/

/-- The first record of a text, and what follows it. -/
def firstRecord (separator t : Text) : Option (Text × Text) :=
  let dropBreaks := fun (t : Text) => t.dropWhile (· = 0x0A)
  match separator with
  | [c] => if t.isEmpty then none else some ((Text.cut c t).map id (·.getD []))
  | [] =>
    let t := dropBreaks t
    if t.isEmpty then none
    else
      let (r, rest) := paragraph [] t
      some (Text.dropRight 0x0A r, dropBreaks rest)
  | _ =>
    if t.isEmpty then none
    else
      match (Reading.patternOf separator).toOption.bind (·.search (Reach.start t)) with
      | some m =>
        if m.stop.rest.length < t.length then some (m.before, m.stop.rest) else some (t, [])
      | none => some (Text.dropRight 0x0A t, [])
where
  /-- The text up to two line breaks, and what follows them. -/
  paragraph (before : Text) : Text → Text × Text
    | 0x0A :: 0x0A :: r => (before.reverse, r)
    | c :: r => paragraph (c :: before) r
    | [] => (before.reverse, [])

/-- Counts one more record. -/
def countRecord : RunM Unit := do
  for name in ([("NR" : Text), "FNR"]) do
    setVariable name (.number ((← variableOf name).toNumber.add (Binary64.ofInt 1)))

/-- Whether an argument assigns something. -/
def isAssignment (t : Text) : Bool :=
  let (name, value?) := Text.cut '=' t
  value?.isSome && !name.isEmpty && name.all CodePoint.isWord && !name.head?.any CodePoint.isDigit

/-- The next record of the input. The fuel is more than the number of arguments that are left. -/
def nextRecord? : Nat → RunM (Option Text)
  | 0 => return none
  | fuel + 1 => do
    let s ← get
    match s.unread? with
    | some t =>
      match firstRecord (← textOf "RS") t with
      | some (record, rest) =>
        set { s with unread? := some rest }
        countRecord
        return some record
      | none =>
        set { s with unread? := none }
        nextRecord? fuel
    | none =>
      let openFile : Text → RunM Unit := fun file => do
        match ← lift (readPath (Utf8.decodeName (octetsOf file))) with
        | .ok o =>
          modify fun s => { s with unread? := some (ofOctets o), hasInput := true }
          setVariable "FNR" (.ofNat 0)
        | .error r =>
          throw (.fail ("cannot open \"" ++ file ++ "\" (" ++ r.reason ++ ")"))
      match s.operands with
      | [] =>
        if s.hasInput then return none
        openFile "-"
        nextRecord? fuel
      | file :: operands =>
        set { s with operands }
        if isAssignment file then assignText file
        else if !file.isEmpty then
          openFile file
          setVariable "FILENAME" (.text file)
        nextRecord? fuel

/-- The next record of a file or of what a command writes. The result is negative, if there is no
such file. -/
def nextRecordOf (origin : Origin) (name : Text) : RunM (Int × Text) := do
  let text? ← match (← get).sources.lookup name with
    | some t => pure (some t)
    | none =>
      let path := Utf8.decodeName (octetsOf name)
      if origin = .file then pure ((← lift (readPath path)).toOption.map ofOctets)
      else
        let run := (← get).runCommand path
        let o ← lift do
          let i ← addChannel (.sink [])
          discard (apart (do
            lead 1 i
            run))
          match ← channel i with
          | .sink pieces => return pieces.reverse.flatten
          | _ => return []
        pure (some (ofOctets o))
  match text? with
  | none => return (-1, [])
  | some t =>
    let (found, rest) := match firstRecord (← textOf "RS") t with
      | some (record, rest) => (some record, rest)
      | none => (none, [])
    modify fun s => { s with sources := (name, rest) :: s.sources.filter (·.1 ≠ name) }
    return match found with
      | some record => (1, record)
      | none => (0, [])

/-! ## Writing -/

/-- Runs a command that was written to. -/
def runPipe (name : Text) (pieces : List Octets) : RunM Nat := do
  let run := (← get).runCommand (Utf8.decodeName (octetsOf name))
  lift (apart do
    let i ← addChannel (.source pieces.reverse.flatten)
    lead 0 i
    run)

/-- Writes to a sink. -/
def writeTo (sink : Sink) (name : Text) (t : Text) : RunM Unit := do
  let o := octetsOf t
  match sink with
  | .output => lift (put o)
  | .command =>
    modify fun s =>
      if (s.pipes.lookup name).isSome then
        { s with pipes := s.pipes.map fun (n, pieces) =>
          (n, if n = name then o :: pieces else pieces) }
      else { s with pipes := s.pipes ++ [(name, [o])] }
  | .file | .fileEnd =>
    if name = "/dev/stdout" || name = "-" then lift (put o)
    else if name = "/dev/stderr" then lift (discard (write 2 o))
    else
      match (← get).sinks.lookup name with
      | some i => lift (ProcessM.writeTo i o)
      | none =>
        let access : Access := if sink = .file then .replace else .extend
        match ← lift (openPath access (Utf8.decodeName (octetsOf name))) with
        | .error r =>
          throw (.fail ("cannot open \"" ++ name ++ "\" for output (" ++ r.reason ++ ")"))
        | .ok i =>
          modify fun s => { s with sinks := (name, i) :: s.sinks }
          lift (ProcessM.writeTo i o)

/-- Closes a file or a command. -/
def closeAll (name : Text) : RunM Int := do
  let s ← get
  let known := (s.sources.lookup name).isSome || (s.sinks.lookup name).isSome
  let pipe? := s.pipes.lookup name
  modify fun s =>
    { s with
      sources := s.sources.filter (·.1 ≠ name)
      sinks := s.sinks.filter (·.1 ≠ name)
      pipes := s.pipes.filter (·.1 ≠ name) }
  match pipe? with
  | some pieces => return (← runPipe name pieces)
  | none => return if known then 0 else -1

/-! ## Replacing -/

/-- What comes in for a match. -/
def replacement (found : Text) : Text → Text
  | 0x5C :: 0x26 :: r => 0x26 :: replacement found r
  | 0x5C :: 0x5C :: r => 0x5C :: replacement found r
  | 0x26 :: r => found ++ replacement found r
  | c :: r => c :: replacement found r
  | [] => []

/-- The text with its first match replaced, or with all of them, and how many were. `afterMatch`
tells whether a match ends at the place. -/
def replaceFrom (p : Pattern) (new : Text) (everywhere afterMatch : Bool) (r : Reach) :
    Nat → Text × Nat
  | 0 => (r.rest, 0)
  | fuel + 1 =>
    match p.search r with
    | none => (r.rest, 0)
    | some m =>
      let isEmpty := m.start.position = m.stop.position
      let (passed, after) := if isEmpty then (m.stop.rest.take 1, m.stop.skip 1) else ([], m.stop)
      let more := fun (ended : Bool) =>
        if isEmpty && m.stop.rest.isEmpty then ([], 0)
        else replaceFrom p new everywhere ended { after with kept := [] } fuel
      if isEmpty && afterMatch && m.before.isEmpty then
        let (t, n) := more false
        (passed ++ t, n)
      else
        let before := m.before ++ replacement m.text new
        if everywhere then
          let (t, n) := more !isEmpty
          (before ++ passed ++ t, n + 1)
        else (before ++ m.stop.rest, 1)

/-- The text with matches replaced, and how many. -/
def replaceIn (p : Pattern) (new : Text) (everywhere : Bool) (t : Text) : Text × Nat :=
  replaceFrom p new everywhere false (Reach.start t) (t.length + 2)

/-- The part of a text from a place on that may lie outside of it, as long as is asked for. -/
def part (t : Text) (start : Binary64) (length? : Option Binary64) : Text :=
  let nearest := fun (x : Binary64) => (x.mul (Binary64.ofInt 2)).toInt.fdiv 2 +
    (x.mul (Binary64.ofInt 2)).toInt.fmod 2
  let first := nearest start
  let stop : Int := match length? with
    | some n => nearest (start.add n)
    | none => (t.length : Int) + 1
  let (first, stop) := (max first 1, min stop (t.length + 1))
  (t.drop (first - 1).toNat).take (stop - first).toNat

/-- The next number of a sequence that looks like none. -/
def nextRandom (n : Nat) : Nat := (n * 16807) % 2147483647

/-! ## Expressions -/

/-- What evaluates expressions and performs actions. -/
structure Engine where
  /-- Evaluates an expression. -/
  value : Expr → RunM Value
  /-- Performs an action. -/
  perform : Action → RunM Unit

namespace Engine

/-- The number of an expression. -/
def number (again : Engine) (e : Expr) : RunM Binary64 := return (← again.value e).toNumber

/-- The text of an expression. -/
def text (again : Engine) (e : Expr) : RunM Text :=
  return (← again.value e).toText (← conversion)

/-- Whether an expression is true. -/
def test (again : Engine) (e : Expr) : RunM Bool := return (← again.value e).isTrue

/-- The pattern that an expression stands for. -/
def pattern (again : Engine) (e : Expr) : RunM Pattern := do
  match e with
  | .pattern p | .several [.pattern p] => return p
  | e =>
    let t ← again.text e
    match Reading.patternOf t with
    | .ok p => return p
    | .error _ => throw (.fail ("regular expression compile failed (syntax error)\n" ++ t))

/-- The index of an item. -/
def index (again : Engine) (e : Expr) : RunM Text := do
  match e with
  | .several es =>
    return Text.joinWith (← textOf "SUBSEP") (← es.mapM again.text)
  | e => again.text e

/-- Gives something a value. -/
def assign (again : Engine) (target : Expr) (v : Value) : RunM Unit := do
  match target with
  | .named name => setVariable name v
  | .field e => setField (← again.number e).toInt (v.toText (← conversion))
  | .item array i => setItem array (← again.index i) v
  | _ => return

/-- What a function gives that is calculated from numbers. -/
def calculate? (f : Function) (xs : List Binary64) : Option Binary64 :=
  let float := fun (f : Float → Float) => xs.head?.map fun x => ofFloat (f (toFloat x))
  match f, xs with
  | .int, x :: _ => some (if (x.compare? x).isSome && x.isInt then x else Binary64.ofInt x.toInt)
  | .sqrt, x :: _ => some x.sqrt
  | .sin, _ => float Float.sin
  | .cos, _ => float Float.cos
  | .exp, _ => float Float.exp
  | .log, _ => float Float.log
  | .atan2, [y, x] => some (ofFloat (Float.atan2 (toFloat y) (toFloat x)))
  | _, _ => none

/-- What a function gives. -/
def call (again : Engine) (f : Function) (args : List Expr) : RunM Value := do
  let number := return (← args.mapM again.number)
  match f, args with
  | .length, .named name :: _ =>
    match (← get).arrays.lookup name with
    | some items => return .ofNat items.length
    | none => return .ofNat (← textOf name).length
  | .length, e :: _ => return .ofNat (← again.text e).length
  | .substr, [t, i] => return .text (part (← again.text t) (← again.number i) none)
  | .substr, [t, i, n] =>
    return .text (part (← again.text t) (← again.number i) (some (← again.number n)))
  | .index, [t, u] =>
    let (t, u) := (← again.text t, ← again.text u)
    let found? := ((Pattern.ofText u).search (Reach.start t)).map (·.start.position + 1)
    return .ofNat (if u.isEmpty then 0 else found?.getD 0)
  | .split, t :: .named array :: more =>
    let t ← again.text t
    let separator ← match more with
      | [] => textOf "FS"
      | .pattern p :: _ =>
        let pieces := splitAtMatches p [] 0 none t (t.length + 1)
        return ← fill array (if t.isEmpty then [] else pieces)
      | e :: _ => again.text e
    fill array (Run.split false separator t)
  | .sub, [p, new, target] => replace false p new target
  | .gsub, [p, new, target] => replace true p new target
  | .match, [t, p] =>
    let t ← again.text t
    let found := (← again.pattern p).search (Reach.start t)
    let start : Int := (found.map fun m => (m.start.position : Int) + 1).getD 0
    setVariable "RSTART" (.number (Binary64.ofInt start))
    let length : Int := (found.map fun m => (m.text.length : Int)).getD (-1)
    setVariable "RLENGTH" (.number (Binary64.ofInt length))
    return .number (Binary64.ofInt start)
  | .sprintf, format :: values =>
    let f ← again.text format
    match formatted (← conversion) f (← values.mapM again.value) with
    | .ok t => return .text t
    | .error flaw => abort (flawText "sprintf" f flaw)
  | .tolower, e :: _ => return .text (lowercase (← again.text e))
  | .toupper, e :: _ => return .text (uppercase (← again.text e))
  | .system, e :: _ =>
    let command := Utf8.decodeName (octetsOf (← again.text e))
    let run := (← get).runCommand command
    return .ofNat (← lift (apart run))
  | .close, e :: _ => return .number (Binary64.ofInt (← closeAll (← again.text e)))
  | .fflush, _ => return .ofNat 0
  | .rand, _ =>
    modify fun s => { s with random := nextRandom s.random }
    return .number ((Binary64.ofInt (← get).random).div (Binary64.ofInt 2147483647))
  | .srand, _ =>
    let before := (← get).seed
    let n := ((← number).head?.map (·.toInt.toNat)).getD 0
    modify fun s => { s with seed := n, random := n % 2147483646 + 1 }
    return .ofNat before
  | f, _ =>
    match calculate? f (← number) with
    | some x => return .number x
    | none => abort "wrong number of arguments in call"
where
  /-- Makes texts the items of an array; the result is their number. -/
  fill (array : Text) (pieces : List Text) : RunM Value := do
    setItems array (pieces.zipIdx.map fun (t, i) => (Text.ofNat (i + 1), Value.input t)).reverse
    return .ofNat pieces.length
  /-- Replaces matches in something; the result is their number. -/
  replace (everywhere : Bool) (p new target : Expr) : RunM Value := do
    let p ← again.pattern p
    let new ← again.text new
    let (t, n) := replaceIn p new everywhere (← again.text target)
    unless n = 0 do again.assign target (.text t)
    return .ofNat n
  /-- The wording of what is wrong with a format. -/
  flawText (name format : Text) : FormatFlaw → Text
    | .fewValues => "not enough arguments passed to " ++ name ++ "(\"" ++ format ++ "\")"
    | .badDirective t => "bad conversion \"" ++ t ++ "\" in " ++ name

/-- What a routine gives. Its parameters are its own: variables and arrays of the same names are as
before afterwards, but an array that it is given is what it makes of it. -/
def enter (again : Engine) (name : Text) (args : List Expr) : RunM Value := do
  match (← get).routines.find? (·.name = name) with
  | none => throw (.fail ("function " ++ name ++ " never defined"))
  | some r =>
    let values ← args.mapM again.value
    let before ← get
    let given := args.map fun e =>
      match e with
      | .named n => (before.arrays.lookup n).map fun items => (n, items)
      | _ => none
    let own := fun {α : Type} (kept : List (Text × α)) =>
      kept.filter fun (n, _) => !r.parameters.contains n
    modify fun s =>
      { s with
        values := r.parameters.zip values ++ own s.values
        arrays := (r.parameters.zip given).filterMap (fun (p, given?) =>
          given?.map fun (_, items) => (p, items)) ++ own s.arrays }
    let v ← ExceptT.mk do
      match ← (again.perform r.body).run with
      | .ok () => return .ok .unset
      | .error (.back v) => return .ok v
      | .error j => return .error j
    let after ← get
    let mine := fun {α : Type} (kept : List (Text × α)) =>
      kept.filter fun (n, _) => r.parameters.contains n
    set { after with
      values := mine before.values ++ own after.values
      arrays := mine before.arrays ++ own after.arrays }
    for (p, e) in r.parameters.zip args do
      match e, after.arrays.lookup p with
      | .named n, some items => setItems n items
      | _, _ => pure ()
    return v

/-- Reads a record into something. -/
def read (again : Engine) (origin : Origin) (source target : Expr) : RunM Value := do
  let (found, record) ← match origin with
    | .input => do
      match ← nextRecord? ((← get).operands.length + 3) with
      | some record => pure ((1 : Int), record)
      | none => pure (0, [])
    | origin => do nextRecordOf origin (← again.text source)
  if found = 1 then
    if origin = .command then countRecord
    again.assign target (.input record)
  return .number (Binary64.ofInt found)

/-- Evaluates an expression. -/
def evaluate (again : Engine) (e : Expr) : RunM Value := do
  match e with
  | .number x => return .number x
  | .text t => return .text t
  | .pattern p => return .ofBool (p.occursIn (← get).record)
  | .named name => variableOf name
  | .field e => return .input (← fieldOf (← again.number e).toInt)
  | .item array i =>
    let i ← again.index i
    let v := ((← itemsOf array).lookup i).getD .unset
    setItem array i v
    return v
  | .several [e] => again.value e
  | .several es => return .text (Text.joinWith (← textOf "SUBSEP") (← es.mapM again.text))
  | .assign target op? e =>
    let v ← match op? with
      | none => again.value e
      | some op => do
        let x ← again.number e
        pure (.number (op.calculate (← again.number target) x))
    again.assign target v
    return v
  | .step target up after =>
    let x ← again.number target
    let y := x.add (Binary64.ofInt (if up then 1 else -1))
    again.assign target (.number y)
    return .number (if after then x else y)
  | .calculate op a b =>
    let x ← again.number a
    return .number (op.calculate x (← again.number b))
  | .compare c a b =>
    let v ← again.value a
    let w ← again.value b
    return .ofBool <| match v.compare? (← conversion) w with
      | some o => c.holds o
      | none => c = .notEqual
  | .join a b =>
    let t ← again.text a
    return .text (t ++ (← again.text b))
  | .not e => return .ofBool !(← again.test e)
  | .both a b => if ← again.test a then return .ofBool (← again.test b) else return .ofBool false
  | .either a b => if ← again.test a then return .ofBool true else return .ofBool (← again.test b)
  | .accepts t p =>
    let t ← again.text t
    return .ofBool ((← again.pattern p).occursIn t)
  | .holds i array =>
    let i ← again.index i
    return .ofBool ((← itemsOf array).lookup i).isSome
  | .choose test yes no => if ← again.test test then again.value yes else again.value no
  | .read origin source target => again.read origin source target
  | .call f args => again.call f args
  | .apply name args => again.enter name args

/-! ## Actions -/

/-- Writes values. -/
def writeValues (again : Engine) (isFormat : Bool) (es : List Expr) (sink : Sink) (place : Expr) :
    RunM Unit := do
  let values ← es.mapM again.value
  let format ← textOf "OFMT"
  let t ←
    if isFormat then
      let f := (values.head?.map (·.toText format)).getD []
      match formatted format f (values.drop 1) with
      | .ok t => pure t
      | .error flaw => abort (call.flawText "printf" f flaw)
    else
      pure (Text.joinWith (← textOf "OFS") (values.map (·.toText format)) ++ (← textOf "ORS"))
  writeTo sink (← again.text place) t

/-- Performs one turn of a loop; the result tells whether the loop goes on. -/
def turn (again : Engine) (body : Action) : RunM Bool :=
  ExceptT.mk do
    match ← (again.perform body).run with
    | .ok () | .error .skip => return .ok true
    | .error .stop => return .ok false
    | .error j => return .error j

/-- Performs the turns of a loop, no more than so many. -/
def turns (again : Engine) (test : Expr) (body after : Action) : Nat → RunM Unit
  | 0 => return
  | n + 1 => do
    if ← again.test test then
      if ← again.turn body then
        again.perform after
        turns again test body after n

/-- Performs a turn for each of some indexes. -/
def turnsOver (again : Engine) (name : Text) (body : Action) : List Text → RunM Unit
  | [] => return
  | i :: r => do
    setVariable name (.input i)
    if ← again.turn body then turnsOver again name body r

/-- How often a loop may turn. -/
def maxTurns : Nat := 10000000

/-- Performs an action. -/
def execute (again : Engine) (a : Action) : RunM Unit := do
  match a with
  | .nothing => return
  | .evaluate e => discard (again.value e)
  | .write isFormat es sink place => again.writeValues isFormat es sink place
  | .sequence a b =>
    again.perform a
    again.perform b
  | .choose test yes no => if ← again.test test then again.perform yes else again.perform no
  | .loop test body after => turns again test body after maxTurns
  | .again body test =>
    if ← again.turn body then turns again test body .nothing maxTurns
  | .each name array body =>
    turnsOver again name body (← indexesOf array)
  | .stop => throw .stop
  | .skip => throw .skip
  | .next => throw .next
  | .leave status? =>
    if let some e := status? then
      let n ← again.number e
      modify fun s => { s with status := (n.toInt % 256).toNat }
    throw .leave
  | .back value? =>
    match value? with
    | some e => throw (.back (← again.value e))
    | none => throw (.back .unset)
  | .delete array none => setItems array []
  | .delete array (some i) =>
    let i ← again.index i
    setItems array ((← itemsOf array).filter (·.1 ≠ i))

/-- The engine that works as deep as the fuel allows. -/
def ofFuel : Nat → Engine
  | 0 => { value := fun _ => return .unset, perform := fun _ => return }
  | fuel + 1 =>
    { value := fun e s => evaluate (ofFuel fuel) e s
      perform := fun a s => execute (ofFuel fuel) a s }

/-! ## Rules -/

/-- Whether a rule holds for the record; `n` is its number. -/
def holds (again : Engine) (n : Nat) (o : Occasion) : RunM Bool := do
  match o with
  | .start | .stop => return false
  | .always => return true
  | .whenever e => again.test e
  | .between a b =>
    if (← get).begun.contains n || (← again.test a) then
      let ends ← again.test b
      modify fun s =>
        { s with begun := if ends then s.begun.filter (· ≠ n) else n :: s.begun }
      return true
    else return false

/-- Applies rules to the record. -/
def apply (again : Engine) (rules : List Rule) : RunM Unit :=
  ExceptT.mk do
    let all : RunM Unit := do
      for (r, n) in rules.zipIdx do
        if ← again.holds n r.occasion then again.perform r.action
    match ← all.run with
    | .error .next => return .ok ()
    | result => return result

/-- Applies rules to the records that are left, no more than so many. -/
def applyAll (again : Engine) (rules : List Rule) : Nat → RunM Unit
  | 0 => return
  | n + 1 => do
    match ← nextRecord? ((← get).operands.length + 3) with
    | none => return
    | some record =>
      setRecord record
      again.apply rules
      applyAll again rules n

/-- Performs the actions of rules of one kind. -/
def performAll (again : Engine) (rules : List Rule) (isMeant : Occasion → Bool) : RunM Unit :=
  for r in rules do
    if isMeant r.occasion then again.perform r.action

/-- Runs rules. -/
def run (again : Engine) (rules : List Rule) : RunM Unit := do
  let isStart := fun (o : Occasion) => (o matches .start)
  let isStop := fun (o : Occasion) => (o matches .stop)
  let body : RunM Unit := do
    again.performAll rules isStart
    if rules.any fun r => !isStart r.occasion then applyAll again rules maxTurns
  let leave := fun (a : RunM Unit) => (ExceptT.mk do
    match ← a.run with
    | .error .leave => return .ok ()
    | result => return result : RunM Unit)
  leave body
  leave (again.performAll rules isStop)
  for (name, pieces) in (← get).pipes do
    discard (runPipe name pieces)

end Engine

end Run

end ServiceWiring.Rules
