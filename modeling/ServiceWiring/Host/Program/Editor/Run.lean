import ServiceWiring.Host.Program.Characters
import ServiceWiring.Host.Program.Editor.Reader
import ServiceWiring.Host.Program.Lines

/-!
# Running the line editor

For each line the editor goes through its commands and writes what has become of the line. What is
to be written after a line waits until the line is done.
-/

namespace ServiceWiring.Editor

/-! ## Replacing -/

/-- How letters are written: all of them, and the next one. -/
structure Case where
  /-- Whether all letters are capitals, if that is asked for. -/
  all? : Option Bool := none
  /-- Whether the next letter is a capital, if that is asked for. -/
  one? : Option Bool := none
deriving DecidableEq, Repr

/-- A letter as a small one or as a capital. -/
def toCase (capital : Bool) (c : CodePoint) : CodePoint :=
  if capital then c.toUpper else c.toLower

/-- A text as letters are to be written, and how they are to be written after it. -/
def Case.apply (k : Case) (t : Text) : Text × Case :=
  let all := fun (t : Text) => match k.all? with
    | some capital => t.map (toCase capital)
    | none => t
  match t, k.one? with
  | c :: r, some capital => (toCase capital c :: all r, { k with one? := none })
  | t, _ => (all t, k)

/-- What comes in for a match. -/
def replacement (m : Pattern.Match) (parts : List Part) : Text :=
  (parts.foldl (fun (state : Text × Case) part =>
    let (t, k) := state
    match part with
    | .text u =>
      let (u, k) := k.apply u
      (t ++ u, k)
    | .group n =>
      let (u, k) := k.apply (m.kept n)
      (t ++ u, k)
    | .letters all? => (t, { k with all? })
    | .letter capital => (t, { k with one? := some capital })) ([], {})).1

/-- The text from a place on with matches replaced, and whether there were any. `count` is the
number of the next match, and `last?` is where the one before ended. -/
def replaceFrom (p : Pattern) (s : Substitution) (count : Nat) (last? : Option Nat) (r : Reach) :
    Nat → Text × Bool
  | 0 => (r.rest, false)
  | fuel + 1 =>
    match p.search r with
    | none => (r.rest, false)
    | some m =>
      let isEmpty := m.start.position = m.stop.position
      -- Past an empty match one character is passed over.
      let (passed, after) := if isEmpty then (m.stop.rest.take 1, m.stop.skip 1) else ([], m.stop)
      let more := fun (count : Nat) =>
        if isEmpty && m.stop.rest.isEmpty then ([], false)
        else replaceFrom p s count (some m.stop.position) { after with kept := [] } fuel
      if isEmpty && last? = some m.start.position then
        let (t, done) := more count
        (m.before ++ passed ++ t, done)
      else if count < s.first then
        let (t, done) := more (count + 1)
        (m.before ++ m.text ++ passed ++ t, done)
      else
        let new := m.before ++ replacement m s.parts
        if s.everywhere then (new ++ passed ++ (more (count + 1)).1, true)
        else (new ++ m.stop.rest, true)

/-- The text with matches replaced, if there are any. -/
def replaceIn (p : Pattern) (s : Substitution) (t : Text) : Option Text :=
  match replaceFrom p s 1 none (Reach.start t) (t.length + 2) with
  | (t, true) => some t
  | (_, false) => none

/-! ## Running -/

/-- A line of the input. -/
structure Line where
  /-- What it holds. -/
  text : Text
  /-- Whether a line break follows it. -/
  broken : Bool
  /-- Whether it counts as a last line though others follow. -/
  closes : Bool := false
deriving DecidableEq, Repr

/-- Something that is written when a line is done. -/
inductive Waiting where
  /-- A text. -/
  | text (t : Text)
  /-- What a file holds. -/
  | file (name : Text)
deriving DecidableEq, Repr

/-- What the editor has done so far. -/
structure State where
  /-- The text that is worked on. -/
  text : Text := []
  /-- Whether a line break follows the text. -/
  broken : Bool := true
  /-- Whether the line counts as a last one though others follow. -/
  closes : Bool := false
  /-- What separates lines. -/
  ending : CodePoint := 0x0A
  /-- What was put aside. -/
  held : Text := []
  /-- The number of the line. -/
  number : Nat := 0
  /-- The lines that are left. -/
  input : List Line
  /-- What waits to be written. -/
  waiting : List Waiting := []
  /-- Whether something was replaced since the line was read or last asked for. -/
  replaced : Bool := false
  /-- The pattern used last. -/
  pattern? : Option Pattern := none
  /-- The ranges that have begun: the index of the command, and the line that ends them. -/
  ranges : List (Nat × Option Nat) := []
  /-- The output, in pieces from the last to the first. -/
  output : List Octets := []
  /-- Whether the line break after the output is still missing. -/
  unbroken : Bool := false
  /-- What is written to files, in order. -/
  files : List (Text × Octets) := []
deriving Repr

namespace State

/-- Writes octets to the output. -/
def emit (s : State) (o : Octets) : State :=
  let before := if s.unbroken then [.ofNat s.ending.val] :: s.output else s.output
  { s with output := o :: before, unbroken := false }

/-- Writes a text as a line. The last line lacks its line break if that of the input does. -/
def emitLine (s : State) (t : Text) : State :=
  let s := s.emit (Utf8.nameOctets t ++ if s.broken then [.ofNat s.ending.val] else [])
  { s with unbroken := !s.broken }

/-- Writes what waits. -/
def flush (readFile : Text → Option Octets) (s : State) : State :=
  s.waiting.foldl (fun s w =>
    match w with
    | .text t => s.emit (Utf8.nameOctets t)
    | .file name =>
      match readFile name with
      | some o => if o.isEmpty then s else s.emit o
      | none => s) { s with waiting := [] }

/-- Takes the next line, if there is one. -/
def nextLine? (s : State) (join : Bool) : Option State :=
  match s.input with
  | [] => none
  | line :: input =>
    some { s with
      text := if join then s.text ++ s.ending :: line.text else line.text
      broken := line.broken, closes := line.closes, number := s.number + 1, input }

/-- Whether the line is one of an address. -/
def isAt (s : State) : Address → Bool × State
  | .line n => (s.number = n, s)
  | .last => (s.input.isEmpty || s.closes, s)
  | .step first gap =>
    (if gap = 0 then s.number = first
      else first ≤ s.number && (s.number - first) % gap = 0, s)
  | .pattern p? =>
    let p? := p?.or s.pattern?
    (p?.any fun p => p.occursIn s.text, { s with pattern? := p? })

/-- Begins a range at the line. -/
def begin (s : State) (index : Nat) (stop : Until) : State :=
  let keep := fun (last? : Option Nat) => { s with ranges := (index, last?) :: s.ranges }
  match stop with
  | .after n => if n = 0 then s else keep (some (s.number + n))
  | .multiple n =>
    let last := if n = 0 then s.number else (s.number + n - 1) / n * n
    if last = s.number then s else keep (some last)
  | .address (.line n) => if n ≤ s.number then s else keep (some n)
  | .address _ => keep none

/-- Whether a command is for the line; `index` is the place of the command. -/
def chooses (s : State) (index : Nat) (l : Lines) : Bool × State :=
  let stopRange := fun (s : State) => { s with ranges := s.ranges.filter (·.1 ≠ index) }
  let (chosen, s) := match l.start?, l.stop? with
    | none, _ => (true, s)
    | some a, none => s.isAt a
    | some a, some stop =>
      match s.ranges.lookup index with
      | some (some last) =>
        -- A range that is over by now ends before this line, unless it starts anew.
        if s.number < last then (true, s)
        else if s.number = last then (true, stopRange s)
        else start a stop (stopRange s)
      | some none =>
        match stop with
        | .address b =>
          let (ends, s) := s.isAt b
          (true, if ends then stopRange s else s)
        | _ => (true, s)
      | none =>
        match a, stop with
        | .line 0, .address (.pattern p?) =>
          if s.number = 1 then
            let (ends, s) := s.isAt (.pattern p?)
            (true, if ends then s else s.begin index stop)
          else (false, s)
        | a, stop => start a stop s
  (chosen != l.negated, s)
where
  /-- Begins a range if the line is one of its start. -/
  start (a : Address) (stop : Until) (s : State) : Bool × State :=
    let (starts, s) := s.isAt a
    (starts, if starts then s.begin index stop else s)

/-- The first line of the text, and what follows its line break. -/
def cutLine (s : State) : Text × Option Text := Text.cut s.ending s.text

/-- Writes octets to a file. -/
def emitTo (s : State) (file : Text) (t : Text) : State :=
  if file = "/dev/stdout" then s.emitLine t
  else { s with files := s.files ++ [(file, Utf8.nameOctets (t ++ [0x0A]))] }

/-- The text with what cannot be seen spelled out. -/
def listed (t : Text) : Text :=
  (Utf8.nameOctets t).flatMap fun b =>
    match (([(0x5C, "\\\\"), (0x07, "\\a"), (0x08, "\\b"), (0x0C, "\\f"), (0x0A, "\\n"),
      (0x0D, "\\r"), (0x09, "\\t"), (0x0B, "\\v")] : List (UInt8 × Text)).lookup b) with
    | some t => t
    | none =>
      if 0x20 ≤ b && b < 0x7F then [Fin.ofNat _ b.toNat]
      else 0x5C :: Text.padLeft 3 '0' ((Nat.toDigits 8 b.toNat).map CodePoint.ofChar)

end State

/-- Where to go after a command. -/
inductive Step where
  /-- To the command at an index. -/
  | goTo (index : Nat)
  /-- To the end of the commands. -/
  | finish
  /-- To the next line, without writing the text. -/
  | drop
  /-- To the first command again, with the same text. -/
  | restart
  /-- To the end of all, with or without writing the text. -/
  | quit (silent : Bool) (status : Nat)
deriving DecidableEq, Repr

/-- The commands, and what holds for all of them. -/
structure Job where
  /-- The commands. -/
  commands : Array Command
  /-- Whether lines are only written where a command asks for it. -/
  quiet : Bool
  /-- What separates lines. -/
  ending : CodePoint := 0x0A
  /-- What the file of a name holds. -/
  readFile : Text → Option Octets

namespace Job

/-- Where a place with a name is. -/
def find (e : Job) (name : Text) : Step :=
  if name.isEmpty then .finish
  else
    match e.commands.findIdx? fun c => c.action = .label name with
    | some i => .goTo i
    | none => .finish

/-- Does what a command does that is for the line. -/
def perform (e : Job) (s : State) (index : Nat) (l : Lines) : Action → Step × State
  | .opening _ | .closing | .label _ => (.goTo (index + 1), s)
  | .branch name => (e.find name, s)
  | .branchIf replaced name =>
    (if s.replaced = replaced then e.find name else .goTo (index + 1), { s with replaced := false })
  | .substitute b =>
    let p? := b.pattern?.or s.pattern?
    let s := { s with pattern? := p? }
    match p?.bind fun p => replaceIn p b s.text with
    | none => (.goTo (index + 1), s)
    | some text =>
      let s := { s with text, replaced := true }
      let s := if b.prints then s.emitLine s.text else s
      let s := match b.file? with
        | some file => s.emitTo file s.text
        | none => s
      (.goTo (index + 1), s)
  | .translate pairs =>
    (.goTo (index + 1), { s with text := s.text.map fun c => (pairs.lookup c).getD c })
  | .delete => (.drop, s)
  | .deleteLine =>
    match s.cutLine with
    | (_, none) => (.drop, s)
    | (_, some text) => (.restart, { s with text })
  | .print => (.goTo (index + 1), s.emitLine s.text)
  | .printLine => (.goTo (index + 1), s.emitLine s.cutLine.1)
  | .list => (.goTo (index + 1), s.emit (Utf8.nameOctets (State.listed s.text ++ "$\n")))
  | .next =>
    if s.input.isEmpty then (.quit false 0, s)
    else
      let s := if e.quiet then s else s.emitLine s.text
      (.goTo (index + 1), ((s.flush e.readFile).nextLine? false).getD s)
  | .appendNext =>
    if s.input.isEmpty then (.quit false 0, s)
    else (.goTo (index + 1), ((s.flush e.readFile).nextLine? true).getD s)
  | .quit silent status => (.quit silent status, s)
  | .number => (.goTo (index + 1), s.emit (Utf8.nameOctets (Text.ofNat s.number ++ [0x0A])))
  | .hold after =>
    (.goTo (index + 1), { s with held := if after then s.held ++ s.ending :: s.text else s.text })
  | .get after =>
    (.goTo (index + 1), { s with text := if after then s.text ++ s.ending :: s.held else s.held })
  | .exchange => (.goTo (index + 1), { s with text := s.held, held := s.text })
  | .clear => (.goTo (index + 1), { s with text := [] })
  | .append t => (.goTo (index + 1), { s with waiting := s.waiting ++ [.text t] })
  | .insert t => (.goTo (index + 1), s.emit (Utf8.nameOctets t))
  | .change t =>
    -- In the place of a range the text is written once, at its end.
    let inside := l.stop?.isSome && !l.negated && (s.ranges.lookup index).isSome
    (.drop, if inside then s else s.emit (Utf8.nameOctets t))
  | .read file => (.goTo (index + 1), { s with waiting := s.waiting ++ [.file file] })
  | .write file => (.goTo (index + 1), s.emitTo file s.text)

/-- Writes what has become of a line. -/
def finishLine (e : Job) (s : State) (silent : Bool) : State :=
  (if e.quiet || silent then s else s.emitLine s.text).flush e.readFile

/-- Goes through the commands from one on, and through the lines that are left. The fuel bounds the
number of commands. -/
def runFrom (e : Job) (index : Nat) (s : State) : Nat → State × Nat
  | 0 => (s, 0)
  | fuel + 1 =>
    let nextLine := fun (s : State) =>
      match s.nextLine? false with
      | some s => runFrom e 0 { s with replaced := false } fuel
      | none => (s, 0)
    match e.commands[index]? with
    | none => nextLine (e.finishLine s false)
    | some c =>
      let (chosen, s) := s.chooses index c.lines
      let (step, s) :=
        if chosen then e.perform s index c.lines c.action
        else
          match c.action with
          | .opening after => (.goTo after, s)
          | _ => (.goTo (index + 1), s)
      match step with
      | .goTo index => runFrom e index s fuel
      | .finish => nextLine (e.finishLine s false)
      | .drop => nextLine (s.flush e.readFile)
      | .restart => runFrom e 0 (s.flush e.readFile) fuel
      | .quit silent status => (e.finishLine s silent, status)

/-- The lines of an input. The last one may count as such even if others follow. -/
def linesOf (e : Job) (closes : Bool) (o : Octets) : List Line :=
  let mark : UInt8 := .ofNat e.ending.val
  let pieces := Program.splitAt mark o
  let lines := pieces.zipIdx.map fun (piece, i) =>
    { text := Utf8.decodeName piece, broken := i + 1 < pieces.length : Line }
  let lines := if pieces.getLast? = some [] then lines.dropLast else lines
  match lines.getLast? with
  | some last => lines.dropLast ++ [{ last with closes }]
  | none => []

/-- The octets of a line, with its line break. -/
def octetsOf (e : Job) (line : Line) : Octets :=
  Utf8.nameOctets (line.text ++ if line.broken then [e.ending] else [])

/-- What the editor does with the lines of its input, and its status. -/
def run (e : Job) (input : List Line) : State × Nat :=
  let s : State := { input, ending := e.ending }
  match s.nextLine? false with
  | none => (s, 0)
  | some s =>
    let size := input.foldl (fun n line => n + line.text.length + 1) 0
    runFrom e 0 s ((size + 10) * (e.commands.size + 2) * 50)

end Job

end ServiceWiring.Editor

namespace ServiceWiring.Program

open ProcessM

/-- The options of `sed`. -/
def sedFlags : List Flag :=
  [⟨'n', .nothing, "quiet"⟩, ⟨'n', .nothing, "silent"⟩, ⟨'e', .value, "expression"⟩,
    ⟨'f', .value, "file"⟩, ⟨'E', .nothing, "regexp-extended"⟩, ⟨'r', .nothing, []⟩,
    ⟨'i', .attached, "in-place"⟩, ⟨'s', .nothing, "separate"⟩, ⟨'u', .nothing, "unbuffered"⟩,
    ⟨'b', .nothing, "binary"⟩, ⟨'P', .nothing, "posix"⟩, ⟨'z', .nothing, "null-data"⟩]

/-- How `sed` is called, in its own words. -/
def sedUsage (name : Text) : Text :=
  "Usage: " ++ name ++ " [OPTION]... \x7bscript-only-if-no-other-script\x7d [input-file]..."

/-- Writes what the editor wrote to files. -/
def writeFiles (name : Text) (names : List Text) (files : List (Text × Octets)) :
    ProcessM Nat :=
  names.eraseDups.foldlM (fun (status : Nat) (file : Text) => do
    if file = "/dev/stdout" then return status
    match ← openPath .replace file with
    | .ok i =>
      writeTo i ((files.filter (·.1 = file)).flatMap (·.2))
      return status
    | .error r =>
      warn name ("couldn't open file " ++ file ++ ": " ++ r.reason)
      return 4) 0

/-- The files that commands write to. -/
def targetsOf (commands : Array Editor.Command) : List Text :=
  commands.toList.filterMap fun c =>
    match c.action with
    | .write file => some file
    | .substitute s => s.file?
    | _ => none

/-- The script that the arguments of `sed` give, and the other arguments. -/
def sedScript (name : Text) (a : Arguments) : ProcessM (Option (Text × List Text)) := do
  let given := a.options.filter fun (c, _) => c = 0x65 || c = 0x66
  if given.isEmpty then
    match a.operands with
    | script :: files => return some (script, files)
    | [] => return none
  let pieces ← given.mapM fun (c, value) => do
    if c = 0x65 then return value
    match ← readPath value with
    | .ok o => return Utf8.decodeName (Octets.bare o)
    | .error r =>
      warn name ("couldn't open file " ++ value ++ ": " ++ r.reason)
      return value
  return some (Text.joinWith "\n" pieces, a.operands)

/-- Edits lines. -/
def sed (name : Text) (args : List Text) : ProcessM Nat := do
  match Arguments.read sedFlags true args with
  | .error e =>
    warn name e.message
    complain (sedUsage name)
    return 1
  | .ok a =>
    match ← sedScript name a with
    | none =>
      complain (sedUsage name)
      return 1
    | some (script, files) =>
      match Editor.readScript (a.has 'E' || a.has 'r') script with
      | .error e =>
        let place := if e.mistake = .openBlock then 0 else script.length - e.left
        match e.mistake with
        | .unknownLabel _ => warn name ("-e expression #1, char " ++ Text.ofNat script.length ++
            ": " ++ e.mistake.message)
        | m => warn name ("-e expression #1, char " ++ Text.ofNat place ++ ": " ++ m.message)
        return 1
      | .ok commands =>
        let m ← machine
        let editor : Editor.Job :=
          { commands, quiet := a.has 'n' || script.take 3 = "#n\n",
            ending := if a.has 'z' then 0 else 0x0A
            readFile := fun file => (m.readFile file).toOption }
        if a.has 'i' then
          files.foldlM (fun (status : Nat) (file : Text) => do
            match ← readPath file with
            | .error r =>
              warn name ("can't read " ++ file ++ ": " ++ r.reason)
              return 2
            | .ok o =>
              let (s, _) := editor.run (editor.linesOf false o)
              let suffix := (a.value? 'i').getD []
              unless suffix.isEmpty do
                if let .ok i ← openPath .replace (file ++ suffix) then writeTo i o
              -- The file that was edited is not written but replaced, so its other places keep it.
              if let .ok (place, .file _ runs) := (← machine).find .look file then
                replaceAt place (.file s.output.reverse.flatten runs)
              return status) 0
        else
          let (lines, status) ← (if files.isEmpty then [("-" : Text)] else files).foldlM
            (fun (state : List Editor.Line × Nat) (file : Text) => do
              match ← readPath file with
              | .ok o =>
                -- Between files a line break that is missing is filled in.
                let before := state.1.map fun line => { line with broken := true }
                return (before ++ editor.linesOf (a.has 's') o, state.2)
              | .error .isDirectory =>
                warn name ("couldn't edit " ++ file ++ ": not a regular file")
                return (state.1, 2)
              | .error r =>
                warn name ("can't read " ++ file ++ ": " ++ r.reason)
                return (state.1, 2)) (([] : List Editor.Line), 0)
          let (s, code) := editor.run lines
          put s.output.reverse.flatten
          if files.getLastD "-" = "-" then
            giveBack 0 (!a.has 'u') (s.input.flatMap (editor.octetsOf ·))
          let written ← writeFiles name (targetsOf commands) s.files
          return if code ≠ 0 then code else max status written

end ServiceWiring.Program
