import ServiceWiring.Host.Program.Options

/-!
# Programs for lines

Programs that write what they read in another order or layout: whole lines, the first or the last of
them, or counts of them.
-/

namespace ServiceWiring

/-- The lines of a run of octets, each with its line break; the last one may lack it. -/
def Octets.lines (o : Octets) : List Octets :=
  match o with
  | [] => []
  | b :: r =>
    if b = 0x0A then [b] :: lines r
    else
      match lines r with
      | line :: more => (b :: line) :: more
      | [] => [[b]]

/-- A line without its line break. -/
def Octets.bare (line : Octets) : Octets :=
  if line.getLast? = some 0x0A then line.dropLast else line

/-- The lines of a run of octets, without their line breaks. -/
def Octets.bareLines (o : Octets) : List Octets := (Octets.lines o).map Octets.bare

/-- Lines with line breaks after them. -/
def Octets.ofLines (lines : List Octets) : Octets := lines.flatMap (· ++ [0x0A])

/-- A number in octets, with blanks in front up to the width. -/
def Octets.ofNat (width n : Nat) : Octets :=
  Utf8.nameOctets (Text.padLeft width ' ' (Text.ofNat n))

namespace ProcessM

/-- Does something with each of several files, or with the input if there are none. A file that
cannot be read is complained about; then the status is one. -/
def eachFile (name : Text) (files : List Text) (action : Text → Octets → ProcessM Unit) :
    ProcessM Nat :=
  (if files.isEmpty then [("-" : Text)] else files).foldlM (fun (status : Nat) (file : Text) => do
    match ← readPath file with
    | .ok o =>
      action file o
      return status
    | .error r =>
      warn name (file.shellWord ++ ": " ++ r.reason)
      return 1) 0

/-- The contents of files, or of the input, one after another, and the status. -/
def readFiles (name : Text) (files : List Text) : ProcessM (Octets × Nat) :=
  (if files.isEmpty then [("-" : Text)] else files).foldlM
    (fun (state : Octets × Nat) (file : Text) => do
      match ← readPath file with
      | .ok o => return (state.1 ++ o, state.2)
      | .error r =>
        warn name (file.shellWord ++ ": " ++ r.reason)
        return (state.1, 1)) ([], 0)

end ProcessM

namespace Program

open ProcessM

/-! ## Whole lines -/

/-- Shows files page by page; an output that is no screen is one page. Named files are shown under
their names. -/
def more (name : Text) (args : List Text) : ProcessM Nat :=
  withArguments name (Flag.ofLetters "dflpcusn:") args 1 fun a => do
    if a.operands.isEmpty then return ← eachFile name [] fun _ o => put o
    let bar : Text := "::::::::::::::\n"
    for file in a.operands do
      match ← readPath file with
      | .ok o =>
        say (bar ++ file ++ "\n" ++ bar)
        put o
      | .error r => warn name ("cannot open " ++ file ++ ": " ++ r.reason)
    return 0

/-- How `cat` shows lines. -/
structure Display where
  /-- Whether lines are numbered. -/
  numbers : Bool
  /-- Whether only lines that hold something are numbered. -/
  onlyFilled : Bool
  /-- Whether empty lines in a row are shown once. -/
  squeeze : Bool
  /-- Whether line ends are marked. -/
  ends : Bool
  /-- Whether tabs are shown. -/
  tabs : Bool
  /-- Whether control characters are shown. -/
  controls : Bool
deriving DecidableEq, Repr

/-- What `cat` shows of one octet. -/
def Display.octet (d : Display) (b : UInt8) : Octets :=
  let low := fun (b : UInt8) =>
    if b = 0x7F then [0x5E, 0x3F] else if b < 0x20 then [0x5E, b + 0x40] else [b]
  if b = 0x0A then [b]
  else if b = 0x09 then if d.tabs then [0x5E, 0x49] else [b]
  else if !d.controls then [b]
  else if b < 0x80 then low b
  else [0x4D, 0x2D] ++ low (b - 0x80)

/-- What `cat` shows of lines; `n` is the number of the next one, and `empties` tells how many empty
ones come right before. -/
def Display.lines (d : Display) (n empties : Nat) : List Octets → Octets × Nat × Nat
  | [] => ([], n, empties)
  | line :: r =>
    let isEmpty := line = [0x0A]
    let empties := if isEmpty then empties + 1 else 0
    if d.squeeze && 1 < empties then lines d n empties r
    else
      let numbered := d.numbers && !(d.onlyFilled && isEmpty)
      let mark := if numbered then Octets.ofNat 6 n ++ [0x09] else []
      let body := line.bare.flatMap d.octet
      let stop := if line.getLast? ≠ some 0x0A then [] else if d.ends then [0x24, 0x0A] else [0x0A]
      let (o, n, empties) := lines d (if numbered then n + 1 else n) empties r
      (mark ++ body ++ stop ++ o, n, empties)

/-- The options of `cat`. -/
def catFlags : List Flag :=
  [⟨'b', .nothing, "number-nonblank"⟩, ⟨'n', .nothing, "number"⟩,
    ⟨'s', .nothing, "squeeze-blank"⟩, ⟨'E', .nothing, "show-ends"⟩, ⟨'T', .nothing, "show-tabs"⟩,
    ⟨'A', .nothing, "show-all"⟩, ⟨'v', .nothing, "show-nonprinting"⟩] ++ Flag.ofLetters "etu"

/-- Writes files one after another. -/
def cat (name : Text) (args : List Text) : ProcessM Nat :=
  withArguments name catFlags args 1 fun a => do
    let d : Display :=
      { numbers := a.has 'n' || a.has 'b'
        onlyFilled := a.has 'b'
        squeeze := a.has 's'
        ends := a.has 'E' || a.has 'A' || a.has 'e'
        tabs := a.has 'T' || a.has 'A' || a.has 't'
        controls := a.has 'v' || a.has 'A' || a.has 'e' || a.has 't' }
    let files := if a.operands.isEmpty then [("-" : Text)] else a.operands
    let (status, _, _) ← files.foldlM (fun (state : Nat × Nat × Nat) (file : Text) => do
      let (status, n, empties) := state
      match ← readPath file with
      | .ok o =>
        let (shown, n, empties) := d.lines n empties (Octets.lines o)
        put shown
        return (status, n, empties)
      | .error r =>
        warn name (file.shellWord ++ ": " ++ r.reason)
        return (1, n, empties)) (0, 1, 0)
    return status

/-- Writes lines from the last to the first. -/
def tac (name : Text) (args : List Text) : ProcessM Nat :=
  withArguments name [] args 1 fun a =>
    (if a.operands.isEmpty then [("-" : Text)] else a.operands).foldlM
      (fun (status : Nat) (file : Text) => do
        match ← readPath file with
        | .ok o =>
          put (Octets.lines o).reverse.flatten
          return status
        | .error r =>
          let failure : Text :=
            if r = .isDirectory then ": read error" else " for reading"
          warn name ((if r = .isDirectory then file.shellWord else
            "failed to open " ++ file.shellQuoted) ++ failure ++ ": " ++ r.reason)
          return 1) 0

/-- Writes each line from its end to its start. -/
def rev (name : Text) (args : List Text) : ProcessM Nat :=
  withArguments name [] args 1 fun a =>
    (if a.operands.isEmpty then [("-" : Text)] else a.operands).foldlM
      (fun (status : Nat) (file : Text) => do
        match ← if a.operands.isEmpty then readAll 0 else readAt file with
        | .ok o =>
          put <| (Octets.lines o).flatMap fun line =>
            Utf8.nameOctets (Utf8.decodeName line.bare).reverse ++ line.drop line.bare.length
          return status
        | .error r =>
          warn name (if r = .isDirectory then file ++ ": " ++ r.reason
            else "cannot open " ++ file ++ ": " ++ r.reason)
          return 1) 0

/-- Writes what it reads to files as well. -/
def tee (name : Text) (args : List Text) : ProcessM Nat :=
  withArguments name [⟨'a', .nothing, "append"⟩, ⟨'i', .nothing, "ignore-interrupts"⟩] args 1
    fun a => do
      let o := match ← readAll 0 with
        | .ok o => o
        | .error _ => []
      put o
      a.operands.foldlM (fun (status : Nat) (file : Text) => do
        match ← openPath (if a.has 'a' then .extend else .replace) file with
        | .ok i =>
          writeTo i o
          return status
        | .error r =>
          warn name (file.shellWord ++ ": " ++ r.reason)
          return 1) 0

/-! ## The first and the last part -/

/-- A count of octets or lines from the start or from the end. -/
structure Portion where
  /-- Whether octets are counted. -/
  octets : Bool
  /-- Whether the sign in front is a minus. -/
  minus : Bool
  /-- Whether the sign in front is a plus. -/
  plus : Bool
  /-- The count. -/
  count : Nat
deriving DecidableEq, Repr

/-- What a letter after a count multiplies it by. -/
def multiplier? (t : Text) : Option Nat :=
  if t = "" then some 1
  else if t = "b" then some 512
  else if t = "kB" then some 1000
  else if t = "k" || t = "K" || t = "KiB" then some 1024
  else if t = "MB" then some 1000000
  else if t = "M" || t = "MiB" then some 1048576
  else none

/-- The portion that a text spells. -/
def portion? (octets : Bool) (t : Text) : Option Portion :=
  let (minus, plus, t) := match t with
    | 0x2D :: r => (true, false, r)
    | 0x2B :: r => (false, true, r)
    | t => (false, false, t)
  let ds := t.takeWhile CodePoint.isDigit
  if ds.isEmpty then none
  else (multiplier? (t.drop ds.length)).map fun k =>
    ⟨octets, minus, plus, Text.natOfDigits ds * k⟩

/-- The arguments with a count that follows a dash as the first of them spelled out. -/
def withCount (args : List Text) : List Text :=
  match args with
  | (0x2D :: c :: r) :: more =>
    if c.isDigit then
      let ds := (c :: r).takeWhile CodePoint.isDigit
      let letters := (c :: r).drop ds.length
      let unit : Text := if letters.contains 0x63 then "-c" else "-n"
      let others := letters.filter (· ≠ 0x63)
      unit :: ds :: (if others.isEmpty then more else (0x2D :: others) :: more)
    else args
  | args => args

/-- The portion that options ask for, if they spell one; the last one counts. -/
def portionOf (name : Text) (usual : Portion) (options : List (CodePoint × Text)) :
    ProcessM (Option Portion) :=
  let asked := options.filter fun (c, _) => c = 0x6E || c = 0x63
  asked.foldlM (fun (state : Option Portion) (c, value) => do
    match state, portion? (c = 0x63) value with
    | none, _ => return none
    | some _, some p => return some p
    | some _, none =>
      let unit : Text := if c = 0x63 then "bytes" else "lines"
      warn name ("invalid number of " ++ unit ++ ": " ++ value.curly)
      return none) (some usual)

/-- The first part that a portion stands for. -/
def Portion.first (p : Portion) (o : Octets) : Octets :=
  if p.octets then o.take (if p.minus then o.length - p.count else p.count)
  else
    let lines := Octets.lines o
    (lines.take (if p.minus then lines.length - p.count else p.count)).flatten

/-- The last part that a portion stands for. -/
def Portion.last (p : Portion) (o : Octets) : Octets :=
  if p.octets then o.drop (if p.plus then p.count - 1 else o.length - p.count)
  else
    let lines := Octets.lines o
    (lines.drop (if p.plus then p.count - 1 else lines.length - p.count)).flatten

/-- Whether the first part of a file is all of it that a program has to look at. -/
def Portion.isExact (p : Portion) : Bool := !p.minus && (p.octets || p.count = 0)

/-- Writes a part of each file, below its name if there are several. `leave` says what becomes of
the rest of the input. -/
def writeParts (name : Text) (a : Arguments) (part : Octets → Octets)
    (leave : Octets → ProcessM Unit) : ProcessM Nat := do
  let titled := (1 < a.operands.length || a.has 'v') && !a.has 'q'
  let files := if a.operands.isEmpty then [("-" : Text)] else a.operands
  let (status, _) ← files.foldlM (fun (state : Nat × Bool) (file : Text) => do
    let (status, first) := state
    match ← readPath file with
    | .ok o =>
      if titled then
        let title : Text := if file = "-" then "standard input" else file
        let gap : Text := if first then [] else "\n"
        say (gap ++ "==> " ++ title ++ " <==\n")
      put (part o)
      if file = "-" then leave (o.drop (part o).length)
      return (status, false)
    | .error r =>
      if r = .isDirectory then warn name ("error reading " ++ file.shellQuoted ++ ": " ++ r.reason)
      else warn name ("cannot open " ++ file.shellQuoted ++ " for reading: " ++ r.reason)
      return (1, first)) (0, true)
  return status

/-- The options of `head` and `tail`. -/
def partFlags : List Flag :=
  [⟨'n', .value, "lines"⟩, ⟨'c', .value, "bytes"⟩, ⟨'q', .nothing, "quiet"⟩,
    ⟨'v', .nothing, "verbose"⟩]

/-- Writes the first part of files. -/
def head (name : Text) (args : List Text) : ProcessM Nat :=
  withArguments name partFlags (withCount args) 1 fun a => do
    match ← portionOf name ⟨false, false, false, 10⟩ a.options with
    | none => return 1
    | some p => writeParts name a p.first (giveBack 0 !p.isExact)

/-- Writes the last part of files. -/
def tail (name : Text) (args : List Text) : ProcessM Nat :=
  let args := match args with
    | (0x2B :: c :: r) :: more =>
      if c.isDigit && more.length ≤ 1 then ("-n" : Text) :: (0x2B :: c :: r) :: more else args
    | args => args
  withArguments name (partFlags ++ Flag.ofLetters "f") (withCount args) 1 fun a => do
    match ← portionOf name ⟨false, false, false, 10⟩ a.options with
    | none => return 1
    | some p => writeParts name a p.last fun _ => return

/-! ## Counts and numbers -/

/-- Whether an octet stands between words. -/
def isSpace (b : UInt8) : Bool := b = 0x20 || 0x09 ≤ b && b ≤ 0x0D

/-- How many words there are; `inside` tells whether a word has begun. -/
def countWords (inside : Bool) : Octets → Nat
  | [] => 0
  | b :: r =>
    if isSpace b then countWords false r else (if inside then 0 else 1) + countWords true r

/-- The counts that options of `wc` ask for, in the order in which they are written. -/
def countsOf (letters : List CodePoint) (o : Octets) : List Nat :=
  let all : List (CodePoint × Nat) :=
    [(0x6C, o.count 0x0A), (0x77, countWords false o),
      (0x6D, (o.filter fun b => b < 0x80 || 0xC0 ≤ b).length), (0x63, o.length),
      (0x4C, ((Octets.bareLines o).map (·.length)).foldl max 0)]
  (all.filter fun (c, _) => letters.contains c).map (·.2)

/-- The options of `wc`. -/
def wcFlags : List Flag :=
  [⟨'l', .nothing, "lines"⟩, ⟨'w', .nothing, "words"⟩, ⟨'c', .nothing, "bytes"⟩,
    ⟨'m', .nothing, "chars"⟩, ⟨'L', .nothing, "max-line-length"⟩]

/-- Counts lines, words and octets. -/
def wc (name : Text) (args : List Text) : ProcessM Nat :=
  withArguments name wcFlags args 1 fun a => do
    let letters := if a.options.isEmpty then [0x6C, 0x77, 0x63] else a.options.map (·.1)
    let kinds := (countsOf letters []).length
    let m ← machine
    let files := if a.operands.isEmpty then [("-" : Text)] else a.operands
    -- What is no file has no size, and what is not there does not count.
    let sizes ← files.mapM fun (file : Text) => do
      if file = "-" then inputSize?
      else
        match m.find .look file with
        | .ok (_, .file content _) => return some content.length
        | .ok _ => return none
        | .error _ => return some 0
    let width :=
      if files.length ≤ 1 && kinds = 1 then 1
      else
        max (Text.ofNat ((sizes.map (·.getD 0)).foldl (· + ·) 0)).length
          (if sizes.all (·.isSome) then 1 else 7)
    let line := fun (counts : List Nat) (file : Text) =>
      List.intercalate [0x20] (counts.map (Octets.ofNat width)) ++
        Utf8.nameOctets ((if file.isEmpty then [] else 0x20 :: file) ++ [0x0A])
    let (status, total) ← files.foldlM (fun (state : Nat × List Nat) (file : Text) => do
      let (status, total) := state
      match ← readPath file with
      | .ok o =>
        let counts := countsOf letters o
        put (line counts (if a.operands.isEmpty then [] else file))
        return (status, List.zipWith (· + ·) total counts)
      | .error r =>
        warn name (file.shellWord ++ ": " ++ r.reason)
        if r = .isDirectory then put (line (countsOf letters []) file)
        return (1, total)) (0, List.replicate kinds 0)
    if 1 < a.operands.length then put (line total "total")
    return status
where
  /-- The size of the input, if it is a file. -/
  inputSize? : ProcessM (Option Nat) := do
    match ← (← channelOf? 0).mapM channel with
    | some (.file place _ _) =>
      match (← machine).disk.node? place with
      | some (.file content _) => return some content.length
      | _ => return none
    | _ => return none

/-- Numbers lines; those that hold nothing may be left out. -/
def numberLines (all : Bool) (width : Nat) (mark : Octets) (step n : Nat) :
    List Octets → Octets
  | [] => []
  | line :: r =>
    if all || !line.isEmpty then
      Octets.ofNat width n ++ mark ++ line ++ 0x0A :: numberLines all width mark step (n + step) r
    else
      List.replicate (width + mark.length) 0x20 ++ line ++
        0x0A :: numberLines all width mark step n r

/-- Writes lines with numbers. -/
def nl (name : Text) (args : List Text) : ProcessM Nat :=
  withArguments name (Flag.ofLetters "b:w:s:v:i:") args 1 fun a => do
    let (o, status) ← readFiles name a.operands
    let mark := Utf8.nameOctets ((a.value? 's').getD "\t")
    let width := ((a.value? 'w').map Text.natOfDigits).getD 6
    let start := ((a.value? 'v').map Text.natOfDigits).getD 1
    let step := ((a.value? 'i').map Text.natOfDigits).getD 1
    let all := a.value? 'b' = some ("a" : Text)
    put (numberLines all width mark step start (Octets.bareLines o))
    return status

/-! ## Breaking and joining lines -/

/-- The column after an octet: a tab goes to the next multiple of eight, and the octets of a
character count once for each. -/
def columnAfter (octets : Bool) (column : Nat) (b : UInt8) : Nat :=
  if octets then column + 1
  else if b = 0x09 then column + 8 - column % 8
  else if b = 0x08 then column - 1
  else if b = 0x0D then 0
  else column + 1

/-- A line in pieces of a width; with `atBlanks` they end after blanks where they can. `piece` is
what there is of the next piece, from the last octet to the first. -/
def foldLine (width : Nat) (octets atBlanks : Bool) (piece : Octets) (column : Nat) :
    Octets → List Octets
  | [] => [piece.reverse]
  | b :: r =>
    let after := columnAfter octets column b
    if width < after && !piece.isEmpty then
      let rest := piece.takeWhile fun b => b ≠ 0x20 && b ≠ 0x09
      let rest := if atBlanks && rest.length < piece.length then rest else []
      let start := rest.reverse.foldl (columnAfter octets) 0
      (piece.drop rest.length).reverse ::
        foldLine width octets atBlanks (b :: rest) (columnAfter octets start b) r
    else foldLine width octets atBlanks (b :: piece) after r

/-- Breaks long lines. -/
def fold (name : Text) (args : List Text) : ProcessM Nat :=
  withArguments name [⟨'w', .value, "width"⟩, ⟨'s', .nothing, "spaces"⟩, ⟨'b', .nothing, "bytes"⟩]
    (widthFirst args) 1 fun a => do
      let t := (a.value? 'w').getD "80"
      if t.isEmpty || !t.all CodePoint.isDigit || Text.natOfDigits t = 0 then
        warn name ("invalid number of columns: " ++ t.curly)
        return 1
      let width := Text.natOfDigits t
      eachFile name a.operands fun _ o =>
        put <| (Octets.lines o).flatMap fun line =>
          List.intercalate [0x0A] (foldLine width (a.has 'b') (a.has 's') [] 0 line.bare) ++
            line.drop line.bare.length
where
  /-- The arguments with a width that follows a dash spelled out. -/
  widthFirst : List Text → List Text
    | (0x2D :: c :: r) :: more =>
      if c.isDigit then ("-w" ++ (c :: r)) :: more else (0x2D :: c :: r) :: more
    | args => args

/-- A line with blanks in the place of tabs, from a column on; with `initial` only of those that no
other character comes before. -/
def expandLine (width : Nat) (initial : Bool) (column : Nat) : Octets → Octets
  | [] => []
  | b :: r =>
    if b = 0x09 then
      let n := width - column % width
      List.replicate n 0x20 ++ expandLine width initial (column + n) r
    else if initial && b ≠ 0x20 then b :: r
    else b :: expandLine width initial (column + 1) r

/-- Writes blanks in the place of tabs. -/
def expand (name : Text) (args : List Text) : ProcessM Nat :=
  withArguments name [⟨'t', .value, "tabs"⟩, ⟨'i', .nothing, "initial"⟩] args 1 fun a => do
    let t := (a.value? 't').getD "8"
    if !t.all CodePoint.isDigit then
      warn name ("tab size contains invalid character(s): " ++
        Text.curly (t.dropWhile CodePoint.isDigit))
      return 1
    if Text.natOfDigits t = 0 then
      warn name "tab size cannot be 0"
      return 1
    let line := expandLine (Text.natOfDigits t) (a.has 'i') 0
    eachFile name a.operands fun _ o => put ((Octets.lines o).flatMap line)

/-- A line with tabs in the place of blanks up to each stop; `blanks` are those that were passed
since the last one, and without `all` only those in front of the line count. -/
def unexpandLine (width : Nat) (all : Bool) (column : Nat) (blanks : Octets) : Octets → Octets
  | [] => blanks
  | b :: r =>
    if b = 0x20 then
      if (column + 1) % width = 0 then
        -- A single blank before a stop stays one, unless a tab follows it.
        let whole : Octets :=
          if blanks.isEmpty && r.head? ≠ some 0x20 && r.head? ≠ some 0x09 then [0x20] else [0x09]
        whole ++ unexpandLine width all (column + 1) [] r
      else unexpandLine width all (column + 1) (blanks ++ [0x20]) r
    else if b = 0x09 then
      0x09 :: unexpandLine width all (column + width - column % width) [] r
    else if all then blanks ++ b :: unexpandLine width all (column + 1) [] r
    else blanks ++ b :: r

/-- Writes tabs in the place of blanks. -/
def unexpand (name : Text) (args : List Text) : ProcessM Nat :=
  withArguments name
    [⟨'t', .value, "tabs"⟩, ⟨'a', .nothing, "all"⟩, ⟨'f', .nothing, "first-only"⟩] args 1
    fun a => do
      let width := max 1 (((a.value? 't').map Text.natOfDigits).getD 8)
      let all := (a.has 'a' || a.has 't') && !a.has 'f'
      eachFile name a.operands fun _ o =>
        put ((Octets.lines o).flatMap fun line => unexpandLine width all 0 [] line)

/-- Lines of several files side by side, as long as one of them has any. -/
def pasteRows (marks : List UInt8) (fuel : Nat) (columns : List (List Octets)) : List Octets :=
  match fuel with
  | 0 => []
  | fuel + 1 =>
    if columns.all (·.isEmpty) then []
    else
      joined marks (columns.map fun c => c.headD []) ::
        pasteRows marks fuel (columns.map (·.drop 1))
where
  /-- Pieces with marks between them, which are used one after another. -/
  joined (marks : List UInt8) (pieces : List Octets) : Octets :=
    (pieces.zipIdx.map fun (piece, i) =>
      if i = 0 then piece
      else (marks[(i - 1) % max 1 marks.length]?).toList ++ piece).flatten

/-- Joins lines of several files. -/
def paste (name : Text) (args : List Text) : ProcessM Nat :=
  withArguments name [⟨'d', .value, "delimiters"⟩, ⟨'s', .nothing, "serial"⟩] args 1 fun a => do
    let marks := Utf8.nameOctets (unescape ((a.value? 'd').getD "\t"))
    let files := if a.operands.isEmpty then [("-" : Text)] else a.operands
    let columns ← files.mapM fun file => do
      match ← readPath file with
      | .ok o => return some (Octets.bareLines o)
      | .error r =>
        warn name (file.shellWord ++ ": " ++ r.reason)
        return none
    if columns.any (·.isNone) then return 1
    let columns := columns.reduceOption
    -- Files that are all the input share its lines.
    let columns := if 1 < files.length && files.all (· = ("-" : Text)) then
        let lines := columns.headD []
        (List.range files.length).map fun i =>
          (lines.zipIdx.filter fun (_, j) => j % files.length = i).map (·.1)
      else columns
    if a.has 's' then put (Octets.ofLines (columns.map (pasteRows.joined marks)))
    else put (Octets.ofLines (pasteRows marks ((columns.map (·.length)).foldl max 0) columns))
    return 0
where
  /-- A text with the usual escapes replaced. -/
  unescape : Text → Text
    | 0x5C :: 0x6E :: r => 0x0A :: unescape r
    | 0x5C :: 0x74 :: r => 0x09 :: unescape r
    | 0x5C :: 0x5C :: r => 0x5C :: unescape r
    | c :: r => c :: unescape r
    | [] => []

end Program

end ServiceWiring
