import ServiceWiring.Host.Program.Characters

/-!
# Programs for sorted lines

`sort` compares lines by keys, and by the whole lines where all keys are equal; `uniq` looks at
lines that follow one another.
-/

namespace ServiceWiring.Program

open ProcessM

/-! ## Order -/

/-- How keys are compared. -/
structure Manner where
  /-- As numbers. -/
  numeric : Bool := false
  /-- Small letters as capitals. -/
  fold : Bool := false
  /-- The other way round. -/
  backward : Bool := false
  /-- Without the blanks in front. -/
  noBlanks : Bool := false
  /-- By letters, digits and blanks only. -/
  dictionary : Bool := false
  /-- By the numbers inside names. -/
  version : Bool := false
deriving DecidableEq, Repr

/-- The manner that letters ask for on top of another one. -/
def Manner.add (m : Manner) (c : CodePoint) : Manner :=
  match c with
  | 0x6E | 0x67 => { m with numeric := true }
  | 0x66 => { m with fold := true }
  | 0x72 => { m with backward := true }
  | 0x62 => { m with noBlanks := true }
  | 0x64 => { m with dictionary := true }
  | 0x56 => { m with version := true }
  | _ => m

/-- A key: where it starts and ends in a line, and how it is compared. -/
structure Key where
  /-- The number of the first field. -/
  field : Nat
  /-- The number of the first octet in it. -/
  octet : Nat
  /-- The number of the last field, and of its last octet; zero stands for the end of the field. -/
  stop? : Option (Nat × Nat)
  /-- How it is compared. -/
  manner : Manner
deriving DecidableEq, Repr

/-- The order of runs of octets. -/
def compareOctets : Octets → Octets → Ordering
  | [], [] => .eq
  | [], _ => .lt
  | _, [] => .gt
  | a :: r, b :: s => if a < b then .lt else if b < a then .gt else compareOctets r s

/-- Whether an octet is a blank. -/
def isBlankOctet (b : UInt8) : Bool := b = 0x20 || b = 0x09

/-- Whether an octet is a digit. -/
def isDigitOctet (b : UInt8) : Bool := 0x30 ≤ b && b ≤ 0x39

/-- The number that octets start with, as an integer and so many decimal places. -/
def leadingNumber (o : Octets) : Int × Nat :=
  let o := o.dropWhile isBlankOctet
  let (negative, o) := match o with
    | 0x2D :: r => (true, r)
    | o => (false, o)
  let whole := o.takeWhile isDigitOctet
  let places := match o.dropWhile isDigitOctet with
    | 0x2E :: r => r.takeWhile isDigitOctet
    | _ => []
  let n := (whole ++ places).foldl (fun (n : Nat) b => 10 * n + (b.toNat - 0x30)) 0
  (if negative then -(n : Int) else n, places.length)

/-- The order of the numbers that octets start with. -/
def compareNumbers (a b : Octets) : Ordering :=
  let ((n, i), (m, j)) := (leadingNumber a, leadingNumber b)
  compare (n * 10 ^ j) (m * 10 ^ i)

/-- The order of names by the numbers inside them. -/
def compareVersions (fuel : Nat) (a b : Octets) : Ordering :=
  match fuel with
  | 0 => .eq
  | fuel + 1 =>
    if a.isEmpty && b.isEmpty then .eq
    else
      let isOther := fun b => !isDigitOctet b
      let number := fun (o : Octets) =>
        (o.takeWhile isDigitOctet).foldl (fun (n : Nat) b => 10 * n + (b.toNat - 0x30)) 0
      let (restA, restB) := (a.dropWhile isOther, b.dropWhile isOther)
      (compareOctets (a.takeWhile isOther) (b.takeWhile isOther)).then <|
        (compare (number restA) (number restB)).then <|
          compareVersions fuel (restA.dropWhile isDigitOctet) (restB.dropWhile isDigitOctet)

/-- The order of two keys. -/
def Manner.compare (m : Manner) (a b : Octets) : Ordering :=
  let trim := fun (o : Octets) => if m.noBlanks then o.dropWhile isBlankOctet else o
  let pick := fun (o : Octets) =>
    if m.dictionary then o.filter fun b => isBlankOctet b || isDigitOctet b ||
      (0x41 ≤ b && b ≤ 0x5A) || (0x61 ≤ b && b ≤ 0x7A) else o
  let raise := fun (o : Octets) =>
    if m.fold then o.map fun b => if 0x61 ≤ b && b ≤ 0x7A then b - 0x20 else b else o
  let order :=
    if m.numeric then compareNumbers a b
    else
      let (a, b) := (raise (pick (trim a)), raise (pick (trim b)))
      if m.version then compareVersions (a.length + b.length + 1) a b else compareOctets a b
  if m.backward then order.swap else order

/-- The lengths of the fields of a line; without a mark a field starts with its blanks. -/
def fieldLengths (mark? : Option UInt8) (fuel : Nat) (line : Octets) : List Nat :=
  match fuel with
  | 0 => []
  | fuel + 1 =>
    match mark? with
    | some mark =>
      let n := (line.takeWhile (· ≠ mark)).length
      if n < line.length then (n + 1) :: fieldLengths mark? fuel (line.drop (n + 1)) else [n]
    | none =>
      let blanks := (line.takeWhile isBlankOctet).length
      let n := blanks + ((line.drop blanks).takeWhile fun b => !isBlankOctet b).length
      if n < line.length then n :: fieldLengths mark? fuel (line.drop n) else [n]

/-- What a key takes of a line. -/
def Key.of (k : Key) (mark? : Option UInt8) (line : Octets) : Octets :=
  let lengths := fieldLengths mark? (line.length + 1) line
  let upTo := fun n => (lengths.take n).foldl (· + ·) 0
  let skipBlanks := fun (i : Nat) =>
    if k.manner.noBlanks then i + ((line.drop i).takeWhile isBlankOctet).length else i
  let start := min line.length (skipBlanks (upTo (k.field - 1)) + (k.octet - 1))
  let stop := match k.stop? with
    | none => line.length
    | some (field, 0) =>
      let stop := upTo field
      if mark?.isSome && field < lengths.length then stop - 1 else stop
    | some (field, octet) => skipBlanks (upTo (field - 1)) + octet
  (line.take (min stop line.length)).drop start

/-- The key that a text spells. -/
def key? (usual : Manner) (t : Text) : Option Key := do
  let number := fun (t : Text) =>
    (Text.natOfDigits (t.takeWhile CodePoint.isDigit), t.dropWhile CodePoint.isDigit)
  let place := fun (t : Text) =>
    let (field, r) := number t
    match r with
    | 0x2E :: r =>
      let (octet, r) := number r
      (field, octet, r)
    | r => (field, 0, r)
  let (field, octet, r) := place t
  if field = 0 then none
  let (own, r) := (r.takeWhile (· ≠ 0x2C), r.dropWhile (· ≠ 0x2C))
  let (stop?, more) := match r with
    | _ :: r =>
      let (field, octet, r) := place r
      (some (field, octet), r)
    | [] => (none, [])
  let letters := own ++ more
  let manner := if letters.isEmpty then usual else letters.foldl Manner.add {}
  some ⟨field, max 1 octet, stop?, manner⟩

/-- The options of `sort`. -/
def sortFlags : List Flag :=
  [⟨'r', .nothing, "reverse"⟩, ⟨'n', .nothing, "numeric-sort"⟩, ⟨'u', .nothing, "unique"⟩,
    ⟨'f', .nothing, "ignore-case"⟩, ⟨'b', .nothing, "ignore-leading-blanks"⟩,
    ⟨'d', .nothing, "dictionary-order"⟩, ⟨'s', .nothing, "stable"⟩, ⟨'k', .value, "key"⟩,
    ⟨'t', .value, "field-separator"⟩, ⟨'o', .value, "output"⟩, ⟨'c', .nothing, "check"⟩,
    ⟨'V', .nothing, "version-sort"⟩, ⟨'g', .nothing, "general-numeric-sort"⟩,
    ⟨'m', .nothing, "merge"⟩]

/-- The first line that does not come in order, with its number. -/
def firstDisorder? (inOrder : Octets → Octets → Bool) (n : Nat) :
    List Octets → Option (Nat × Octets)
  | a :: b :: r =>
    if inOrder a b then firstDisorder? inOrder (n + 1) (b :: r) else some (n + 1, b)
  | _ => none

/-- Sorts lines. -/
def sort (name : Text) (args : List Text) : ProcessM Nat :=
  withArguments name sortFlags args 2 fun a => do
    let usual := (a.options.map (·.1)).foldl Manner.add {}
    match (a.values 'k').mapM (key? usual) with
    | none =>
      warn name ("invalid number at field start: invalid count at start of " ++
        ((a.value? 'k').getD []).curly)
      return 2
    | some keys =>
      let mark? := (a.value? 't').bind fun t => (Utf8.nameOctets t).head?
      let keys := if keys.isEmpty then [⟨1, 1, none, usual⟩] else keys
      let byKeys := fun (x y : Octets) =>
        keys.foldl (fun (o : Ordering) k => o.then (k.manner.compare (k.of mark? x) (k.of mark? y)))
          .eq
      let whole := fun (x y : Octets) =>
        if usual.backward then (compareOctets x y).swap else compareOctets x y
      let order := fun (x y : Octets) =>
        if a.has 's' || a.has 'u' then byKeys x y else (byKeys x y).then (whole x y)
      let files := if a.operands.isEmpty then [("-" : Text)] else a.operands
      let contents ← files.mapM fun file => do
        match ← readPath file with
        | .ok o => return some (Octets.bareLines o)
        | .error r =>
          let failure : Text := if r = .isDirectory then "read failed: " else "cannot read: "
          warn name (failure ++ file.shellWord ++ ": " ++ r.reason)
          return none
      if contents.any (·.isNone) then return 2
      let lines := contents.reduceOption.flatten
      if a.has 'c' then
        let inOrder := fun x y => if a.has 'u' then order x y == .lt else order x y != .gt
        match firstDisorder? inOrder 1 lines with
        | none => return 0
        | some (n, line) =>
          warn name (files.headD [] ++ ":" ++ Text.ofNat n ++ ": disorder: " ++
            Utf8.decodeName line)
          return 1
      let sorted := lines.mergeSort fun x y => order x y != .gt
      let kept := if a.has 'u' then
          (sorted.foldl (fun (kept : List Octets) line =>
            match kept with
            | last :: _ => if byKeys last line == .eq then kept else line :: kept
            | [] => [line]) []).reverse
        else sorted
      match a.value? 'o' with
      | none => put (Octets.ofLines kept)
      | some file =>
        match ← openPath .replace file with
        | .ok i => writeTo i (Octets.ofLines kept)
        | .error r =>
          warn name ("open failed: " ++ file.shellWord ++ ": " ++ r.reason)
          return 2
      return 0

/-! ## Repeated lines -/

/-- Runs of equal lines: the first line of each, and how many there are. -/
def runsOf (same : Octets → Octets → Bool) : List Octets → List (Octets × Nat)
  | [] => []
  | line :: r =>
    match runsOf same r with
    | (next, n) :: more =>
      if same line next then (line, n + 1) :: more else (line, 1) :: (next, n) :: more
    | [] => [(line, 1)]

/-- What is left of a line without its first fields. -/
def dropFields (line : Octets) : Nat → Octets
  | 0 => line
  | n + 1 => dropFields ((line.dropWhile isBlankOctet).dropWhile fun b => !isBlankOctet b) n

/-- The options of `uniq`. -/
def uniqFlags : List Flag :=
  [⟨'c', .nothing, "count"⟩, ⟨'d', .nothing, "repeated"⟩, ⟨'u', .nothing, "unique"⟩,
    ⟨'i', .nothing, "ignore-case"⟩, ⟨'f', .value, "skip-fields"⟩, ⟨'s', .value, "skip-chars"⟩,
    ⟨'w', .value, "check-chars"⟩]

/-- Drops repeated lines. -/
def uniq (name : Text) (args : List Text) : ProcessM Nat :=
  withArguments name uniqFlags args 1 fun a => do
    let number := fun (c : Char) => (a.value? c).map Text.natOfDigits
    let keyOf := fun (line : Octets) =>
      let line := (dropFields line ((number 'f').getD 0)).drop ((number 's').getD 0)
      let line := match number 'w' with
        | some n => line.take n
        | none => line
      if a.has 'i' then line.map fun b => if 0x61 ≤ b && b ≤ 0x7A then b - 0x20 else b else line
    let (o, status) ← readFiles name (a.operands.take 1)
    if status ≠ 0 then return status
    let runs := runsOf (fun x y => keyOf x == keyOf y) (Octets.bareLines o)
    let shown := runs.filter fun (_, n) => (!a.has 'd' || 1 < n) && (!a.has 'u' || n = 1)
    let text := shown.flatMap fun (line, n) =>
      (if a.has 'c' then Octets.ofNat 7 n ++ [0x20] else []) ++ line ++ [0x0A]
    match a.operands[1]? with
    | none => put text
    | some file =>
      match ← openPath .replace file with
      | .ok i => writeTo i text
      | .error r =>
        warn name (file.shellWord ++ ": " ++ r.reason)
        return 1
    return 0

end ServiceWiring.Program
