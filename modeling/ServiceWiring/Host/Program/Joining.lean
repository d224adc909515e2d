import ServiceWiring.Host.Program.Lines

/-!
# Programs for two files and for parts

Programs that go through two sorted files side by side, one that puts names in an order that keeps
relations, and one that cuts a file into several.
-/

namespace ServiceWiring.Program

open ProcessM

/-- The two files that operands name, or a complaint. -/
def twoFiles (name : Text) (quote : Text → Text) (operands : List Text)
    (action : Text → Text → ProcessM Nat) : ProcessM Nat :=
  match operands with
  | [a, b] => action a b
  | [] => do
    misuse name "missing operand"
    return 1
  | [a] => do
    misuse name ("missing operand after " ++ a.curly)
    return 1
  | _ :: _ :: extra :: _ => do
    misuse name ("extra operand " ++ quote extra)
    return 1

/-- The lines of two files, if both can be read. -/
def twoInputs (name : Text) (a b : Text) (action : List Octets → List Octets → ProcessM Nat) :
    ProcessM Nat := do
  let read := fun (file : Text) => do
    match ← readPath file with
    | .ok o => return some (Octets.bareLines o)
    | .error r =>
      warn name (file.shellWord ++ ": " ++ r.reason)
      return none
  match ← read a with
  | none => return 1
  | some la =>
    match ← read b with
    | none => return 1
    | some lb => action la lb

/-! ## Order of the lines -/

/-- How the order of lines is looked at. -/
inductive OrderCheck where
  /-- As long as all lines have a partner it does not matter. -/
  | usual
  /-- It always matters. -/
  | strict
  /-- It never matters. -/
  | none
deriving DecidableEq, Repr

/-- How the order of lines is looked at by options. -/
def OrderCheck.ofOptions (a : Arguments) : OrderCheck :=
  match (a.options.filter fun (c, _) => c = 0x6B || c = 0x4B).getLast? with
  | some (c, _) => if c = 0x6B then .strict else .none
  | Option.none => .usual

/-- The options for the order of lines. -/
def orderFlags : List Flag :=
  [⟨'k', .nothing, "check-order"⟩, ⟨'K', .nothing, "nocheck-order"⟩]

/-! ## Common lines -/

/-- What is known while two files are compared. -/
structure Comm where
  /-- Whether a line without a partner has been seen. -/
  alone : Bool := false
  /-- Whether the lines of the first file are out of order. -/
  first : Bool := false
  /-- Whether the lines of the second file are out of order. -/
  second : Bool := false
  /-- How many lines each column has. -/
  counts : Nat × Nat × Nat := (0, 0, 0)

/-- What steps through two files need. -/
structure CommPlan where
  /-- The name of the program. -/
  name : Text
  /-- How the order of lines is looked at. -/
  order : OrderCheck
  /-- The columns that are shown. -/
  columns : List Nat
  /-- What comes before each column but the first. -/
  mark : Octets

/-- Shows a line in a column. -/
def CommPlan.show (p : CommPlan) (column : Nat) (line : Octets) : ProcessM Unit :=
  if p.columns.contains column then
    put (((List.range column).filter p.columns.contains).flatMap (fun _ => p.mark) ++ line ++
      [0x0A])
  else pure ()

/-- Looks at the order of two lines of a file that follow one another. The result tells whether the
program stops. -/
def CommPlan.check (p : CommPlan) (isFirst : Bool) (c : Comm) (lines : List Octets) :
    ProcessM (Comm × Bool) :=
  match lines with
  | a :: b :: _ =>
    let known := if isFirst then c.first else c.second
    let matters := p.order = .strict || p.order = .usual && c.alone
    if matters && !known && b < a then do
      warn p.name ("file " ++ (if isFirst then "1" else "2") ++ " is not in sorted order")
      return (if isFirst then { c with first := true } else { c with second := true },
        p.order = .strict)
    else return (c, false)
  | _ => return (c, false)

/-- Goes through two files; `before` are the last lines that have been passed, and the fuel is more
than the number of lines. -/
def CommPlan.run (p : CommPlan) (before : Option Octets × Option Octets) (a b : List Octets)
    (c : Comm) : Nat → ProcessM (Comm × Bool)
  | 0 => return (c, false)
  | fuel + 1 => do
    let order? : Option Ordering := match a, b with
      | [], [] => none
      | [], _ => some .gt
      | _, [] => some .lt
      | x :: _, y :: _ => some (if x < y then .lt else if y < x then .gt else .eq)
    match order? with
    | none => return (c, false)
    | some order =>
      let (n, m, k) := c.counts
      let c := match order with
        | .eq => { c with counts := (n, m, k + 1) }
        | .lt => { c with alone := true, counts := (n + 1, m, k) }
        | .gt => { c with alone := true, counts := (n, m + 1, k) }
      match order with
      | .eq => p.show 2 (b.headD [])
      | .lt => p.show 0 (a.headD [])
      | .gt => p.show 1 (b.headD [])
      let steps := fun (isFirst : Bool) (last? : Option Octets) (lines : List Octets) (c : Comm) =>
        match lines with
        -- At the end of a file the last two lines are looked at again.
        | [x] => p.check isFirst c (last?.toList ++ [x])
        | lines => p.check isFirst c lines
      let (c, stops) ← if order ≠ .gt then steps true before.1 a c else pure (c, false)
      if stops then return (c, true)
      let (c, stops) ← if order ≠ .lt then steps false before.2 b c else pure (c, false)
      if stops then return (c, true)
      let before := (if order ≠ .gt then a.head? else before.1,
        if order ≠ .lt then b.head? else before.2)
      run p before (if order ≠ .gt then a.drop 1 else a) (if order ≠ .lt then b.drop 1 else b) c
        fuel

/-- Writes the lines that only one of two files has, and those that both have. -/
def comm (name : Text) (args : List Text) : ProcessM Nat :=
  let flags := Flag.ofLetters "123z" ++ orderFlags ++
    [⟨'O', .value, "output-delimiter"⟩, ⟨'T', .nothing, "total"⟩]
  withArguments name flags args 1 fun a =>
    twoFiles name Text.curly a.operands fun x y =>
      twoInputs name x y fun la lb => do
        let mark := (a.value? 'O').getD "\t"
        let mark := Utf8.nameOctets (if mark.isEmpty then [0] else mark)
        let columns := (List.range 3).filter fun i => !a.has (Char.ofNat (0x31 + i))
        let p : CommPlan := ⟨name, OrderCheck.ofOptions a, columns, mark⟩
        let (c, stopped) ← p.run (none, none) la lb {} (la.length + lb.length + 1)
        if stopped then return 1
        if a.has 'T' then
          let (n, m, k) := c.counts
          let number := fun (n : Nat) => Octets.ofNat 0 n ++ mark
          put (number n ++ number m ++ number k ++ Utf8.nameOctets "total\n")
        if c.first || c.second then
          warn name "input is not in sorted order"
          return 1
        return 0

/-! ## Joined lines -/

/-- How lines are joined. -/
structure JoinPlan where
  /-- The name of the program. -/
  name : Text
  /-- The octet between fields; without one, blanks are. -/
  mark? : Option UInt8
  /-- The numbers of the fields that are compared, from zero on. -/
  keys : Nat × Nat
  /-- Whether letters are alike in both cases. -/
  anyCase : Bool
  /-- Whether joined lines are shown. -/
  pairs : Bool
  /-- Whether lines of the first file without a partner are shown. -/
  aloneFirst : Bool
  /-- Whether lines of the second file without a partner are shown. -/
  aloneSecond : Bool
  /-- What stands for a field that is empty. -/
  empty : Octets
  /-- The fields that are shown: the file, or zero for the field compared, and the number. -/
  shown? : Option (List (Nat × Nat))
  /-- How the order of lines is looked at. -/
  order : OrderCheck

namespace JoinPlan

/-- The fields of a line. -/
def fields (p : JoinPlan) (line : Octets) : List Octets :=
  match p.mark? with
  | some mark => cutAt mark line
  | none =>
    let isBlank := fun (b : UInt8) => b = 0x20 || b = 0x09
    let found := words (line.length + 1) line
    -- Blanks at the end come before a field that is empty.
    if !found.isEmpty && line.getLast?.any isBlank then found ++ [[]] else found
where
  /-- The pieces between marks. -/
  cutAt (mark : UInt8) : Octets → List Octets
    | [] => [[]]
    | b :: r =>
      if b = mark then [] :: cutAt mark r
      else
        match cutAt mark r with
        | [] => [[b]]
        | piece :: pieces => (b :: piece) :: pieces
  /-- The pieces between blanks. -/
  words : Nat → Octets → List Octets
    | 0, _ => []
    | fuel + 1, o =>
      let isBlank := fun (b : UInt8) => b = 0x20 || b = 0x09
      match o.dropWhile isBlank with
      | [] => []
      | r =>
        let word := r.takeWhile (!isBlank ·)
        word :: words fuel (r.drop word.length)

/-- The field that is compared. -/
def key (p : JoinPlan) (isFirst : Bool) (fields : List Octets) : Octets :=
  let o := fields[if isFirst then p.keys.1 else p.keys.2]?.getD []
  if p.anyCase then o.map fun b => if 0x41 ≤ b && b ≤ 0x5A then b + 0x20 else b else o

/-- The line for two lines, of which one may be missing. -/
def line (p : JoinPlan) (a? b? : Option (List Octets)) : Octets :=
  let filled := fun (o : Octets) => if o.isEmpty then p.empty else o
  let keyFields := match a?, b? with
    | some a, _ => (a, p.keys.1)
    | none, some b => (b, p.keys.2)
    | none, none => ([], 0)
  let keyField := filled (keyFields.1[keyFields.2]?.getD [])
  let others := fun (fields? : Option (List Octets)) (key : Nat) =>
    ((fields?.getD []).eraseIdx key).map filled
  let shown := match p.shown? with
    | none => keyField :: others a? p.keys.1 ++ others b? p.keys.2
    | some list => list.map fun (file, n) =>
      if file = 0 then keyField
      else filled (((if file = 1 then a? else b?).getD [])[n]?.getD [])
  List.intercalate [p.mark?.getD 0x20] shown ++ [0x0A]

/-- What is known while two files are joined. -/
structure State where
  /-- Whether a line without a partner has been seen. -/
  alone : Bool := false
  /-- Whether the lines of the first file are out of order. -/
  first : Bool := false
  /-- Whether the lines of the second file are out of order. -/
  second : Bool := false
  /-- Whether the program has stopped. -/
  stopped : Bool := false

/-- A line with its number and its fields. -/
abbrev Row := Octets × Nat × List Octets

/-- Looks at the order of two lines that follow one another. -/
def check (p : JoinPlan) (isFirst : Bool) (file : Text) (s : State) (a b : Row) :
    ProcessM State :=
  let known := if isFirst then s.first else s.second
  let matters := p.order = .strict || p.order = .usual && s.alone
  if matters && !known && !s.stopped && p.key isFirst b.2.2 < p.key isFirst a.2.2 then do
    warn p.name (file.shellWord ++ ":" ++ Text.ofNat (b.2.1 + 1) ++ ": is not sorted: " ++
      Utf8.decodeName b.1)
    return { s with
      first := s.first || isFirst, second := s.second || !isFirst
      stopped := p.order = .strict }
  else return s

/-- Looks at the order of the first lines of a list, up to one that is the first of another. -/
def checkTo (p : JoinPlan) (isFirst : Bool) (file : Text) (s : State) (count : Nat)
    (rows : List Row) : ProcessM State :=
  ((rows.zip (rows.drop 1)).take count).foldlM (fun s (a, b) => p.check isFirst file s a b) s

/-- Goes through two files. The fuel is more than the number of lines. -/
def run (p : JoinPlan) (x y : Text) (a b : List Row) (s : State) : Nat → ProcessM State
  | 0 => return s
  | fuel + 1 => do
    if s.stopped then return s
    match a, b with
    | (la, ra) :: ta, (lb, rb) :: tb =>
      let (ka, kb) := (p.key true ra.2, p.key false rb.2)
      if ka < kb then
        if p.aloneFirst then put (p.line (some ra.2) none)
        let s ← p.checkTo true x s 1 ((la, ra) :: ta)
        run p x y ta b { s with alone := true } fuel
      else if kb < ka then
        if p.aloneSecond then put (p.line none (some rb.2))
        let s ← p.checkTo false y s 1 ((lb, rb) :: tb)
        run p x y a tb { s with alone := true } fuel
      else
        let same := fun (isFirst : Bool) (key : Octets) (rows : List Row) =>
          rows.takeWhile fun r => p.key isFirst r.2.2 = key
        -- The run of one key goes on as long as it is that of the other file.
        let (as, bs) := (same true kb a, same false ka b)
        let s ← p.checkTo true x s as.length a
        let s ← p.checkTo false y s bs.length b
        if s.stopped then return s
        if p.pairs then
          for r in as do
            for t in bs do
              put (p.line (some r.2.2) (some t.2.2))
        run p x y (a.drop as.length) (b.drop bs.length) s fuel
    | rows, others =>
      let s ← rest true x p.aloneFirst rows s
      rest false y p.aloneSecond others s
where
  /-- Shows the lines that are left of one file. -/
  rest (isFirst : Bool) (file : Text) (wanted : Bool) (rows : List Row) (s : State) :
      ProcessM State := do
    let shown := fun (r : Row) =>
      if isFirst then p.line (some r.2.2) none else p.line none (some r.2.2)
    if wanted then
      if let r :: _ := rows then put (shown r)
    (rows.zip (rows.drop 1)).foldlM (fun s (a, b) => do
      let s ← p.check isFirst file s a b
      if wanted && !s.stopped then put (shown b)
      return s) s

end JoinPlan

/-- The fields that a list asks for. -/
def joinFields? (t : Text) : Option (List (Nat × Nat)) :=
  let pieces := (Text.splitOn 0x2C (t.map fun c => if c = 0x20 then 0x2C else c)).filter
    (!·.isEmpty)
  pieces.mapM fun piece =>
    match piece with
    | [0x30] => some (0, 0)
    | c :: 0x2E :: ds =>
      if (c = 0x31 || c = 0x32) && !ds.isEmpty && ds.all CodePoint.isDigit &&
          0 < Text.natOfDigits ds then
        some (c.val - 0x30, Text.natOfDigits ds - 1)
      else none
    | _ => none

/-- Joins the lines of two files that agree in a field. -/
def join (name : Text) (args : List Text) : ProcessM Nat :=
  let flags := Flag.ofLetters "a:v:e:i1:2:j:o:t:z" ++ orderFlags ++ [⟨'H', .nothing, "header"⟩,
    ⟨'i', .nothing, "ignore-case"⟩]
  withArguments name flags args 1 fun a => do
    let number := fun (t : Text) => Text.natOfDigits t - 1
    let both := ((a.value? 'j').map number).getD 0
    let keys := (((a.value? '1').map number).getD both, ((a.value? '2').map number).getD both)
    let alone := fun (t : Text) => (a.values 'a').contains t || (a.values 'v').contains t
    let mark := Utf8.nameOctets ((a.value? 't').getD [])
    let mark? := if mark = [0x5C, 0x30] then some 0 else mark.head?
    let asked := Text.joinWith "," (a.values 'o')
    match if a.has 'o' && asked ≠ "auto" then (joinFields? asked).map some else some none with
    | none =>
      warn name ("invalid field specifier: " ++ asked.curly)
      return 1
    | some shown? =>
      twoFiles name (fun t => t.shellQuoted) a.operands fun x y =>
        twoInputs name x y fun la lb => do
          let p : JoinPlan :=
            { name, mark?, keys, anyCase := a.has 'i', pairs := !a.has 'v'
              aloneFirst := alone "1", aloneSecond := alone "2"
              empty := Utf8.nameOctets ((a.value? 'e').getD []), shown?
              order := OrderCheck.ofOptions a }
          let rows := fun (lines : List Octets) =>
            lines.zipIdx.map fun (line, i) => ((line, i, p.fields line) : JoinPlan.Row)
          let (ra, rb) := (rows la, rows lb)
          let width := fun (rows : List JoinPlan.Row) => ((rows.head?.map (·.2.2.length)).getD 0)
          let auto : List (Nat × Nat) :=
            (0, 0) :: (((List.range (width ra)).erase keys.1).map ((1, ·))) ++
              (((List.range (width rb)).erase keys.2).map ((2, ·)))
          let p := if asked = "auto" then { p with shown? := some auto } else p
          let headed := a.has 'H'
          if headed && !(ra.isEmpty && rb.isEmpty) then
            put (p.line (ra.head?.map (·.2.2)) (rb.head?.map (·.2.2)))
          let (ra, rb) := if headed then (ra.drop 1, rb.drop 1) else (ra, rb)
          let s ← p.run x y ra rb {} (ra.length + rb.length + 1)
          if s.stopped then return 1
          if s.first || s.second then
            warn name "input is not in sorted order"
            return 1
          return 0

/-! ## Names in order -/

/-- A name, how many names still have to come before it, and those that come after it, the latest
relation first. -/
structure Item where
  /-- The name. -/
  name : Octets
  /-- How many relations put another name before it. -/
  count : Nat
  /-- The names that come after it. -/
  after : List Octets
deriving DecidableEq, Repr

namespace Item

/-- The items with one of them changed. -/
def change (name : Octets) (f : Item → Item) (items : List Item) : List Item :=
  items.map fun i => if i.name = name then f i else i

/-- The items that relations speak of. -/
def ofRelations (pairs : List (Octets × Octets)) : List Item :=
  let names := (pairs.flatMap fun (a, b) => [a, b]).mergeSort fun a b => decide (a ≤ b)
  let items := names.eraseReps.map fun name => (⟨name, 0, []⟩ : Item)
  pairs.foldl (fun items (a, b) =>
    if a = b then items
    else
      change b (fun i => { i with count := i.count + 1 })
        (change a (fun i => { i with after := b :: i.after }) items)) items

/-- Writes the names of a queue and those that may come after them. The result holds the names in
the order in which they were written, and the items as they are then. -/
def flow (items : List Item) (done : List Octets) (queue : List Octets) :
    Nat → List Octets × List Item
  | 0 => (done, items)
  | fuel + 1 =>
    match queue with
    | [] => (done, items)
    | name :: queue =>
      let after := ((items.find? (·.name = name)).map (·.after)).getD []
      let (items, queue) := after.foldl (fun (state : List Item × List Octets) next =>
        let items := change next (fun i => { i with count := i.count - 1 }) state.1
        let isFree := (items.find? (·.name = next)).any (·.count = 0)
        (items, if isFree then state.2 ++ [next] else state.2)) (items, queue)
      flow items (name :: done) queue fuel

/-- The names from one on, each linked to the next, up to another. -/
def linked (links : List (Octets × Octets)) (name last : Octets) : Nat → List Octets
  | 0 => []
  | fuel + 1 =>
    if name = last then [name]
    else
      match links.lookup name with
      | some next => name :: linked links next last fuel
      | none => [name]

/-- A loop among the items that are left: names, of which each one comes after the one behind it.
The search goes through the items again and again; `head?` is the name that it looks for, and
`links` lead from each name found to the one that was looked for. -/
def loop? (items : List Item) (head? : Option Octets) (links : List (Octets × Octets))
    (passed : List Item) : Nat → Option (List Octets)
  | 0 => none
  | fuel + 1 =>
    match passed with
    | [] => if head?.isNone then none else loop? items head? links items fuel
    | i :: rest =>
      if i.count = 0 then loop? items head? links rest fuel
      else
        match head? with
        | none => loop? items (some i.name) links rest fuel
        | some head =>
          if !i.after.contains head then loop? items head? links rest fuel
          else if (links.lookup i.name).isSome then
            some (linked links head i.name (items.length + 1))
          else loop? items (some i.name) ((i.name, head) :: links) rest fuel

end Item

/-- Writes names in an order that keeps relations. Loops are complained about and broken. The fuel
is more than the number of relations. -/
def writeOrdered (name file : Text) (items : List Item) (written : List Octets) (status : Nat) :
    Nat → ProcessM Nat
  | 0 => return status
  | fuel + 1 => do
    let free := (items.filter fun i => i.count = 0 && !written.contains i.name).map (·.name)
    let (done, items) := Item.flow items [] free (items.length + 1)
    put (Octets.ofLines done.reverse)
    let written := done ++ written
    let left := items.filter fun i => !written.contains i.name
    match Item.loop? left none [] left ((left.length + 1) * (left.length + 2) + 1) with
    | none => return status
    | some loop =>
      warn name (file.shellWord ++ ": input contains a loop:")
      for t in loop do
        warn name (Utf8.decodeName t)
      -- The last name of the loop comes before the first.
      let (first, last) := (loop.headD [], loop.getLast?.getD [])
      let items := Item.change first (fun i => { i with count := i.count - 1 })
        (Item.change last (fun i => { i with after := i.after.erase first }) items)
      writeOrdered name file items written 1 fuel

/-- Puts names in an order that keeps relations. -/
def tsort (name : Text) (args : List Text) : ProcessM Nat :=
  withArguments name [] args 1 fun a => do
    if let _ :: extra :: _ := a.operands then
      misuse name ("extra operand " ++ extra.curly)
      return 1
    let file := a.operands.headD "-"
    match ← readPath file with
    | .error r =>
      let failure : Text := if r = .isDirectory then ": read error: " else ": "
      warn name (file.shellWord ++ failure ++ r.reason)
      return 1
    | .ok o =>
      let words := tokens (o.length + 1) o
      if words.length % 2 = 1 then
        warn name (file.shellWord ++ ": input contains an odd number of tokens")
        return 1
      let items := Item.ofRelations (pairs words)
      writeOrdered name file items [] 0 (words.length + 1)
where
  /-- The words between blanks. -/
  tokens : Nat → Octets → List Octets
    | 0, _ => []
    | fuel + 1, o =>
      let isBlank := fun (b : UInt8) => b = 0x20 || b = 0x09 || b = 0x0A
      match o.dropWhile isBlank with
      | [] => []
      | r =>
        let word := r.takeWhile (!isBlank ·)
        word :: tokens fuel (r.drop word.length)
  /-- The words in pairs. -/
  pairs : List Octets → List (Octets × Octets)
    | a :: b :: r => (a, b) :: pairs r
    | _ => []

/-! ## Parts of a file -/

/-- The endings of the names of parts: as many digits of an alphabet as are asked for. -/
def partName (digits : Text) (length n : Nat) : Option Text :=
  let base := digits.length
  if base ^ length ≤ n then none
  else
    some ((List.range length).reverse.map fun i => (digits[n / base ^ i % base]?).getD 0x61)

/-- Pieces of at most so many octets, as whole lines where that can be. -/
def linePieces (size : Nat) (piece : Octets) : List Octets → List Octets
  | [] => if piece.isEmpty then [] else [piece]
  | line :: r =>
    if piece.length + line.length ≤ size then linePieces size (piece ++ line) r
    else
      (if piece.isEmpty then [] else [piece]) ++
        (let cut := cutPieces size line (line.length + 1)
         cut.dropLast ++ linePieces size (cut.getLast?.getD []) r)
where
  /-- A line in pieces. -/
  cutPieces (size : Nat) (o : Octets) : Nat → List Octets
    | 0 => []
    | fuel + 1 => if o.length ≤ size then [o] else o.take size :: cutPieces size (o.drop size) fuel

/-- The options of `split`. -/
def splitFlags : List Flag :=
  [⟨'a', .value, "suffix-length"⟩, ⟨'X', .value, "additional-suffix"⟩, ⟨'b', .value, "bytes"⟩,
    ⟨'C', .value, "line-bytes"⟩, ⟨'d', .nothing, []⟩, ⟨'d', .attached, "numeric-suffixes"⟩,
    ⟨'x', .nothing, []⟩, ⟨'x', .attached, "hex-suffixes"⟩, ⟨'l', .value, "lines"⟩,
    ⟨'n', .value, "number"⟩, ⟨'e', .nothing, "elide-empty-files"⟩]

/-- Cuts a file into several. -/
def split (name : Text) (args : List Text) : ProcessM Nat :=
  let args := match args with
    | (0x2D :: c :: r) :: more =>
      if (c :: r).all CodePoint.isDigit then ("-l" : Text) :: (c :: r) :: more else args
    | args => args
  withArguments name splitFlags args 1 fun a => do
    if let _ :: _ :: extra :: _ := a.operands then
      misuse name ("extra operand " ++ extra.curly)
      return 1
    let file := a.operands.headD "-"
    let start : Text := (a.operands[1]?).getD "x"
    let digits : Text := if a.has 'd' then "0123456789" else if a.has 'x' then "0123456789abcdef"
      else "abcdefghijklmnopqrstuvwxyz"
    let ways := a.options.filter fun (c, _) => (Text.ofString "bCln").contains c
    match ways with
    | _ :: _ :: _ =>
      misuse name "cannot split in more than one way"
      return 1
    | ways =>
      let (way, value) := ways.headD (0x6C, "1000")
      let n? := (portion? true value).bind fun p =>
        if p.plus || p.minus || p.count = 0 then none else some p.count
      match n? with
      | none =>
        let unit : Text := if way = 0x6C then "lines" else if way = 0x6E then "chunks" else "bytes"
        warn name ("invalid number of " ++ unit ++ ": " ++ value.curly)
        return 1
      | some n =>
        match ← readPath file with
        | .error r =>
          warn name (if r = .isDirectory then file.shellWord ++ ": read error: " ++ r.reason
            else "cannot open " ++ file.shellQuoted ++ " for reading: " ++ r.reason)
          return 1
        | .ok o =>
          let parts :=
            if way = 0x62 then Program.linePieces.cutPieces n o (o.length + 1)
            else if way = 0x43 then linePieces n [] (Octets.lines o)
            else if way = 0x6E then chunks n o
            else lineRuns n (Octets.lines o) (o.length + 1)
          let parts := if way = 0x6E then
              if a.has 'e' then parts.filter (!·.isEmpty) else parts
            else parts.filter (!·.isEmpty)
          write start digits ((a.value? 'X').getD []) (a.value? 'a') 0 parts
where
  /-- Runs of so many lines. -/
  lineRuns (n : Nat) (lines : List Octets) : Nat → List Octets
    | 0 => []
    | fuel + 1 =>
      if lines.isEmpty then [] else (lines.take n).flatten :: lineRuns n (lines.drop n) fuel
  /-- So many parts of one length, of which the last ones take what is left over. -/
  chunks (n : Nat) (o : Octets) : List Octets :=
    let size := o.length / n
    (List.range n).map fun i =>
      if i + 1 = n then o.drop (size * i) else (o.drop (size * i)).take size
  /-- Writes parts under names of their own. Names get longer when a third of the last length is
  used up, unless a length is asked for. -/
  write (start digits ending : Text) (length? : Option Text) (i : Nat) :
      List Octets → ProcessM Nat
    | [] => return 0
    | part :: r => do
      let name? := match length? with
        | some t => partName digits (max 1 (Text.natOfDigits t)) i
        | none =>
          -- The last of the first digits starts a name that is longer by two.
          let short := digits.length * (digits.length - 1)
          if i < short then partName digits 2 i
          else (partName digits 3 (i - short)).map fun t => digits.getLast?.toList ++ t
      match name? with
      | none =>
        warn name "output file suffixes exhausted"
        return 1
      | some t =>
        match ← openPath .replace (start ++ t ++ ending) with
        | .error r =>
          warn name ((start ++ t ++ ending).shellWord ++ ": " ++ r.reason)
          return 1
        | .ok j =>
          writeTo j part
          write start digits ending length? (i + 1) r

end ServiceWiring.Program
