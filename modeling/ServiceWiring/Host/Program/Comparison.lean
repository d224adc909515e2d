import ServiceWiring.Host.Program.Files
import ServiceWiring.Host.Program.Lines

/-!
# What lines differ

Two lists of lines are set side by side: as many lines as can be are kept, the others are lines of
the first list only or of the second. `Edit.between` finds such edits, `Hunk.ofEdits` the runs of
lines in which the lists differ.
-/

namespace ServiceWiring

/-- What becomes of a line. -/
inductive Edit where
  /-- It is in both lists. -/
  | keep (line : Octets)
  /-- It is in the first list only. -/
  | drop (line : Octets)
  /-- It is in the second list only. -/
  | add (line : Octets)
deriving DecidableEq, Repr

namespace Edit

/-- How many lines a line and those after it share at most with each end of the second list, from
what those after it do. -/
def sharedRow (line : Octets) (second : List Octets) (below : List Nat) : List Nat :=
  ((second.zip (below.zip (below.drop 1))).foldr
    (fun (other, under, underNext) (row : List Nat) =>
      (if line = other then underNext + 1 else max under (row.headD 0)) :: row) [0])

/-- How many lines each end of the first list shares at most with each end of the second. -/
def shared (first second : List Octets) : List (List Nat) :=
  first.foldr (fun line rows =>
    sharedRow line second (rows.headD []) :: rows) [List.replicate (second.length + 1) 0]

/-- The edits that keep the most lines, given what the ends of the lists share. A line is kept as
soon as it can be; if either of two lines can go, that of the first list goes first. -/
def along (rows : List (List Nat)) (column : Nat) : List Octets → List Octets → List Edit
  | [], second => second.map add
  | first, [] => first.map drop
  | a :: first, b :: second =>
    if a = b then keep a :: along (rows.drop 1) (column + 1) first second
    else
      let without := ((rows.drop 1).headD []).getD column 0
      let instead := (rows.headD []).getD (column + 1) 0
      if instead ≤ without then drop a :: along (rows.drop 1) column first (b :: second)
      else add b :: along rows (column + 1) (a :: first) second
termination_by first second => first.length + second.length

/-- The edits that lead from one list of lines to another. -/
def between (first second : List Octets) : List Edit := along (shared first second) 0 first second

example : between [[1], [2], [3]] [[1], [3], [4]] = [keep [1], drop [2], keep [3], add [4]] := by
  decide +kernel

end Edit

/-- A run of lines in which two lists differ. -/
structure Hunk where
  /-- How many lines of the first list come before it. -/
  before : Nat
  /-- How many lines of the second list come before it. -/
  after : Nat
  /-- The lines of the first list. -/
  dropped : List Octets := []
  /-- The lines of the second list. -/
  added : List Octets := []
deriving DecidableEq, Repr

namespace Hunk

/-- The runs in which lists differ, from the edits that come after some lines of each. -/
def ofEdits (before after : Nat) : List Edit → List Hunk
  | [] => []
  | .keep _ :: r => ofEdits (before + 1) (after + 1) r
  | .drop line :: r => join ⟨before, after, [line], []⟩ (ofEdits (before + 1) after r)
  | .add line :: r => join ⟨before, after, [], [line]⟩ (ofEdits before (after + 1) r)
where
  /-- A run in front of others, which may go on where it ends. -/
  join (h : Hunk) : List Hunk → List Hunk
    | next :: more =>
      if next.before = h.before + h.dropped.length && next.after = h.after + h.added.length then
        { h with dropped := h.dropped ++ next.dropped, added := h.added ++ next.added } :: more
      else h :: next :: more
    | [] => [h]

/-- The numbers of the lines of a run; an empty one is named by the line before it. -/
def range (before count : Nat) : Text :=
  if count ≤ 1 then Text.ofNat (before + count)
  else Text.ofNat (before + 1) ++ "," ++ Text.ofNat (before + count)

/-- Lines with a mark in front of each. A last line without a line break is said to be one. -/
def marked (mark : Text) (lines : List Octets) : Octets :=
  lines.flatMap fun line =>
    Utf8.nameOctets mark ++ line ++
      if line.getLast? = some 0x0A then [] else
        Utf8.nameOctets "\n\\ No newline at end of file\n"

/-- A run as it is shown by itself. -/
def plain (h : Hunk) : Octets :=
  let letter : Text :=
    if h.dropped.isEmpty then "a" else if h.added.isEmpty then "d" else "c"
  Utf8.nameOctets (range h.before h.dropped.length ++ letter ++ range h.after h.added.length) ++
    [0x0A] ++ marked "< " h.dropped ++
    (if letter = "c" then Utf8.nameOctets "---\n" else []) ++ marked "> " h.added

end Hunk

namespace Program

open ProcessM

/-! ## Changes among lines around them -/

/-- Edits that are shown together. -/
structure Passage where
  /-- How many lines of the first list come before it. -/
  before : Nat
  /-- How many lines of the second list come before it. -/
  after : Nat
  /-- The edits. -/
  edits : List Edit
deriving Repr

/-- Whether an edit changes nothing. -/
def isKept : Edit → Bool
  | .keep _ => true
  | _ => false

/-- The passages that hold all changes with so many lines around them. The fuel is more than the
number of edits. -/
def passages (context before after : Nat) : Nat → List Edit → List Passage
  | 0, _ => []
  | fuel + 1, edits =>
    let lead := edits.takeWhile isKept
    let rest := edits.drop lead.length
    if rest.isEmpty then []
    else
      let skipped := lead.length - context
      let body := lead.drop skipped ++ rest.take (extent context rest fuel)
      let before := before + skipped
      let after := after + skipped
      let ofFirst := body.countP fun e => match e with
        | .add _ => false
        | _ => true
      let ofSecond := body.countP fun e => match e with
        | .drop _ => false
        | _ => true
      ⟨before, after, body⟩ ::
        passages context (before + ofFirst) (after + ofSecond) fuel
          (edits.drop (skipped + body.length))
where
  /-- How many edits from a change on are shown together. -/
  extent (context : Nat) (edits : List Edit) : Nat → Nat
    | 0 => edits.length
    | fuel + 1 =>
      let changed := edits.takeWhile (!isKept ·)
      let rest := edits.drop changed.length
      let kept := rest.takeWhile isKept
      if kept.length = rest.length || 2 * context < kept.length then
        changed.length + min context kept.length
      else changed.length + kept.length + extent context (rest.drop kept.length) fuel

/-- The numbers of the lines of a passage. -/
def passageRange (before count : Nat) : Text :=
  let start := if count = 0 then before else before + 1
  if count = 1 then Text.ofNat start else Text.ofNat start ++ "," ++ Text.ofNat count

/-- A passage as it is shown. -/
def Passage.shown (p : Passage) : Octets :=
  let ofFirst := p.edits.countP fun e => match e with
    | .add _ => false
    | _ => true
  let ofSecond := p.edits.countP fun e => match e with
    | .drop _ => false
    | _ => true
  Utf8.nameOctets ("@@ -" ++ passageRange p.before ofFirst ++ " +" ++
      passageRange p.after ofSecond ++ " @@\n") ++
    (inOrder p.edits).flatMap fun e => match e with
      | .keep line => Hunk.marked " " [line]
      | .drop line => Hunk.marked "-" [line]
      | .add line => Hunk.marked "+" [line]
where
  /-- Edits with dropped lines before added ones in each run of changes. -/
  inOrder (edits : List Edit) : List Edit :=
    edits.foldr (fun e (r : List Edit) => match e with
      | .add _ =>
        let drops := r.takeWhile fun e => match e with
          | .drop _ => true
          | _ => false
        drops ++ e :: r.drop drops.length
      | _ => e :: r) []

/-! ## Comparing files -/

/-- Tells in which lines two files differ. -/
def diff (name : Text) (args : List Text) : ProcessM Nat := do
  let blame : Text → ProcessM Nat := fun message => do
    warn name message
    warn name ("Try '" ++ name ++ " --help' for more information.")
    return 2
  let flags : List Flag :=
    [⟨'q', .nothing, "brief"⟩, ⟨'s', .nothing, "report-identical-files"⟩, ⟨'u', .nothing, []⟩,
      ⟨'U', .value, "unified"⟩, ⟨'L', .value, "label"⟩, ⟨'a', .nothing, "text"⟩,
      ⟨'N', .nothing, "new-file"⟩, ⟨'n', .nothing, "normal"⟩]
  match Arguments.read flags true args with
  | .error e => blame e.message
  | .ok a =>
    match a.operands with
    | [] => blame ("missing operand after '" ++ name ++ "'")
    | [only] => blame ("missing operand after '" ++ only ++ "'")
    | _ :: _ :: extra :: _ => blame ("extra operand '" ++ extra ++ "'")
    | [first, second] =>
      let m ← machine
      let isDirectory := fun (path : Text) => (m.isDirectory path).toOption = some true
      -- A directory stands for the file in it that has the name of the other one.
      let firstPath := if isDirectory first && !isDirectory second then
        Path.join first (lastName second) else first
      let secondPath := if isDirectory second && !isDirectory first then
        Path.join second (lastName first) else second
      let readOne : Text → ProcessM (Option Octets) := fun file => do
        match ← readPath file with
        | .ok o => return some o
        | .error r =>
          if a.has 'N' then return some []
          warn name (file ++ ": " ++ r.reason)
          return none
      let o? ← readOne firstPath
      let q? ← if secondPath = firstPath then pure o? else readOne secondPath
      match o?, q? with
      | some o, some q =>
        if o = q then
          if a.has 's' then
            say ("Files " ++ firstPath ++ " and " ++ secondPath ++ " are identical\n")
          return 0
        let isBinary := !a.has 'a' && (o.contains 0 || q.contains 0)
        if a.has 'q' || isBinary then
          let kind : Text := if isBinary && !a.has 'q' then "Binary files " else "Files "
          say (kind ++ firstPath ++ " and " ++ secondPath ++ " differ\n")
          return if isBinary && !a.has 'q' then 2 else 1
        let edits := Edit.between (Octets.lines o) (Octets.lines q)
        if a.has 'u' || a.has 'U' then
          let context := ((a.value? 'U').map Text.natOfDigits).getD 3
          let labels := a.values 'L'
          let time : Text := "\t1970-01-01 00:00:00.000000000 +0000"
          say ("--- " ++ (labels[0]?).getD (firstPath ++ time) ++ "\n")
          say ("+++ " ++ (labels[1]?).getD (secondPath ++ time) ++ "\n")
          put ((passages context 0 0 (edits.length + 1) edits).flatMap Passage.shown)
        else put ((Hunk.ofEdits 0 0 edits).flatMap Hunk.plain)
        return 1
      | _, _ => return 2

end Program

end ServiceWiring
