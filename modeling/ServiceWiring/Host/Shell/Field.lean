import ServiceWiring.Machine
import ServiceWiring.Host.Pattern.Glob

/-!
# Fields

What the words of a command come to is divided into fields where values stand outside quotes, and a
field that is a pattern becomes the paths that it matches. So a word is expanded to marks, which
tell apart what may be divided, what may be a pattern, and what stands for itself.
-/

namespace ServiceWiring.Field

/-- A piece of an expanded word. -/
inductive Mark where
  /-- A code point; `isQuoted` if it stands for itself, `divides` if it may separate fields. -/
  | char (c : CodePoint) (isQuoted divides : Bool)
  /-- Quotes, which make a field even of nothing. -/
  | quotes
  /-- The place between two arguments outside quotes. -/
  | gap
  /-- The place between two arguments inside quotes. -/
  | border
deriving DecidableEq, Repr

/-- The marks of a text. -/
def marks (isQuoted divides : Bool) (t : Text) : List Mark := t.map (.char · isQuoted divides)

/-- The text that marks come to. -/
def text (ms : List Mark) : Text :=
  ms.filterMap fun
    | .char c _ _ => some c
    | _ => none

/-- The octets of marks as a pattern of code points below 256. -/
def pattern (ms : List Mark) : List Glob.Mark :=
  ms.flatMap fun
    | .char c isQuoted _ =>
      (Utf8.nameOctets [c]).map fun b => ((Utf8.codePoint b.toNat, isQuoted) : Glob.Mark)
    | _ => []

/-- The octets of a text as code points below 256. -/
def widen (t : Text) : Text := (Utf8.nameOctets t).map fun b => Utf8.codePoint b.toNat

/-- The text whose octets are the given code points. -/
def narrow (t : Text) : Text := Utf8.decodeName (t.map fun c => .ofNat c.val)

/-- Whether a text is what a pattern stands for. -/
def matchesText (ms : List Mark) (t : Text) : Bool := Glob.accepts (pattern ms) (widen t)

/-- The text without what a pattern takes up at its start. -/
def dropStart (longest : Bool) (ms : List Mark) (t : Text) : Text :=
  let t := widen t
  let lengths := Glob.startLengths (Glob.pattern (pattern ms)) t
  narrow (t.drop (((if longest then lengths.getLast? else lengths.head?)).getD 0))

/-- The text without what a pattern takes up at its end. -/
def dropEnd (longest : Bool) (ms : List Mark) (t : Text) : Text :=
  let t := widen t
  let p := Glob.pattern (pattern ms)
  let starts := List.range (t.length + 1)
  let starts := if longest then starts else starts.reverse
  match starts.find? fun n => p.matchesAll (t.drop n) with
  | some n => narrow (t.take n)
  | none => narrow t

/-! ## Dividing -/

/-- What a mark is where fields are separated. -/
inductive Kind where
  /-- A part of a field. -/
  | inner
  /-- A blank that separates fields; several of them count once. -/
  | blank
  /-- Another character that separates fields. -/
  | stop
  /-- The end of an argument. -/
  | border
deriving DecidableEq, Repr

/-- What a mark is, for the given separators. -/
def Mark.kind (separators : Text) : Mark → Kind
  | .char c _ divides =>
    if divides && separators.contains c then
      if c = 0x20 || c = 0x09 || c = 0x0A then .blank else .stop
    else .inner
  | .quotes => .inner
  | .gap => .blank
  | .border => .border

/-- What stands before the place where a field may start. -/
inductive Before where
  /-- Nothing that separates. -/
  | nothing
  /-- Blanks that ended a field. -/
  | blanks
  /-- A separator that is no blank. -/
  | stop
deriving DecidableEq, Repr

/-- The fields of marks; `field` is what there is of the first one, from the last mark to the
first. -/
def split (separators : Text) (field : List Mark) (before : Before) : List Mark → List (List Mark)
  | [] => if field.isEmpty then [] else [field.reverse]
  | m :: r =>
    match m.kind separators with
    | .inner => split separators (m :: field) .nothing r
    | .border => field.reverse :: split separators [] .nothing r
    | .blank =>
      if before ≠ .nothing then split separators [] before r
      else if field.isEmpty then split separators [] .nothing r
      else field.reverse :: split separators [] .blanks r
    | .stop =>
      if before = .blanks then split separators [] .stop r
      else field.reverse :: split separators [] .stop r

/-- The fields that a line is read into, at most so many: the last one is what is left, without
blanks at its end, and without a separator there if nothing comes after it. -/
def splitAtMost (separators : Text) (most : Nat) (ms : List Mark) : List Text :=
  let isBlank := fun (m : Mark) => m.kind separators = .blank
  let trimmed := ms.dropWhile isBlank
  match most with
  | 0 => []
  | 1 =>
    let bare := (trimmed.reverse.dropWhile isBlank).reverse
    let isInner := fun (m : Mark) => m.kind separators = .inner
    -- One separator at the end that follows a single field is dropped with the blanks around it.
    let first := bare.takeWhile isInner
    let after := bare.drop first.length
    let single := after.dropWhile isBlank
    if bare.isEmpty then []
    else if single.length = 1 && (single.head?.any fun m => m.kind separators = .stop) then
      [text first]
    else [text bare]
  | most + 1 =>
    let isInner := fun (m : Mark) => m.kind separators = .inner
    let first := trimmed.takeWhile isInner
    let after := trimmed.drop first.length
    if trimmed.isEmpty then []
    else
      -- The field ends with blanks, a separator, and blanks.
      let after := after.dropWhile isBlank
      let after := match after with
        | m :: r => if m.kind separators = .stop then r else after
        | [] => []
      text first :: splitAtMost separators most after

/-! ## Paths -/

/-- The runs of marks between slashes. -/
def segments : List Glob.Mark → List (List Glob.Mark)
  | [] => [[]]
  | m :: r =>
    if m.1 = Path.slash then [] :: segments r
    else
      match segments r with
      | [] => [[m]]
      | s :: ss => (m :: s) :: ss

/-- The paths that start in one way and go on as the segments of a pattern say. -/
def pathsFrom (machine : Machine) (before : Text) : List (List Glob.Mark) → List Text
  | [] => if (machine.find .lookAtName before).toOption.isSome then [before] else []
  | s :: rest =>
    let ending : Text := if rest.isEmpty then [] else [Path.slash]
    if Glob.isPattern s then
      match machine.find .look (if before.isEmpty then "." else before) with
      | .ok (place, .directory) =>
        let hidden := s.head?.any fun m => m.1 = 0x2E
        let all : List DiskName := hereName :: upName :: machine.disk.namesIn place
        let p := Glob.pattern s
        let chosen := all.filter fun name =>
          (hidden || name.head? ≠ some 0x2E) &&
            p.matchesAll (name.map fun b => Utf8.codePoint b.toNat)
        chosen.flatMap fun name =>
          pathsFrom machine (before ++ Utf8.decodeName name ++ ending) rest
      | _ => []
    else pathsFrom machine (before ++ narrow (s.map (·.1)) ++ ending) rest

/-- The paths that a field stands for if it is a pattern that matches any, or else its text. -/
def paths (machine : Machine) (ms : List Mark) : List Text :=
  let p := pattern ms
  if Glob.isPattern p then
    match pathsFrom machine [] (segments p) with
    | [] => [text ms]
    | found => found.mergeSort fun a b => decide (Utf8.nameOctets a ≤ Utf8.nameOctets b)
  else [text ms]

end ServiceWiring.Field
