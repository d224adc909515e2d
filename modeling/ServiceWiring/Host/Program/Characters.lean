import ServiceWiring.Host.Program.Lines
import ServiceWiring.Host.Pattern.Reader

/-!
# Programs for characters and fields

`tr` replaces, deletes and squeezes octets of sets, and `cut` writes the parts of lines that a list
of ranges names.
-/

namespace ServiceWiring.Program

open ProcessM

/-! ## Sets of octets -/

/-- A part of a set of octets as it is spelled. -/
inductive SetPart where
  /-- Octets, in order. -/
  | octets (o : Octets)
  /-- A class of characters. -/
  | classOf (name : Text) (o : Octets)
  /-- One octet again and again, as often as a number says, or as it takes. -/
  | again (b : UInt8) (times? : Option Nat)
deriving DecidableEq, Repr

/-- Why a set of octets cannot be read. -/
inductive BadSet where
  /-- The ends of a range are in the wrong order. -/
  | range (a b : CodePoint)
  /-- A class does not exist. -/
  | noClass (name : Text)
deriving DecidableEq, Repr

/-- The octet that an escape stands for, and what follows it. -/
def setEscape (t : Text) : CodePoint × Text :=
  let ds := (t.take 3).takeWhile fun c => 0x30 ≤ c && c ≤ 0x37
  if ds.isEmpty then
    match t with
    | c :: r =>
      (match c with
        | 0x61 => 0x07
        | 0x62 => 0x08
        | 0x66 => 0x0C
        | 0x6E => 0x0A
        | 0x72 => 0x0D
        | 0x74 => 0x09
        | 0x76 => 0x0B
        | c => c, r)
    | [] => (0x5C, [])
  else (Fin.ofNat _ (ds.foldl (fun n d => 8 * n + (d.val - 0x30)) 0), t.drop ds.length)

/-- The code point at the start of a set, and what follows it. -/
def setPoint : Text → CodePoint × Bool × Text
  | 0x5C :: r =>
    let (c, r) := setEscape r
    (c, true, r)
  | c :: r => (c, false, r)
  | [] => (0, false, [])

/-- The octets of a class. -/
def classOctets? (name : Text) : Option Octets :=
  (CharClass.names.lookup name).map fun k => k.ascii.map fun c => .ofNat c.val

/-- The parts of a set. -/
def setParts (t : Text) : Except BadSet (List SetPart) := do
  match t with
  | [] => return []
  | c :: r =>
    let (part, rest) ← one c r
    if _h : rest.length ≤ r.length then return part :: (← setParts rest) else return [part]
termination_by t.length
decreasing_by simp; omega
where
  /-- The octets of a code point. A number below 256 that was spelled out stands for itself. -/
  octetsOf (c : CodePoint) (spelled : Bool) : Octets :=
    if spelled && c.val < 256 then [.ofNat c.val] else Utf8.nameOctets [c]
  /-- One part of a set, and what follows it. -/
  one (c : CodePoint) (r : Text) : Except BadSet (SetPart × Text) := do
    let bracketed : Option (SetPart × Text) ← match c, r with
      | 0x5B, 0x3A :: r =>
        match Regex.cutMarked 0x3A r with
        | some (name, r) =>
          match classOctets? name with
          | some o => pure (some (.classOf name o, r))
          | none => throw (.noClass name)
        | none => pure none
      | 0x5B, 0x3D :: e :: 0x3D :: 0x5D :: r => pure (some (.octets (octetsOf e false), r))
      | 0x5B, r =>
        let (e, spelled, r) := setPoint r
        match r with
        | 0x2A :: r =>
          let ds := r.takeWhile CodePoint.isDigit
          let n := if ds.head? = some 0x30 then
              ds.foldl (fun n d => 8 * n + (d.val - 0x30)) 0
            else Text.natOfDigits ds
          match r.drop ds.length with
          | 0x5D :: r =>
            pure (some (.again ((octetsOf e spelled).headD 0) (if n = 0 then none else some n), r))
          | _ => pure none
        | _ => pure none
      | _, _ => pure none
    match bracketed with
    | some result => return result
    | none =>
      let (a, spelled, r) := setPoint (c :: r)
      match r with
      | 0x2D :: b :: r =>
        let (b, _, r) := setPoint (b :: r)
        if b < a then throw (.range a b)
        if b.val < 256 then
          let n := b.val + 1 - a.val
          return (.octets ((List.range n).map fun i => UInt8.ofNat (a.val + i)), r)
        else return (.octets (octetsOf a spelled ++ octetsOf b false), r)
      | r => return (.octets (octetsOf a spelled), r)

/-- The octets of parts; a part that goes on as long as it takes fills up to the length. -/
def expandParts (length : Nat) (parts : List SetPart) : Octets :=
  let fixed := parts.foldl (fun n p => n + lengthOf p) 0
  parts.flatMap fun
    | .octets o | .classOf _ o => o
    | .again b times? => List.replicate (times?.getD (length - fixed)) b
where
  /-- How many octets a part is sure to have. -/
  lengthOf : SetPart → Nat
    | .octets o | .classOf _ o => o.length
    | .again _ times? => times?.getD 0

/-- Each octet of the first set becomes the one in its place in the second, whose last octet stands
in for those that it lacks. -/
def replacement (source target : Octets) (b : UInt8) : UInt8 :=
  match (source.zipIdx.filter (·.1 = b)).getLast? with
  | none => b
  | some (_, i) => target[i]?.getD (target.getLast?.getD b)

/-- The octets with each run of one octet that is marked as one. -/
def squeeze (marked : UInt8 → Bool) (last? : Option UInt8) : Octets → Octets
  | [] => []
  | b :: r =>
    if last? = some b && marked b then squeeze marked last? r
    else b :: squeeze marked (some b) r

/-- A table of one value for each octet. -/
def tabulate {α : Type} (f : UInt8 → α) : Array α :=
  ((List.range 256).map fun i => f (.ofNat i)).toArray

/-- Complains about the operands of `tr`. -/
def trOperands (name : Text) (a : Arguments) : ProcessM Bool := do
  let most := if a.has 'd' && !a.has 's' then 1 else 2
  let least := if a.has 'd' = a.has 's' then 2 else 1
  match a.operands with
  | [] =>
    misuse name "missing operand"
    return false
  | operands =>
    if operands.length < least then
      warn name ("missing operand after " ++ (operands.getLast?.getD []).curly)
      complain (if a.has 'd' then
          "Two strings must be given when both deleting and squeezing repeats."
        else "Two strings must be given when translating.")
      complain ("Try '" ++ name ++ " --help' for more information.")
      return false
    else if most < operands.length then
      warn name ("extra operand " ++ (operands[most]?.getD []).curly)
      if operands.length = 2 then
        complain "Only one string may be given when deleting without squeezing repeats."
      complain ("Try '" ++ name ++ " --help' for more information.")
      return false
    else return true

/-- The wording of a set that cannot be read. -/
def BadSet.message : BadSet → Text
  | .range a b =>
    "range-endpoints of '" ++ [a] ++ "-" ++ [b] ++ "' are in reverse collating sequence order"
  | .noClass name => "invalid character class " ++ name.curly

/-- The options of `tr`. -/
def trFlags : List Flag :=
  [⟨'c', .nothing, "complement"⟩, ⟨'C', .nothing, []⟩, ⟨'d', .nothing, "delete"⟩,
    ⟨'s', .nothing, "squeeze-repeats"⟩, ⟨'t', .nothing, "truncate-set1"⟩]

/-- Replaces, deletes or squeezes octets. -/
def tr (name : Text) (args : List Text) : ProcessM Nat := do
  match Arguments.read trFlags false args with
  | .error e =>
    misuse name e.message
    return 1
  | .ok a =>
    unless ← trOperands name a do return 1
    match a.operands.mapM setParts with
    | .error e =>
      warn name e.message
      return 1
    | .ok sets =>
      let parts := sets.headD []
      let first := expandParts 0 parts
      let first := if a.has 'c' || a.has 'C' then
          ((List.range 256).map UInt8.ofNat).filter fun b => !first.contains b
        else first
      let second? := (sets[1]?).map (expandParts first.length)
      let translates := !a.has 'd' && second?.isSome
      if translates && second? = some [] then
        warn name "when not truncating set1, string2 must be non-empty"
        return 1
      let first := if a.has 't' && translates then first.take (second?.getD []).length else first
      let inFirst := tabulate first.contains
      let squeezed := tabulate ((second?.getD first).contains)
      let replaced := tabulate (replacement first (second?.getD []))
      let o := match ← readAll 0 with
        | .ok o => o
        | .error _ => []
      let o := if a.has 'd' then o.filter fun b => !(inFirst[b.toNat]?.getD false) else o
      let o := if translates then o.map fun b => replaced[b.toNat]?.getD b else o
      put (if a.has 's' then squeeze (fun b => squeezed[b.toNat]?.getD false) none o else o)
      return 0

/-! ## Parts of lines -/

/-- A range of numbers; without an end it goes on. -/
abbrev Span := Nat × Option Nat

/-- Why a list of ranges is refused. -/
inductive BadList where
  /-- A number is zero or missing. -/
  | zero
  /-- A range has two dashes. -/
  | twoDashes
  /-- A range has no numbers. -/
  | noEnds
  /-- A range ends before it starts. -/
  | decreasing
  /-- Something is no number. -/
  | other (t : Text)
  /-- A number is too large. -/
  | tooLarge (t : Text)
deriving DecidableEq, Repr

/-- The wording of a refusal, for positions or for fields. -/
def BadList.message (positions : Bool) : BadList → Text
  | .zero =>
    if positions then "byte/character positions are numbered from 1"
    else "fields are numbered from 1"
  | .twoDashes => if positions then "invalid byte or character range" else "invalid field range"
  | .noEnds => "invalid range with no endpoint: -"
  | .decreasing => "invalid decreasing range"
  | .other t =>
    (if positions then "invalid byte/character position " else "invalid field value ") ++ t.curly
  | .tooLarge t =>
    (if positions then "byte/character offset " else "field number ") ++ t.curly ++
      " is too large"

/-- Reads a list of ranges. `least?` is the start of the range that was begun by a dash, and
`digits` are those read since. -/
def readSpans (least? : Option Nat) (startGiven : Bool) (digits : Text) (t : Text) :
    Except BadList (List Span) := do
  let value := Text.natOfDigits digits
  if 2 ^ 64 ≤ value + 1 then throw (.tooLarge (digits ++ t.takeWhile CodePoint.isDigit))
  let ended : Except BadList Span :=
    match least? with
    | some least =>
      if !startGiven && digits.isEmpty then throw .noEnds
      else if digits.isEmpty then return (least, none)
      else if value < least then throw .decreasing
      else return (least, some value)
    | none => if value = 0 then throw .zero else return (value, some value)
  match t with
  | [] => return [← ended]
  | c :: r =>
    if c = 0x2D then
      if least?.isSome then throw .twoDashes
      if !digits.isEmpty && value = 0 then throw .zero
      readSpans (some (if digits.isEmpty then 1 else value)) (!digits.isEmpty) [] r
    else if c = 0x2C || c = 0x20 || c = 0x09 then
      return (← ended) :: (← readSpans none false [] r)
    else if c.isDigit then readSpans least? startGiven (digits ++ [c]) r
    else throw (.other t)

/-- Whether some range holds a number. -/
def inRanges (rs : List Span) (n : Nat) : Bool :=
  rs.any fun (least, most?) => least ≤ n && most?.all (n ≤ ·)

/-- The pieces of octets between marks. -/
def splitAt (mark : UInt8) : Octets → List Octets
  | [] => [[]]
  | b :: r =>
    if b = mark then [] :: splitAt mark r
    else
      match splitAt mark r with
      | [] => [[b]]
      | piece :: pieces => (b :: piece) :: pieces

/-- The items whose numbers some range holds, or the other ones. -/
def chosen {α : Type} (rs : List Span) (others : Bool) (items : List α) : List α :=
  (items.zipIdx.filter fun (_, i) => inRanges rs (i + 1) != others).map (·.1)

/-- The options of `cut`. -/
def cutFlags : List Flag :=
  [⟨'b', .value, "bytes"⟩, ⟨'c', .value, "characters"⟩, ⟨'f', .value, "fields"⟩,
    ⟨'d', .value, "delimiter"⟩, ⟨'s', .nothing, "only-delimited"⟩, ⟨'n', .nothing, []⟩,
    ⟨'C', .nothing, "complement"⟩, ⟨'O', .value, "output-delimiter"⟩]

/-- Writes parts of lines. -/
def cut (name : Text) (args : List Text) : ProcessM Nat :=
  withArguments name cutFlags args 1 fun a => do
    let refuse : Text → ProcessM Nat := fun message => do
      misuse name message
      return 1
    let lists := a.options.filter fun (c, _) => c = 0x66 || c = 0x63 || c = 0x62
    let byField := a.has 'f'
    match lists with
    | [] => refuse "you must specify a list of bytes, characters, or fields"
    | _ :: _ :: _ => refuse "only one list may be specified"
    | [(_, list)] =>
      if (a.value? 'd').any fun t => 1 < (Utf8.nameOctets t).length then
        return ← refuse "the delimiter must be a single character"
      if a.has 'd' && !byField then
        return ← refuse "an input delimiter may be specified only when operating on fields"
      if a.has 's' && !byField then
        return ←
          refuse "suppressing non-delimited lines makes sense\n\tonly when operating on fields"
      match readSpans none false [] list with
      | .error e => refuse (e.message !byField)
      | .ok rs =>
        let mark := (Utf8.nameOctets ((a.value? 'd').getD "\t")).headD 0
        let joint := match a.value? 'O' with
          | some t => Utf8.nameOctets t
          | none => if a.has 'f' then [mark] else []
        eachFile name a.operands fun _ o =>
          put <| (Octets.bareLines o).flatMap fun line =>
            if a.has 'f' then
              let fields := splitAt mark line
              if fields.length ≤ 1 then if a.has 's' then [] else line ++ [0x0A]
              else List.intercalate joint (chosen rs (a.has 'C') fields) ++ [0x0A]
            else chosen rs (a.has 'C') line ++ [0x0A]

end ServiceWiring.Program
