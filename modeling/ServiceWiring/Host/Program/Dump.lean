import ServiceWiring.Host.Program.Lines

/-!
# Octets as numbers

A dump shows octets in blocks, one line for each block and each form of number. Several forms are
spread so that their lines are of one length. Blocks that are alike are shown once.
-/

namespace ServiceWiring.Dump

/-- What octets are shown as. -/
inductive Kind where
  /-- Numbers in base 8. -/
  | octal
  /-- Numbers in base 10 with signs. -/
  | signed
  /-- Numbers in base 10. -/
  | unsigned
  /-- Numbers in base 16. -/
  | hex
  /-- Names of characters of seven bits. -/
  | named
  /-- Characters, or how they are written after a backslash. -/
  | character
deriving DecidableEq, Repr

/-- A form in which blocks are shown. -/
structure Form where
  /-- What they are shown as. -/
  kind : Kind
  /-- How many octets a field has. -/
  size : Nat
  /-- Whether the characters follow at the end. -/
  trailer : Bool
deriving DecidableEq, Repr

/-- How wide the field of a form is. -/
def Form.width (f : Form) : Nat :=
  match f.kind with
  | .octal => (8 * f.size + 2) / 3
  | .hex => 2 * f.size
  | .unsigned => (Text.ofNat (256 ^ f.size - 1)).length
  | .signed => (Text.ofNat (256 ^ f.size / 2)).length + 1
  | .named | .character => 3

/-- The names of the first 33 characters. -/
def controlNames : List Text :=
  let names : Text :=
    "nul soh stx etx eot enq ack bel bs ht nl vt ff cr so si dle dc1 dc2 dc3 dc4 nak syn etb " ++
      "can em sub esc fs gs rs us sp"
  Text.splitOn 0x20 names

/-- A number in base 8. -/
def inOctal (width n : Nat) : Text :=
  Text.padLeft width '0' ((Nat.toDigits 8 n).map CodePoint.ofChar)

/-- The field that octets make, the least of them first. -/
def Form.field (f : Form) (o : Octets) : Text :=
  let n := o.reverse.foldl (fun (n : Nat) b => 256 * n + b.toNat) 0
  match f.kind with
  | .octal => inOctal f.width n
  | .hex => Text.hex f.width n
  | .unsigned => Text.ofNat n
  | .signed => Text.ofInt (if n < 256 ^ f.size / 2 then n else (n : Int) - 256 ^ f.size)
  | .named =>
    let n := n % 128
    if n = 127 then "del" else (controlNames[n]?).getD [Fin.ofNat _ n]
  | .character =>
    let escapes : List (Nat × Text) :=
      [(0, "\\0"), (7, "\\a"), (8, "\\b"), (9, "\\t"), (10, "\\n"), (11, "\\v"), (12, "\\f"),
        (13, "\\r")]
    (escapes.lookup n).getD (if 0x20 ≤ n && n < 0x7F then [Fin.ofNat _ n] else inOctal 3 n)

/-- How places are shown: the base and the number of digits, or not at all. -/
structure Address where
  /-- The base. -/
  base : Nat
  /-- The least number of digits. -/
  digits : Nat
deriving DecidableEq, Repr

/-- A place as it is shown. -/
def Address.text (a : Address) (n : Nat) : Text :=
  if a.digits = 0 then []
  else Text.padLeft a.digits '0' ((Nat.toDigits a.base n).map CodePoint.ofChar)

/-- What is shown and how. -/
structure Plan where
  /-- The forms. -/
  forms : List Form
  /-- How places are shown. -/
  address : Address
  /-- How many octets a block has. -/
  block : Nat
  /-- Whether blocks that are alike are all shown. -/
  whole : Bool
deriving DecidableEq, Repr

/-- How many columns the fields of a block take up, with a blank before each at least. -/
def Plan.columns (p : Plan) : Nat :=
  (p.forms.map fun f => (f.width + 1) * (p.block / f.size)).foldl max 0

/-- The line of one form for a block. -/
def Plan.line (p : Plan) (f : Form) (o : Octets) : Text :=
  let fields := p.block / f.size
  let shown := fields - (p.block - o.length) / f.size
  let spare := p.columns - f.width * fields
  let padded := o ++ List.replicate (p.block - o.length) 0
  let one := fun (i : Nat) =>
    -- What is spare is spread over the fields.
    let left := fields - i
    let gap := spare * left / fields - spare * (left - 1) / fields
    Text.padLeft (f.width + gap) ' ' (f.field ((padded.drop (i * f.size)).take f.size))
  let body := (List.range shown).flatMap one
  if f.trailer then
    let blank := fields - shown
    let characters : Text :=
      o.map fun b => if 0x20 ≤ b && b < 0x7F then Fin.ofNat _ b.toNat else 0x2E
    body ++ List.replicate (blank * f.width + spare * blank / fields) 0x20 ++
      0x20 :: 0x20 :: 0x3E :: characters ++ [0x3C]
  else body

/-- The lines of blocks from a place on. `last?` is the block before, and `starred` tells whether
some that were like it have been left out. -/
def Plan.lines (p : Plan) (place : Nat) (last? : Option Octets) (starred : Bool) :
    List Octets → Text
  | [] => []
  | o :: r =>
    let next := place + o.length
    if !p.whole && last? = some o && o.length = p.block then
      (if starred then [] else "*\n") ++ lines p next last? true r
    else
      let shown : Text := p.forms.zipIdx.flatMap fun (f, i) =>
        (if i = 0 then p.address.text place else List.replicate p.address.digits 0x20) ++
          p.line f o ++ [0x0A]
      shown ++ lines p next (some o) false r

/-- The pieces of a length. The fuel is more than their number. -/
def blocks (size : Nat) (o : Octets) : Nat → List Octets
  | 0 => []
  | fuel + 1 => if o.isEmpty then [] else o.take size :: blocks size (o.drop size) fuel

/-- The dump of octets that start at a place. -/
def Plan.dump (p : Plan) (place : Nat) (o : Octets) : Text :=
  let stop := p.address.text (place + o.length)
  p.lines place none false (blocks p.block o (o.length + 1)) ++
    if stop.isEmpty then [] else stop ++ [0x0A]

/-! ## Options -/

/-- The number of octets that a letter or a number of a type stands for, and what follows. -/
def sizeOf : Text → Option (Nat × Text)
  | 0x43 :: r => some (1, r)
  | 0x53 :: r => some (2, r)
  | 0x49 :: r => some (4, r)
  | 0x4C :: r => some (8, r)
  | t =>
    let ds := t.takeWhile CodePoint.isDigit
    if ds.isEmpty then some (4, t)
    else
      let n := Text.natOfDigits ds
      if n = 1 || n = 2 || n = 4 || n = 8 then some (n, t.drop ds.length) else none

/-- Why a type is refused. -/
inductive BadType where
  /-- No numbers are that long. -/
  | noSize (size type : Text)
  /-- A letter stands for nothing. -/
  | noKind (c : CodePoint) (type : Text)
deriving DecidableEq, Repr

/-- The wording of a refusal. -/
def BadType.message : BadType → Text
  | .noSize size type =>
    "invalid type string " ++ type.curly ++ ";\nthis system doesn't provide a " ++ size ++
      "-byte integral type"
  | .noKind c type =>
    "invalid character '" ++ [c] ++ "' in type string " ++ type.curly

/-- The forms that a type stands for. The fuel is more than its length. -/
def formsOf (whole : Text) : Nat → Text → Except BadType (List Form)
  | 0, _ | _, [] => .ok []
  | fuel + 1, c :: r => do
    let numbers : List (CodePoint × Kind) :=
      [(0x64, .signed), (0x6F, .octal), (0x75, .unsigned), (0x78, .hex)]
    let (kind, size, r) ← match numbers.lookup c with
      | some k =>
        match sizeOf r with
        | some (n, r) => pure (k, n, r)
        | none => throw (.noSize (r.takeWhile CodePoint.isDigit) whole)
      | none =>
        if c = 0x61 then pure (Kind.named, 1, r)
        else if c = 0x63 then pure (Kind.character, 1, r)
        else throw (.noKind c whole)
    let (trailer, r) := match r with
      | 0x7A :: r => (true, r)
      | r => (false, r)
    return ⟨kind, size, trailer⟩ :: (← formsOf whole fuel r)

/-- The forms that letters of their own stand for. -/
def letterForms : List (CodePoint × Text) :=
  [(0x61, "a"), (0x62, "o1"), (0x63, "c"), (0x64, "u2"), (0x69, "dI"), (0x6C, "dL"),
    (0x6F, "o2"), (0x73, "d2"), (0x78, "x2"), (0x68, "x2")]

/-- A number of octets, in base 8, 10 or 16 and with a letter for a unit. -/
def amount? (t : Text) : Option Nat :=
  let units : List (Text × Nat) :=
    [("", 1), ("b", 512), ("k", 1024), ("K", 1024), ("KiB", 1024), ("kB", 1000), ("KB", 1000),
      ("m", 1048576), ("M", 1048576), ("MB", 1000000)]
  match t with
  | 0x30 :: x :: r =>
    if x = 0x78 || x = 0x58 then
      if r.isEmpty then none
      else (r.mapM Text.hexDigit?).map (·.foldl (fun n d => 16 * n + d) 0)
    else
      let ds := (x :: r).takeWhile fun c => 0x30 ≤ c.val && c.val ≤ 0x37
      (units.lookup ((x :: r).drop ds.length)).map
        ((ds.foldl (fun n d => 8 * n + (d.val - 0x30)) 0) * ·)
  | t =>
    let ds := t.takeWhile CodePoint.isDigit
    if ds.isEmpty then none else (units.lookup (t.drop ds.length)).map (Text.natOfDigits ds * ·)

end ServiceWiring.Dump

namespace ServiceWiring.Program

open ProcessM

/-- The options of `od`. -/
def odFlags : List Flag :=
  [⟨'A', .value, "address-radix"⟩, ⟨'j', .value, "skip-bytes"⟩, ⟨'N', .value, "read-bytes"⟩,
    ⟨'t', .value, "format"⟩, ⟨'v', .nothing, "output-duplicates"⟩, ⟨'w', .attached, "width"⟩] ++
  Flag.ofLetters "abcdilosxh"

/-- How places are shown by the letter for a base. -/
def addressOf? (t : Text) : Option Dump.Address :=
  match t.head? with
  | some 0x64 => some ⟨10, 7⟩
  | some 0x6F => some ⟨8, 7⟩
  | some 0x78 => some ⟨16, 6⟩
  | some 0x6E => some ⟨10, 0⟩
  | _ => none

/-- Writes octets as numbers. -/
def od (name : Text) (args : List Text) : ProcessM Nat :=
  withArguments name odFlags args 1 fun a => do
    let refuse : Text → ProcessM Nat := fun message => do
      warn name message
      return 1
    let types := a.options.filterMap fun (c, value) =>
      if c = 0x74 then some value else Dump.letterForms.lookup c
    let types : List Text := if types.isEmpty then ["o2"] else types
    let base := (a.value? 'A').getD "o"
    match types.mapM fun t => Dump.formsOf t (t.length + 1) t, addressOf? base with
    | .error e, _ => refuse e.message
    | _, none =>
      refuse ("invalid output address radix '" ++ base.take 1 ++
        "'; it must be one character from [doxn]")
    | .ok forms, some address =>
      let forms := forms.flatten
      let unit := (forms.map (·.size)).foldl max 1
      let width := match a.value? 'w' with
        | some t => if t.isEmpty then some 32 else Dump.amount? t
        | none => some 16
      match width, (a.value? 'j').map Dump.amount?, (a.value? 'N').map Dump.amount? with
      | _, some none, _ => refuse (badAmount "j" (a.value? 'j'))
      | _, _, some none => refuse (badAmount "N" (a.value? 'N'))
      | none, _, _ => refuse (badAmount "w" (a.value? 'w'))
      | some width, skip?, most? =>
        let block := if 0 < width && width % unit = 0 then width else unit
        unless block = width do
          warn name ("warning: invalid width " ++ Text.ofNat width ++ "; using " ++
            Text.ofNat unit ++ " instead")
        let (o, status) ← (if a.operands.isEmpty then [("-" : Text)] else a.operands).foldlM
          (fun (state : Octets × Nat) (file : Text) => do
            match ← readPath file with
            | .ok o => return (state.1 ++ o, state.2)
            | .error r =>
              warn name (file.shellWord ++ ": " ++ r.reason)
              return (state.1, 1)) ([], 0)
        let skip := (skip?.getD none).getD 0
        if o.length < skip then return ← refuse "cannot skip past end of combined input"
        let o := o.drop skip
        let o := match most? with
          | some (some n) => o.take n
          | _ => o
        say ((⟨forms, address, block, a.has 'v'⟩ : Dump.Plan).dump skip o)
        return status
where
  /-- The wording of a refused number of octets. -/
  badAmount (letter : Text) (value? : Option Text) : Text :=
    "invalid -" ++ letter ++ " argument " ++ (value?.getD []).shellQuoted

end ServiceWiring.Program
