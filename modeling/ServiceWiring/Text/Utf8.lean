import ServiceWiring.Text.Number

/-!
# UTF-8

Text as octets. Writing fails on a lone surrogate. Reading is strict, and an error names the
octets that were read of the sequence it happened in: `DecodeError` says from where to where.

Names on a disk need not be UTF-8. There each octet that belongs to no character is held as one of
the lone surrogates U+DC80 to U+DCFF, so that every name is a `Text`: `encodeName?` and
`decodeName`.
-/

namespace ServiceWiring

/-- A run of octets. -/
abbrev Octets := List UInt8

namespace Utf8

/-- The octets of one code point that is no surrogate. -/
def encodeOne (c : CodePoint) : Octets :=
  let n := c.val
  if n < 0x80 then [.ofNat n]
  else if n < 0x800 then [.ofNat (0xC0 + n / 64), .ofNat (0x80 + n % 64)]
  else if n < 0x10000 then
    [.ofNat (0xE0 + n / 4096), .ofNat (0x80 + n / 64 % 64), .ofNat (0x80 + n % 64)]
  else
    [.ofNat (0xF0 + n / 262144), .ofNat (0x80 + n / 4096 % 64), .ofNat (0x80 + n / 64 % 64),
      .ofNat (0x80 + n % 64)]

/-- The octets of a text, or none if it holds a lone surrogate. -/
def encode? (t : Text) : Option Octets :=
  if t.any CodePoint.isSurrogate then none else some (t.flatMap encodeOne)

/-- What is wrong at a place in a run of octets. -/
inductive Defect where
  /-- No sequence starts with this octet. -/
  | start
  /-- The sequence does not go on with the octet that follows. -/
  | continuation
  /-- The run ends within a sequence. -/
  | cutOff
deriving DecidableEq, Repr

/-- Why a run of octets is no text. -/
structure DecodeError where
  /-- How many octets come before the sequence. -/
  position : Nat
  /-- The first octet of the sequence. -/
  lead : UInt8
  /-- How many octets of the sequence were read. -/
  length : Nat
  /-- What is wrong. -/
  defect : Defect
deriving DecidableEq, Repr

/-- The wording of a defect. -/
def Defect.message : Defect → Text
  | .start => "invalid start byte"
  | .continuation => "invalid continuation byte"
  | .cutOff => "unexpected end of data"

/-- The wording of an error: one octet is named by its value, several by their places. -/
def DecodeError.message (e : DecodeError) : Text :=
  let place : Text :=
    if e.length = 1 then
      "byte 0x" ++ Text.hex 2 e.lead.toNat ++ " in position " ++ Text.ofNat e.position
    else
      let last := e.position + e.length - 1
      "bytes in position " ++ Text.ofNat e.position ++ "-" ++ Text.ofNat last
  "'utf-8' codec can't decode " ++ place ++ ": " ++ e.defect.message

/-- A sequence of which some octets are still to come. -/
structure Pending where
  /-- Its first octet. -/
  lead : UInt8
  /-- How many octets of it were read. -/
  length : Nat
  /-- The bits read so far. -/
  bits : Nat
  /-- How many octets are missing. -/
  missing : Nat
  /-- The least octet that may come next. -/
  low : UInt8
  /-- The greatest octet that may come next. -/
  high : UInt8
deriving DecidableEq, Repr

/-- What an octet is at a place where a sequence may start. -/
inductive Lead where
  /-- A character by itself. -/
  | single
  /-- The start of a longer sequence. -/
  | opens (p : Pending)
  /-- No start at all. -/
  | bad

/-- What an octet starts. The bounds on the second octet refuse sequences that are longer than
needed, surrogates, and numbers beyond the last code point. -/
def lead (b : UInt8) : Lead :=
  if b < 0x80 then .single
  else if b < 0xC2 then .bad
  else if b < 0xE0 then .opens ⟨b, 1, b.toNat - 0xC0, 1, 0x80, 0xBF⟩
  else if b < 0xF0 then
    .opens ⟨b, 1, b.toNat - 0xE0, 2, if b = 0xE0 then 0xA0 else 0x80,
      if b = 0xED then 0x9F else 0xBF⟩
  else if b < 0xF5 then
    .opens ⟨b, 1, b.toNat - 0xF0, 3, if b = 0xF0 then 0x90 else 0x80,
      if b = 0xF4 then 0x8F else 0xBF⟩
  else .bad

/-- The code point with the given number. Numbers beyond the last one do not occur here. -/
def codePoint (n : Nat) : CodePoint := Fin.ofNat 0x110000 n

/-- The sequence with one more octet of six bits. -/
def Pending.push (p : Pending) (b : UInt8) : Pending :=
  { p with
    length := p.length + 1
    bits := p.bits * 64 + (b.toNat - 0x80)
    missing := p.missing - 1
    low := 0x80
    high := 0xBF }

/-- Whether the octet may come next. -/
def Pending.admits (p : Pending) (b : UInt8) : Bool := p.low ≤ b && b ≤ p.high

/-- The error of a sequence that stops short. -/
def Pending.error (p : Pending) (position : Nat) (d : Defect) : DecodeError :=
  ⟨position - p.length, p.lead, p.length, d⟩

/-- Reads on at a position, within a sequence or between two. -/
def decodeFrom (position : Nat) : Option Pending → Octets → Except DecodeError Text
  | none, [] => .ok []
  | some p, [] => .error (p.error position .cutOff)
  | none, b :: r =>
    match lead b with
    | .single => (decodeFrom (position + 1) none r).map (codePoint b.toNat :: ·)
    | .opens p => decodeFrom (position + 1) (some p) r
    | .bad => .error ⟨position, b, 1, .start⟩
  | some p, b :: r =>
    if p.admits b then
      let q := p.push b
      if q.missing = 0 then (decodeFrom (position + 1) none r).map (codePoint q.bits :: ·)
      else decodeFrom (position + 1) (some q) r
    else .error (p.error position .continuation)

/-- The text that the octets stand for. -/
def decode (o : Octets) : Except DecodeError Text := decodeFrom 0 none o

/-! ## Names that need not be UTF-8 -/

/-- Whether the code point stands for an octet that belongs to no character. -/
def isEscaped (c : CodePoint) : Bool := 0xDC80 ≤ c.val && c.val ≤ 0xDCFF

/-- The octets of a name, or none if it holds a surrogate that stands for no octet. -/
def encodeName? (t : Text) : Option Octets :=
  if t.any fun c => c.isSurrogate && !isEscaped c then none
  else some (t.flatMap fun c => if isEscaped c then [.ofNat (c.val - 0xDC00)] else encodeOne c)

/-- The octets of a name; one that no name can have has none. -/
def nameOctets (t : Text) : Octets := (encodeName? t).getD []

/-- The stand-in of an octet that belongs to no character. -/
def escaped (b : UInt8) : CodePoint := codePoint (0xDC00 + b.toNat)

/-- Reads a name; `held` are the octets of the sequence that `p` describes. -/
def decodeNameFrom (held : Octets) : Option Pending → Octets → Text
  | _, [] => held.map escaped
  | none, b :: r =>
    match lead b with
    | .single => codePoint b.toNat :: decodeNameFrom [] none r
    | .opens p => decodeNameFrom [b] (some p) r
    | .bad => escaped b :: decodeNameFrom [] none r
  | some p, b :: r =>
    if p.admits b then
      let q := p.push b
      if q.missing = 0 then codePoint q.bits :: decodeNameFrom [] none r
      else decodeNameFrom (held ++ [b]) (some q) r
    else
      held.map escaped ++
        match lead b with
        | .single => codePoint b.toNat :: decodeNameFrom [] none r
        | .opens q => decodeNameFrom [b] (some q) r
        | .bad => escaped b :: decodeNameFrom [] none r

/-- The text that stands for a name. -/
def decodeName (o : Octets) : Text := decodeNameFrom [] none o

example : encode? "aé€😀" = some [0x61, 0xC3, 0xA9, 0xE2, 0x82, 0xAC, 0xF0, 0x9F, 0x98, 0x80] := by
  decide

end Utf8

end ServiceWiring
