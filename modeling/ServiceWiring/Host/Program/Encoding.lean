import ServiceWiring.Host.Program.Lines

/-!
# Octets as digits

An alphabet of digits writes octets in groups that take up whole octets. A group that lacks octets
is filled up with equals signs. `Alphabet.decode` is the way back: what it cannot read ends it.
-/

namespace ServiceWiring

/-- The digits that octets are written in. -/
structure Alphabet where
  /-- How many bits a digit stands for. -/
  bits : Nat
  /-- How many digits make up a group. -/
  group : Nat
  /-- The digits, by what they stand for. -/
  digits : Octets
  /-- Whether a group that breaks off still gives the octets that it holds. -/
  lenient : Bool := true
deriving DecidableEq, Repr

namespace Alphabet

/-- The octets from one to another. -/
def span (a b : Char) : Octets :=
  ((List.range (b.toNat + 1)).drop a.toNat).map UInt8.ofNat

/-- Letters and digits, and two marks. -/
def base64With (marks : Octets) : Alphabet where
  bits := 6
  group := 4
  digits := span 'A' 'Z' ++ span 'a' 'z' ++ span '0' '9' ++ marks

/-- The usual digits in base 64. -/
def base64 : Alphabet := base64With [0x2B, 0x2F]

/-- The digits in base 64 that an address may hold. -/
def base64Address : Alphabet := base64With [0x2D, 0x5F]

/-- The usual digits in base 32. -/
def base32 : Alphabet where
  bits := 5
  group := 8
  digits := span 'A' 'Z' ++ span '2' '7'
  lenient := false

/-- The digits in base 32 that are in the order of what they stand for. -/
def base32Ordered : Alphabet where
  bits := 5
  group := 8
  digits := span '0' '9' ++ span 'A' 'V'
  lenient := false

/-- The digits in base 16. -/
def base16 : Alphabet where
  bits := 4
  group := 2
  digits := span '0' '9' ++ span 'A' 'F'

/-- The digits in base 2. -/
def base2 : Alphabet where
  bits := 1
  group := 8
  digits := span '0' '1'

/-- The number that bits spell, the greatest of them first. -/
def ofBits (bs : List Bool) : Nat := bs.foldl (fun n b => 2 * n + b.toNat) 0

/-- The bits of a number, the greatest of them first. -/
def toBits (width n : Nat) : List Bool := ((List.range width).map fun i => n.testBit i).reverse

/-- The pieces of a length; the last one may be shorter. -/
def pieces {α : Type} (length : Nat) (l : List α) : List (List α) :=
  if _h : l.isEmpty ∨ length = 0 then []
  else l.take length :: pieces length (l.drop length)
termination_by l.length
decreasing_by
  cases l with
  | nil => simp_all
  | cons a r =>
    simp_all
    omega

/-- Octets as digits. -/
def encode (a : Alphabet) (o : Octets) : Octets :=
  let bits := o.flatMap fun b => toBits 8 b.toNat
  let written := (pieces a.bits bits).map fun p =>
    a.digits[ofBits (p ++ List.replicate (a.bits - p.length) false)]?.getD 0
  written ++ List.replicate ((a.group - written.length % a.group) % a.group) 0x3D

/-- The octets that a group of digits holds, and whether it is one. -/
def decodeGroup (a : Alphabet) (g : Octets) : Octets × Bool :=
  let known := g.takeWhile a.digits.contains
  let bits := known.flatMap fun b => toBits a.bits (a.digits.idxOf b)
  let o := ((pieces 8 bits).filter (·.length = 8)).map fun p => UInt8.ofNat (ofBits p)
  let isWhole := g.length = a.group
  let isFilled := (g.drop known.length).all (· = 0x3D)
  (if isWhole || a.lenient then o else [],
    isWhole && isFilled && !known.isEmpty && bits.length % 8 < a.bits)

/-- The octets that digits hold as far as they can be read, and whether that is to the end. -/
def decode (a : Alphabet) (o : Octets) : Octets × Bool :=
  (pieces a.group o).foldl (fun (state : Octets × Bool) g =>
    if state.2 then
      let (more, ok) := a.decodeGroup g
      (state.1 ++ more, ok)
    else state) ([], true)

example : base64.decode (base64.encode [1, 2, 3, 4]) = ([1, 2, 3, 4], true) := by decide +kernel

end Alphabet

namespace Program

open ProcessM

/-- The options that all programs for digits have. -/
def encodingFlags : List Flag :=
  [⟨'d', .nothing, "decode"⟩, ⟨'i', .nothing, "ignore-garbage"⟩, ⟨'w', .value, "wrap"⟩]

/-- Writes octets as digits, or the octets that digits stand for. -/
def encodeWith (name : Text) (alphabet : Alphabet) (a : Arguments) : ProcessM Nat := do
  let width := (a.value? 'w').getD "76"
  if width.isEmpty || !width.all CodePoint.isDigit then
    warn name ("invalid wrap size: " ++ width.curly)
    return 1
  if let _ :: extra :: _ := a.operands then
    misuse name ("extra operand " ++ extra.curly)
    return 1
  let file := a.operands.headD "-"
  match ← readPath file with
  | .error r =>
    let failure : Text := if r = .isDirectory then "read error" else file.shellWord
    warn name (failure ++ ": " ++ r.reason)
    return 1
  | .ok o =>
    if a.has 'd' then
      let keep := fun (b : UInt8) =>
        b ≠ 0x0A && (!a.has 'i' || b = 0x3D || alphabet.digits.contains b)
      let (found, ok) := alphabet.decode (o.filter keep)
      put found
      unless ok do warn name "invalid input"
      return if ok then 0 else 1
    else
      let digits := alphabet.encode o
      put (match Text.natOfDigits width with
        | 0 => digits
        | n => Octets.ofLines (Alphabet.pieces n digits))
      return 0

/-- Writes octets in base 64. -/
def base64 (name : Text) (args : List Text) : ProcessM Nat :=
  withArguments name encodingFlags args 1 (encodeWith name .base64)

/-- Writes octets in base 32. -/
def base32 (name : Text) (args : List Text) : ProcessM Nat :=
  withArguments name encodingFlags args 1 (encodeWith name .base32)

/-- Writes octets in a base that is asked for. -/
def basenc (name : Text) (args : List Text) : ProcessM Nat :=
  let alphabets : List (CodePoint × Alphabet) :=
    [('A', .base64), ('B', .base64Address), ('C', .base32), ('D', .base32Ordered),
      ('E', .base16), ('F', .base2)]
  let flags : List Flag :=
    [⟨'A', .nothing, "base64"⟩, ⟨'B', .nothing, "base64url"⟩, ⟨'C', .nothing, "base32"⟩,
      ⟨'D', .nothing, "base32hex"⟩, ⟨'E', .nothing, "base16"⟩, ⟨'F', .nothing, "base2msbf"⟩]
  withArguments name (encodingFlags ++ flags) args 1 fun a =>
    match (a.options.reverse.filterMap fun (c, _) => alphabets.lookup c).head? with
    | some alphabet => encodeWith name alphabet a
    | none => do
      misuse name "missing encoding type"
      return 1

end Program

end ServiceWiring
