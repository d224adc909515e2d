import ServiceWiring.Host.Digest.Basic
import ServiceWiring.Host.Program.Files
import ServiceWiring.Host.Program.Lines

/-!
# Packed files

A packed file is a header, blocks of what it holds, a check sum and a length. `Packed.ofOctets`
keeps what it packs as it is, in blocks of which each names its length; `Packed.octets?` reads such
a file.
-/

namespace ServiceWiring

namespace Packed

open Digest (smallOctets smallWord)

/-- A check sum after one more bit. -/
def sumBit (n : UInt32) : UInt32 :=
  if n &&& 1 = 1 then (n >>> 1) ^^^ 0xEDB88320 else n >>> 1

/-- A check sum after one more octet. -/
def sumOctet (n : UInt32) (b : UInt8) : UInt32 :=
  (List.range 8).foldl (fun n _ => sumBit n) (n ^^^ b.toUInt32)

/-- The check sum of octets. -/
def checkSum (o : Octets) : Nat := ((o.foldl sumOctet 0xFFFFFFFF) ^^^ 0xFFFFFFFF).toNat

example : checkSum [0x61] = 0xE8B7BE43 := by decide +kernel

/-- How many octets a block holds at most. -/
def blockLength : Nat := 65535

/-- The blocks of pieces; the last one is marked. -/
def blocks : List Octets → Octets
  | [] => block 1 []
  | [o] => block 1 o
  | o :: more => block 0 o ++ blocks more
where
  /-- A block: its mark, its length, the contrary of that, and what it holds. -/
  block (mark : UInt8) (o : Octets) : Octets :=
    mark :: smallOctets 2 o.length ++ smallOctets 2 (blockLength - o.length) ++ o

/-- The octets that a packed file starts with. -/
def mark : Octets := [0x1F, 0x8B]

/-- A packed file that holds octets. -/
def ofOctets (o : Octets) : Octets :=
  let count := (o.length + blockLength - 1) / blockLength
  mark ++ [8, 0, 0, 0, 0, 0, 0, 3] ++ blocks (Digest.pieces blockLength count o) ++
    smallOctets 4 (checkSum o) ++ smallOctets 4 o.length

/-- Why octets are no packed file. -/
inductive Defect where
  /-- They end too early. -/
  | cutOff
  /-- They do not start as one does. -/
  | unmarked
  /-- They hold something else than blocks. -/
  | malformed
  /-- The check sum is not that of what they hold. -/
  | wrongSum
deriving DecidableEq, Repr

/-- What is said of a defect. -/
def Defect.message : Defect → Text
  | .cutOff => "unexpected end of file"
  | .unmarked => "not in gzip format"
  | .malformed => "invalid compressed data--format violated"
  | .wrongSum => "invalid compressed data--crc error"

/-- What the blocks hold, and what follows them. The fuel is more than the number of blocks. -/
def readBlocks : Nat → Octets → Except Defect (Octets × Octets)
  | 0, _ => .error .cutOff
  | fuel + 1, mark :: a :: b :: c :: d :: r => do
    let length := smallWord [a, b]
    if 1 < mark || smallWord [c, d] ≠ blockLength - length then throw .malformed
    if r.length < length then throw .cutOff
    if mark = 1 then return (r.take length, r.drop length)
    let (more, rest) ← readBlocks fuel (r.drop length)
    return (r.take length ++ more, rest)
  | _, mark :: _ => .error (if 1 < mark then .malformed else .cutOff)
  | _, [] => .error .cutOff

/-- What a packed file holds. -/
def octets? (o : Octets) : Except Defect Octets := do
  if o.length < mark.length then throw .cutOff
  if !mark.isPrefixOf o then throw .unmarked
  let header := o.take 10
  if header.length < 10 then throw .cutOff
  -- A name ends with a zero octet.
  let isNamed := header[3]? = some 8
  let r := o.drop 10
  let r := if isNamed then (r.dropWhile (· ≠ 0)).drop 1 else r
  let (held, rest) ← readBlocks (r.length + 1) r
  if rest.length < 8 then throw .cutOff
  if smallWord (rest.take 4) ≠ checkSum held then throw .wrongSum
  return held

example : (octets? (ofOctets [1, 2, 3])).toOption = some [1, 2, 3] := by decide +kernel

end Packed

namespace Program

open ProcessM

/-- What the names of packed files end with. -/
def packedSuffix : Text := ".gz"

/-- Packs one file or unpacks it. -/
def packOne (name : Text) (a : Arguments) (unpacks : Bool) (file : Text) : ProcessM Nat := do
  let m ← machine
  let isThere := fun (path : Text) => (m.find .look path).toOption.isSome
  let isPacked := packedSuffix.isSuffixOf file
  let file := if unpacks && !isPacked && !isThere file && file ≠ "-" then file ++ packedSuffix
    else file
  let shown : Text := if file = "-" then "stdin" else file
  match ← readPath file with
  | .error r =>
    if r = .isDirectory then
      warn name (shown ++ " is a directory -- ignored")
      return 2
    warn name (shown ++ ": " ++ r.reason)
    return 1
  | .ok o =>
    let isInput := file = "-"
    let keeps := a.has 'c' || a.has 'k' || isInput
    let target := if unpacks then file.take (file.length - packedSuffix.length)
      else file ++ packedSuffix
    if !isInput && !a.has 'c' then
      if unpacks && !packedSuffix.isSuffixOf file then
        warn name (file ++ ": unknown suffix -- ignored")
        return 2
      if !unpacks && packedSuffix.isSuffixOf file then
        warn name (file ++ " already has .gz suffix -- unchanged")
        return 2
      if isThere target && !a.has 'f' then
        warn name (target ++ " already exists;\tnot overwritten")
        return 2
    match if unpacks then Packed.octets? o else .ok (Packed.ofOctets o) with
    | .error d =>
      complain ("\n" ++ name ++ ": " ++ shown ++ ": " ++ d.message)
      return 1
    | .ok made =>
      if isInput || a.has 'c' then put made
      else
        match ← openPath .replace target with
        | .ok i => writeTo i made
        | .error r => warn name (target ++ ": " ++ r.reason)
      unless keeps do
        let m ← machine
        if let .ok (place, _) := m.find .look file then
          setMachine { m with disk := m.disk.remove place }
      return 0

/-- Packs files or unpacks them, with further options in front. -/
def gzip (more args : List Text) : ProcessM Nat := do
  let flags := Flag.ofLetters "acfhklLnNqrtvV123456789" ++
    [⟨'c', .nothing, "stdout"⟩, ⟨'d', .nothing, "decompress"⟩, ⟨'f', .nothing, "force"⟩,
      ⟨'k', .nothing, "keep"⟩, ⟨'n', .nothing, "no-name"⟩, ⟨'q', .nothing, "quiet"⟩,
      ⟨'9', .nothing, "best"⟩, ⟨'1', .nothing, "fast"⟩]
  withArguments "gzip" flags (more ++ args) 1 fun a =>
    (if a.operands.isEmpty then [("-" : Text)] else a.operands).foldlM
      (fun (status : Nat) (file : Text) => do
        return max status (← packOne "gzip" a (a.has 'd') file)) 0

end Program

end ServiceWiring
