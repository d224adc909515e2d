import ServiceWiring.Host.Digest.Basic

/-!
# Check sums

Numbers that tell whether octets got damaged: a remainder of polynomials over bits, and two sums.
-/

namespace ServiceWiring.Digest

/-- The remainder after one more octet. -/
def remainderStep (r : BitVec 32) (b : UInt8) : BitVec 32 :=
  (List.range 8).foldl (fun (r : BitVec 32) _ =>
    if r.msb then (r <<< 1) ^^^ 0x04C11DB7 else r <<< 1) (r ^^^ (BitVec.ofNat 32 b.toNat <<< 24))

/-- The remainders of single octets. -/
def remainders : Array (BitVec 32) :=
  ((List.range 256).map fun i => remainderStep 0 (.ofNat i)).toArray

/-- The octets of a number without zeros at its end, the least of them first. -/
def lengthOctets (n : Nat) : Octets := smallOctets ((n.log2 + 8) / 8) n

/-- The remainder of octets and of how many they are. -/
def remainder (o : Octets) : Nat :=
  let length := if o.isEmpty then [] else lengthOctets o.length
  let r := (o ++ length).foldl (fun (r : BitVec 32) b =>
    (r <<< 8) ^^^ remainders[((r >>> 24).toNat ^^^ b.toNat)]?.getD 0) 0
  (~~~r).toNat

/-- The sum of octets that is turned by a bit before each of them. -/
def turningSum (o : Octets) : Nat :=
  (o.foldl (fun (r : BitVec 16) b => r.rotateRight 1 + .ofNat 16 b.toNat) 0).toNat

/-- The sum of octets, folded to 16 bits. -/
def plainSum (o : Octets) : Nat :=
  let s := o.foldl (fun n b => n + b.toNat) 0 % 2 ^ 32
  let r := s % 2 ^ 16 + s / 2 ^ 16
  r % 2 ^ 16 + r / 2 ^ 16

end ServiceWiring.Digest
