import ServiceWiring.Text.Utf8

/-!
# Digests

What all digests share: words that are read from octets and written to them, and a message that is
filled up to whole blocks.
-/

namespace ServiceWiring

/-- A way to make a short run of octets from a long one. -/
inductive Digest where
  /-- The one of four words that goes by 5. -/
  | md5
  /-- The first one of five words. -/
  | sha1
  /-- One of eight words, of which seven are kept. -/
  | sha224
  /-- One of eight words. -/
  | sha256
  /-- One of eight long words, of which six are kept. -/
  | sha384
  /-- One of eight long words. -/
  | sha512
  /-- One of eight long words that mixes sixteen. -/
  | blake2
deriving DecidableEq, Repr

namespace Digest

/-- The number that octets spell, the greatest of them first. -/
def bigWord (o : Octets) : Nat := o.foldl (fun n b => 256 * n + b.toNat) 0

/-- The number that octets spell, the least of them first. -/
def smallWord (o : Octets) : Nat := bigWord o.reverse

/-- The octets of a number, the least of them first. -/
def smallOctets (count n : Nat) : Octets :=
  (List.range count).map fun i => UInt8.ofNat (n / 256 ^ i % 256)

/-- The octets of a number, the greatest of them first. -/
def bigOctets (count n : Nat) : Octets := (smallOctets count n).reverse

/-- The pieces of a length in order; `count` of them are taken. -/
def pieces (length : Nat) : Nat → Octets → List Octets
  | 0, _ => []
  | count + 1, o => o.take length :: pieces length count (o.drop length)

/-- The blocks of a message that ends with a mark, zeros and its length in bits, which takes up an
eighth of a block. -/
def blocks (size : Nat) (length : Nat → Octets) (message : Octets) : List Octets :=
  let used := message.length + 1 + size / 8
  let whole := message ++ 0x80 :: List.replicate ((size - used % size) % size) 0 ++
    length (8 * message.length)
  pieces size (whole.length / size) whole

example : (blocks 8 (bigOctets 1) [1, 2]) = [[1, 2, 0x80, 0, 0, 0, 0, 16]] := by decide

end Digest

end ServiceWiring
