import ServiceWiring.Host.Digest.Basic

/-!
# Digests of eight words

Eight words go through one step for each of the first primes and each block. The words at the start
are square roots of primes, and the constants of the steps are cube roots of primes: the first bits
after the point of each. The digests differ in how long their words are, how far they turn them and
how many of them they keep.
-/

namespace ServiceWiring.Digest.Sha2

/-! ## Roots of primes -/

/-- The first primes. -/
def primes : List Nat :=
  (List.range 410).filter fun n => 2 ≤ n && (List.range n).all fun d => d < 2 || n % d ≠ 0

/-- The greatest number whose power is at most a bound, built from its bits. -/
def root (power bound : Nat) : Nat → Nat → Nat
  | 0, found => found
  | bit + 1, found =>
    let more := found + 2 ^ bit
    root power bound bit (if more ^ power ≤ bound then more else found)

/-- The first 64 bits after the point of a root. -/
def rootBits (power n : Nat) : Nat := root power (n * 2 ^ (64 * power)) 70 0 % 2 ^ 64

/-- The first 64 bits after the point of the cube roots of the first eighty primes. -/
def cubeRoots : List Nat := primes.map (rootBits 3)

/-- The first 64 bits after the point of the square roots of the first sixteen primes. -/
def squareRoots : List Nat := (primes.take 16).map (rootBits 2)

/-! ## Steps -/

/-- What one of the digests does to its words. -/
structure Form (width : Nat) where
  /-- The constants of the steps. -/
  constants : List (BitVec width)
  /-- How far the first of the eight words is turned. -/
  first : Nat × Nat × Nat
  /-- How far the fifth of the eight words is turned. -/
  fifth : Nat × Nat × Nat
  /-- How far a word of the block is turned, twice, and shifted. -/
  near : Nat × Nat × Nat
  /-- How far another word of the block is turned, twice, and shifted. -/
  far : Nat × Nat × Nat

/-- The form with words of 32 bits. -/
def short : Form 32 where
  constants := (cubeRoots.take 64).map fun n => .ofNat 32 (n / 2 ^ 32)
  first := (2, 13, 22)
  fifth := (6, 11, 25)
  near := (7, 18, 3)
  far := (17, 19, 10)

/-- The form with words of 64 bits. -/
def long : Form 64 where
  constants := (cubeRoots.take 80).map (.ofNat 64)
  first := (28, 34, 39)
  fifth := (14, 18, 41)
  near := (1, 8, 7)
  far := (19, 61, 6)

/-- Eight words. -/
structure Words (width : Nat) where
  /-- The first word. -/
  a : BitVec width
  /-- The second word. -/
  b : BitVec width
  /-- The third word. -/
  c : BitVec width
  /-- The fourth word. -/
  d : BitVec width
  /-- The fifth word. -/
  e : BitVec width
  /-- The sixth word. -/
  f : BitVec width
  /-- The seventh word. -/
  g : BitVec width
  /-- The eighth word. -/
  h : BitVec width
deriving DecidableEq, Repr

/-- The words of a list. -/
def Words.ofList {width : Nat} (l : List (BitVec width)) : Words width :=
  let word := fun (i : Nat) => l[i]?.getD 0
  ⟨word 0, word 1, word 2, word 3, word 4, word 5, word 6, word 7⟩

/-- The list of the words. -/
def Words.toList {width : Nat} (w : Words width) : List (BitVec width) :=
  [w.a, w.b, w.c, w.d, w.e, w.f, w.g, w.h]

/-- The turns of a word by three amounts, put together. -/
def turned {width : Nat} (by3 : Nat × Nat × Nat) (x : BitVec width) : BitVec width :=
  x.rotateRight by3.1 ^^^ x.rotateRight by3.2.1 ^^^ x.rotateRight by3.2.2

/-- The turns of a word by two amounts and its shift by a third one, put together. -/
def shifted {width : Nat} (by3 : Nat × Nat × Nat) (x : BitVec width) : BitVec width :=
  x.rotateRight by3.1 ^^^ x.rotateRight by3.2.1 ^^^ (x >>> by3.2.2)

/-- The words of a block and those that are made from them, one for each step. -/
def schedule {width : Nat} (k : Form width) (block : Octets) : Array (BitVec width) :=
  let words :=
    ((pieces (width / 8) 16 block).map fun o => BitVec.ofNat width (bigWord o)).toArray
  (List.range (k.constants.length - 16)).foldl (fun (ws : Array (BitVec width)) _ =>
    let back := fun (n : Nat) => ws[ws.size - n]?.getD 0
    ws.push (shifted k.far (back 2) + back 7 + shifted k.near (back 15) + back 16)) words

/-- One step with a word and a constant. -/
def step {width : Nat} (k : Form width) (w : Words width) (word constant : BitVec width) :
    Words width :=
  let choice := (w.e &&& w.f) ^^^ (~~~w.e &&& w.g)
  let majority := (w.a &&& w.b) ^^^ (w.a &&& w.c) ^^^ (w.b &&& w.c)
  let sum := w.h + turned k.fifth w.e + choice + constant + word
  ⟨sum + turned k.first w.a + majority, w.a, w.b, w.c, w.d + sum, w.e, w.f, w.g⟩

/-- The words after a block. -/
def compress {width : Nat} (k : Form width) (w : Words width) (block : Octets) : Words width :=
  let v := ((schedule k block).toList.zip k.constants).foldl
    (fun v (word, constant) => step k v word constant) w
  .ofList ((w.toList.zip v.toList).map fun (x, y) => x + y)

/-- The digest of a message by its words at the start. -/
def digest {width : Nat} (k : Form width) (start : List (BitVec width)) (o : Octets) : Octets :=
  let w := (blocks (2 * width) (bigOctets (width / 4)) o).foldl (compress k) (.ofList start)
  w.toList.flatMap fun x => bigOctets (width / 8) x.toNat

/-- The digest of eight short words. -/
def sha256 (o : Octets) : Octets :=
  digest short ((squareRoots.take 8).map fun n => .ofNat 32 (n / 2 ^ 32)) o

/-- The digest of seven short words, which start from other roots. -/
def sha224 (o : Octets) : Octets :=
  (digest short ((squareRoots.drop 8).map (.ofNat 32)) o).take 28

/-- The digest of eight long words. -/
def sha512 (o : Octets) : Octets := digest long ((squareRoots.take 8).map (.ofNat 64)) o

/-- The digest of six long words, which start from other roots. -/
def sha384 (o : Octets) : Octets :=
  (digest long ((squareRoots.drop 8).map (.ofNat 64)) o).take 48

end ServiceWiring.Digest.Sha2
