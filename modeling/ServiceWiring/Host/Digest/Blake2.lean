import ServiceWiring.Host.Digest.Sha2

/-!
# A digest that mixes sixteen words

Eight words of 64 bits are put beside eight constants, and all sixteen go through twelve rounds for
each block. A round takes the words of the block in an order of its own.
-/

namespace ServiceWiring.Digest.Blake2

/-- The constants, which are square roots of primes. -/
def constants : List (BitVec 64) := (Sha2.squareRoots.take 8).map (.ofNat 64)

/-- The orders in which rounds take the words of a block. -/
def orders : List (List Nat) :=
  [[0, 1, 2, 3, 4, 5, 6, 7, 8, 9, 10, 11, 12, 13, 14, 15],
    [14, 10, 4, 8, 9, 15, 13, 6, 1, 12, 0, 2, 11, 7, 5, 3],
    [11, 8, 12, 0, 5, 2, 15, 13, 10, 14, 3, 6, 7, 1, 9, 4],
    [7, 9, 3, 1, 13, 12, 11, 14, 2, 6, 5, 10, 4, 0, 15, 8],
    [9, 0, 5, 7, 2, 4, 10, 15, 14, 1, 11, 12, 6, 8, 3, 13],
    [2, 12, 6, 10, 0, 11, 8, 3, 4, 13, 7, 5, 15, 14, 1, 9],
    [12, 5, 1, 15, 14, 13, 4, 10, 0, 7, 6, 3, 9, 2, 8, 11],
    [13, 11, 7, 14, 12, 1, 3, 9, 5, 0, 15, 4, 8, 6, 2, 10],
    [6, 15, 14, 9, 11, 3, 0, 8, 12, 2, 13, 7, 1, 4, 10, 5],
    [10, 2, 8, 4, 7, 6, 1, 5, 15, 11, 9, 14, 3, 12, 13, 0]]

/-- The places that are mixed with one another: first the columns, then the diagonals. -/
def groups : List (Nat × Nat × Nat × Nat) :=
  [(0, 4, 8, 12), (1, 5, 9, 13), (2, 6, 10, 14), (3, 7, 11, 15),
    (0, 5, 10, 15), (1, 6, 11, 12), (2, 7, 8, 13), (3, 4, 9, 14)]

/-- Mixes four words with two of the block. -/
def mix (v : Array (BitVec 64)) (places : Nat × Nat × Nat × Nat) (x y : BitVec 64) :
    Array (BitVec 64) :=
  let (i, j, k, l) := places
  let word := fun (i : Nat) => v[i]?.getD 0
  let a := word i + word j + x
  let d := (word l ^^^ a).rotateRight 32
  let c := word k + d
  let b := (word j ^^^ c).rotateRight 24
  let a := a + b + y
  let d := (d ^^^ a).rotateRight 16
  let c := c + d
  let b := (b ^^^ c).rotateRight 63
  (((v.setIfInBounds i a).setIfInBounds j b).setIfInBounds k c).setIfInBounds l d

/-- The words after a block; `count` is how many octets there were up to its end. -/
def compress (w : List (BitVec 64)) (block : Octets) (count : Nat) (isLast : Bool) :
    List (BitVec 64) :=
  let words := ((pieces 8 16 block).map fun o => BitVec.ofNat 64 (smallWord o)).toArray
  let marks : List (BitVec 64) :=
    [0, 0, 0, 0, .ofNat 64 count, .ofNat 64 (count / 2 ^ 64), if isLast then ~~~0 else 0, 0]
  let beside : List (BitVec 64) := (constants.zip marks).map fun (x, y) => x ^^^ y
  let v := (w ++ beside).toArray
  let v := (List.range 12).foldl (fun v round =>
    let order := orders[round % 10]?.getD []
    let word := fun (i : Nat) => (order[i]?.bind (words[·]?)).getD 0
    groups.zipIdx.foldl (fun v (places, i) => mix v places (word (2 * i)) (word (2 * i + 1))) v) v
  let v := v.toList
  ((w.zip v).zip (v.drop 8)).map fun ((x, y), z) => x ^^^ y ^^^ z

/-- The digest of a message, as long as is asked for. -/
def ofOctets (length : Nat) (o : Octets) : Octets :=
  let start := match constants with
    | x :: xs => (x ^^^ 0x01010000 ^^^ .ofNat 64 length) :: xs
    | [] => []
  let count := max 1 ((o.length + 127) / 128)
  let whole := o ++ List.replicate (128 * count - o.length) 0
  let w := (pieces 128 count whole).zipIdx.foldl (fun w (block, i) =>
    compress w block (min o.length (128 * (i + 1))) (i + 1 = count)) start
  (w.flatMap fun x => smallOctets 8 x.toNat).take length

end ServiceWiring.Digest.Blake2
