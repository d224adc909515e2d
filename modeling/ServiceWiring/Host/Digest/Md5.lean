import ServiceWiring.Host.Digest.Basic

/-!
# A digest of four words

Four words of 32 bits go through four rounds of sixteen steps for each block. A step adds one word
of the block and a sine.
-/

namespace ServiceWiring.Digest.Md5

/-- The first 32 bits after the point of the sines of the numbers from one on, without their
signs. -/
def sines : List (BitVec 32) :=
    [0xD76AA478, 0xE8C7B756, 0x242070DB, 0xC1BDCEEE, 0xF57C0FAF, 0x4787C62A, 0xA8304613,
    0xFD469501, 0x698098D8, 0x8B44F7AF, 0xFFFF5BB1, 0x895CD7BE, 0x6B901122, 0xFD987193,
    0xA679438E, 0x49B40821, 0xF61E2562, 0xC040B340, 0x265E5A51, 0xE9B6C7AA, 0xD62F105D,
    0x02441453, 0xD8A1E681, 0xE7D3FBC8, 0x21E1CDE6, 0xC33707D6, 0xF4D50D87, 0x455A14ED,
    0xA9E3E905, 0xFCEFA3F8, 0x676F02D9, 0x8D2A4C8A, 0xFFFA3942, 0x8771F681, 0x6D9D6122,
    0xFDE5380C, 0xA4BEEA44, 0x4BDECFA9, 0xF6BB4B60, 0xBEBFBC70, 0x289B7EC6, 0xEAA127FA,
    0xD4EF3085, 0x04881D05, 0xD9D4D039, 0xE6DB99E5, 0x1FA27CF8, 0xC4AC5665, 0xF4292244,
    0x432AFF97, 0xAB9423A7, 0xFC93A039, 0x655B59C3, 0x8F0CCC92, 0xFFEFF47D, 0x85845DD1,
    0x6FA87E4F, 0xFE2CE6E0, 0xA3014314, 0x4E0811A1, 0xF7537E82, 0xBD3AF235, 0x2AD7D2BB,
    0xEB86D391]

/-- How far each step turns its word: four amounts for each round. -/
def turns : List (List Nat) := [[7, 12, 17, 22], [5, 9, 14, 20], [4, 11, 16, 23], [6, 10, 15, 21]]

/-- Four words. -/
structure Words where
  /-- The first word. -/
  a : BitVec 32
  /-- The second word. -/
  b : BitVec 32
  /-- The third word. -/
  c : BitVec 32
  /-- The fourth word. -/
  d : BitVec 32
deriving DecidableEq, Repr

/-- The words at the start. -/
def start : Words := ⟨0x67452301, 0xEFCDAB89, 0x98BADCFE, 0x10325476⟩

/-- One step with a word of the block for each of its places. -/
def step (block : Array (BitVec 32)) (w : Words) (i : Nat) (sine : BitVec 32) : Words :=
  let (mixed, place) := match i / 16 with
    | 0 => ((w.b &&& w.c) ||| (~~~w.b &&& w.d), i)
    | 1 => ((w.d &&& w.b) ||| (~~~w.d &&& w.c), 5 * i + 1)
    | 2 => (w.b ^^^ w.c ^^^ w.d, 3 * i + 5)
    | _ => (w.c ^^^ (w.b ||| ~~~w.d), 7 * i)
  let turn := ((turns[i / 16]?.getD [])[i % 4]?).getD 0
  let sum := mixed + w.a + sine + block[place % 16]?.getD 0
  ⟨w.d, w.b + sum.rotateLeft turn, w.b, w.c⟩

/-- The words after a block. -/
def compress (w : Words) (block : Octets) : Words :=
  let words := ((pieces 4 16 block).map fun o => BitVec.ofNat 32 (smallWord o)).toArray
  let v := sines.zipIdx.foldl (fun v (sine, i) => step words v i sine) w
  ⟨w.a + v.a, w.b + v.b, w.c + v.c, w.d + v.d⟩

/-- The digest of a message. -/
def ofOctets (o : Octets) : Octets :=
  let w := (blocks 64 (smallOctets 8) o).foldl compress start
  [w.a, w.b, w.c, w.d].flatMap fun x => smallOctets 4 x.toNat

end ServiceWiring.Digest.Md5
