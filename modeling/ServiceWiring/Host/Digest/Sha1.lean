import ServiceWiring.Host.Digest.Basic

/-!
# A digest of five words

Five words of 32 bits go through eighty steps for each block, whose sixteen words are stretched to
as many.
-/

namespace ServiceWiring.Digest.Sha1

/-- Five words. -/
structure Words where
  /-- The first word. -/
  a : BitVec 32
  /-- The second word. -/
  b : BitVec 32
  /-- The third word. -/
  c : BitVec 32
  /-- The fourth word. -/
  d : BitVec 32
  /-- The fifth word. -/
  e : BitVec 32
deriving DecidableEq, Repr

/-- The words at the start. -/
def start : Words := ⟨0x67452301, 0xEFCDAB89, 0x98BADCFE, 0x10325476, 0xC3D2E1F0⟩

/-- The words of a block and those that are made from them. -/
def schedule (block : Octets) : Array (BitVec 32) :=
  let words := ((pieces 4 16 block).map fun o => BitVec.ofNat 32 (bigWord o)).toArray
  (List.range 64).foldl (fun (ws : Array (BitVec 32)) _ =>
    let back := fun (n : Nat) => ws[ws.size - n]?.getD 0
    ws.push ((back 3 ^^^ back 8 ^^^ back 14 ^^^ back 16).rotateLeft 1)) words

/-- One step. -/
def step (w : Words) (i : Nat) (word : BitVec 32) : Words :=
  let (mixed, constant) : BitVec 32 × BitVec 32 := match i / 20 with
    | 0 => ((w.b &&& w.c) ||| (~~~w.b &&& w.d), 0x5A827999)
    | 1 => (w.b ^^^ w.c ^^^ w.d, 0x6ED9EBA1)
    | 2 => ((w.b &&& w.c) ||| (w.b &&& w.d) ||| (w.c &&& w.d), 0x8F1BBCDC)
    | _ => (w.b ^^^ w.c ^^^ w.d, 0xCA62C1D6)
  ⟨w.a.rotateLeft 5 + mixed + w.e + constant + word, w.a, w.b.rotateLeft 30, w.c, w.d⟩

/-- The words after a block. -/
def compress (w : Words) (block : Octets) : Words :=
  let v := (schedule block).toList.zipIdx.foldl (fun v (word, i) => step v i word) w
  ⟨w.a + v.a, w.b + v.b, w.c + v.c, w.d + v.d, w.e + v.e⟩

/-- The digest of a message. -/
def ofOctets (o : Octets) : Octets :=
  let w := (blocks 64 (bigOctets 8) o).foldl compress start
  [w.a, w.b, w.c, w.d, w.e].flatMap fun x => bigOctets 4 x.toNat

end ServiceWiring.Digest.Sha1
