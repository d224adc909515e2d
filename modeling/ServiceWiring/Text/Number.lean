import ServiceWiring.Text.Basic

/-!
# Numbers as text

Naturals and integers in base ten, and naturals in base sixteen with small letters and a least
width.
-/

namespace ServiceWiring.Text

/-- The number in base ten, without leading zeros. -/
def ofNat (n : Nat) : Text := (Nat.toDigits 10 n).map CodePoint.ofChar

/-- The number in base ten, with a minus sign in front of a negative one. -/
def ofInt : Int → Text
  | .ofNat n => ofNat n
  | .negSucc n => '-' :: ofNat (n + 1)

/-- The text with the code point before it as often as the width asks. -/
def padLeft (width : Nat) (c : CodePoint) (t : Text) : Text :=
  List.replicate (width - t.length) c ++ t

/-- The number in base sixteen, with zeros in front up to the width. -/
def hex (width n : Nat) : Text := padLeft width '0' ((Nat.toDigits 16 n).map CodePoint.ofChar)

/-- The value of a digit in base sixteen, in either case. -/
def hexDigit? (c : CodePoint) : Option Nat :=
  if c.isDigit then some (c.val - 0x30)
  else if 0x61 ≤ c.val && c.val ≤ 0x66 then some (c.val - 0x61 + 10)
  else if 0x41 ≤ c.val && c.val ≤ 0x46 then some (c.val - 0x41 + 10)
  else none

/-- The value of a run of digits in base ten. -/
def natOfDigits (ds : Text) : Nat := ds.foldl (fun n d => 10 * n + (d.val - 0x30)) 0

example : ofInt (-120) = "-120" ∧ hex 4 0xE9 = "00e9" := by decide

end ServiceWiring.Text
