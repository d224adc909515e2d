import ServiceWiring.Binary64.Shortest
import ServiceWiring.Host.Binary64.Arithmetic

/-!
# Binary64 numbers with so many places

A number is rounded to a number of places after the point, or to a number of digits in all; half a
unit goes to the even neighbour. The digits are exact, however many are asked for.
-/

namespace ServiceWiring.Binary64

/-- The digits with a point before the last ones. -/
def pointed (places : Nat) (digits : Nat) (alternate : Bool) : Text :=
  let ds := Text.padLeft (places + 1) '0' (Text.ofNat digits)
  let fraction := ds.drop (ds.length - places)
  let point : Text := if places = 0 && !alternate then [] else "."
  ds.take (ds.length - places) ++ point ++ fraction

/-- The magnitude of `m * 2 ^ e` with so many places after the point. -/
def fixedPlaces (m : Nat) (e : Int) (places : Nat) (alternate : Bool) : Text :=
  pointed places (roundDiv (m * 2 ^ e.toNat * 10 ^ places) (2 ^ (-e).toNat)) alternate

/-- The digits of `m * 2 ^ e`, one and so many more, and the exponent of the first one. -/
def scientific (m : Nat) (e : Int) (places : Nat) : Nat × Int :=
  if m = 0 then (0, 0)
  else
    let exponent := digitsBeforePoint m e - 1
    let shift := (places : Int) - exponent
    let digits :=
      roundDiv (m * 2 ^ e.toNat * 10 ^ shift.toNat) (2 ^ (-e).toNat * 10 ^ (-shift).toNat)
    if digits = 10 ^ (places + 1) then (10 ^ places, exponent + 1) else (digits, exponent)

/-- The text of an exponent. -/
def exponentText (exponent : Int) : Text :=
  let sign : Text := if exponent < 0 then "-" else "+"
  "e" ++ sign ++ Text.padLeft 2 '0' (Text.ofNat exponent.natAbs)

/-- The magnitude of `m * 2 ^ e` with an exponent and so many places after the point. -/
def scientificText (m : Nat) (e : Int) (places : Nat) (alternate : Bool) : Text :=
  let (digits, exponent) := scientific m e places
  pointed places digits alternate ++ exponentText exponent

/-- A fraction without the zeros at its end. -/
def trimFraction (t : Text) : Text :=
  if t.contains 0x2E then Text.dropRight '.' (Text.dropRight '0' t) else t

/-- The magnitude of `m * 2 ^ e` with so many digits, written in the shorter way. -/
def general (m : Nat) (e : Int) (digits : Nat) (alternate : Bool) : Text :=
  let digits := max digits 1
  let (ds, exponent) := scientific m e (digits - 1)
  let trim := fun (t : Text) => if alternate then t else trimFraction t
  if -4 ≤ exponent && exponent < digits then
    trim (fixedPlaces m e ((digits : Int) - 1 - exponent).toNat alternate)
  else trim (pointed (digits - 1) ds alternate) ++ exponentText exponent

/-- The magnitude of a number in the way that a letter asks for: `f`, `e` or `g`. -/
def magnitude (letter : CodePoint) (precision : Nat) (alternate : Bool) : Binary64 → Text
  | .nan => "nan"
  | .infinite _ => "inf"
  | .finite _ m e =>
    if letter = 0x66 then fixedPlaces m e precision alternate
    else if letter = 0x65 then scientificText m e precision alternate
    else general m e precision alternate

example : (ofDecimal false 1 1 (-1)).magnitude 'g' 6 false = "0.1" ∧
    (ofDecimal false 12345678 8 0).magnitude 'g' 6 false = "1.23457e+07" := by
  decide +kernel

end ServiceWiring.Binary64
