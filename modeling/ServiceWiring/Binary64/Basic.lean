import ServiceWiring.Power

/-!
# Binary64 numbers

A number of the binary64 format: a sign and a mantissa of at most 53 bits times a power of two, or
an infinity, or no number at all. `Binary64.ofDecimal` rounds a decimal to the nearest such number,
by exact arithmetic on naturals; half a unit goes to the even neighbour.
-/

namespace ServiceWiring

/-- A number of the binary64 format. -/
inductive Binary64 where
  /-- No number. -/
  | nan
  /-- An infinity. -/
  | infinite (negative : Bool)
  /-- The mantissa times two to the exponent; zero keeps its sign. -/
  | finite (negative : Bool) (mantissa : Nat) (exponent : Int)
deriving DecidableEq, Repr, Inhabited

namespace Binary64

/-- The least exponent. -/
def minExponent : Int := -1074

/-- The greatest exponent of a mantissa of 53 bits. -/
def maxExponent : Int := 971

/-- The quotient as an integer, to nearest; half goes to the even neighbour. -/
def roundDiv (num den : Nat) : Nat :=
  let q := num / den
  let twice := 2 * (num % den)
  if twice < den || (twice = den && q % 2 = 0) then q else q + 1

/-- The greatest `e` with `2 ^ e ≤ num / den`, for a positive quotient. -/
def floorLog2 (num den : Nat) : Int :=
  let e : Int := (num.log2 : Int) - den.log2
  if den * 2 ^ e.toNat ≤ num * 2 ^ (-e).toNat then e else e - 1

/-- A positive quotient as a binary64 number. -/
def ofQuotient (negative : Bool) (num den : Nat) : Binary64 :=
  let e := max (floorLog2 num den - 52) minExponent
  let m := roundDiv (num * 2 ^ (-e).toNat) (den * 2 ^ e.toNat)
  -- Rounding may carry into a 54th bit; the mantissa is then a power of two.
  let (m, e) := if m = 2 ^ 53 then (2 ^ 52, e + 1) else (m, e)
  if maxExponent < e then .infinite negative else .finite negative m e

/-- The zero with the given sign. -/
def zero (negative : Bool) : Binary64 := .finite negative 0 minExponent

/-- The number nearest to `digits * 10 ^ exponent`, where `digits` has `count` digits. Beyond 400
places the answer is known from the count alone. -/
def ofDecimal (negative : Bool) (digits count : Nat) (exponent : Int) : Binary64 :=
  if digits = 0 then zero negative
  else if exponent + count < -400 then zero negative
  else if 400 < exponent then .infinite negative
  else ofQuotient negative (digits * 10 ^ exponent.toNat) (10 ^ (-exponent).toNat)

/-- Whether the number is zero, of either sign. -/
def isZero : Binary64 → Bool
  | .finite _ m _ => m == 0
  | _ => false

example : ofDecimal false 1 1 (-1) = .finite false 7205759403792794 (-56) := by decide

end Binary64

end ServiceWiring
