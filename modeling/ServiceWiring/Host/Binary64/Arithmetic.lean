import ServiceWiring.Binary64.Basic

/-!
# Arithmetic of binary64 numbers

The sum, the product and the quotient of two numbers are the numbers nearest to the exact ones; a
remainder is exact. Powers with an integer exponent are rounded once as well.
-/

namespace ServiceWiring.Binary64

/-- The number nearest to `n * 2 ^ e`; zero has the given sign. -/
def ofScaled (negativeZero : Bool) (n e : Int) : Binary64 :=
  if n = 0 then zero negativeZero
  else ofQuotient (n < 0) (n.natAbs * 2 ^ e.toNat) (2 ^ (-e).toNat)

/-- The number nearest to an integer. -/
def ofInt (n : Int) : Binary64 := ofScaled false n 0

/-- The mantissa with its sign. -/
def signed (negative : Bool) (m : Nat) : Int := if negative then -(m : Int) else m

/-- Whether the number has a minus sign. -/
def isNegative : Binary64 → Bool
  | .nan => false
  | .infinite s => s
  | .finite s .. => s

/-- The number with the other sign. -/
def neg : Binary64 → Binary64
  | .nan => .nan
  | .infinite s => .infinite !s
  | .finite s m e => .finite (!s) m e

/-- The sum. -/
def add : Binary64 → Binary64 → Binary64
  | .nan, _ | _, .nan => .nan
  | .infinite s, .infinite t => if s = t then .infinite s else .nan
  | .infinite s, _ | _, .infinite s => .infinite s
  | .finite s m e, .finite t n f =>
    let low := min e f
    ofScaled (s && t)
      (signed s m * 2 ^ (e - low).toNat + signed t n * 2 ^ (f - low).toNat) low

/-- The difference. -/
def sub (x y : Binary64) : Binary64 := x.add y.neg

/-- The product. -/
def mul : Binary64 → Binary64 → Binary64
  | .nan, _ | _, .nan => .nan
  | .finite s m e, .finite t n f => ofScaled (s != t) (signed s m * signed t n) (e + f)
  | x, y => if x.isZero || y.isZero then .nan else .infinite (x.isNegative != y.isNegative)

/-- The quotient. Nothing but zero divided by zero gives no number. -/
def div : Binary64 → Binary64 → Binary64
  | .nan, _ | _, .nan => .nan
  | .infinite _, .infinite _ => .nan
  | .infinite s, y => .infinite (s != y.isNegative)
  | .finite s _ _, .infinite t => zero (s != t)
  | .finite s m e, .finite t n f =>
    if n = 0 then if m = 0 then .nan else .infinite (s != t)
    else if m = 0 then zero (s != t)
    else ofQuotient (s != t) (m * 2 ^ (e - f).toNat) (n * 2 ^ (f - e).toNat)

/-- The remainder of the division toward zero; it has the sign of the dividend. -/
def rem : Binary64 → Binary64 → Binary64
  | .nan, _ | _, .nan | .infinite _, _ => .nan
  | x, .infinite _ => x
  | .finite s m e, .finite _ n f =>
    if n = 0 then .nan
    else
      let low := min e f
      let r := (m * 2 ^ (e - low).toNat) % (n * 2 ^ (f - low).toNat)
      ofScaled s (signed s r) low

/-- The integer that is left without the places after the point. -/
def toInt : Binary64 → Int
  | .finite s m e => signed s (m * 2 ^ e.toNat / 2 ^ (-e).toNat)
  | _ => 0

/-- Whether the number is an integer. -/
def isInt (x : Binary64) : Bool :=
  match x with
  | .finite _ m e => m % 2 ^ (-e).toNat = 0
  | _ => false

/-- Which of two numbers is the greater; nothing, if one of them is none. -/
def compare? : Binary64 → Binary64 → Option Ordering
  | .nan, _ | _, .nan => none
  | .infinite s, .infinite t => some (compare t.toNat s.toNat)
  | .infinite s, _ => some (if s then .lt else .gt)
  | _, .infinite s => some (if s then .gt else .lt)
  | .finite s m e, .finite t n f =>
    let low := min e f
    some (compare (signed s m * 2 ^ (e - low).toNat) (signed t n * 2 ^ (f - low).toNat))

/-- The power with an integer exponent. -/
def powInt (x : Binary64) (n : Int) : Binary64 :=
  match x with
  | .finite s m e =>
    let k := n.natAbs
    let power := ofScaled false (signed s m ^ k) (e * k)
    if n < 0 then
      if power.isZero || k = 0 then div (ofInt 1) power
      else ofQuotient (s && k % 2 = 1) (2 ^ (-(e * k)).toNat) (m ^ k * 2 ^ (e * k).toNat)
    else power
  | .infinite s =>
    if n = 0 then ofInt 1 else if n < 0 then zero false else .infinite (s && n % 2 = 1)
  | .nan => if n = 0 then ofInt 1 else .nan

/-- The greatest number whose square is at most `n`. The fuel is more than the number of its binary
digits. -/
def sqrtNat (n : Nat) : Nat → Nat
  | 0 => 0
  | fuel + 1 =>
    if n = 0 then 0
    else
      let r := 2 * sqrtNat (n / 4) fuel
      if (r + 1) * (r + 1) ≤ n then r + 1 else r

/-- The square root. -/
def sqrt : Binary64 → Binary64
  | .nan => .nan
  | .infinite s => if s then .nan else .infinite false
  | .finite s m e =>
    if m = 0 then .finite s m e
    else if s then .nan
    else
      -- Many more binary places than are kept, and one that stands for what is left.
      let (m, e) := if e % 2 = 0 then (m, e) else (2 * m, e - 1)
      let n := m * 4 ^ 60
      let r := sqrtNat n (n.log2 + 2)
      ofScaled false (2 * r + if r * r = n then 0 else 1) (e / 2 - 61)

example : add (ofDecimal false 1 1 (-1)) (ofDecimal false 2 1 (-1)) =
    ofDecimal false 30000000000000004 17 (-17) := by decide

end ServiceWiring.Binary64
