import ServiceWiring.Binary64.Basic
import ServiceWiring.Text.Number

/-!
# Binary64 numbers as text

A number is written with the fewest digits that read back to it, and of those decimals with the
nearest one. It is positional from `0.0001` up to sixteen places before the point, with at least one
digit after it; otherwise it has an exponent with a sign and two digits or more.

The decimals that read back to `m * 2 ^ e` are those between the midpoints to its neighbours, the
midpoints included when `m` is even.
-/

namespace ServiceWiring.Binary64

/-- Compares `a * 10 ^ i` with `n * 2 ^ j`. -/
def compareScaled (a : Nat) (i : Int) (n : Nat) (j : Int) : Ordering :=
  compare (a * 10 ^ i.toNat * 2 ^ (-j).toNat) (n * 2 ^ j.toNat * 10 ^ (-i).toNat)

/-- Whether `digits * 10 ^ place` is nearest to `m * 2 ^ e` among the numbers of the format. -/
def readsBack (m : Nat) (e : Int) (digits : Nat) (place : Int) : Bool :=
  -- Below a power of two the neighbour is half as far away.
  let low := if m = 2 ^ 52 && minExponent < e then 4 * m - 1 else 4 * m - 2
  let high := 4 * m + 2
  let even := m % 2 == 0
  let aboveLow := compareScaled digits place low (e - 2)
  let belowHigh := compareScaled digits place high (e - 2)
  (aboveLow == .gt || (even && aboveLow == .eq)) && (belowHigh == .lt || (even && belowHigh == .eq))

/-- The number of digits before the point of `m * 2 ^ e`; not positive for a number below `0.1`. -/
def digitsBeforePoint (m : Nat) (e : Int) : Int :=
  let estimate := ((m.log2 : Int) + e) * 30103 / 100000
  let near := [estimate - 1, estimate, estimate + 1]
  (near.find? fun k => compareScaled 1 k m e == .gt).getD (estimate + 2)

/-- The decimal on the grid `10 ^ place` that is nearest to `m * 2 ^ e` of those that read back. -/
def nearestOnGrid? (m : Nat) (e place : Int) : Option Nat :=
  let num := m * 2 ^ e.toNat * 10 ^ (-place).toNat
  let den := 10 ^ place.toNat * 2 ^ (-e).toNat
  let low := num / den
  match readsBack m e low place, readsBack m e (low + 1) place with
  | false, false => none
  | true, false => some low
  | false, true => some (low + 1)
  | true, true => some (roundDiv num den)

/-- The digits and the place of the last one: the coarsest grid with a decimal that reads back.
Seventeen digits are always enough. -/
def shortest (m : Nat) (e : Int) : Nat × Int :=
  let k := digitsBeforePoint m e
  let grids := (List.range 17).map fun n => k - (n + 1 : Nat)
  (grids.findSome? fun place => (nearestOnGrid? m e place).map (·, place)).getD
    (m * 5 ^ (-e).toNat * 2 ^ e.toNat, min e 0)

/-- A run of zeros. -/
def zeros (n : Nat) : Text := List.replicate n 0x30

/-- The text of a positive number whose digits are `ds`, with `point` of them before the point. -/
def layout (ds : Text) (point : Int) : Text :=
  if -3 ≤ point && point ≤ 0 then "0." ++ zeros (-point).toNat ++ ds
  else if 0 < point && point ≤ 16 then
    let whole := ds.take point.toNat ++ zeros (point.toNat - ds.length)
    let rest := ds.drop point.toNat
    whole ++ "." ++ if rest.isEmpty then zeros 1 else rest
  else
    let exponent := point - 1
    let fraction : Text := if ds.length ≤ 1 then [] else "." ++ ds.drop 1
    let sign : Text := if exponent < 0 then "-" else "+"
    ds.take 1 ++ fraction ++ "e" ++ sign ++ Text.padLeft 2 '0' (Text.ofNat exponent.natAbs)

/-- The digits without the zeros at their end, and how many digits come before the point. -/
def trimmed (digits : Nat) (place : Int) : Text × Int :=
  let ds := Text.ofNat digits
  (Text.dropRight '0' ds, ds.length + place)

/-- The number as text. -/
def toText : Binary64 → Text
  | .nan => "nan"
  | .infinite negative => if negative then "-inf" else "inf"
  | .finite negative m e =>
    let magnitude : Text :=
      if m = 0 then "0.0"
      else
        let (digits, place) := shortest m e
        let (ds, point) := trimmed digits place
        layout ds point
    if negative then "-" ++ magnitude else magnitude

example : (ofDecimal false 1 1 16).toText = "1e+16" ∧
    (ofDecimal true 15 2 (-6)).toText = "-1.5e-05" := by
  decide +kernel

end ServiceWiring.Binary64
