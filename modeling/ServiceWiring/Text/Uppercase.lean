import ServiceWiring.Text.Lowercase

/-!
# Upper case

The capital form of each code point by version 14 of the character database: the capital that has
the code point for its small form, but for some letters whose capital has another small form.
-/

namespace ServiceWiring.CodePoint

/-- Letters that have a capital form but are not its small form. -/
def oddSmalls : List (Nat × Nat) :=
    [(0xB5, 0x39C), (0xDF, 0xDF), (0x131, 0x49), (0x17F, 0x53), (0x1C5, 0x1C4), (0x1C8, 0x1C7),
    (0x1CB, 0x1CA), (0x1F2, 0x1F1), (0x345, 0x399), (0x3C2, 0x3A3), (0x3D0, 0x392),
    (0x3D1, 0x398), (0x3D5, 0x3A6), (0x3D6, 0x3A0), (0x3F0, 0x39A), (0x3F1, 0x3A1),
    (0x3F5, 0x395), (0x1C80, 0x412), (0x1C81, 0x414), (0x1C82, 0x41E), (0x1C83, 0x421),
    (0x1C84, 0x422), (0x1C85, 0x422), (0x1C86, 0x42A), (0x1C87, 0x462), (0x1C88, 0xA64A),
    (0x1E9B, 0x1E60), (0x1FBE, 0x399)]

/-- The capital letter whose small form is a code point, if there is one. -/
def capitalOf? (c : CodePoint) : Option CodePoint :=
  (capitals.find? fun (first, last, step, distance) =>
    let place : Int := c.val - distance - first
    0 ≤ place && place ≤ last - first && place % step == 0).map fun (_, _, _, distance) =>
      Fin.ofNat _ ((c.val : Int) - distance).toNat

/-- The capital form of a code point. -/
def toUpper (c : CodePoint) : CodePoint :=
  match oddSmalls.lookup c.val with
  | some n => Fin.ofNat _ n
  | none => c.capitalOf?.getD c

end ServiceWiring.CodePoint
