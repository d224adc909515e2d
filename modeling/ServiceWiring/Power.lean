/-!
# Powers

Powers of natural numbers and of integers, by repeated multiplication. They are named here so that a
power means the same in each module, whatever other structures on numbers the module knows.
-/

namespace ServiceWiring

/-- The power of a natural number. -/
@[default_instance high]
instance natPower : Pow Nat Nat where
  pow := Nat.pow

/-- The power of an integer. -/
instance intPower : Pow Int Nat where
  pow := Int.pow

end ServiceWiring
