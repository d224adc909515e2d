import ServiceWiring.Power

/-!
# Text

A `Text` is a list of code points. Besides characters it may hold surrogates that stand alone: a
JSON document can name one by an escape, although no UTF-8 file can hold one.

Literals are strings: a `String` is a `Text` and a `Char` a `CodePoint` by coercion.
-/

namespace ServiceWiring

/-- A code point: a character, or a surrogate that stands alone. -/
abbrev CodePoint := Fin 0x110000

/-- There are code points, so that numbers can be written for them. -/
instance someCodePoint : @NeZero Nat (@Zero.ofOfNat0 Nat (instOfNatNat 0)) 0x110000 :=
  @NeZero.mk _ _ _ (by decide)

/-- A run of code points. -/
abbrev Text := List CodePoint

namespace CodePoint

/-- The code point of a character. -/
def ofChar (c : Char) : CodePoint :=
  ⟨c.toNat, by
    rcases c.valid with h | h
    · exact Nat.lt_trans h (by decide)
    · exact h.2⟩

instance : Coe Char CodePoint where
  coe := ofChar

/-- A surrogate: half of a pair that UTF-16 needs, and no character by itself. -/
def isSurrogate (c : CodePoint) : Bool := 0xD800 ≤ c.val && c.val ≤ 0xDFFF

/-- The character of a code point that is no surrogate; a surrogate shows as the replacement mark.
-/
def toChar (c : CodePoint) : Char := if c.isSurrogate then Char.ofNat 0xFFFD else Char.ofNat c.val

/-- One of the ten digits `0` to `9`. -/
def isDigit (c : CodePoint) : Bool := 0x30 ≤ c.val && c.val ≤ 0x39

/-- One of the 26 small letters `a` to `z`. -/
def isLower (c : CodePoint) : Bool := 0x61 ≤ c.val && c.val ≤ 0x7A

/-- One of the 26 capital letters `A` to `Z`. -/
def isUpper (c : CodePoint) : Bool := 0x41 ≤ c.val && c.val ≤ 0x5A

/-- A letter, a digit or an underscore: what a name may hold in ASCII. -/
def isWord (c : CodePoint) : Bool := c.isLower || c.isUpper || c.isDigit || c.val == 0x5F

end CodePoint

namespace Text

/-- The code points of a string. -/
def ofString (s : String) : Text := s.toList.map CodePoint.ofChar

instance : Coe String Text where
  coe := ofString

/-- The characters as a string; a lone surrogate shows as the replacement mark. -/
def toDisplayString (t : Text) : String := String.ofList (t.map CodePoint.toChar)

/-- The pieces between the separators: always one more piece than there are separators. -/
def splitOn (sep : CodePoint) : Text → List Text
  | [] => [[]]
  | c :: r =>
    if c = sep then [] :: splitOn sep r
    else
      match splitOn sep r with
      | [] => [[c]]
      | piece :: pieces => (c :: piece) :: pieces

/-- The pieces with the separator between neighbours. -/
def joinWith (sep : Text) (pieces : List Text) : Text := sep.intercalate pieces

/-- The text without the given code point at its end. -/
def dropRight (c : CodePoint) (t : Text) : Text := (t.reverse.dropWhile (· = c)).reverse

/-- The part before the first separator and, if there is one, the part after it. -/
def cut (sep : CodePoint) : Text → Text × Option Text
  | [] => ([], none)
  | c :: r =>
    if c = sep then ([], some r)
    else
      let (before, after) := cut sep r
      (c :: before, after)

end Text

end ServiceWiring
