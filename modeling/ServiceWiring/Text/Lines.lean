import ServiceWiring.Text.Number

/-!
# Lines

Line breaks made uniform, and lines with their numbers.
-/

namespace ServiceWiring.Text

/-- Every line break as one line feed: a carriage return ends a line, alone or with a line feed
after it. -/
def unifyLines : Text → Text
  | [] => []
  | 0x0D :: 0x0A :: r => 0x0A :: unifyLines r
  | 0x0D :: r => 0x0A :: unifyLines r
  | c :: r => c :: unifyLines r

/-- Each line with its number before it, counted from zero. -/
def numberLines (t : Text) : Text :=
  joinWith "\n" ((splitOn '\n' t).zipIdx.map fun (line, i) => ofNat i ++ ": " ++ line)

example : numberLines "a\n" = "0: a\n1: " := by decide

end ServiceWiring.Text
