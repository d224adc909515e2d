import ServiceWiring.Binary64.Shortest
import ServiceWiring.Json.Basic

/-!
# Writing JSON

Each item and each field stands on a line of its own, indented by four blanks for each level; an
empty list or object is written without a line break. Characters outside ASCII stay as they are.
Inside a text the quote, the backslash and the control characters are escaped.

Not every value can be written: `refusal?` finds the first leaf that JSON has no notation for.
-/

namespace ServiceWiring.Json

/-- One code point of a text: as it is, or as an escape. -/
def escapeOne (c : CodePoint) : Text :=
  if c = '"' then "\\\""
  else if c = '\\' then "\\\\"
  else if c = '\n' then "\\n"
  else if c = '\r' then "\\r"
  else if c = '\t' then "\\t"
  else if c.val = 0x08 then "\\b"
  else if c.val = 0x0C then "\\f"
  else if c.val < 0x20 then "\\u" ++ Text.hex 4 c.val
  else [c]

/-- A text between quotes. -/
def printText (t : Text) : Text := "\"" ++ t.flatMap escapeOne ++ "\""

/-- A line break, and the indentation of the line that follows. -/
def newLine (level : Nat) : Text := "\n" ++ (List.replicate (4 * level) 0x20 : Text)

mutual

/-- The value as it is written at a level of indentation, and after it the rest. -/
def printBefore (level : Nat) (rest : Text) : Json → Text
  | null => "null" ++ rest
  | bool b => (if b then "true" else "false") ++ rest
  | int n => Text.ofInt n ++ rest
  | float x => x.toText ++ rest
  | str t => printText t ++ rest
  | arr items => if items.isEmpty then "[]" ++ rest else printItems level "[" rest items
  | obj fields =>
    if fields.isEmpty then "\x7b\x7d" ++ rest else printFields level "\x7b" rest fields
termination_by structural j => j

/-- The items of a list, the first of them after the mark and each other one after a comma, then the
end of the list and the rest. -/
def printItems (level : Nat) (mark rest : Text) : List Json → Text
  | [] => newLine level ++ ("]" ++ rest)
  | item :: r =>
    mark ++ (newLine (level + 1) ++ printBefore (level + 1) (printItems level "," rest r) item)
termination_by structural l => l

/-- The fields of an object, the first of them after the mark and each other one after a comma, then
the end of the object and the rest. -/
def printFields (level : Nat) (mark rest : Text) : List (Text × Json) → Text
  | [] => newLine level ++ ("\x7d" ++ rest)
  | (name, value) :: r =>
    mark ++ (newLine (level + 1) ++ (printText name ++ (": " ++
      printBefore (level + 1) (printFields level "," rest r) value)))
termination_by structural l => l

end

/-- The document as it is written. -/
def print (j : Json) : Text := printBefore 0 [] j

/-! ## What cannot be written -/

/-- The greatest number of digits of an integer that is read or written. -/
def maxDigits : Nat := 4300

/-- Why a value cannot be written. -/
inductive Refusal where
  /-- The number is an infinity or no number. -/
  | notFinite (x : Binary64)
  /-- The integer has too many digits. -/
  | longInteger
deriving DecidableEq, Repr

/-- Why a number cannot be written, if so. -/
def refusalOfFloat? (x : Binary64) : Option Refusal :=
  match x with
  | .finite .. => none
  | _ => some (.notFinite x)

mutual

/-- The first leaf that cannot be written, in the order of writing. -/
def refusal? : Json → Option Refusal
  | int n => if 10 ^ maxDigits ≤ n.natAbs then some .longInteger else none
  | float x => refusalOfFloat? x
  | arr items => refusalItems? items
  | obj fields => refusalFields? fields
  | _ => none
termination_by structural j => j

/-- The first leaf of the items that cannot be written. -/
def refusalItems? : List Json → Option Refusal
  | [] => none
  | item :: r => (refusal? item).or (refusalItems? r)
termination_by structural l => l

/-- The first leaf of the fields that cannot be written. -/
def refusalFields? : List (Text × Json) → Option Refusal
  | [] => none
  | (_, value) :: r => (refusal? value).or (refusalFields? r)
termination_by structural l => l

end

/-- The wording of a refusal. -/
def Refusal.message : Refusal → Text
  | .notFinite x => "Out of range float values are not JSON compliant: " ++ x.toText
  | .longInteger =>
    "Exceeds the limit (4300 digits) for integer string conversion; " ++
      "use sys.set_int_max_str_digits() to increase the limit"

example : print (.obj [("a", .arr [.int 1, .obj []])]) =
    "\x7b\n    \"a\": [\n        1,\n        \x7b\x7d\n    ]\n\x7d" := by decide

end ServiceWiring.Json
