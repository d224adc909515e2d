import ServiceWiring.Json.Printer

/-!
# Reading JSON

A reader takes a text and gives a value with the text after it. Besides the standard's notation it
accepts `NaN`, `Infinity` and `-Infinity`, and lone surrogates by their escapes. An error names the
first place where the text goes wrong; places count code points.
-/

namespace ServiceWiring.Json

/-- What is wrong with a text that should be JSON. -/
inductive Defect where
  /-- No value starts here. -/
  | noValue
  /-- No quoted name starts here. -/
  | noName
  /-- The colon after a name is missing. -/
  | noColon
  /-- The comma between two items or fields is missing. -/
  | noComma
  /-- Something follows the document. -/
  | extraData
  /-- The text that starts here does not end. -/
  | unterminated
  /-- A control character stands unescaped in a text. -/
  | controlCharacter
  /-- The character after a backslash means nothing. -/
  | badEscape
  /-- Four digits in base sixteen should follow. -/
  | badUnicodeEscape
  /-- A byte order mark comes before the document. -/
  | byteOrderMark
deriving DecidableEq, Repr

/-- The wording of a defect. -/
def Defect.message : Defect → Text
  | .noValue => "Expecting value"
  | .noName => "Expecting property name enclosed in double quotes"
  | .noColon => "Expecting ':' delimiter"
  | .noComma => "Expecting ',' delimiter"
  | .extraData => "Extra data"
  | .unterminated => "Unterminated string starting at"
  | .controlCharacter => "Invalid control character at"
  | .badEscape => "Invalid \\escape"
  | .badUnicodeEscape => "Invalid \\uXXXX escape"
  | .byteOrderMark => "Unexpected UTF-8 BOM (decode using utf-8-sig)"

/-- Why reading stopped. A defect comes with the number of code points from its place to the end. -/
inductive Stop where
  /-- The text goes wrong at this place. -/
  | defect (d : Defect) (left : Nat)
  /-- An integer has too many digits. -/
  | longInteger
deriving DecidableEq, Repr

/-- The text after the blanks at its start: space, tab, line feed and carriage return. -/
def skipBlanks (t : Text) : Text :=
  t.dropWhile fun c => c.val = 0x20 || c.val = 0x09 || c.val = 0x0A || c.val = 0x0D

/-! ## Texts -/

/-- The character that a one-letter escape stands for. -/
def unescape? (c : CodePoint) : Option CodePoint :=
  match c with
  | 0x22 => some 0x22
  | 0x5C => some 0x5C
  | 0x2F => some 0x2F
  | 0x62 => some 0x08
  | 0x66 => some 0x0C
  | 0x6E => some 0x0A
  | 0x72 => some 0x0D
  | 0x74 => some 0x09
  | _ => none

/-- The number that four digits in base sixteen stand for. -/
def hexQuad? (a b c d : CodePoint) : Option Nat := do
  let a ← Text.hexDigit? a
  let b ← Text.hexDigit? b
  let c ← Text.hexDigit? c
  let d ← Text.hexDigit? d
  return ((a * 16 + b) * 16 + c) * 16 + d

/-- A code unit from an escape before what was read after it. Two escapes that form a surrogate pair
are one character. -/
def consUnit (unit : Nat) (escapeFollows : Bool) (t : Text) : Text :=
  match t with
  | c :: r =>
    if escapeFollows && 0xD800 ≤ unit && unit ≤ 0xDBFF && 0xDC00 ≤ c.val && c.val ≤ 0xDFFF then
      Fin.ofNat _ (0x10000 + (unit - 0xD800) * 0x400 + (c.val - 0xDC00)) :: r
    else Fin.ofNat _ unit :: t
  | [] => [Fin.ofNat _ unit]

/-- Whether an escape by number starts here. -/
def startsUnit : Text → Bool
  | 0x5C :: 0x75 :: _ => true
  | _ => false

/-- Reads a text up to its closing quote; `opening` is the number of code points from the opening
quote to the end. An escape by number needs something after its digits. -/
def readText (opening : Nat) : Text → Except Stop (Text × Text)
  | [] => .error (.defect .unterminated opening)
  | 0x22 :: r => .ok ([], r)
  | [0x5C] => .error (.defect .unterminated opening)
  | 0x5C :: 0x75 :: a :: b :: c :: d :: r =>
    match hexQuad? a b c d with
    | none => .error (.defect .badUnicodeEscape (r.length + 5))
    | some unit =>
      if r.isEmpty then .error (.defect .badUnicodeEscape 5)
      else (readText opening r).map fun (t, rest) => (consUnit unit (startsUnit r) t, rest)
  | 0x5C :: 0x75 :: r => .error (.defect .badUnicodeEscape (r.length + 1))
  | 0x5C :: c :: r =>
    match unescape? c with
    | none => .error (.defect .badEscape (r.length + 2))
    | some u => (readText opening r).map fun (t, rest) => (u :: t, rest)
  | c :: r =>
    if c.val < 0x20 then .error (.defect .controlCharacter (r.length + 1))
    else (readText opening r).map fun (t, rest) => (c :: t, rest)

/-! ## Numbers -/

/-- The digits at the start of a text, and the rest. -/
def spanDigits (t : Text) : Text × Text :=
  (t.takeWhile CodePoint.isDigit, t.dropWhile CodePoint.isDigit)

/-- The digits before the point: a zero by itself, or digits that do not start with one. -/
def spanWhole : Text → Text × Text
  | 0x30 :: r => ([0x30], r)
  | t => spanDigits t

/-- The digits after a point; without a digit the point does not belong to the number. -/
def spanFraction : Text → Text × Text
  | 0x2E :: r => if (spanDigits r).1.isEmpty then ([], 0x2E :: r) else spanDigits r
  | t => ([], t)

/-- The sign and the digits of an exponent; without a digit there is no exponent. -/
def spanExponent (t : Text) : Option (Bool × Text) × Text :=
  match t with
  | c :: r =>
    if c.val = 0x65 || c.val = 0x45 then
      let (negative, r) : Bool × Text :=
        match r with
        | 0x2D :: r => (true, r)
        | 0x2B :: r => (false, r)
        | r => (false, r)
      let (ds, rest) := spanDigits r
      if ds.isEmpty then (none, t) else (some (negative, ds), rest)
    else (none, t)
  | [] => (none, [])

/-- The number with the given sign and digits. -/
def ofDigits (negative : Bool) (whole fraction : Text) (exponent : Option (Bool × Text)) :
    Except Stop Json :=
  if fraction.isEmpty && exponent.isNone then
    if maxDigits < whole.length then .error .longInteger
    else
      let n : Int := Text.natOfDigits whole
      .ok (.int (if negative then -n else n))
  else
    let e : Int :=
      match exponent with
      | none => 0
      | some (true, ds) => -(Text.natOfDigits ds : Int)
      | some (false, ds) => Text.natOfDigits ds
    let digits := whole ++ fraction
    .ok (.float (Binary64.ofDecimal negative (Text.natOfDigits digits) digits.length
      (e - fraction.length)))

/-- Reads a number, or finds none. -/
def readNumber (t : Text) : Except Stop (Json × Text) := do
  let (negative, r) : Bool × Text :=
    match t with
    | 0x2D :: r => (true, r)
    | r => (false, r)
  let (whole, r) := spanWhole r
  if whole.isEmpty then throw (.defect .noValue t.length)
  let (fraction, r) := spanFraction r
  let (exponent, r) := spanExponent r
  return (← ofDigits negative whole fraction exponent, r)

/-- The values that are written as words. -/
def words : List (Text × Json) :=
  [("null", .null), ("true", .bool true), ("false", .bool false), ("NaN", .float .nan),
    ("Infinity", .float (.infinite false)), ("-Infinity", .float (.infinite true))]

/-- Reads a value that is neither a text nor a list nor an object. -/
def readScalar (t : Text) : Except Stop (Json × Text) :=
  match words.find? fun (word, _) => word.isPrefixOf t with
  | some (word, value) => .ok (value, t.drop word.length)
  | none => readNumber t

/-! ## Values -/

mutual

/-- Reads a value. Each call takes one unit of fuel, and a text of `n` code points needs `2 * n +
1`. -/
def readValue : Nat → Text → Except Stop (Json × Text)
  | 0, t => .error (.defect .noValue t.length)
  | fuel + 1, t =>
    match t with
    | 0x22 :: r => do
      let (s, rest) ← readText t.length r
      return (.str s, rest)
    | 0x5B :: r =>
      match skipBlanks r with
      | 0x5D :: rest => .ok (.arr [], rest)
      | r => do
        let (items, rest) ← readItems fuel r
        return (.arr items, rest)
    | 0x7B :: r =>
      match skipBlanks r with
      | 0x7D :: rest => .ok (.obj [], rest)
      | r => do
        let (fields, rest) ← readFields fuel r
        return (ofFields fields, rest)
    | _ => readScalar t

/-- Reads the items of a list from the start of one up to the closing bracket. -/
def readItems : Nat → Text → Except Stop (List Json × Text)
  | 0, t => .error (.defect .noValue t.length)
  | fuel + 1, t => do
    let (item, r) ← readValue fuel t
    match skipBlanks r with
    | 0x5D :: rest => return ([item], rest)
    | 0x2C :: r =>
      let (items, rest) ← readItems fuel (skipBlanks r)
      return (item :: items, rest)
    | r => throw (.defect .noComma r.length)

/-- Reads the fields of an object from the start of one up to the closing brace. -/
def readFields : Nat → Text → Except Stop (List (Text × Json) × Text)
  | 0, t => .error (.defect .noValue t.length)
  | fuel + 1, t =>
    match t with
    | 0x22 :: r => do
      let (name, r) ← readText t.length r
      match skipBlanks r with
      | 0x3A :: r =>
        let (value, r) ← readValue fuel (skipBlanks r)
        match skipBlanks r with
        | 0x7D :: rest => return ([(name, value)], rest)
        | 0x2C :: r =>
          let (fields, rest) ← readFields fuel (skipBlanks r)
          return ((name, value) :: fields, rest)
        | r => throw (.defect .noComma r.length)
      | r => throw (.defect .noColon r.length)
    | _ => .error (.defect .noName t.length)

end

/-- Reads a document: one value, with blanks around it and nothing else. -/
def readDocument (t : Text) : Except Stop Json := do
  if t.head? = some 0xFEFF then throw (.defect .byteOrderMark t.length)
  let (value, rest) ← readValue (2 * t.length + 1) (skipBlanks t)
  let rest := skipBlanks rest
  if rest.isEmpty then return value else throw (.defect .extraData rest.length)

/-! ## Errors with their place -/

/-- Why a text is no document. -/
inductive ReadError where
  /-- The text goes wrong after that many code points. -/
  | defect (d : Defect) (line column offset : Nat)
  /-- An integer has too many digits. -/
  | longInteger
deriving DecidableEq, Repr

/-- The error with its place: lines and columns count from one. -/
def Stop.locate (t : Text) : Stop → ReadError
  | .longInteger => .longInteger
  | .defect d left =>
    let before := t.take (t.length - left)
    let line := before.count 0x0A + 1
    let column := (before.reverse.takeWhile (· ≠ 0x0A)).length + 1
    .defect d line column before.length

/-- The document that a text holds. -/
def read (t : Text) : Except ReadError Json := (readDocument t).mapError (·.locate t)

example : (read "[1, ").toOption.isNone ∧ (read "\"\\ud83d\\ude00\"").toOption.isSome := by decide

end ServiceWiring.Json
