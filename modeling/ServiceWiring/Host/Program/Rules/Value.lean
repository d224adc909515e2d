import ServiceWiring.Host.Binary64.Places
import ServiceWiring.Host.Program.Printing
import ServiceWiring.Host.Program.Rules.Reader

/-!
# Values of rules

A value is a number or a text, or it is still unset and counts as either. What comes from the input
is a text that counts as a number where it looks like one.
-/

namespace ServiceWiring.Rules

/-- A value. -/
inductive Value where
  /-- Nothing has been set. -/
  | unset
  /-- A number. -/
  | number (x : Binary64)
  /-- A text. -/
  | text (t : Text)
  /-- A text from the input. -/
  | input (t : Text)
deriving DecidableEq, Repr, Inhabited

/-- A text of octets. -/
def ofOctets (o : Octets) : Text := o.map fun b => Fin.ofNat _ b.toNat

/-- The octets of a text of octets. -/
def octetsOf (t : Text) : Octets := t.map fun c => .ofNat c.val

/-- Whether a code point stands between fields. -/
def isBlank (c : CodePoint) : Bool := c = 0x20 || 0x09 ≤ c && c ≤ 0x0D

/-- A text in small letters. -/
def lowercase (t : Text) : Text := t.map fun c => if c.isUpper then c + 0x20 else c

/-- A text in capitals. -/
def uppercase (t : Text) : Text := t.map fun c => if c.isLower then c - 0x20 else c

/-- The number that a text starts with, and what follows it; zero, if there is none. -/
def leadingNumber (t : Text) : Binary64 × Text :=
  let t := t.dropWhile isBlank
  let (negative, r) := match t with
    | 0x2D :: r => (true, r)
    | 0x2B :: r => (false, r)
    | r => (false, r)
  let n := numberLength r
  if n ≠ 0 then
    let x := Reading.numberOf (r.take n)
    (if negative then x.neg else x, r.drop n)
  else if lowercase (r.take 3) = "inf" then (.infinite negative, r.drop 3)
  else if lowercase (r.take 3) = "nan" then (.nan, r.drop 3)
  else (Binary64.zero false, t)

/-- Whether a text is a number and nothing else but blanks. -/
def looksNumeric (t : Text) : Bool :=
  let body := t.dropWhile isBlank
  let rest := (leadingNumber body).2
  rest.length < body.length && rest.all isBlank

/-- A number as text, if it is no integer of moderate size in the way that a format asks for. -/
def numberText (format : Text) (x : Binary64) : Text :=
  if x.isInt && x.toInt.natAbs < 2 ^ 63 then Text.ofInt x.toInt
  else
    let sign : Text := if x.isNegative then "-" else []
    let precision := Text.natOfDigits ((format.drop 2).takeWhile CodePoint.isDigit)
    sign ++ x.magnitude (format.getLastD 'g') precision false

namespace Value

/-- The number that a value stands for. -/
def toNumber : Value → Binary64
  | unset => Binary64.zero false
  | number x => x
  | text t | input t => (leadingNumber t).1

/-- The text that a value stands for. -/
def toText (format : Text) : Value → Text
  | unset => []
  | number x => numberText format x
  | text t | input t => t

/-- Whether a value is a number or counts as one. -/
def isNumeric : Value → Bool
  | unset | number _ => true
  | text _ => false
  | input t => looksNumeric t

/-- Whether a value counts as true. -/
def isTrue : Value → Bool
  | unset => false
  | number x => !x.isZero
  | text t => !t.isEmpty
  | input t => if looksNumeric t then !(leadingNumber t).1.isZero else !t.isEmpty

/-- The value of a condition. -/
def ofBool (b : Bool) : Value := number (Binary64.ofInt (if b then 1 else 0))

/-- The value of a count. -/
def ofNat (n : Nat) : Value := number (Binary64.ofInt n)

/-- Which of two values is the greater: as numbers if both are, and as texts otherwise. -/
def compare? (format : Text) (a b : Value) : Option Ordering :=
  if a.isNumeric && b.isNumeric then a.toNumber.compare? b.toNumber
  else
    let (s, t) := (a.toText format, b.toText format)
    some (if s = t then .eq else if s < t then .lt else .gt)

end Value

/-- Whether a comparison holds in an order. -/
def Comparison.holds (c : Comparison) (o : Ordering) : Bool :=
  match c with
  | .less => o = .lt
  | .notGreater => o ≠ .gt
  | .equal => o = .eq
  | .notEqual => o ≠ .eq
  | .notLess => o ≠ .lt
  | .greater => o = .gt

/-! ## Numbers that are not exact -/

/-- The number of a machine. -/
def toFloat : Binary64 → Float
  | .nan => 0.0 / 0.0
  | .infinite s => if s then -1.0 / 0.0 else 1.0 / 0.0
  | .finite s m e =>
    let (mantissa, exponent) :=
      if m < 2 ^ 52 then (m, 0) else (m - 2 ^ 52, (e - Binary64.minExponent + 1).toNat)
    Float.ofBits (.ofNat ((if s then 2 ^ 63 else 0) + exponent * 2 ^ 52 + mantissa))

/-- The binary64 number of a machine. -/
def ofFloat (x : Float) : Binary64 :=
  let n := x.toBits.toNat
  let s := decide (n / 2 ^ 63 = 1)
  let (exponent, mantissa) : Nat × Nat := (n / 2 ^ 52 % 2 ^ 11, n % 2 ^ 52)
  if exponent = 2047 then if mantissa = 0 then .infinite s else .nan
  else if exponent = 0 then .finite s mantissa Binary64.minExponent
  else .finite s (mantissa + 2 ^ 52) (exponent + Binary64.minExponent - 1)

/-- The greatest exponent for which powers are worked out exactly. -/
def maxPower : Nat := 4096

/-- What is calculated from two numbers. -/
def Operation.calculate (op : Operation) (x y : Binary64) : Binary64 :=
  match op with
  | .add => x.add y
  | .subtract => x.sub y
  | .multiply => x.mul y
  | .divide => x.div y
  | .remainder => x.rem y
  | .power =>
    if y.isInt && y.toInt.natAbs ≤ maxPower then x.powInt y.toInt
    else ofFloat ((toFloat x).pow (toFloat y))

/-! ## Formats -/

/-- A value in the way that a directive asks for, if it is one of those that are known. -/
def direct? (format : Text) (d : Printing.Directive) (v : Value) : Option Text :=
  let l := d.layout
  let padded := fun (t : Text) => ofOctets (l.pad (octetsOf t))
  let x := v.toNumber
  let plain : Printing.Layout := { l with precision? := none }
  let real := fun (letter : CodePoint) =>
    plain.padNumber (l.sign x.isNegative) (x.magnitude letter (l.precision?.getD 6) (l.has '#'))
  let whole := fun (base : Nat) (sign : Text) =>
    let digits := (Nat.toDigits base (x.toInt % (2 ^ 64 : Nat)).toNat).map CodePoint.ofChar
    l.padNumber (if l.has '#' && x.toInt ≠ 0 then sign else []) digits
  match Char.ofNat d.letter.val with
  | 'c' =>
    match v with
    | .number x => some (padded [Fin.ofNat _ (x.toInt % 256).toNat])
    | v => some (padded ((v.toText format).take 1))
  | 's' =>
    let t := v.toText format
    some (padded (match l.precision? with
      | some n => t.take n
      | none => t))
  | 'd' | 'i' =>
    if x.isInt || (x.compare? x).isSome && x ≠ .infinite true && x ≠ .infinite false then
      let n := x.toInt
      let digits := if n = 0 && l.precision? = some 0 then [] else Text.ofNat n.natAbs
      some (l.padNumber (l.sign (n < 0)) digits)
    else some (real 'g')
  | 'o' => some (whole 8 "0")
  | 'u' => some (whole 10 [])
  | 'x' => some (whole 16 "0x")
  | 'X' => some (uppercase (whole 16 "0x"))
  | 'f' | 'F' => some (real 'f')
  | 'e' => some (real 'e')
  | 'g' => some (real 'g')
  | 'E' => some (uppercase (real 'e'))
  | 'G' => some (uppercase (real 'g'))
  | _ => none

/-- Why values cannot be written in a format. -/
inductive FormatFlaw where
  /-- There are fewer values than the format asks for. -/
  | fewValues
  /-- A directive is none of those that are known. -/
  | badDirective (spelling : Text)
deriving DecidableEq, Repr

/-- Values in a format. -/
def formatted (number : Text) (format : Text) (values : List Value) : Except FormatFlaw Text := do
  match format with
  | [] => return []
  | 0x25 :: 0x25 :: r => return 0x25 :: (← formatted number r values)
  | 0x25 :: r =>
    let texts := values.map (·.toText number)
    match Printing.readDirective { args := texts } r with
    | (none, _) => throw (.badDirective (0x25 :: r))
    | (some (d, rest), p) =>
      match values.drop (texts.length - p.args.length) with
      | [] => throw .fewValues
      | v :: left =>
        match direct? number d v with
        | none => throw (.badDirective d.spelling)
        | some t =>
          if _h : rest.length ≤ r.length then return t ++ (← formatted number rest left)
          else return t
  | c :: r => return c :: (← formatted number r values)
termination_by format.length
decreasing_by all_goals simp_all; try omega

end ServiceWiring.Rules
