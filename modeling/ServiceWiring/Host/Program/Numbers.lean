import ServiceWiring.Host.Program.Lines

/-!
# Programs for numbers

Programs that read numbers, from their arguments or from the input: one writes the prime factors of
each, one writes each in the way that numbers are written.
-/

namespace ServiceWiring.Program

open ProcessM

/-! ## Prime factors -/

/-- The prime factors of a number in order, each as often as it divides it, if no number from two up
to below `d` divides it. -/
def primeFactors (n d : Nat) : List Nat :=
  if _h : 2 ≤ d ∧ d * d ≤ n then
    if n % d = 0 then d :: primeFactors (n / d) d else primeFactors n (d + 1)
  else if n ≤ 1 then []
  else [n]
termination_by (n, n - d)
decreasing_by
  · have h4 : 2 * 2 ≤ d * d := Nat.mul_le_mul _h.1 _h.1
    exact Prod.Lex.left _ _ (Nat.div_lt_self (by omega) (by omega))
  · have h2 : d * 2 ≤ d * d := Nat.mul_le_mul_left d _h.1
    exact Prod.Lex.right _ (by omega)

/-- Whether a code point stands between numbers of the input. -/
def isNumberGap (c : CodePoint) : Bool := c = 0x20 || c = 0x09 || c = 0x0A

/-- The words of a text that stand between code points of a kind. -/
def wordsBetween (isGap : CodePoint → Bool) (t : Text) : List Text :=
  (Text.splitOn 0x0A (t.map fun c => if isGap c then 0x0A else c)).filter (!·.isEmpty)

/-- The number that is to be taken apart. -/
def wholeNumber? (t : Text) : Option Nat :=
  let t := t.dropWhile (· = 0x20)
  let ds := if t.head? = some 0x2B then t.drop 1 else t
  if ds.isEmpty || !ds.all CodePoint.isDigit then none else some (Text.natOfDigits ds)

/-- Writes the prime factors of numbers. -/
def factor (name : Text) (args : List Text) : ProcessM Nat :=
  withArguments name [] args 1 fun a => do
    let words ←
      if a.operands.isEmpty then
        match ← readAll 0 with
        | .ok o => pure (wordsBetween isNumberGap (Utf8.decodeName o))
        | .error _ => pure []
      else pure a.operands
    words.foldlM (fun (status : Nat) (t : Text) => do
      match wholeNumber? t with
      | some n =>
        let factors := (primeFactors n 2).flatMap fun p => 0x20 :: Text.ofNat p
        say (Text.ofNat n ++ 0x3A :: factors ++ [0x0A])
        return status
      | none =>
        warn name (t.curly ++ " is not a valid positive integer")
        return 1) 0

/-! ## Numbers in lines -/

/-- Why a text is no number that can be written. -/
inductive BadNumber where
  /-- It does not start with one. -/
  | notNumber
  /-- Something follows the number. -/
  | followed
  /-- A letter follows the number that stands for a unit. -/
  | scaled
  /-- It has too many digits. -/
  | tooLarge
deriving DecidableEq, Repr

/-- What is said of a text that is no number. -/
def BadNumber.message (b : BadNumber) (t : Text) : Text :=
  match b with
  | .notNumber => "invalid number: " ++ t.curly
  | .followed => "invalid suffix in input: " ++ t.curly
  | .scaled => "rejecting suffix in input: " ++ t.curly ++ " (consider using --from)"
  | .tooLarge => "value too large to be converted: " ++ t.curly

/-- The digits of a number, without those that add nothing at the front. -/
def leanDigits (ds : Text) : Text :=
  match ds.dropWhile (· = 0x30) with
  | [] => "0"
  | ds => ds

/-- The text of a number, written without needless digits. -/
def numberText (t : Text) : Except BadNumber Text := do
  let (isNegative, r) := match t with
    | 0x2D :: r => (true, r)
    | r => (false, r)
  let whole := r.takeWhile CodePoint.isDigit
  let r := r.drop whole.length
  let (part?, r) := match r with
    | 0x2E :: r =>
      let ds := r.takeWhile CodePoint.isDigit
      (some ds, r.drop ds.length)
    | r => (none, r)
  let part := part?.getD []
  if part.isEmpty && (whole.isEmpty || part?.isSome) then throw .notNumber
  match r with
  | [] => pure ()
  | c :: _ => throw (if (Text.ofString "KMGTPEZY").contains c then .scaled else .followed)
  if 18 < (leanDigits whole).length then throw .tooLarge
  let sign : Text := if isNegative && (whole ++ part).any (· ≠ 0x30) then "-" else []
  return sign ++ leanDigits whole ++ if part.isEmpty then [] else 0x2E :: part

/-- A line whose first word is a number, with the number written without needless digits. Blanks in
front of it keep their width. -/
def numberLine (line : Text) : Except (BadNumber × Text) Text :=
  let isBlank := fun (c : CodePoint) => c = 0x20 || c = 0x09
  let front := line.takeWhile isBlank
  let word := (line.drop front.length).takeWhile (!isBlank ·)
  match numberText word with
  | .error b => .error (b, word)
  | .ok t =>
    let width := if front.isEmpty then 0 else front.length + word.length
    .ok (Text.padLeft width ' ' t ++ line.drop (front.length + word.length))

/-- Writes the lines up to the first one that does not start with a number. -/
def writeNumbers (name : Text) : List Text → ProcessM Nat
  | [] => return 0
  | line :: more => do
    let bare := if line.getLast? = some 0x0A then line.dropLast else line
    match numberLine bare with
    | .error (b, t) =>
      warn name (b.message t)
      return 2
    | .ok t =>
      say (t ++ line.drop bare.length)
      writeNumbers name more

/-- Writes numbers in one way. -/
def numfmt (name : Text) (args : List Text) : ProcessM Nat :=
  withArguments name [] args 1 fun a => do
    if a.operands.isEmpty then
      match ← readAll 0 with
      | .ok o => writeNumbers name ((Octets.lines o).map Utf8.decodeName)
      | .error _ => return 0
    else writeNumbers name (a.operands.map (· ++ [0x0A]))

end ServiceWiring.Program
