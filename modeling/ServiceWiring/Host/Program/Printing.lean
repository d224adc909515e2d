import ServiceWiring.Host.Binary64.Places
import ServiceWiring.Host.Program.Options

/-!
# Writing arguments

`echo` and `printf` come in two builds: one is part of the shell, the other a program of its own.
They differ in the escapes that they know and in the wording of their complaints.
-/

namespace ServiceWiring.Printing

/-- Which of the two builds writes. -/
inductive Build where
  /-- The one that is part of the shell. -/
  | shell
  /-- The program of its own. -/
  | program
deriving DecidableEq, Repr

/-! ## Escapes -/

/-- What stands after a backslash. -/
inductive Escape where
  /-- An escape for octets, and what follows it. -/
  | octets (o : Octets) (rest : Text)
  /-- The escape that ends all writing. -/
  | halt
  /-- No escape. -/
  | none
deriving DecidableEq, Repr

/-- The digits at the start of a text, no more than so many. -/
def digitsOf (isDigit : CodePoint → Bool) (most : Nat) (t : Text) : Text :=
  (t.take most).takeWhile isDigit

/-- One of the eight digits `0` to `7`. -/
def isOctal (c : CodePoint) : Bool := 0x30 ≤ c && c ≤ 0x37

/-- The number that digits stand for in a base. -/
def number (base : Nat) (ds : Text) : Nat :=
  ds.foldl (fun n d => base * n + (Text.hexDigit? d).getD 0) 0

/-- The octet that a letter stands for after a backslash. -/
def letterOctet? (c : CodePoint) : Option UInt8 :=
  match c with
  | 0x5C => some 0x5C
  | 0x61 => some 0x07
  | 0x62 => some 0x08
  | 0x66 => some 0x0C
  | 0x6E => some 0x0A
  | 0x72 => some 0x0D
  | 0x74 => some 0x09
  | 0x76 => some 0x0B
  | 0x65 => some 0x1B
  | _ => none

/-- The escape at the start of what follows a backslash. With `zeroFirst` an octal number starts
with a zero that does not count as one of its three digits. -/
def escape (build : Build) (zeroFirst : Bool) (t : Text) : Escape :=
  let octal := fun (t : Text) =>
    let ds := digitsOf isOctal 3 t
    Escape.octets [.ofNat (number 8 ds)] (t.drop ds.length)
  match t with
  | [] => .none
  | c :: r =>
    if c = 0x63 then .halt
    else if zeroFirst && c = 0x30 then
      if r.head?.any isOctal then octal r else .octets [0] r
    else if isOctal c && (build = .shell || !zeroFirst) then octal t
    else if build = .program && c = 0x78 then
      let ds := digitsOf (fun d => (Text.hexDigit? d).isSome) 2 r
      if ds.isEmpty then .none else .octets [.ofNat (number 16 ds)] (r.drop ds.length)
    else
      match letterOctet? c with
      | some b => .octets [b] r
      | none => .none

/-- The octets of a text with its escapes replaced, and whether one of them ends all writing. -/
def replaceEscapes (build : Build) (t : Text) : Octets × Bool :=
  match t with
  | [] => ([], false)
  | c :: r =>
    if c = 0x5C then
      match escape build true r with
      | .octets o rest =>
        if _h : rest.length ≤ r.length then
          let (more, halts) := replaceEscapes build rest
          (o ++ more, halts)
        else (o, false)
      | .halt => ([], true)
      | .none =>
        let (more, halts) := replaceEscapes build r
        (0x5C :: more, halts)
    else
      let (more, halts) := replaceEscapes build r
      (Utf8.nameOctets [c] ++ more, halts)
termination_by t.length
decreasing_by all_goals simp_all; try omega

/-! ## echo -/

/-- What `echo` writes in the shell. -/
def shellEcho (args : List Text) : Octets :=
  let (line, args) := match args with
    | [0x2D, 0x6E] :: r => (false, r)
    | args => (true, args)
  let (o, halts) := replaceEscapes .shell (Text.joinWith " " args)
  o ++ if line && !halts then [0x0A] else []

/-- Whether an argument is made of options of `echo`. -/
def isEchoOption (arg : Text) : Bool :=
  match arg with
  | 0x2D :: c :: r => (c :: r).all fun c => c = 0x6E || c = 0x65 || c = 0x45
  | _ => false

/-- What `echo` writes as a program of its own. -/
def programEcho (args : List Text) : Octets :=
  let letters := (args.takeWhile isEchoOption).flatMap (·.drop 1)
  let escapes := (letters.filter (· ≠ 0x6E)).getLast? = some 0x65
  let t := Text.joinWith " " (args.dropWhile isEchoOption)
  let (o, halts) := if escapes then replaceEscapes .program t else (Utf8.nameOctets t, false)
  o ++ if letters.contains 0x6E || halts then [] else [0x0A]

/-! ## printf -/

/-- How a value is laid out. -/
structure Layout where
  /-- The letters before the width. -/
  marks : Text := []
  /-- The least width. -/
  width : Nat := 0
  /-- The number of digits or octets. -/
  precision? : Option Nat := none
deriving DecidableEq, Repr

namespace Layout

/-- Whether a mark is given. -/
def has (l : Layout) (c : Char) : Bool := l.marks.contains (CodePoint.ofChar c)

/-- Octets with blanks up to the width. -/
def pad (l : Layout) (o : Octets) : Octets :=
  let blanks := List.replicate (l.width - o.length) 0x20
  if l.has '-' then o ++ blanks else blanks ++ o

/-- The digits of a number with its sign in front, up to the width. -/
def padNumber (l : Layout) (sign digits : Text) : Text :=
  let digits := match l.precision? with
    | some n => Text.padLeft n '0' digits
    | none => digits
  let width := l.width - sign.length
  if l.has '-' then
    sign ++ digits ++ List.replicate (width - digits.length) 0x20
  else if l.has '0' && l.precision?.isNone then sign ++ Text.padLeft width '0' digits
  else Text.padLeft l.width ' ' (sign ++ digits)

/-- The sign of a number. -/
def sign (l : Layout) (negative : Bool) : Text :=
  if negative then "-" else if l.has '+' then "+" else if l.has ' ' then " " else []

end Layout

/-- What is wrong with the number that a text stands for. -/
inductive Doubt where
  /-- It is none. -/
  | noNumber
  /-- Something follows it. -/
  | notAll
  /-- It is too large. -/
  | tooLarge
deriving DecidableEq, Repr

/-- The number that a text starts with, in a base that it tells, and what follows. -/
def readInteger (t : Text) : Int × Text :=
  let t := t.dropWhile fun c => c = 0x20 || 0x09 ≤ c && c ≤ 0x0D
  let (negative, t) := match t with
    | 0x2D :: r => (true, r)
    | 0x2B :: r => (false, r)
    | t => (false, t)
  let isHex := fun c => (Text.hexDigit? c).isSome
  let (n, rest) := match t with
    | 0x30 :: x :: d :: r =>
      if (x = 0x78 || x = 0x58) && isHex d then
        (number 16 ((d :: r).takeWhile isHex), (d :: r).dropWhile isHex)
      else (number 8 (t.takeWhile isOctal), t.dropWhile isOctal)
    | 0x30 :: _ => (number 8 (t.takeWhile isOctal), t.dropWhile isOctal)
    | t => (number 10 (t.takeWhile CodePoint.isDigit), t.dropWhile CodePoint.isDigit)
  (if negative then -(n : Int) else n, rest)

/-- The integer that an argument stands for, and what is wrong with it. -/
def integerOf (signed : Bool) (arg : Text) : Int × Option Doubt :=
  match arg with
  | 0x27 :: c :: _ | 0x22 :: c :: _ => (((Utf8.nameOctets [c]).headD 0).toNat, none)
  | arg =>
    let (n, rest) := readInteger arg
    let (least, most) : Int × Int :=
      if signed then (-(2 ^ 63 : Nat), (2 ^ 63 - 1 : Nat))
      else (-(2 ^ 64 - 1 : Nat), (2 ^ 64 - 1 : Nat))
    let kept := min (max n least) most
    let doubt? : Option Doubt :=
      if rest.length = arg.length && !arg.isEmpty then some .noNumber
      else if !rest.isEmpty then some .notAll
      else if n ≠ kept then some .tooLarge
      else none
    (kept, doubt?)

/-- The decimal fraction that a text starts with, as an integer and a number of places, and what
follows. -/
def readDecimal (t : Text) : Int × Int × Text :=
  let t := t.dropWhile fun c => c = 0x20 || 0x09 ≤ c && c ≤ 0x0D
  let (negative, t) := match t with
    | 0x2D :: r => (true, r)
    | 0x2B :: r => (false, r)
    | t => (false, t)
  let whole := t.takeWhile CodePoint.isDigit
  let (places, rest) := match t.dropWhile CodePoint.isDigit with
    | 0x2E :: r => (r.takeWhile CodePoint.isDigit, r.dropWhile CodePoint.isDigit)
    | r => ([], r)
  let (exponent, rest) : Int × Text := match rest with
    | e :: r =>
      if (e = 0x65 || e = 0x45) && !(whole ++ places).isEmpty then
        let (n, r') := readInteger r
        if r'.length < r.length then (n, r') else (0, rest)
      else (0, rest)
    | [] => (0, [])
  let n : Int := Text.natOfDigits (whole ++ places)
  (if negative then -n else n, (places.length : Int) - exponent, rest)

/-- A directive of a format. -/
structure Directive where
  /-- How the value is laid out. -/
  layout : Layout
  /-- The letter that says what the value is. -/
  letter : CodePoint
  /-- The directive as it is spelled. -/
  spelling : Text
deriving Repr

/-- What has been written of a format, and the arguments that are left. -/
structure Progress where
  /-- What has been written. -/
  output : Octets := []
  /-- The complaints, in order. -/
  complaints : List Text := []
  /-- The arguments that are left. -/
  args : List Text
  /-- Whether all writing has ended. -/
  halted : Bool := false
  /-- Whether the rest is given up. -/
  failed : Bool := false
deriving Repr

namespace Progress

/-- More output. -/
def emit (p : Progress) (o : Octets) : Progress := { p with output := p.output ++ o }

/-- One more complaint. -/
def complain (p : Progress) (t : Text) : Progress := { p with complaints := p.complaints ++ [t] }

/-- The next argument; one that is missing is empty. -/
def next (p : Progress) : Option Text × Progress := (p.args.head?, { p with args := p.args.drop 1 })

/-- The mantissa of 64 bits and the exponent of the number nearest to a quotient. -/
def wide (num den : Nat) : Nat × Int :=
  if num = 0 then (0, 0)
  else
    let e := Binary64.floorLog2 num den - 63
    (Binary64.roundDiv (num * 2 ^ (-e).toNat) (den * 2 ^ e.toNat), e)

/-- How many places a number may have for its digits to be worked out. -/
def maxPlaces : Nat := 5000

/-- The magnitude of a decimal fraction in the way that a letter asks for. The build of the shell
rounds it to a binary64 number first, the other one to a number with a longer mantissa. -/
def fraction (build : Build) (l : Layout) (letter : CodePoint) (n : Nat) (places : Int) : Text :=
  let precision := l.precision?.getD 6
  let small := if letter.isUpper then letter + 0x20 else letter
  let x : Binary64 :=
    if build = .program && places.natAbs ≤ maxPlaces then
      let (m, e) := wide (n * 10 ^ (-places).toNat) (10 ^ places.toNat)
      .finite false m e
    else Binary64.ofDecimal false n (Text.ofNat n).length (-places)
  let t := x.magnitude small precision (l.has '#')
  if letter.isUpper then t.map fun c => if c.isLower then c - 0x20 else c else t

/-- A complaint about a number. -/
def doubt (p : Progress) (build : Build) (arg : Text) : Option Doubt → Progress
  | none => p
  | some d =>
    let wording : Text := match build, d with
      | .shell, .noNumber => "expected numeric value"
      | .shell, .notAll => "not completely converted"
      | .program, .noNumber => "expected a numeric value"
      | .program, .notAll => "value not completely converted"
      | _, .tooLarge => "Numerical result out of range"
    p.complain ((if build = .shell then arg else arg.curly) ++ ": " ++ wording)

/-- The directive with an argument. -/
def direct (p : Progress) (build : Build) (d : Directive) : Progress :=
  let l := d.layout
  let (arg?, p) := p.next
  let arg := arg?.getD []
  let cut := fun (o : Octets) => match l.precision? with
    | some n => o.take n
    | none => o
  match d.letter with
  | 0x73 => p.emit (l.pad (cut (Utf8.nameOctets arg)))
  | 0x62 =>
    let (o, halts) := replaceEscapes build arg
    { p.emit (l.pad (cut o)) with halted := halts }
  | 0x63 => p.emit (l.pad [(Utf8.nameOctets arg).headD 0])
  | 0x64 | 0x69 =>
    let (n, doubt?) := integerOf true arg
    let digits := if n = 0 && l.precision? = some 0 then [] else Text.ofNat n.natAbs
    (p.emit (Utf8.nameOctets (l.padNumber (l.sign (n < 0)) digits))).doubt build arg doubt?
  | 0x65 | 0x66 | 0x67 | 0x45 | 0x46 | 0x47 =>
    let (n, places, rest) := readDecimal arg
    let doubt? : Option Doubt := if rest.length = arg.length && !arg.isEmpty then some .noNumber
      else if rest.isEmpty then none else some .notAll
    let digits := fraction build l d.letter n.natAbs places
    let plain : Layout := { l with precision? := none }
    let t := plain.padNumber (l.sign (n < 0 || arg.head? = some 0x2D)) digits
    (p.emit (Utf8.nameOctets t)).doubt build arg doubt?
  | letter =>
    let base? : Option Nat := match letter with
      | 0x75 => some 10
      | 0x6F => some 8
      | 0x78 | 0x58 => some 16
      | _ => none
    match base? with
    | none =>
      let wording : Text :=
        if build = .shell then "invalid directive" else "invalid conversion specification"
      { p.complain (d.spelling ++ ": " ++ wording) with failed := true }
    | some base =>
      let (n, doubt?) := integerOf false arg
      let n := (n % (2 ^ 64 : Nat)).toNat
      let digits := (Nat.toDigits base n).map CodePoint.ofChar
      let digits := if letter = 0x58 then digits.map fun c => if c.isLower then c - 0x20 else c
        else digits
      let alternate : Text := if !l.has '#' || n = 0 then [] else match letter with
        | 0x6F => "0"
        | 0x78 => "0x"
        | 0x58 => "0X"
        | _ => []
      (p.emit (Utf8.nameOctets (l.padNumber alternate digits))).doubt build arg doubt?

end Progress

/-- A width or a precision that is spelled out or taken from an argument, and what follows it. -/
def readCount (p : Progress) (t : Text) : Int × Text × Progress :=
  match t with
  | 0x2A :: r =>
    let (arg?, p) := p.next
    ((integerOf true (arg?.getD [])).1, r, p)
  | t =>
    (Text.natOfDigits (t.takeWhile CodePoint.isDigit), t.dropWhile CodePoint.isDigit, p)

/-- The directive after a percent sign, what follows it, and what is left of the arguments. -/
def readDirective (p : Progress) (t : Text) : Option (Directive × Text) × Progress :=
  let isMark := fun c => (Text.ofString "#-+ 0").contains c
  let marks := t.takeWhile isMark
  let (width, r, p) := readCount p (t.dropWhile isMark)
  let (precision?, r, p) := match r with
    | 0x2E :: r =>
      let (n, r, p) := readCount p r
      (if n < 0 then none else some n.toNat, r, p)
    | r => (none, r, p)
  let marks := if width < 0 then 0x2D :: marks else marks
  match r with
  | [] => (none, p)
  | letter :: rest =>
    let spelling := 0x25 :: t.take (t.length - rest.length)
    (some (⟨⟨marks, width.natAbs, precision?⟩, letter, spelling⟩, rest), p)

/-- Goes through a format once. -/
def formatOnce (build : Build) (p : Progress) (format : Text) : Progress :=
  if p.halted || p.failed then p
  else
    match format with
    | [] => p
    | 0x25 :: 0x25 :: r => formatOnce build (p.emit [0x25]) r
    | 0x25 :: r =>
      match readDirective p r with
      | (none, p) =>
        let spelling : Text := if build = .shell then "missing format character"
          else "%" ++ r ++ ": invalid conversion specification"
        { p.complain spelling with failed := true }
      | (some (d, rest), p) =>
        if _h : rest.length ≤ r.length then formatOnce build (p.direct build d) rest else p
    | 0x5C :: r =>
      match escape build false r with
      | .octets o rest =>
        if _h : rest.length ≤ r.length then formatOnce build (p.emit o) rest else p
      | .halt =>
        if build = .program then { p with halted := true }
        else formatOnce build (p.emit [0x5C]) r
      | .none => formatOnce build (p.emit [0x5C]) r
    | c :: r => formatOnce build (p.emit (Utf8.nameOctets [c])) r
termination_by format.length
decreasing_by all_goals simp_all; try omega

/-- Goes through a format as often as there are arguments for it. -/
def formatAll (build : Build) (format : Text) (p : Progress) : Nat → Progress
  | 0 => p
  | fuel + 1 =>
    let q := formatOnce build p format
    if q.halted || q.failed || q.args.isEmpty || q.args.length = p.args.length then q
    else formatAll build format q fuel

/-- What `printf` writes, its complaints, and its status. -/
def printf (build : Build) (format : Text) (args : List Text) : Octets × List Text × Nat :=
  let p := formatAll build format { args } (args.length + 1)
  let excess := match p.args with
    | arg :: _ =>
      if build = .program && !p.halted && !p.failed then
        [("warning: ignoring excess arguments, starting with " : Text) ++ arg.curly] else []
    | [] => []
  let status := if p.failed && build = .shell then 2 else if p.complaints.isEmpty then 0 else 1
  (p.output, p.complaints ++ excess, status)

end ServiceWiring.Printing
