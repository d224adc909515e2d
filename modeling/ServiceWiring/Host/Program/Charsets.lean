import ServiceWiring.Host.Program.Lines

/-!
# Character sets

A text is written in octets in a character set. A program reads octets in one set and writes them in
another, as far as the octets are a text and the other set has its characters.
-/

namespace ServiceWiring

/-- A way to write characters in octets. -/
inductive Charset where
  /-- All characters, in one to four octets. -/
  | utf8
  /-- The first so many characters, in one octet each. -/
  | first (count : Nat)
deriving DecidableEq, Repr

namespace Charset

/-- The names of character sets, in capital letters. -/
def names : List (Text × Charset) :=
  [("UTF-8", .utf8), ("UTF8", .utf8), ("ASCII", .first 128), ("US-ASCII", .first 128),
    ("ANSI_X3.4-1968", .first 128), ("646", .first 128), ("ISO-8859-1", .first 256),
    ("ISO8859-1", .first 256), ("ISO_8859-1", .first 256), ("LATIN1", .first 256),
    ("L1", .first 256)]

/-- The character set of a name. -/
def ofName? (t : Text) : Option Charset :=
  names.lookup (t.map fun c => if 0x61 ≤ c.val && c.val ≤ 0x7A then c - 0x20 else c)

/-- The text that octets are as far as they are one, and the octets from there on. -/
def read (s : Charset) (o : Octets) : Text × Octets :=
  match s with
  | .utf8 =>
    let t := (Utf8.decodeName o).takeWhile (!Utf8.isEscaped ·)
    (t, o.drop (Utf8.nameOctets t).length)
  | .first n =>
    let known := o.takeWhile (·.toNat < n)
    (known.map fun b => Utf8.codePoint b.toNat, o.drop known.length)

/-- The text that octets are when those are left out that are none. -/
def readLenient (s : Charset) (o : Octets) : Text :=
  match s with
  | .utf8 => (Utf8.decodeName o).filter (!Utf8.isEscaped ·)
  | .first n => (o.filter (·.toNat < n)).map fun b => Utf8.codePoint b.toNat

/-- The octets of a character. -/
def write? (s : Charset) (c : CodePoint) : Option Octets :=
  match s with
  | .utf8 => some (Utf8.encodeOne c)
  | .first n => if c.val < n then some [UInt8.ofNat c.val] else none

example : read .utf8 [0x61, 0xC3, 0xA9, 0xFF] = ([0x61, 0xE9], [0xFF]) := by decide +kernel

end Charset

namespace Program

open ProcessM

/-- The character set that an option names; what follows two slashes is about characters that it
lacks. -/
def charsetOf? (t? : Option Text) : Option Charset :=
  match t? with
  | none => some .utf8
  | some t =>
    let set := t.takeWhile (· ≠ Path.slash)
    if set.isEmpty then some .utf8 else Charset.ofName? set

/-- Writes octets in another character set; complains about the first one that cannot be, unless it
is to be left out. -/
def convert (name : Text) (source target : Charset) (lenient : Bool) (o : Octets) :
    ProcessM Nat := do
  if lenient then
    put ((source.readLenient o).flatMap fun c => (target.write? c).getD [])
    return 0
  let (t, rest) := source.read o
  let written := t.takeWhile fun c => (target.write? c).isSome
  put (written.flatMap fun c => (target.write? c).getD [])
  if written.length = t.length && rest.isEmpty then return 0
  let isCutOff : Bool := match source, Utf8.decode rest with
    | .utf8, .error e => written.length = t.length && e.defect = .cutOff
    | _, _ => false
  let position := (written.flatMap fun c => (source.write? c).getD []).length
  warn name (if isCutOff then "incomplete character or shift sequence at end of buffer"
    else "illegal input sequence at position " ++ Text.ofNat position)
  return 1

/-- Writes files in another character set. -/
def iconv (name : Text) (args : List Text) : ProcessM Nat := do
  let help : ProcessM Unit :=
    complain ("Try \x60" ++ name ++ " --help' or \x60" ++ name ++ " --usage' for more information.")
  let flags : List Flag :=
    [⟨'f', .value, "from-code"⟩, ⟨'t', .value, "to-code"⟩, ⟨'c', .nothing, []⟩,
      ⟨'s', .nothing, "silent"⟩, ⟨'o', .value, "output"⟩]
  match Arguments.read flags true args with
  | .error e =>
    warn name e.message
    help
    return 64
  | .ok a =>
    let quoted := fun (letter : Char) => 0x60 :: (a.value? letter).getD [] ++ "'"
    let refuse : Text → ProcessM Nat := fun message => do
      warn name (message ++ " supported")
      help
      return 1
    match charsetOf? (a.value? 'f'), charsetOf? (a.value? 't') with
    | none, none =>
      refuse ("conversions from " ++ quoted 'f' ++ " and to " ++ quoted 't' ++ " are not")
    | none, some _ => refuse ("conversion from " ++ quoted 'f' ++ " is not")
    | some _, none => refuse ("conversion to " ++ quoted 't' ++ " is not")
    | some source, some target =>
      if let some path := a.value? 'o' then
        match ← openPath .replace path with
        | .ok i => lead 1 i
        | .error _ =>
          warn name "unable to open output file"
          return 1
      let files : List Text := if a.operands.isEmpty then ["-"] else a.operands
      files.foldlM (fun (status : Nat) (file : Text) => do
        match ← readPath file with
        | .ok o => return max status (← convert name source target (a.has 'c') o)
        | .error r =>
          warn name ("cannot open input file \x60" ++ file ++ "': " ++ r.reason)
          return 1) 0

end Program

end ServiceWiring
