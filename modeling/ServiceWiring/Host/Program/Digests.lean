import ServiceWiring.Host.Digest.Blake2
import ServiceWiring.Host.Digest.Check
import ServiceWiring.Host.Digest.Md5
import ServiceWiring.Host.Digest.Sha1
import ServiceWiring.Host.Program.Lines
import ServiceWiring.Text.Lowercase

/-!
# Programs for digests

Programs that write digests of files, and that compare files with digests that were written before.
-/

namespace ServiceWiring

namespace Digest

/-- The digest of octets. -/
def ofOctets (d : Digest) (length : Nat) : Octets → Octets :=
  match d with
  | md5 => Md5.ofOctets
  | sha1 => Sha1.ofOctets
  | sha224 => Sha2.sha224
  | sha256 => Sha2.sha256
  | sha384 => Sha2.sha384
  | sha512 => Sha2.sha512
  | blake2 => Blake2.ofOctets length

/-- How many octets a digest has, or at most has. -/
def size : Digest → Nat
  | md5 => 16
  | sha1 => 20
  | sha224 => 28
  | sha256 => 32
  | sha384 => 48
  | sha512 | blake2 => 64

/-- What a digest is called in a line that names it. -/
def title : Digest → Text
  | md5 => "MD5"
  | sha1 => "SHA1"
  | sha224 => "SHA224"
  | sha256 => "SHA256"
  | sha384 => "SHA384"
  | sha512 => "SHA512"
  | blake2 => "BLAKE2b"

end Digest

namespace Program

open ProcessM

/-- Octets in base 16. -/
def inHex (o : Octets) : Text := o.flatMap fun b => Text.hex 2 b.toNat

/-- A name with a backslash before what would break a line, and whether there is any. -/
def escapeName (t : Text) : Text × Bool :=
  (t.flatMap fun c =>
    if c = 0x5C then [0x5C, 0x5C] else if c = 0x0A then [0x5C, 0x6E]
    else if c = 0x0D then [0x5C, 0x72] else [c],
    t.any fun c => c = 0x5C || c = 0x0A || c = 0x0D)

/-- The name that `escapeName` wrote. -/
def unescapeName : Text → Text
  | 0x5C :: 0x5C :: r => 0x5C :: unescapeName r
  | 0x5C :: 0x6E :: r => 0x0A :: unescapeName r
  | 0x5C :: 0x72 :: r => 0x0D :: unescapeName r
  | c :: r => c :: unescapeName r
  | [] => []

/-- The line that gives the digest of a file. -/
def digestLine (d : Digest) (length : Nat) (tagged binary zero : Bool) (file hex : Text) : Text :=
  let (shown, isEscaped) := if zero then (file, false) else escapeName file
  let start : Text := if isEscaped then "\\" else []
  let ending : CodePoint := if zero then 0 else 0x0A
  let title := d.title ++ if d = .blake2 && length < d.size then
      "-" ++ Text.ofNat (8 * length) else []
  start ++ (if tagged then title ++ " (" ++ shown ++ ") = " ++ hex
    else hex ++ " " ++ (if binary then "*" else " ") ++ shown) ++ [ending]

/-- A digest in base 16 and the file that it is of, as a line gives them. -/
def readDigestLine (d : Digest) (line : Text) : Option (Text × Text) := do
  let line := line.dropWhile fun c => c = 0x20 || c = 0x09
  let (isEscaped, line) := match line with
    | 0x5C :: r => (true, r)
    | r => (false, r)
  let name := fun (t : Text) => if isEscaped then unescapeName t else t
  let isHex := fun (t : Text) =>
    t.length = 2 * d.size && t.all fun c => (Text.hexDigit? c).isSome
  let isFit := fun (t : Text) => if d = .blake2 then
      t.length % 2 = 0 && 0 < t.length && t.length ≤ 128 && t.all fun c =>
        (Text.hexDigit? c).isSome
    else isHex t
  if d.title.isPrefixOf line then
    let r := line.drop d.title.length
    let r := if d = .blake2 && r.head? = some 0x2D then
        (r.drop 1).dropWhile CodePoint.isDigit else r
    let r := match r with
      | 0x20 :: r => r
      | r => r
    match r with
    | 0x28 :: r =>
      -- The last closing bracket ends the name.
      let back := r.reverse
      let hex := (back.takeWhile (· ≠ 0x29)).reverse
      let file := ((back.dropWhile (· ≠ 0x29)).drop 1).reverse
      let hex := hex.dropWhile fun c => c = 0x20 || c = 0x3D
      if back.contains 0x29 && isFit hex then some (hex, name file) else none
    | _ => none
  else
    let hex := line.takeWhile fun c => (Text.hexDigit? c).isSome
    if !isFit hex then none
    match line.drop hex.length with
    | 0x20 :: mark :: r =>
      if mark = 0x20 || mark = 0x2A then if r.isEmpty then none else some (hex, name r)
      else some (hex, name (mark :: r))
    | _ => none

/-- What a comparison found. -/
structure Comparison where
  /-- How many lines give a digest. -/
  formed : Nat := 0
  /-- How many lines do not. -/
  malformed : Nat := 0
  /-- How many files cannot be read. -/
  unread : Nat := 0
  /-- How many files have another digest. -/
  different : Nat := 0
  /-- How many files have the digest that is given. -/
  same : Nat := 0

/-- Compares files with the digests that the lines of one file give. -/
def compareDigests (name : Text) (d : Digest) (a : Arguments) (list : Text) : ProcessM Bool := do
  let shown : Text := if list = "-" then "'standard input'" else list.shellWord
  match ← readPath list with
  | .error r =>
    warn name (list.shellWord ++ ": " ++ r.reason)
    return false
  | .ok o =>
    let silent := a.has 'T'
    let lines := ((Octets.bareLines o).map Utf8.decodeName).zipIdx
    let result ← lines.foldlM (fun (c : Comparison) (line, i) => do
      if line.head? = some 0x23 then return c
      match readDigestLine d line with
      | none =>
        if a.has 'w' then
          warn name (shown ++ ": " ++ Text.ofNat (i + 1) ++ ": improperly formatted " ++ d.title ++
            " checksum line")
        return { c with malformed := c.malformed + 1 }
      | some (hex, file) =>
        let c := { c with formed := c.formed + 1 }
        let (escaped, isEscaped) := escapeName file
        let shown : Text := if isEscaped then 0x5C :: escaped else escaped
        match ← readPath file with
        | .error r =>
          if a.has 'I' && r = .noEntry then return c
          warn name (file.shellWord ++ ": " ++ r.reason)
          unless silent do say (shown ++ ": FAILED open or read\n")
          return { c with unread := c.unread + 1 }
        | .ok o =>
          if inHex (d.ofOctets (hex.length / 2) o) = hex.map CodePoint.toLower then
            unless silent || a.has 'Q' do say (shown ++ ": OK\n")
            return { c with same := c.same + 1 }
          else
            unless silent do say (shown ++ ": FAILED\n")
            return { c with different := c.different + 1 }) ({} : Comparison)
    let warning := fun (n : Nat) (one many : Text) =>
      if 0 < n && !silent then
        warn name ("WARNING: " ++ Text.ofNat n ++ " " ++ if n = 1 then one else many)
      else pure ()
    if result.formed = 0 then
      warn name (shown ++ ": no properly formatted checksum lines found")
      return false
    warning result.malformed "line is improperly formatted" "lines are improperly formatted"
    warning result.unread "listed file could not be read" "listed files could not be read"
    warning result.different "computed checksum did NOT match" "computed checksums did NOT match"
    if a.has 'I' && result.same = 0 then
      unless silent do warn name (shown ++ ": no file was verified")
      return false
    return result.different = 0 && result.unread = 0 && (result.malformed = 0 || !a.has 'S')

/-- The options of programs for digests. -/
def digestFlags : List Flag :=
  [⟨'b', .nothing, "binary"⟩, ⟨'c', .nothing, "check"⟩, ⟨'G', .nothing, "tag"⟩,
    ⟨'t', .nothing, "text"⟩, ⟨'z', .nothing, "zero"⟩, ⟨'I', .nothing, "ignore-missing"⟩,
    ⟨'Q', .nothing, "quiet"⟩, ⟨'T', .nothing, "status"⟩, ⟨'S', .nothing, "strict"⟩,
    ⟨'w', .nothing, "warn"⟩]

/-- Writes digests of files, or compares files with digests. -/
def digestWith (name : Text) (d : Digest) (tagged : Bool) (a : Arguments) : ProcessM Nat := do
  let length := match a.value? 'l' with
    | some t => Text.natOfDigits t / 8
    | none => d.size
  let length := if length = 0 then d.size else length
  let files := if a.operands.isEmpty then [("-" : Text)] else a.operands
  if a.has 'c' then
    files.foldlM (fun (status : Nat) file => do
      let ok ← compareDigests name d a file
      return if ok then status else 1) 0
  else
    files.foldlM (fun (status : Nat) (file : Text) => do
      match ← readPath file with
      | .ok o =>
        say (digestLine d length tagged (a.has 'b') (a.has 'z') file
          (inHex (d.ofOctets length o)))
        return status
      | .error r =>
        warn name (file.shellWord ++ ": " ++ r.reason)
        return 1) 0

/-- Writes digests of one kind. -/
def digest (name : Text) (d : Digest) (args : List Text) : ProcessM Nat :=
  let flags := if d = .blake2 then [(⟨'l', .value, "length"⟩ : Flag)] else []
  withArguments name (digestFlags ++ flags) args 1 fun a => digestWith name d (a.has 'G') a

/-- Writes what a sum of each file is, and how long the file is in blocks. -/
def sumWith (name : Text) (line : Octets → Text → Text) (a : Arguments) : ProcessM Nat :=
  (if a.operands.isEmpty then [("-" : Text)] else a.operands).foldlM
    (fun (status : Nat) (file : Text) => do
      match ← readPath file with
      | .ok o =>
        say (line o (if a.operands.isEmpty then [] else 0x20 :: file))
        return status
      | .error r =>
        warn name (file.shellWord ++ ": " ++ r.reason)
        return 1) 0

/-- The line for a sum that is turned, with blocks of 1024 octets. -/
def turningLine (o : Octets) (file : Text) : Text :=
  Text.padLeft 5 '0' (Text.ofNat (Digest.turningSum o)) ++ " " ++
    Text.padLeft 5 ' ' (Text.ofNat ((o.length + 1023) / 1024)) ++ file ++ "\n"

/-- The line for a plain sum, with blocks of 512 octets. -/
def plainLine (o : Octets) (file : Text) : Text :=
  Text.ofNat (Digest.plainSum o) ++ " " ++ Text.ofNat ((o.length + 511) / 512) ++ file ++ "\n"

/-- The line for a remainder, with the length. -/
def remainderLine (o : Octets) (file : Text) : Text :=
  Text.ofNat (Digest.remainder o) ++ " " ++ Text.ofNat o.length ++ file ++ "\n"

/-- Writes sums of files. -/
def sum (name : Text) (args : List Text) : ProcessM Nat :=
  withArguments name [⟨'r', .nothing, []⟩, ⟨'s', .nothing, "sysv"⟩] args 1 fun a =>
    let last := (a.options.getLast?).map (·.1)
    sumWith name (if last = some 0x73 then plainLine else turningLine) a

/-- Writes remainders of files, or the digest or the sum that is asked for. -/
def cksum (name : Text) (args : List Text) : ProcessM Nat :=
  let flags : List Flag :=
    [⟨'a', .value, "algorithm"⟩, ⟨'l', .value, "length"⟩, ⟨'U', .nothing, "untagged"⟩]
  let kinds : List (Text × Digest) :=
    [("md5", .md5), ("sha1", .sha1), ("sha224", .sha224), ("sha256", .sha256),
      ("sha384", .sha384), ("sha512", .sha512), ("blake2b", .blake2)]
  withArguments name (digestFlags ++ flags) args 1 fun a => do
    match a.value? 'a' with
    | none => sumWith name remainderLine a
    | some t =>
      if t = "crc" then sumWith name remainderLine a
      else if t = "bsd" then sumWith name turningLine a
      else if t = "sysv" then sumWith name plainLine a
      else
        match kinds.lookup t with
        | some d => digestWith name d (!a.has 'U') a
        | none =>
          warn name ("invalid argument " ++ t.curly ++ " for " ++ Text.curly "--algorithm")
          complain "Valid arguments are:"
          for t in (["bsd", "sysv", "crc", "md5", "sha1", "sha224", "sha256", "sha384", "sha512",
              "blake2b", "sm3"] : List Text) do
            complain ("  - " ++ t.curly)
          complain ("Try '" ++ name ++ " --help' for more information.")
          return 1

end Program

end ServiceWiring
