import ServiceWiring.Host.Program.Lines
import ServiceWiring.Host.Pattern.Reader

/-!
# Searching lines

`grep` writes the lines of files that match one of several expressions, or tells about them.
-/

namespace ServiceWiring.Program

open ProcessM

/-- What `grep` is asked for. -/
structure Search where
  /-- What lines have to match. -/
  pattern : Pattern
  /-- Whether the other lines are meant. -/
  others : Bool
  /-- Whether only the matches are written. -/
  onlyMatches : Bool
  /-- Whether the numbers of lines are written. -/
  numbers : Bool
  /-- Whether the names of files are written. -/
  named : Bool
  /-- After how many lines a file is left. -/
  most? : Option Nat
  /-- How many lines are written before a match. -/
  before : Nat
  /-- How many lines are written after a match. -/
  after : Nat

/-- The options of `grep`. -/
def grepFlags : List Flag :=
  [⟨'i', .nothing, "ignore-case"⟩, ⟨'y', .nothing, []⟩, ⟨'v', .nothing, "invert-match"⟩,
    ⟨'c', .nothing, "count"⟩, ⟨'n', .nothing, "line-number"⟩,
    ⟨'l', .nothing, "files-with-matches"⟩, ⟨'L', .nothing, "files-without-match"⟩,
    ⟨'q', .nothing, "quiet"⟩, ⟨'q', .nothing, "silent"⟩, ⟨'s', .nothing, "no-messages"⟩,
    ⟨'o', .nothing, "only-matching"⟩, ⟨'E', .nothing, "extended-regexp"⟩,
    ⟨'F', .nothing, "fixed-strings"⟩] ++
  [⟨'G', .nothing, "basic-regexp"⟩, ⟨'w', .nothing, "word-regexp"⟩,
    ⟨'x', .nothing, "line-regexp"⟩, ⟨'e', .value, "regexp"⟩, ⟨'f', .value, "file"⟩,
    ⟨'m', .value, "max-count"⟩, ⟨'A', .value, "after-context"⟩, ⟨'B', .value, "before-context"⟩,
    ⟨'C', .value, "context"⟩, ⟨'h', .nothing, "no-filename"⟩, ⟨'H', .nothing, "with-filename"⟩,
    ⟨'a', .nothing, "text"⟩, ⟨'U', .nothing, "binary"⟩, ⟨'K', .attached, "color"⟩]

/-- The pattern of expressions, each on a line of its own; the name that the program was called by
may tell how they are read. -/
def patternOf (name : Text) (a : Arguments) (t : Text) : Except Regex.Flaw Pattern := do
  let extended := a.has 'E' || name = "egrep"
  let fixed := a.has 'F' || name = "fgrep"
  let one := fun (t : Text) =>
    if fixed then .ok (Pattern.ofText t) else Regex.read { extended } t
  let ps ← (Text.splitOn 0x0A t).mapM one
  let p := match ps with
    | [] => .empty
    | p :: ps => ps.foldl .either p
  let p := if a.has 'i' || a.has 'y' then p.foldCase else p
  let around := fun (e f : Edge) => Pattern.both (.edge e) (.both p (.edge f))
  if a.has 'x' then return around .textStart .textEnd
  else if a.has 'w' then return around .afterNoWord .beforeNoWord
  else return p

/-- The matches in a line that are not empty. -/
def matchesFrom (p : Pattern) (r : Reach) : Nat → List Text
  | 0 => []
  | fuel + 1 =>
    match p.search r with
    | none => []
    | some m =>
      if m.text.isEmpty then
        if m.stop.rest.isEmpty then [] else matchesFrom p { m.stop.skip 1 with kept := [] } fuel
      else m.text :: matchesFrom p { m.stop with kept := [] } fuel

/-- What is written before a line: the name of its file and its number, each before a mark. -/
def Search.label (s : Search) (file : Text) (n : Nat) (mark : CodePoint) : Text :=
  (if s.named then file ++ [mark] else []) ++ if s.numbers then Text.ofNat n ++ [mark] else []

/-- The numbers of the lines that are wanted, from those that match. -/
def Search.wanted (s : Search) (found : List Nat) (n : Nat) : Bool :=
  found.any fun i => i ≤ n + s.before && n ≤ i + s.after

/-- What is written of lines; `last?` is the number of the line written last. -/
def Search.show (s : Search) (file : Text) (found : List Nat) (last? : Option Nat) :
    List (Text × Nat) → Text
  | [] => []
  | (line, n) :: r =>
    if s.wanted found n then
      let gap : Text :=
        if 0 < s.before + s.after && last?.any (· + 1 < n) then "--\n" else []
      let isMatch := found.contains n
      let body :=
        if s.onlyMatches then
          if s.others || !isMatch then []
          else (matchesFrom s.pattern (Reach.start line) (line.length + 1)).flatMap fun t =>
            s.label file n 0x3A ++ t ++ [0x0A]
        else s.label file n (if isMatch then 0x3A else 0x2D) ++ line ++ [0x0A]
      gap ++ body ++ s.show file found (some n) r
    else s.show file found last? r

/-- The numbers of the lines that match, as many as are asked for. -/
def Search.find (s : Search) (lines : List (Text × Nat)) : List Nat :=
  let found := (lines.filter fun (line, _) => s.pattern.occursIn line != s.others).map (·.2)
  match s.most? with
  | some n => found.take n
  | none => found

/-- Searches one file: whether something was found. -/
def searchFile (a : Arguments) (s : Search) (file : Text) (o : Octets) : ProcessM Bool := do
  let lines := ((Octets.bareLines o).map Utf8.decodeName).zipIdx.map fun (line, i) => (line, i + 1)
  let found := s.find lines
  if let some n := s.most? then
    if file = "-" && found.length = n then
      giveBack 0 true ((Octets.lines o).drop (found.getLast?.getD 0)).flatten
  let label : Text := if file = "-" then "(standard input)" else file
  if a.has 'q' then return !found.isEmpty
  else if a.has 'l' then
    unless found.isEmpty do say (label ++ [0x0A])
  else if a.has 'L' then
    if found.isEmpty then say (label ++ [0x0A])
  else if a.has 'c' then
    say ((if s.named then label ++ [0x3A] else []) ++ Text.ofNat found.length ++ [0x0A])
  else say (s.show label found none lines)
  return !found.isEmpty

/-- The expressions that the arguments of `grep` give, and the other arguments. -/
def expressionsOf (name : Text) (a : Arguments) : ProcessM (Option (Text × List Text)) := do
  let given := a.options.filter fun (c, _) => c = 0x65 || c = 0x66
  if given.isEmpty then
    match a.operands with
    | expression :: files => return some (expression, files)
    | [] => return none
  let pieces ← given.mapM fun (c, value) => do
    if c = 0x65 then return value
    match ← readPath value with
    | .ok o => return Utf8.decodeName (Octets.bare o)
    | .error r =>
      warn name (value ++ ": " ++ r.reason)
      return value
  return some (Text.joinWith "\n" pieces, a.operands)

/-- Writes the lines that match. -/
def grep (name : Text) (args : List Text) : ProcessM Nat := do
  let called := Path.base name
  let variants : List Text := ["egrep", "fgrep", "rgrep"]
  let name : Text := if variants.contains called then "grep" else called
  let usage : ProcessM Nat := do
    complain ("Usage: " ++ name ++ " [OPTION]... PATTERNS [FILE]...")
    complain ("Try '" ++ name ++ " --help' for more information.")
    return 2
  match Arguments.read grepFlags true args with
  | .error e =>
    warn name e.message
    usage
  | .ok a =>
    match ← expressionsOf name a with
    | none => usage
    | some (expressions, files) =>
      match patternOf called a expressions with
      | .error e =>
        warn name e.message
        return 2
      | .ok pattern =>
        let number := fun (c : Char) => (a.value? c).map Text.natOfDigits
        let around := (number 'C').getD 0
        let s : Search :=
          { pattern, others := a.has 'v', onlyMatches := a.has 'o', numbers := a.has 'n',
            named := (1 < files.length || a.has 'H') && !a.has 'h', most? := number 'm',
            before := (number 'B').getD around, after := (number 'A').getD around }
        let (found, failed) ← (if files.isEmpty then [("-" : Text)] else files).foldlM
          (fun (state : Bool × Bool) (file : Text) => do
            match ← readPath file with
            | .ok o => return (state.1 || (← searchFile a s file o), state.2)
            | .error r =>
              unless a.has 's' do
                warn name (file ++ ": " ++ r.reason)
              return (state.1, state.2 || r ≠ .isDirectory)) (false, false)
        return if failed && !(found && a.has 'q') then 2 else if found then 0 else 1

end ServiceWiring.Program
