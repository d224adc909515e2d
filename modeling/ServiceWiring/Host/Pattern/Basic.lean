import ServiceWiring.Host.Pattern.Letters

/-!
# Patterns

A `Pattern` stands for a set of texts. `Pattern.ends` gives every way in which it matches at a place
of a text, and of all matches that start first `Pattern.search` finds the longest.

Ways that end at the same place are the same to what follows, unless the pattern refers back to what
a group matched: so only the first of them is kept, and a search takes no more than polynomial time.
-/

namespace ServiceWiring

/-- A set of code points: those in some ranges and classes, or all others. -/
structure CharSet where
  /-- The ranges, each with its ends. -/
  ranges : List (CodePoint × CodePoint) := []
  /-- The classes. -/
  classes : List CharClass := []
  /-- Whether the set holds the code points outside the ranges and classes instead. -/
  negated : Bool := false
  /-- Whether letters are alike in both cases. -/
  anyCase : Bool := false
deriving DecidableEq, Repr

namespace CharSet

/-- Whether some range or class holds a code point. -/
def covers (s : CharSet) (c : CodePoint) : Bool :=
  (s.ranges.any fun (a, b) => a ≤ c && c ≤ b) || s.classes.any (·.holds c)

/-- Whether the set holds a code point. -/
def contains (s : CharSet) (c : CodePoint) : Bool :=
  (s.covers c || (s.anyCase && (s.covers c.toLower || s.covers c.toUpper))) != s.negated

/-- The set of one code point. -/
def single (c : CodePoint) : CharSet := { ranges := [(c, c)] }

/-- The set of one range. -/
def range (a b : CodePoint) : CharSet := { ranges := [(a, b)] }

/-- The set of all code points. -/
def all : CharSet := { negated := true }

/-- The set of all characters. -/
def characters : CharSet := { ranges := [(0xD800, 0xDFFF)], negated := true }

/-- The set of what a name may hold. -/
def word : CharSet := { ranges := [(0x5F, 0x5F)], classes := [.alnum] }

/-- The set of the blanks. -/
def space : CharSet := { classes := [.space] }

/-- The set of what is not in a set. -/
def complement (s : CharSet) : CharSet := { s with negated := !s.negated }

/-- The set of what is in either of two that are not negated. -/
def union (s t : CharSet) : CharSet :=
  { s with ranges := s.ranges ++ t.ranges, classes := s.classes ++ t.classes }

/-- The part of a set that is no range and in ASCII, spelled out. -/
def narrow (s : CharSet) : CharSet :=
  { s with ranges := s.ranges ++ s.classes.flatMap fun k => k.ascii.map fun c => (c, c),
           classes := [] }

/-- The set with the other case of each of its letters. -/
def foldCase (s : CharSet) : CharSet := { s with anyCase := true }

end CharSet

/-- A place between two code points that a pattern asks for. -/
inductive Edge where
  /-- The start of a line. -/
  | lineStart
  /-- The end of a line. -/
  | lineEnd
  /-- The start of the whole text. -/
  | textStart
  /-- The end of the whole text. -/
  | textEnd
  /-- The start of a word. -/
  | wordStart
  /-- The end of a word. -/
  | wordEnd
  /-- The start or the end of a word. -/
  | wordEdge
  /-- Neither the start nor the end of a word. -/
  | noWordEdge
  /-- Right before no part of a word. -/
  | beforeNoWord
  /-- Right after no part of a word. -/
  | afterNoWord
deriving DecidableEq, Repr

/-- A set of texts. -/
inductive Pattern where
  /-- The empty text. -/
  | empty
  /-- One code point of a set. -/
  | one (s : CharSet)
  /-- The empty text at certain places. -/
  | edge (e : Edge)
  /-- A text of one pattern before a text of another. -/
  | both (p q : Pattern)
  /-- A text of either pattern. -/
  | either (p q : Pattern)
  /-- A text of the pattern, which is kept under a number. -/
  | group (number : Nat) (p : Pattern)
  /-- The text that was kept under a number. -/
  | kept (number : Nat)
  /-- Texts of the pattern, one after another, at least and at most so many. -/
  | times (p : Pattern) (least : Nat) (most? : Option Nat)
deriving DecidableEq, Repr

/-- A place in a text that a match has reached. -/
structure Reach where
  /-- How many code points come before. -/
  position : Nat
  /-- The code point right before, if there is one. -/
  before? : Option CodePoint
  /-- What comes after. -/
  rest : Text
  /-- The texts that were kept, the latest first. -/
  kept : List (Nat × Text) := []
deriving DecidableEq, Repr

namespace Reach

/-- The place at the start of a text. -/
def start (t : Text) : Reach := { position := 0, before? := none, rest := t }

/-- The place one code point further. -/
def next? (r : Reach) : Option Reach :=
  match r.rest with
  | [] => none
  | c :: rest => some { r with position := r.position + 1, before? := some c, rest }

/-- The place so many code points further. -/
def skip (r : Reach) (n : Nat) : Reach :=
  let passed := r.rest.take n
  { r with position := r.position + passed.length, before? := passed.getLast?.or r.before?,
           rest := r.rest.drop n }

/-- What lies between a place and a later one. -/
def upTo (r e : Reach) : Text := r.rest.take (e.position - r.position)

/-- Whether a place is one that an edge asks for. -/
def isAt (r : Reach) (e : Edge) : Bool :=
  let inWord := fun c? => Option.any CharSet.word.contains c?
  let (left, right) := (inWord r.before?, inWord r.rest.head?)
  match e with
  | .textStart => r.before?.isNone
  | .textEnd => r.rest.isEmpty
  | .lineStart => r.before?.isNone || r.before? = some 0x0A
  | .lineEnd => r.rest.isEmpty || r.rest.head? = some 0x0A
  | .wordStart => !left && right
  | .wordEnd => left && !right
  | .wordEdge => left != right
  | .noWordEdge => left == right
  | .beforeNoWord => !right
  | .afterNoWord => !left

/-- Whether each place comes before the one that precedes it in the list. -/
def descend : List Reach → Bool
  | r :: s :: rest => s.position < r.position && descend (s :: rest)
  | _ => true

/-- The list without places that are there already: two of one position count as the same, unless
what they keep is `needed`. -/
def distinct (needed : Bool) (rs : List Reach) : List Reach :=
  if descend rs then rs
  else
    (rs.foldl (fun (found : List Reach) r =>
      if found.any fun s => s.position = r.position && (!needed || s.kept = r.kept) then found
      else r :: found) []).reverse

/-- The places after each further step, from those of one step to those of as many as can be made.
Steps after the least number have to get ahead. -/
def levels (step : Reach → List Reach) (needed : Bool) (fuel least : Nat) (rs : List Reach) :
    List (List Reach) :=
  match fuel with
  | 0 => []
  | fuel + 1 =>
    let next := distinct needed (rs.flatMap fun r =>
      (step r).filter fun e => 0 < least || r.position < e.position)
    if next.isEmpty then [] else next :: levels step needed fuel (least - 1) next

end Reach

namespace Pattern

/-- Whether the pattern refers back to what a group matched. -/
def refersBack : Pattern → Bool
  | kept _ => true
  | both p q | either p q => p.refersBack || q.refersBack
  | group _ p | times p .. => p.refersBack
  | empty | one _ | edge _ => false

/-- The places where matches that start at one may end, the preferred first. -/
def endsWith (needed : Bool) : Pattern → Reach → List Reach
  | empty, r => [r]
  | one s, r => if r.rest.head?.any s.contains then r.next?.toList else []
  | edge e, r => if r.isAt e then [r] else []
  | both p q, r => Reach.distinct needed ((endsWith needed p r).flatMap (endsWith needed q))
  | either p q, r => Reach.distinct needed (endsWith needed p r ++ endsWith needed q r)
  | group n p, r =>
    (endsWith needed p r).map fun e => { e with kept := (n, r.upTo e) :: e.kept }
  | kept n, r =>
    match r.kept.lookup n with
    | some t => if t.isPrefixOf r.rest then [r.skip t.length] else []
    | none => []
  | times p least most?, r =>
    let fuel := match most? with
      | some most => most
      | none => least + r.rest.length + 1
    let levels := [r] :: Reach.levels (endsWith needed p) needed fuel least [r]
    Reach.distinct needed ((levels.drop least).reverse.flatten)

/-- The places where matches that start at one may end. -/
def ends (p : Pattern) (r : Reach) : List Reach := p.endsWith p.refersBack r

/-- The longest match from a place; of several, the preferred one. -/
def longest? (p : Pattern) (r : Reach) : Option Reach :=
  (p.ends r).foldl (fun best? e =>
    match best? with
    | some best => if best.position < e.position then some e else some best
    | none => some e) none

/-- Whether the pattern matches a text as a whole. -/
def matchesAll (p : Pattern) (t : Text) : Bool := (p.ends (Reach.start t)).any (·.rest.isEmpty)

/-- A match: what comes before it, and where it starts and ends. -/
structure Match where
  /-- What comes before, from where the search started. -/
  before : Text
  /-- Where it starts. -/
  start : Reach
  /-- Where it ends. -/
  stop : Reach
deriving Repr

/-- What was matched. -/
def Match.text (m : Match) : Text := m.start.upTo m.stop

/-- The text that a match kept under a number; zero stands for all of it. -/
def Match.kept (m : Match) (n : Nat) : Text :=
  if n = 0 then m.text else (m.stop.kept.lookup n).getD []

/-- The first match at a place of a text or after it, and the longest there. -/
def searchFrom (p : Pattern) (before : Text) (position : Nat) (before? : Option CodePoint) :
    Text → Option Match
  | [] =>
    let r : Reach := { position, before?, rest := [] }
    (p.longest? r).map fun e => ⟨before.reverse, r, e⟩
  | c :: rest =>
    let r : Reach := { position, before?, rest := c :: rest }
    match p.longest? r with
    | some e => some ⟨before.reverse, r, e⟩
    | none => searchFrom p (c :: before) (position + 1) (some c) rest

/-- The first match from a place on, and the longest there. -/
def search (p : Pattern) (r : Reach) : Option Match :=
  searchFrom p [] r.position r.before? r.rest

/-- Whether the pattern matches somewhere in a text. -/
def occursIn (p : Pattern) (t : Text) : Bool := (p.search (Reach.start t)).isSome

/-- The pattern of one text. -/
def ofText (t : Text) : Pattern :=
  t.foldr (fun c p => both (one (CharSet.single c)) p) empty

/-- The pattern with the other case of each letter. -/
def foldCase : Pattern → Pattern
  | one s => one s.foldCase
  | both p q => both p.foldCase q.foldCase
  | either p q => either p.foldCase q.foldCase
  | group n p => group n p.foldCase
  | times p least most? => times p.foldCase least most?
  | p => p

end Pattern

end ServiceWiring
