import ServiceWiring.Host.Pattern.Reader

/-!
# Shell patterns

In a shell pattern a `*` stands for any text, a `?` for any character, and a bracket for a set. What
was quoted stands for itself.
-/

namespace ServiceWiring.Glob

/-- A code point of a shell pattern, and whether it was quoted. -/
abbrev Mark := CodePoint × Bool

/-- Whether a text holds anything that makes it a pattern. -/
def isPattern (ms : List Mark) : Bool :=
  ms.any fun (c, quoted) => !quoted && (c = 0x2A || c = 0x3F || c = 0x5B)

/-- The part up to the bracket that closes a set, and what follows it. -/
def cutSet (first : Bool) : List Mark → Option (List Mark × List Mark)
  | [] => none
  | (c, quoted) :: r =>
    if c = 0x5D && !quoted && !first then some ([], r)
    else (cutSet false r).map fun (s, r) => ((c, quoted) :: s, r)

/-- The ranges of a set. -/
def ranges : List Mark → List (CodePoint × CodePoint)
  | (a, _) :: (0x2D, false) :: (b, _) :: r => (a, b) :: ranges r
  | (a, _) :: r => (a, a) :: ranges r
  | [] => []

/-- The set that the marks between brackets spell. -/
def charSet (ms : List Mark) : CharSet :=
  let (negated, ms) := match ms with
    | (c, false) :: r => if c = 0x21 || c = 0x5E then (true, r) else (false, ms)
    | ms => (false, ms)
  match Regex.elements true (ms.map (·.1) ++ [0x5D]) with
  | .ok (s, []) => { s.narrow with negated }
  | _ => { ranges := ranges ms, negated }

/-- The pattern that marks spell. -/
def pattern (ms : List Mark) : Pattern :=
  match ms with
  | [] => .empty
  | (c, quoted) :: r =>
    let literal := fun _ : Unit => Pattern.both (.one (.single c)) (pattern r)
    if quoted then literal ()
    else
      match c with
      | 0x2A => .both (.times (.one .all) 0 none) (pattern r)
      | 0x3F => .both (.one .all) (pattern r)
      | 0x5B =>
        match cutSet true (negation r).2 with
        | some (s, rest) =>
          if _h : rest.length ≤ r.length then
            .both (.one (charSet ((negation r).1 ++ s))) (pattern rest)
          else literal ()
        | none => literal ()
      | 0x5C =>
        match r with
        | (c, _) :: r => .both (.one (.single c)) (pattern r)
        | [] => literal ()
      | _ => literal ()
termination_by ms.length
decreasing_by all_goals simp_all; try omega
where
  /-- The mark that negates a set, and what follows it. -/
  negation : List Mark → List Mark × List Mark
    | (c, false) :: r => if c = 0x21 || c = 0x5E then ([(c, false)], r) else ([], (c, false) :: r)
    | r => ([], r)

/-- Whether a text is one of those that marks spell. -/
def accepts (ms : List Mark) (t : Text) : Bool := (pattern ms).matchesAll t

/-- The numbers of code points at the start of a text that a pattern can take up, ascending. -/
def startLengths (p : Pattern) (t : Text) : List Nat :=
  ((p.ends (Reach.start t)).map (·.position)).mergeSort

end ServiceWiring.Glob
