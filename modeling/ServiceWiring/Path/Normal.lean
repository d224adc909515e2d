import ServiceWiring.Path.Basic

/-!
# Normal form of a path

The shortest spelling of a path: no empty name, no `.`, and no `..` after another name. At the root
a `..` stays at the root. Exactly two slashes at the start are kept, any other number of them is
one.
-/

namespace ServiceWiring.Path

/-- The slashes that a path in normal form starts with. -/
inductive Root where
  /-- None: the path is relative. -/
  | none
  /-- One slash. -/
  | single
  /-- Two slashes, a root of its own. -/
  | double
deriving DecidableEq, Repr

/-- The slashes themselves. -/
def Root.toText : Root → Text
  | .none => ""
  | .single => "/"
  | .double => "//"

/-- The root of a path. -/
def root (p : Text) : Root :=
  match (p.takeWhile (· = slash)).length with
  | 0 => .none
  | 2 => .double
  | _ => .single

/-- The names on the way so far, last one first, after one more step. -/
def step (r : Root) (way : List Text) (name : Text) : List Text :=
  if name = "" || name = "." then way
  else if name = ".." then
    match way with
    | [] => if r = .none then [name] else []
    | last :: before => if last = ".." then name :: way else before
  else name :: way

/-- The names of a path in normal form. -/
def names (p : Text) : List Text := ((Text.splitOn slash p).foldl (step (root p)) []).reverse

/-- The path with the given root and names; the empty one is the place itself. -/
def ofNames (r : Root) (ns : List Text) : Text :=
  let p := r.toText ++ Text.joinWith "/" ns
  if p.isEmpty then "." else p

/-- The normal form of a path. -/
def normalize (p : Text) : Text := ofNames (root p) (names p)

example : normalize "a/./b//../c/" = "a/c" ∧ normalize "/../a" = "/a" ∧
    normalize "../.." = "../.." := by
  decide

end ServiceWiring.Path
