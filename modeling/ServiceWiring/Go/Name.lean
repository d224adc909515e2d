import ServiceWiring.Path.Basic

/-!
# Go names

Names made from file names and import paths by replacing what a Go name cannot hold.
-/

namespace ServiceWiring.Go

/-- A text as part of a Go name: letters, digits and underscores stay and all else becomes an
underscore. A digit does not come first. -/
def identifier (t : Text) : Text :=
  let name := t.map fun c => if c.isWord then c else 0x5F
  match name with
  | c :: _ => if c.isDigit then 0x5F :: name else name
  | [] => []

/-- The name that a package has by its import path: the last name of the path, with underscores for
dots and hyphens. -/
def packageName (path : Text) : Text :=
  let name := (Path.base (Text.dropRight Path.slash path)).map fun c =>
    if c.val = 0x2E || c.val = 0x2D then 0x5F else c
  if name.isEmpty then "main" else name

example : identifier "1/a.proto" = "_1_a_proto" ∧
    packageName "x/go-chi.v2/" = "go_chi_v2" := by decide

end ServiceWiring.Go
