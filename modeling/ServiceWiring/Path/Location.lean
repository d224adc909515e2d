import ServiceWiring.Path.Normal

/-!
# Locations

A `Location` is a path that a user names: a root and a list of names. Empty names and `.` are
dropped when one is read, but `..` is kept, since what it means depends on the links of the disk.
-/

namespace ServiceWiring

/-- A place that a user names. -/
structure Location where
  /-- Where the names start. -/
  root : Path.Root
  /-- The names on the way, none of them empty or `.`. -/
  names : List Text
deriving DecidableEq, Repr

namespace Location

/-- The location that a path spells. -/
def ofText (p : Text) : Location where
  root := Path.root p
  names := (Text.splitOn Path.slash p).filter fun n => n ≠ "" && n ≠ "."

/-- The path of a location; the place itself is `.`. -/
def toText (l : Location) : Text := Path.ofNames l.root l.names

/-- The second location as seen from the first; one with a root stands for itself. -/
def append (l m : Location) : Location :=
  if m.root = .none then { l with names := l.names ++ m.names } else m

instance : Append Location where
  append := append

/-- The location that holds this one; a root, like the place itself, holds itself. -/
def parent (l : Location) : Location := { l with names := l.names.dropLast }

example : (ofText "./a//b/" ++ ofText "../c").toText = "a/b/../c" := by decide

end Location

end ServiceWiring
