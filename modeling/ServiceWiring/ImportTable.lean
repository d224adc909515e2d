import ServiceWiring.Go.Package
import ServiceWiring.Path.Basic
import ServiceWiring.Text.Number

/-!
# The import table

One table serves a whole run. It binds short names to import paths, each path once and each short
name once, and it remembers the package of every path that was asked for. Nothing is ever unbound,
so a path keeps its name for the whole run and two paths never share one.

A path whose name is taken gets the name with the least number that makes it free: `pkg`, `pkg_0`,
`pkg_1`.
-/

namespace ServiceWiring

/-- Which short name stands for which import path. -/
structure ImportTable where
  /-- The short names with their paths, newest first. -/
  bound : List (Text × Text) := []
  /-- The packages that were asked for, newest first. -/
  packages : List GoPackage := []
deriving DecidableEq, Repr

namespace ImportTable

instance : EmptyCollection ImportTable where
  emptyCollection := {}

/-- How many paths are bound. -/
def size (t : ImportTable) : Nat := t.bound.length

/-- The path that a short name stands for. -/
def pathOf? (t : ImportTable) (name : Text) : Option Text :=
  (t.bound.find? (·.1 = name)).map (·.2)

/-- The short name of a path. -/
def nameOf? (t : ImportTable) (path : Text) : Option Text :=
  (t.bound.find? (·.2 = path)).map (·.1)

/-- The package of a path that was asked for before. -/
def package? (t : ImportTable) (path : Text) : Option GoPackage :=
  t.packages.find? (·.path = path)

/-- Whether the path is bound. -/
def contains (t : ImportTable) (path : Text) : Bool := (t.nameOf? path).isSome

/-- Binds a short name to a path. It fails, and changes nothing, if either is bound elsewhere; a
pair that is bound already stays. -/
def reserve (t : ImportTable) (name path : Text) : Bool × ImportTable :=
  match t.pathOf? name with
  | some taken => (taken = path, t)
  | none =>
    if t.contains path then (false, t)
    else (true, { t with bound := (name, path) :: t.bound })

/-- The name that a package should have: the given one, else the last name of the path, else the
path. -/
def wantedName (path : Text) (name? : Option Text) : Text :=
  let given := name?.getD []
  let last := Path.base (Text.dropRight Path.slash path)
  if !given.isEmpty then given else if !last.isEmpty then last else path

/-- The name with a number after it. -/
def numbered (name : Text) (i : Nat) : Text := name ++ "_" ++ Text.ofNat i

/-- The first of a name, the name with 0, the name with 1 and so on that stands for no path. One of
the first `t.size + 2` is free. -/
def freeName (t : ImportTable) (name : Text) : Text :=
  let candidates := name :: (List.range (t.size + 1)).map (numbered name)
  (candidates.find? fun n => (t.pathOf? n).isNone).getD name

/-- The name a package is imported under, if it is not the one it declares. -/
def localName? (name short : Text) : Option Text :=
  if short = name || short.isEmpty then none else some short

/-- The package of a path, and the table in which the path is bound. A path that was asked for
before keeps its package whatever name is given. -/
def bind (t : ImportTable) (path : Text) (name? : Option Text := none) : GoPackage × ImportTable :=
  match t.package? path with
  | some package => (package, t)
  | none =>
    let name := wantedName path name?
    match t.nameOf? path with
    | some short =>
      let package : GoPackage := ⟨path, name, localName? name short⟩
      (package, { t with packages := package :: t.packages })
    | none =>
      let short := t.freeName name
      let package : GoPackage := ⟨path, name, localName? name short⟩
      (package, ⟨(short, path) :: t.bound, package :: t.packages⟩)

end ImportTable

end ServiceWiring
