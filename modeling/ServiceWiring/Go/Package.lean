import ServiceWiring.Text.Basic

/-!
# Go packages

A package has an import path, the name that its own source declares, and perhaps another name that
it goes by in the generated source, because its own was taken.
-/

namespace ServiceWiring

/-- A Go package and the name it is referred to by. -/
structure GoPackage where
  /-- The import path. -/
  path : Text
  /-- The name that the package declares. -/
  name : Text
  /-- The name it is imported under, if that is another one. -/
  localName? : Option Text := none
deriving DecidableEq, Repr

namespace GoPackage

/-- The name that stands before the dot where the package is used. -/
def shortName (p : GoPackage) : Text := p.localName?.getD p.name

/-- The package as an import block names it. -/
def importSpec (p : GoPackage) : Text :=
  match p.localName? with
  | none => "\"" ++ p.path ++ "\""
  | some n => n ++ " \"" ++ p.path ++ "\""

/-- The import path of a package option and the name after its semicolon, if there is one. -/
def splitOption (option : Text) : Text × Option Text :=
  let (path, name?) := Text.cut ';' option
  (path, name?.filter (!·.isEmpty))

end GoPackage

end ServiceWiring
