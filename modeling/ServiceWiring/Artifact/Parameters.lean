import ServiceWiring.Descriptor.Basic
import ServiceWiring.Text.Utf8

/-!
# What an artifact is made from

An artifact is made from a descriptor and a list of imports. Besides, a wiring may embed a swagger
document, and a stub may stand in another package than its wiring.
-/

namespace ServiceWiring

/-- The imports of an artifact with one more; a path that is there already is not repeated. -/
def addImport (imports : List GoPackage) (p : GoPackage) : List GoPackage :=
  if imports.any (·.path = p.path) then imports else imports ++ [p]

/-- Everything that an artifact is made from. -/
structure Parameters where
  /-- The file that the artifact is for. -/
  file : Descriptor
  /-- The packages that it imports, in order. -/
  imports : List GoPackage := []
  /-- The swagger document, as it is embedded. -/
  swagger? : Option Octets := none
  /-- What stands before the names of the wiring: a short name with a dot, or nothing. -/
  wiringQualifier : Text := []
  /-- The package of a stub, if it is not that of the file. -/
  stubPackage? : Option Text := none
deriving Repr

namespace Parameters

/-- The short name of an imported path. Where a path is repeated the last one counts. -/
def shortNameOf? (p : Parameters) (path : Text) : Option Text :=
  (p.imports.reverse.find? (·.path = path)).map GoPackage.shortName

/-- The imported paths with their short names; a repeated path keeps its first place. -/
def shortNames (p : Parameters) : List (Text × Text) :=
  let paths := p.imports.foldl (fun ps q => if ps.contains q.path then ps else ps ++ [q.path]) []
  paths.map fun path => (path, (p.shortNameOf? path).getD [])

/-- The package of a stub. -/
def stubPackage (p : Parameters) : Text := p.stubPackage?.getD p.file.package.name

end Parameters

end ServiceWiring
