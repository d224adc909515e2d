import ServiceWiring.Artifact.Parameters
import ServiceWiring.Json.Display

/-!
# Pieces of source

Generated source is a list of pieces. A piece is plain text, or something that other parts of the
source depend on: a package that is used, a name that is declared or referred to, a literal. The
source itself is the texts of the pieces one after another.
-/

namespace ServiceWiring

/-- A piece of generated source. -/
inductive Piece where
  /-- Source that nothing else depends on. -/
  | text (t : Text)
  /-- The short name of the package with the given path. -/
  | qualifier (path name : Text)
  /-- A name where it is declared. -/
  | declares (name : Text)
  /-- A name where it is used. -/
  | refers (name : Text)
  /-- An expression that stands for a constant text. -/
  | literal (source : Text)
deriving DecidableEq, Repr

namespace Piece

instance : Coe String Piece where
  coe s := .text s

instance : Coe Text Piece where
  coe := .text

instance : Coe Json Piece where
  coe j := .text j.display

/-- The source of a piece. -/
def toText : Piece → Text
  | text t | declares t | refers t | literal t => t
  | qualifier _ name => name

/-- Pieces that follow one another. -/
def join (parts : List (List Piece)) : List Piece := parts.flatten

/-- Lines of source, each with its line break. -/
def lines (ls : List (List Piece)) : List Piece := ls.flatMap fun l => l ++ [.text "\n"]

/-- The source that pieces make up. -/
def render (pieces : List Piece) : Text := pieces.flatMap toText

end Piece

/-- The type of a message as seen from the package with the given path. A type of that package has
what stands before the names of the wiring, if anything; any other type has the name of its package.
-/
def Message.typeFrom (m : Message) (path qualifier : Text) : List Piece :=
  if m.package.path = path then [.text qualifier, m.name]
  else [.qualifier m.package.path m.package.shortName, ".", m.name]

namespace Parameters

/-- The use of a package by its short name. A package that is not imported leaves nothing. -/
def use (p : Parameters) (path : Text) : Piece := .qualifier path ((p.shortNameOf? path).getD [])

/-- The lines of the import block. -/
def importLines (p : Parameters) : List Piece :=
  Piece.lines (p.imports.map fun q => ["\t", q.importSpec])

/-- The type of a message as seen from the file. -/
def typeOf (p : Parameters) (qualifier : Text) (m : Message) : List Piece :=
  m.typeFrom p.file.package.path qualifier

end Parameters

end ServiceWiring
