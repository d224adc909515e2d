import ServiceWiring.Descriptor.Reader

/-!
# Inputs

The documents that a run reads from the disk: one descriptor set, and for each of its files a
swagger document if there is one.
-/

namespace ServiceWiring.Inputs

/-- The document in the file at a path. -/
def readDocument (path : Text) : SessionM Json := do
  let content ← SessionM.ofPath ((← SessionM.machine).readFile path)
  match Json.ofFile content with
  | .ok document => return document
  | .error (.read .longInteger) => throw .longInteger
  | .error e => throw (.unreadable path e)

/-- The files of the descriptor set at a location. -/
def loadDescriptors (l : Location) : SessionM (List Descriptor) := do
  let files ← Descriptor.readSet (← readDocument l.toText)
  SessionM.report (.descriptorsLoaded files.length l.toText)
  return files

/-- Where the swagger document of a file is, below a directory. -/
def swaggerLocation (dir : Location) (name : Text) : Location :=
  dir ++ Location.ofText (Path.dropExtension name ++ ".swagger.json")

/-- The documents with that of one more file, if it has one. -/
def addSwagger (dir : Location) (documents : List (Text × Json)) (d : Descriptor) :
    SessionM (List (Text × Json)) := do
  match d.name with
  | .str name =>
    let path := (swaggerLocation dir name).toText
    if ← SessionM.ofPath ((← SessionM.machine).isFile path) then
      let document ← readDocument path
      SessionM.report (.swaggerLoaded path)
      return Json.setField name document documents
    else return documents
  | _ => throw .nameNotText

/-- The swagger documents of files, by the names of the files. -/
def loadSwagger (dir : Location) (files : List Descriptor) : SessionM (List (Text × Json)) :=
  files.foldlM (addSwagger dir) []

end ServiceWiring.Inputs
