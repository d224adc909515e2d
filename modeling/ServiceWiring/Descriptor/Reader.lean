import ServiceWiring.Descriptor.Basic
import ServiceWiring.Go.Name
import ServiceWiring.Session
import ServiceWiring.Text.Lowercase

/-!
# Reading descriptors

A descriptor set is a JSON object with a list `files`. Reading checks the shape of the document and
binds every package that it meets, in the order of the document; the first flaw ends it.

A file without a package option has the package of its directory, and a message without one has the
package of its file.
-/

namespace ServiceWiring.Descriptor

/-- The value that must stand under a key. -/
def require (part key : Text) (raw : Json) : SessionM Json :=
  match raw.field? key with
  | some value => pure value
  | none => throw (.flawed (.missing part key))

/-- The list under a key, which is empty if nothing stands there. -/
def listUnder (part key : Text) (raw : Json) : SessionM (List Json) :=
  match raw.field? key with
  | none => pure []
  | some (.arr items) => pure items
  | some _ => throw (.flawed (.notList part key))

/-- The text of a package option, unless it is left out or empty. -/
def optionOf? (raw : Json) : SessionM (Option Text) :=
  match raw.field? "go_package" with
  | none => pure none
  | some (.str option) => pure (if option.isEmpty then none else some option)
  | some value => if value.isTruthy then throw .optionNotText else pure none

/-- The package that an option names. -/
def bindOption (option : Text) : SessionM GoPackage :=
  let (path, name?) := GoPackage.splitOption option
  SessionM.bind path (some (name?.getD (Go.packageName path)))

/-- The package of a file without an option: its directory, or for a file that is in none a package
named for the file. -/
def bindDirectory (name : Text) : SessionM GoPackage :=
  let directory := Path.directory name
  let path : Text := if directory.isEmpty then "." else directory
  let named := if path = "." then Path.dropExtensionOfName (Path.base name) else path
  SessionM.bind path (some (Go.packageName named))

/-- The package of a file. -/
def readPackage (name raw : Json) : SessionM GoPackage := do
  match ← optionOf? raw with
  | some option => bindOption option
  | none =>
    match name with
    | .str name => bindDirectory name
    | _ => throw .nameNotText

/-- A message, owned by a package unless it names its own. -/
def readMessage (part : Text) (owner : GoPackage) (raw : Json) : SessionM Message := do
  let name ← require part "name" raw
  match ← optionOf? raw with
  | some option => return ⟨name, ← bindOption option⟩
  | none => return ⟨name, owner⟩

/-- An HTTP binding. -/
def readRule (part : Text) (raw : Json) : SessionM HttpRule := do
  let verb := (← require part "method" raw).display.lower
  match Verb.ofText? verb with
  | none => throw (.flawed (.unknownVerb part verb))
  | some verb =>
    let path ← require part "path" raw
    return ⟨verb, path, (raw.field? "body").getD (.str [])⟩

/-- The HTTP binding of a method, which may be left out or null. -/
def readRule? (part : Text) : Option Json → SessionM (Option HttpRule)
  | none | some .null => pure none
  | some raw => some <$> readRule part raw

/-- A method. -/
def readMethod (part : Text) (owner : GoPackage) (raw : Json) : SessionM Method := do
  let name ← require part "name" raw
  let part := part ++ "." ++ name.display
  let request ← readMessage part owner (← require part "request_type" raw)
  let response ← readMessage part owner (← require part "response_type" raw)
  let http? ← readRule? part (raw.field? "http")
  return { name, request, response, http? }

/-- A service of a file. -/
def readService (file : Text) (owner : GoPackage) (raw : Json) : SessionM Service := do
  let name ← require file "name" raw
  let part := file ++ ": " ++ name.display
  let methods ← (← listUnder part "methods" raw).mapM (readMethod part owner)
  return { name, methods }

/-- A file. -/
def read (raw : Json) : SessionM Descriptor := do
  let name ← require "file" "name" raw
  let package ← readPackage name raw
  let services ← (← listUnder name.display "services" raw).mapM (readService name.display package)
  return { name, package, services }

/-- The files of a descriptor set. -/
def readSet (document : Json) : SessionM (List Descriptor) := do
  match ← require "descriptor set" "files" document with
  | .arr files => files.mapM read
  | _ => throw (.flawed (.notList "descriptor set" "files"))

end ServiceWiring.Descriptor
