import ServiceWiring.Json.Display
import ServiceWiring.Json.File
import ServiceWiring.Machine

/-!
# Faults

Everything that can end a run, by its cause. `Fault.message` is the wording of those that a run
reports; the others mean that a value of the wrong kind got where only a text makes sense, or that a
text cannot be encoded.
-/

namespace ServiceWiring

/-- What is wrong with a descriptor document. Each flaw names the part of the document around it. -/
inductive Flaw where
  /-- Something that must be there is not. -/
  | missing (part key : Text)
  /-- Something that must be a list is none. -/
  | notList (part key : Text)
  /-- A binding has a verb that does not exist. -/
  | unknownVerb (part verb : Text)
deriving DecidableEq, Repr

/-- The wording of a flaw. -/
def Flaw.message : Flaw → Text
  | .missing part key => part ++ ": missing '" ++ key ++ "'"
  | .notList part key => part ++ ": '" ++ key ++ "' must be a list"
  | .unknownVerb part verb => part ++ ": unsupported HTTP method " ++ verb.quoted

/-- Why a run ends early. -/
inductive Fault where
  /-- The descriptor document has a flaw. -/
  | flawed (f : Flaw)
  /-- A file does not hold a document. -/
  | unreadable (path : Text) (e : Json.FileError)
  /-- A swagger document cannot be written. -/
  | unprintable (r : Json.Refusal)
  /-- An artifact cannot be rendered. -/
  | render (template message : Text)
  /-- The formatter rejects a source. -/
  | format (message : Text)
  /-- The system refuses an operation. -/
  | refused (r : Refusal) (path : Text)
  /-- A document holds an integer with too many digits. -/
  | longInteger
  /-- A path holds a null character. -/
  | nullCharacter
  /-- A text holds a surrogate where it must be encoded. -/
  | unencodable
  /-- Octets that should be a text are not UTF-8. -/
  | undecodable (e : Utf8.DecodeError)
  /-- A file name is no text. -/
  | nameNotText
  /-- A package option is neither a text nor empty. -/
  | optionNotText
  /-- A setting that is needed was given no value. -/
  | valueMissing
  /-- The home directory is given by the name of a user. -/
  | homeUnknown
deriving DecidableEq, Repr

namespace Fault

/-- The fault of an operation on a path. -/
def ofPathFault : PathFault → Fault
  | .refused r path => .refused r path
  | .nullCharacter => .nullCharacter
  | .unencodable => .unencodable

/-- The wording of a refused operation. -/
def refusedMessage (r : Refusal) (path : Text) : Text := r.message ++ ": " ++ path.quoted

/-- The wording of a fault that a run reports. -/
def message? : Fault → Option Text
  | flawed f => some f.message
  | unreadable path e => some (path ++ ": " ++ e.message)
  | unprintable r => some ("cannot serialize swagger definition: " ++ r.message)
  | render template message => some (template ++ ": " ++ message)
  | format message => some message
  | refused r path => some (refusedMessage r path)
  | _ => none

end Fault

end ServiceWiring
