import ServiceWiring.Json.Reader
import ServiceWiring.Text.Lines
import ServiceWiring.Text.Utf8

/-!
# JSON files

A file holds a document as UTF-8. Line breaks are made uniform before the document is read, so the
places in errors count each of them as one code point.
-/

namespace ServiceWiring.Json

/-- Why octets are no document. -/
inductive FileError where
  /-- They are not UTF-8. -/
  | decode (e : Utf8.DecodeError)
  /-- The text that they stand for is no document. -/
  | read (e : ReadError)
deriving DecidableEq, Repr

/-- The wording of an error, with its place. -/
def ReadError.message : ReadError → Text
  | .defect d line column offset =>
    d.message ++ ": line " ++ Text.ofNat line ++ " column " ++ Text.ofNat column
      ++ " (char " ++ Text.ofNat offset ++ ")"
  | .longInteger => Refusal.longInteger.message

/-- The wording of an error. -/
def FileError.message : FileError → Text
  | .decode e => e.message
  | .read e => e.message

/-- The document that a file holds. -/
def ofFile (content : Octets) : Except FileError Json := do
  let text ← (Utf8.decode content).mapError .decode
  (read text.unifyLines).mapError .read

end ServiceWiring.Json
