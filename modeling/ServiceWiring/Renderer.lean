import ServiceWiring.Artifact.Stub
import ServiceWiring.Artifact.Wiring

/-!
# Renderers

A renderer turns what an artifact is made from into source. It may fail because of its template:
then the failure names the template and shows its source.
-/

namespace ServiceWiring

/-- Why an artifact was not rendered. -/
inductive RenderFailure where
  /-- The template is at fault. -/
  | template (name message source : Text)
  /-- A value does not suit the artifact. -/
  | fault (f : Fault)
deriving DecidableEq, Repr

/-- How the two kinds of artifact become source. -/
structure Renderer where
  /-- The source of a wiring. -/
  wiring : Parameters → Except RenderFailure Text
  /-- The source of a stub. -/
  stub : Parameters → Except RenderFailure Text

namespace Renderer

/-- The renderer of this library. -/
def standard : Renderer where
  wiring p := (Wiring.source p).mapError .fault
  stub p := .ok (Stub.source p)

end Renderer

end ServiceWiring
