import ServiceWiring.Path.Normal

/-!
# Output names

The names of the two artifacts of a file depend on its name alone: its extension gives way to
another ending. The name of a stub is in normal form, since it is looked up on a disk.
-/

namespace ServiceWiring.OutputName

/-- The name of the wiring of a file. -/
def wiring (file : Text) : Text := Path.dropExtension file ++ ".pb.goclay.go"

/-- The name of the stub of a file. -/
def stub (file : Text) : Text := Path.normalize (Path.dropExtension file ++ ".pb.impl.go")

example : wiring "api/svc.proto" = "api/svc.pb.goclay.go" ∧
    stub "./noext" = "noext.pb.impl.go" := by decide

end ServiceWiring.OutputName
