import ServiceWiring.Artifact.Piece

/-!
# Stubs

The stub of a file is where a service is going to be implemented: a type for each service, with all
methods, bound or not, each of which only says that it is not implemented.
-/

namespace ServiceWiring.Stub

open Piece (join lines)

/-- A method of a service that is not implemented yet. -/
def methodBlock (p : Parameters) (s : Service) (m : Method) : List Piece :=
  lines [
    [],
    ["// ", m.name, " implements ", p.wiringQualifier, s.name, "Server.", m.name],
    join [
      ["func (i *", s.name, "Implementation) ", m.name, "(ctx ", p.use "context",
        ".Context, req *"],
      p.typeOf p.wiringQualifier m.request, [") (*"],
      p.typeOf p.wiringQualifier m.response, [", error) \x7b"]],
    ["\treturn nil, ", p.use "github.com/pkg/errors", ".New(\"not implemented\")"],
    ["\x7d"]]

/-- The type of a service, with its methods. -/
def serviceBlock (p : Parameters) (s : Service) : List Piece :=
  lines [
    [],
    ["type ", s.name, "Implementation struct\x7b\x7d"],
    [],
    ["// New", s.name, " create new ", s.name, "Implementation"],
    ["func New", s.name, "() *", s.name, "Implementation \x7b"],
    ["\treturn &", s.name, "Implementation\x7b\x7d"],
    ["\x7d"]] ++
  s.methods.flatMap (methodBlock p s) ++
  lines [
    [],
    ["// GetDescription is a simple alias to the ServiceDesc constructor."],
    ["// It makes it possible to register the service implementation @ the server."],
    ["func (i *", s.name, "Implementation) GetDescription() ",
      p.use "github.com/utrack/clay/transport", ".ServiceDesc \x7b"],
    ["\treturn ", p.wiringQualifier, "New", s.name, "ServiceDesc(i)"],
    ["\x7d"]]

/-- The pieces of the stub. -/
def pieces (p : Parameters) : List Piece :=
  lines [["package ", p.stubPackage], [], ["import ("]] ++
  p.importLines ++
  lines [
    [")"],
    [],
    ["var _ ", p.use "context", ".Context"],
    ["var _ ", p.use "github.com/pkg/errors", ".Frame"]] ++
  p.file.services.flatMap (serviceBlock p)

/-- The source of the stub. -/
def source (p : Parameters) : Text := Piece.render (pieces p)

end ServiceWiring.Stub
