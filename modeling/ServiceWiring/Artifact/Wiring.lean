import ServiceWiring.Artifact.Piece
import ServiceWiring.Fault
import ServiceWiring.Go.Literal
import ServiceWiring.Go.Name

/-!
# Wirings

The wiring of a file registers its services with a transport. It declares a descriptor for each
service, and for each method with an HTTP binding a route: a pattern and an unmarshaler, which the
descriptor's `RegisterHTTP` refers to in one handler block.

Routes of a service are numbered from zero in the order of its bound methods.
-/

namespace ServiceWiring.Wiring

open Piece (join lines)

/-! ## Routes -/

/-- A bound method of a service, with its number among the bound methods of the service. -/
structure Route where
  /-- The service. -/
  service : Service
  /-- The method and its binding. -/
  bound : BoundMethod
  /-- The number. -/
  index : Nat
deriving Repr

namespace Route

/-- The name of the method. -/
def name (r : Route) : Json := r.bound.method.name

/-- What the names of the route end in: service, method and number. -/
def stem (r : Route) : Text :=
  r.service.name.display ++ "_" ++ r.name.display ++ "_" ++ Text.ofNat r.index

/-- The name of the variable that holds the pattern. -/
def pattern (r : Route) : Text := "pattern_goclay_" ++ r.stem

/-- The name of the function that reads a request. -/
def unmarshaler (r : Route) : Text := "unmarshaler_goclay_" ++ r.stem

end Route

/-- The routes of a service. -/
def routes (s : Service) : List Route := s.boundMethods.zipIdx.map fun (m, i) => ⟨s, m, i⟩

/-! ## The packages that a wiring uses -/

/-- The use of a package in a wiring with the given parameters. -/
abbrev Use := Text → Piece

/-- The lines of a handler before it reads the request. -/
def openingLines (use : Use) (r : Route) : List (List Piece) :=
  let http := use "net/http"
  [["\t\x7b"],
    ["\t\t// Handler for ", r.name, ", binding: ", r.bound.rule.verb.toUpper, " ",
      r.bound.rule.path],
    ["\t\tvar h ", http, ".HandlerFunc"],
    ["\t\th = func(w ", http, ".ResponseWriter, r *", http, ".Request) \x7b"],
    ["\t\t\tdefer r.Body.Close()"],
    []]

/-- The lines of a handler that read the request and hand it to the method. -/
def callLines (r : Route) : List (List Piece) :=
  [["\t\t\tunmFunc := ", .refers r.unmarshaler, "(r)"],
    ["\t\t\trsp, err := _", r.service.name, "_", r.name,
      "_Handler(d.svc, r.Context(), unmFunc, d.opts.UnaryInterceptor)"]]

/-- The lines of a handler that answer the request. -/
def answerLines (use : Use) : List (List Piece) :=
  let httpruntime := use "github.com/utrack/clay/transport/httpruntime"
  let errors := use "github.com/pkg/errors"
  [[],
    ["\t\t\tif err != nil \x7b"],
    ["\t\t\t\tif err, ok := err.(", httpruntime, ".MarshalerError); ok \x7b"],
    ["\t\t\t\t\t", httpruntime, ".SetError(r.Context(), r, w, ", errors,
      ".Wrap(err.Err, \"couldn't parse request\"))"],
    ["\t\t\t\t\treturn"],
    ["\t\t\t\t\x7d"],
    ["\t\t\t\t", httpruntime, ".SetError(r.Context(), r, w, err)"],
    ["\t\t\t\treturn"],
    ["\t\t\t\x7d"],
    [],
    ["\t\t\t_, outbound := ", httpruntime, ".MarshalerForRequest(r)"],
    ["\t\t\tw.Header().Set(\"Content-Type\", outbound.ContentType())"],
    ["\t\t\terr = outbound.Marshal(w, rsp)"],
    ["\t\t\tif err != nil \x7b"],
    ["\t\t\t\t", httpruntime, ".SetError(r.Context(), r, w, ", errors,
      ".Wrap(err, \"couldn't write response\"))"],
    ["\t\t\t\treturn"],
    ["\t\t\t\x7d"],
    ["\t\t\x7d"]]

/-- The lines that register a handler with a router of either kind. -/
def routerLines (r : Route) : List (List Piece) :=
  [["\t\tif isChi \x7b"],
    ["\t\t\tchiMux.Method(\"", r.bound.rule.verb.toUpper, "\", ", .refers r.pattern, ", h)"],
    ["\t\t\x7d else \x7b"],
    ["\t\t\tmux.Handle(", .refers r.pattern, ", h)"],
    ["\t\t\x7d"]]

/-- The block that handles the requests of a route. -/
def handlerBlock (use : Use) (r : Route) : List Piece :=
  join [
    lines [[]],
    lines (openingLines use r),
    lines (callLines r),
    lines (answerLines use),
    lines [[], ["\t\th = d.opts.HTTPMiddlewares.Wrap(h)"], []],
    lines (routerLines r),
    lines [["\t\x7d"]]]

/-- Where the request's body goes: the whole message for a star, else the field with that name. -/
def bodyTarget : Json → List Piece
  | .str [0x2A] => ["req"]
  | body => ["&req.", body]

/-- The part of an unmarshaler that reads the request's body, if the binding names a field for it.
-/
def bodyBlock (use : Use) (rule : HttpRule) : List Piece :=
  let httpruntime := use "github.com/utrack/clay/transport/httpruntime"
  if rule.body.isTruthy then
    lines [
      [],
      ["\t\tinbound, _ := ", httpruntime, ".MarshalerForRequest(r)"],
      join [
        ["\t\tif err := ", use "github.com/pkg/errors", ".Wrap(inbound.Unmarshal(r.Body, "],
        bodyTarget rule.body,
        ["), \"couldn't read request JSON\"); err != nil \x7b"]],
      ["\t\t\treturn ", httpruntime, ".TransformUnmarshalerError(err)"],
      ["\t\t\x7d"]]
  else []

/-- The pattern of a route as a Go literal. -/
def patternLiteral (rule : HttpRule) : Text := "\"" ++ rule.path.display ++ "\""

/-- The lines that declare the pattern of a route. -/
def patternLines (r : Route) : List (List Piece) :=
  [["var ("],
    ["\t", .declares r.pattern, " = ", .literal (patternLiteral r.bound.rule)],
    [")"]]

/-- The lines that open the unmarshaler of a route, the last of which names the type of the request.
-/
def signatureLines (use : Use) (requestType : List Piece) (r : Route) : List (List Piece) :=
  [["func ", .declares r.unmarshaler, "(r *", use "net/http",
      ".Request) func(interface\x7b\x7d) error \x7b"],
    ["\treturn func(rif interface\x7b\x7d) error \x7b"],
    join [["\t\treq := rif.(*"], requestType, [")"]]]

/-- The lines of an unmarshaler that read the query. -/
def queryLines (use : Use) : List (List Piece) :=
  [[],
    ["\t\tif err := ", use "github.com/pkg/errors", ".Wrap(",
      use "github.com/grpc-ecosystem/grpc-gateway/runtime",
      ".PopulateQueryParameters(req, r.URL.Query(), nil), ",
      "\"couldn't populate query parameters\"); err != nil \x7b"],
    ["\t\t\treturn ", use "github.com/utrack/clay/transport/httpruntime",
      ".TransformUnmarshalerError(err)"],
    ["\t\t\x7d"]]

/-- The unmarshaler of a route. -/
def unmarshalerBlock (use : Use) (requestType : List Piece) (r : Route) : List Piece :=
  lines (signatureLines use requestType r) ++ bodyBlock use r.bound.rule ++
    lines (queryLines use) ++ lines [["\t\treturn nil"], ["\t\x7d"], ["\x7d"]]

/-- The block that declares the pattern and the unmarshaler of a route. -/
def declarationBlock (use : Use) (requestType : List Piece) (r : Route) : List Piece :=
  join [
    lines [[]],
    lines (patternLines r),
    lines [[]],
    unmarshalerBlock use requestType r]

/-! ## Services -/

/-- The body of a service's `SwaggerDef`: what it makes of the embedded document, if there is one.
-/
def swaggerBody (use : Use) (embedded? : Option Text) : List Piece :=
  match embedded? with
  | none => []
  | some embedded =>
    lines [
      ["\tif len(options) > 0 \x7b"],
      ["\t\tvar err error"],
      ["\t\tvar s = &", use "github.com/go-openapi/spec", ".Swagger\x7b\x7d"],
      ["\t\tif err = s.UnmarshalJSON(", .refers embedded, "); err != nil \x7b"],
      ["\t\t\tpanic(\"Bad swagger definition: \" + err.Error())"],
      ["\t\t\x7d"],
      ["\t\tfor _, o := range options \x7b"],
      ["\t\t\to(s)"],
      ["\t\t\x7d"],
      ["\t\tif result, err = s.MarshalJSON(); err != nil \x7b"],
      ["\t\t\tpanic(\"Failed marshal spec.Swagger definition: \" + err.Error())"],
      ["\t\t\x7d"],
      ["\t\x7d else \x7b"],
      ["\t\tresult = ", .refers embedded],
      ["\t\x7d"]]

/-- The lines that open the `RegisterHTTP` of a service. -/
def registerLines (use : Use) (s : Service) : List (List Piece) :=
  [["// RegisterHTTP registers this service's HTTP handlers/bindings."],
    ["func (d *", s.name, "Desc) RegisterHTTP(mux ", use "github.com/utrack/clay/transport",
      ".Router) \x7b"],
    ["\tchiMux, isChi := mux.(", use "github.com/go-chi/chi", ".Router)"]]

/-- The descriptor of a service up to the body of its `RegisterHTTP`. -/
def serviceHead (use : Use) (embedded? : Option Text) (s : Service) : List Piece :=
  let transport := use "github.com/utrack/clay/transport"
  let name : Piece := s.name
  lines [
    ["// ", name, "Desc is a descriptor/registrator for the ", name, "Server."],
    ["type ", name, "Desc struct \x7b"],
    ["\tsvc  ", name, "Server"],
    ["\topts ", transport, ".DescOptions"],
    ["\x7d"],
    [],
    ["// New", name, "ServiceDesc creates new registrator for the ", name, "Server."],
    ["// It implements httpgrpc.ConfigurableServiceDesc as well."],
    ["func New", name, "ServiceDesc(svc ", name, "Server, opts ...", transport, ".DescOption) *",
      name, "Desc \x7b"],
    ["\tvar descOpts ", transport, ".DescOptions"],
    ["\tfor _, o := range opts \x7b"],
    ["\t\to.Apply(&descOpts)"],
    ["\t\x7d"],
    ["\treturn &", name, "Desc\x7bsvc: svc, opts: descOpts\x7d"],
    ["\x7d"],
    [],
    ["// RegisterGRPC implements service registrator interface."],
    ["func (d *", name, "Desc) RegisterGRPC(s *", use "google.golang.org/grpc", ".Server) \x7b"],
    ["\tRegister", name, "Server(s, d.svc)"],
    ["\x7d"],
    [],
    ["// SwaggerDef returns this file's Swagger definition."],
    ["func (d *", name, "Desc) SwaggerDef(options ...",
      use "github.com/utrack/clay/transport/swagger", ".Option) (result []byte) \x7b"]] ++
  swaggerBody use embedded? ++
  lines [["\treturn result"], ["\x7d"], []] ++ lines (registerLines use s)

/-- The descriptor of a service. -/
def serviceBlock (use : Use) (embedded? : Option Text) (s : Service) : List Piece :=
  serviceHead use embedded? s ++ (routes s).flatMap (handlerBlock use) ++ lines [["\x7d"]]

/-! ## The whole -/

/-- The variable that holds the embedded document of a file. -/
def swaggerVariable (file : Text) : Text := "_swaggerDef_" ++ Go.identifier file

/-- What comes before the services: package, imports, and a use of each package, without which Go
would call the import unused. -/
def header (p : Parameters) : List Piece :=
  lines [
    ["// Code generated by protoc-gen-goclay. DO NOT EDIT."],
    ["// source: ", p.file.name],
    [],
    ["package ", p.file.package.name],
    [],
    ["import ("]] ++
  p.importLines ++
  lines [
    [")"],
    [],
    ["// Update your shared lib or downgrade generator to v1 if there's an error"],
    ["var _ = ", p.use "github.com/utrack/clay/transport", ".IsVersion2"],
    [],
    ["var _ = ", p.use "io/ioutil", ".Discard"],
    ["var _ ", p.use "github.com/go-chi/chi", ".Router"],
    ["var _ ", p.use "github.com/grpc-ecosystem/grpc-gateway/runtime", ".Marshaler"],
    ["var _ ", p.use "bytes", ".Buffer"],
    ["var _ ", p.use "context", ".Context"],
    ["var _ ", p.use "fmt", ".Formatter"],
    ["var _ ", p.use "strings", ".Reader"],
    ["var _ ", p.use "github.com/pkg/errors", ".Frame"],
    ["var _ ", p.use "github.com/utrack/clay/transport/httpruntime", ".Marshaler"],
    ["var _ ", p.use "net/http", ".Handler"],
    ["var _ ", p.use "github.com/go-openapi/spec", ".Swagger"],
    ["var _ ", p.use "github.com/utrack/clay/transport/swagger", ".Option"],
    []]

/-- The embedded document, if there is one that is not empty: its variable and the declaration. -/
def embedding (p : Parameters) (file : Text) : Except Fault (Option Text × List Piece) :=
  match p.swagger?.getD [] with
  | [] => .ok (none, [])
  | octets =>
    let embedded := swaggerVariable file
    match Go.rawLiteralOfOctets octets with
    | .error e => .error (.undecodable e)
    | .ok source =>
      .ok (some embedded,
        lines [["var ", .declares embedded, " = []byte(", .literal source, ")"], []])

/-- The declarations of all routes of a file. -/
def declarations (p : Parameters) : List Piece :=
  p.file.services.flatMap fun s => (routes s).flatMap fun r =>
    declarationBlock p.use (p.typeOf [] r.bound.method.request) r

/-- The pieces of the wiring. The name of the file must be a text, since names are made of it. -/
def pieces (p : Parameters) : Except Fault (List Piece) :=
  match p.file.name with
  | .str file => do
    let (embedded?, declaration) ← embedding p file
    return header p ++ declaration ++ p.file.services.flatMap (serviceBlock p.use embedded?) ++
      declarations p
  | _ => .error .nameNotText

/-- The source of the wiring. -/
def source (p : Parameters) : Except Fault Text := (pieces p).map Piece.render

end ServiceWiring.Wiring
