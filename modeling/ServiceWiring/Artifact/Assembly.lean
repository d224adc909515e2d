import ServiceWiring.Artifact.Parameters
import ServiceWiring.Go.Name
import ServiceWiring.Json.Printer
import ServiceWiring.ToolRoot

/-!
# Assembling artifacts

`Wiring.parameters` and `Stub.parameters` gather what an artifact of a file is made from. Both bind
the packages that they import, in order: those that all artifacts share, those of their kind, and
the packages of request types from elsewhere. A stub that is kept apart from its wiring imports the
package of the wiring as well.
-/

namespace ServiceWiring

/-- The paths that all artifacts import. -/
def commonPaths : List Text :=
  ["context", "github.com/pkg/errors", "github.com/utrack/clay/transport"]

/-- Binds the packages that all artifacts import. -/
def bindCommon (paths : List Text := commonPaths) : SessionM (List GoPackage) :=
  paths.mapM fun path => SessionM.bind path

/-- The imports with the packages of some paths, bound in order. -/
def addPaths (imports : List GoPackage) (paths : List Text) : SessionM (List GoPackage) :=
  paths.foldlM (fun imports path => return addImport imports (← SessionM.bind path)) imports

/-- The imports with the packages of the request types that come from elsewhere. -/
def addRequestPackages (imports : List GoPackage) (d : Descriptor) : List GoPackage :=
  (d.boundMethods.map fun (_, m) => m.method.request.package).foldl
    (fun imports p => if p.path = d.package.path then imports else addImport imports p) imports

/-- A swagger document as it is embedded. -/
def serializeSwagger (document : Json) : Except Fault Octets :=
  match document.refusal? with
  | some r => .error (.unprintable r)
  | none =>
    match Utf8.encode? document.print with
    | some octets => .ok octets
    | none => .error .unencodable

namespace Wiring

/-- The paths that a wiring imports on top of the common ones. -/
def paths : List Text :=
  ["fmt", "io/ioutil", "strings", "bytes", "net/http",
    "github.com/utrack/clay/transport/httpruntime", "github.com/utrack/clay/transport/swagger",
    "github.com/utrack/clay/transport", "github.com/grpc-ecosystem/grpc-gateway/runtime",
    "google.golang.org/grpc", "github.com/go-chi/chi", "github.com/go-openapi/spec"]

/-- What the wiring of a file is made from; a null document counts as none. -/
def parameters (d : Descriptor) (common : List GoPackage) (swagger : Json := .null) :
    SessionM Parameters := do
  let imports ← addPaths (common.foldl addImport []) paths
  let imports := addRequestPackages imports d
  let swagger? ← match swagger with
    | .null => pure none
    | document => some <$> liftExcept (serializeSwagger document)
  return { file := d, imports, swagger? }

end Wiring

namespace Stub

/-- The paths that a stub imports on top of the common ones. -/
def paths : List Text := ["context"]

/-- Where stubs and wirings go, as import path segments, and where the tool lives. -/
structure Site where
  /-- The segment of the stubs. -/
  stubPath : Text := []
  /-- The segment of the wirings, unless it was given no value. -/
  wiringPath? : Option Text := some []
  /-- The directory of the tool, if it is known. -/
  toolDir? : Option Text := none
  /-- The roots that may hold the tool. -/
  roots : List Text := []
deriving Repr

/-- Whether stubs are kept apart from wirings. -/
def Site.isSeparate (s : Site) : Bool :=
  Path.normalize s.stubPath != Path.normalize (s.wiringPath?.getD [])

/-- The package of the stubs, if their segment names one. -/
def Site.stubPackage? (s : Site) : Option Text :=
  let path := Path.normalize s.stubPath
  if path = "." then none else some (Go.packageName path)

/-- The import path of a file's wiring as seen from the tool's root, if the tool lives under one. -/
def Site.wiringImport? (s : Site) (d : Descriptor) : Except Fault (Option Text) :=
  let root := ToolRoot.importPath d.package.path s.toolDir? s.roots
  if root.isEmpty then .ok none
  else
    match s.wiringPath? with
    | some path => .ok (some (Path.normalize (Path.join root path)))
    | none => .error .valueMissing

/-- The imports with the package of the wiring, and what stands before the names of the wiring. -/
def addWiring (imports : List GoPackage) (d : Descriptor) (s : Site) :
    SessionM (List GoPackage × Text) := do
  match ← liftExcept (s.wiringImport? d) with
  | some path =>
    let package ← SessionM.bind path
    return (addImport imports package, package.shortName ++ ".")
  | none =>
    SessionM.report (.wiringUnresolved d.name (s.wiringPath?.getD "[]"))
    return (imports, [])

/-- What the stub of a file is made from. -/
def parameters (d : Descriptor) (common : List GoPackage) (s : Site) : SessionM Parameters := do
  let imports ← addPaths (common.foldl addImport []) paths
  if s.isSeparate then
    let (imports, wiringQualifier) ← addWiring imports d s
    return { file := d, imports := addRequestPackages imports d, wiringQualifier,
             stubPackage? := s.stubPackage? }
  else
    return { file := d, imports := addRequestPackages imports d }

end Stub

end ServiceWiring
