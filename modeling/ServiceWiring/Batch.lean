import ServiceWiring.Artifact.Assembly
import ServiceWiring.Formatter
import ServiceWiring.Plan
import ServiceWiring.Renderer

/-!
# Batches

A generator turns a list of files into a list of outputs: for each file with services its wiring,
and its stub where one is planned. All artifacts share the import table of the session. The first
failure ends the whole batch. Nothing is written here, though a formatter may write what it likes.
-/

namespace ServiceWiring

/-- What a run is asked to do. -/
structure Options where
  /-- Whether stubs are wanted. -/
  stubs : Bool := false
  /-- Whether a stub that exists is overwritten. -/
  force : Bool := false
  /-- The import path segment of the stubs. -/
  stubPath : Text := []
  /-- The import path segment of the wirings, unless it was given no value. -/
  wiringPath? : Option Text := some []
  /-- The swagger documents of files, by the names of the files. -/
  swagger : List (Text × Json) := []
deriving Repr

/-- An output: a name and what is to be written under it. -/
structure Output where
  /-- The name. -/
  name : Text
  /-- The content. -/
  content : Octets
deriving DecidableEq, Repr

/-- Everything that a batch needs besides its files. -/
structure Generator where
  /-- What is asked for. -/
  options : Options := {}
  /-- How artifacts become source. -/
  renderer : Renderer := .standard
  /-- What is done to the source. -/
  formatter : Formatter := .keep
  /-- The directory of the tool, if it is known. -/
  toolDir? : Option Text
  /-- The roots that may hold the tool. -/
  roots : List Text
  /-- The packages that all artifacts import. -/
  common : List GoPackage

namespace Generator

/-- A generator: the tool is looked for where it is not given, and then the common packages are
bound. -/
def create (options : Options) (renderer : Renderer) (formatter : Formatter)
    (toolDir? : Option Text) (roots? : Option (List Text)) : SessionM Generator := do
  let m ← SessionM.machine
  let toolDir? ← match toolDir? with
    | some dir => pure (some dir)
    | none => ToolRoot.directory? m.toolPath
  let roots ← match roots? with
    | some roots => pure roots
    | none => ToolRoot.roots (m.environmentValue? "GOPATH")
  let common ← bindCommon
  return { options, renderer, formatter, toolDir?, roots, common }

/-- Where the stubs and wirings of a generator go. -/
def site (g : Generator) : Stub.Site where
  stubPath := g.options.stubPath
  wiringPath? := g.options.wiringPath?
  toolDir? := g.toolDir?
  roots := g.roots

/-- The source of a rendered artifact; a failure of its template is reported. -/
def rendered : Except RenderFailure Text → SessionM Text
  | .ok source => pure source
  | .error (.template name message source) => do
    SessionM.report (.renderFailed name message source)
    throw (.render name message)
  | .error (.fault f) => throw f

/-- The output of a source: formatted and encoded. A source that the formatter rejects is reported.
-/
def emit (g : Generator) (name source : Text) : SessionM Output := do
  match ← SessionM.onMachine (g.formatter · source) with
  | .error (.format message) => do
    SessionM.report (.formatFailed message source)
    throw (.format message)
  | .error fault => throw fault
  | .ok formatted => do
    SessionM.report (.emitting name)
    match Utf8.encode? formatted with
    | some content => return { name, content }
    | none => throw .unencodable

/-- The swagger document of a file; null if it has none. -/
def swaggerOf (g : Generator) (d : Descriptor) : Json :=
  (match d.name with
    | .str name => g.options.swagger.lookup name
    | _ => none).getD .null

/-- The wiring of a file. -/
def emitWiring (g : Generator) (d : Descriptor) (output : Text) : SessionM Output := do
  let p ← Wiring.parameters d g.common (g.swaggerOf d)
  g.emit output (← rendered (g.renderer.wiring p))

/-- The stub of a file. -/
def emitStub (g : Generator) (d : Descriptor) (output : Text) : SessionM Output := do
  let p ← Stub.parameters d g.common g.site
  g.emit output (← rendered (g.renderer.stub p))

/-- The plan of a file, for which its stub may have to be looked for. -/
def plan (g : Generator) (d : Descriptor) : SessionM Plan := do
  let present ← match Plan.question? d g.options.stubs g.options.force with
    | some stub => ToolRoot.isPresent g.toolDir? stub
    | none => pure false
  let plan ← liftExcept (Plan.make d g.options.stubs g.options.force present)
  (plan.events d).forM SessionM.report
  return plan

/-- The outputs of one file. -/
def generateFile (g : Generator) (d : Descriptor) : SessionM (List Output) := do
  SessionM.report (.processing d.name)
  match ← g.plan d with
  | .nothing => return []
  | .wiring output _ => return [← g.emitWiring d output]
  | .both output stub =>
    let wiring ← g.emitWiring d output
    let stub ← g.emitStub d stub
    return [wiring, stub]

/-- The outputs of a list of files, in order. -/
def generate (g : Generator) (files : List Descriptor) : SessionM (List Output) :=
  return (← files.mapM g.generateFile).flatten

end Generator

end ServiceWiring
