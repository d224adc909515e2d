import ServiceWiring.Fault

/-!
# Reports

What a run tells about itself while it works. An event is the thing that happened; its level, the
part of the tool that reports it, and its wording follow from it.
-/

namespace ServiceWiring

/-- How much an event matters. -/
inductive Level where
  /-- Of use only when looking for a fault. -/
  | debug
  /-- What a run is expected to tell. -/
  | info
  /-- What made a run fail. -/
  | error
deriving DecidableEq, Repr

/-- The name of a level. -/
def Level.toText : Level → Text
  | .debug => "DEBUG"
  | .info => "INFO"
  | .error => "ERROR"

/-- The order of the levels. -/
def Level.rank : Level → Nat
  | .debug => 0
  | .info => 1
  | .error => 2

/-- Something that happened during a run. -/
inductive Event where
  /-- Descriptors were loaded from a path. -/
  | descriptorsLoaded (count : Nat) (path : Text)
  /-- A swagger document was loaded from a path. -/
  | swaggerLoaded (path : Text)
  /-- The directory of the tool could not be found. -/
  | toolUnresolved (toolPath reason : Text)
  /-- A configured root could not be found. -/
  | rootUnresolved (root reason : Text)
  /-- It could not be told whether a file exists. -/
  | presenceUnknown (path reason : Text)
  /-- A file is looked at. -/
  | processing (name : Json)
  /-- A file has no services. -/
  | noServices (name : Json)
  /-- A stub exists already and is left alone. -/
  | stubKept (reason : Text)
  /-- A stub cannot tell the import path of its wiring. -/
  | wiringUnresolved (name : Json) (path : Text)
  /-- An artifact could not be rendered from its template. -/
  | renderFailed (template message source : Text)
  /-- The formatter rejected a source. -/
  | formatFailed (message source : Text)
  /-- An artifact is ready. -/
  | emitting (name : Text)
  /-- A file was written. -/
  | written (path : Text)
  /-- The run failed. -/
  | failed (message : Text)
  /-- The run is done. -/
  | done (count : Nat)
deriving Repr

namespace Event

/-- How much the event matters. -/
def level : Event → Level
  | renderFailed .. | formatFailed .. | failed .. => .error
  | noServices .. | stubKept .. | wiringUnresolved .. | written .. | done .. => .info
  | _ => .debug

/-- The part of the tool that reports the event. -/
def origin : Event → Text
  | descriptorsLoaded .. | swaggerLoaded .. => "claygen.loader"
  | toolUnresolved .. | rootUnresolved .. | presenceUnknown .. => "claygen.rootpath"
  | processing .. | formatFailed .. | emitting .. => "claygen.generator"
  | noServices .. | stubKept .. => "claygen.planner"
  | wiringUnresolved .. => "claygen.context_builder"
  | renderFailed .. | written .. => "claygen.codegen"
  | failed .. | done .. => "claygen"

/-- The wording of the event. A source is shown with its lines numbered. -/
def message : Event → Text
  | descriptorsLoaded count path => "Loaded " ++ Text.ofNat count ++ " files from " ++ path
  | swaggerLoaded path => "Loaded swagger definition " ++ path
  | toolUnresolved toolPath reason =>
    "cannot resolve tool directory from " ++ toolPath.quoted ++ ": " ++ reason
  | rootUnresolved root reason => "cannot resolve root " ++ root.quoted ++ ": " ++ reason
  | presenceUnknown path reason => "cannot stat " ++ path ++ ": " ++ reason
  | processing name => "Processing " ++ name.display
  | noServices name => name.display ++ ": no target service defined in the file"
  | stubKept reason => "Implementation will not be emitted: " ++ reason
  | wiringUnresolved name path =>
    name.display ++ ": cannot resolve root import path, stub will not import " ++ path
  | renderFailed template message source =>
    template ++ ": " ++ message ++ ": " ++ source.numberLines
  | formatFailed message source => message ++ ": " ++ source.numberLines
  | emitting name => "Will emit " ++ name
  | written path => "Generated " ++ path
  | failed message => message
  | done count => "Generated " ++ Text.ofNat count ++ " files"

/-- The event as a line of the log. -/
def line (e : Event) : Text := e.level.toText ++ " " ++ e.origin ++ ": " ++ e.message

end Event

end ServiceWiring
