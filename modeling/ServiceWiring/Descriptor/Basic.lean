import ServiceWiring.Go.Package
import ServiceWiring.Json.Basic

/-!
# Descriptors

A descriptor tells of a file with services: their methods, the messages that each method takes and
gives, the Go package of every message, and perhaps the HTTP binding of a method. Names are not
checked to be texts, so they are JSON values.
-/

namespace ServiceWiring

/-- A message and the package that holds its type. -/
structure Message where
  /-- The name of the message. -/
  name : Json
  /-- The package of its type. -/
  package : GoPackage
deriving Repr

/-- The verb of an HTTP binding. -/
inductive Verb where
  /-- Read. -/
  | get
  /-- Store. -/
  | put
  /-- Send. -/
  | post
  /-- Remove. -/
  | delete
  /-- Change. -/
  | patch
deriving DecidableEq, Repr

namespace Verb

/-- The verb in small letters. -/
def toText : Verb → Text
  | get => "get"
  | put => "put"
  | post => "post"
  | delete => "delete"
  | patch => "patch"

/-- The verb in capitals, as a request names it. -/
def toUpper : Verb → Text
  | get => "GET"
  | put => "PUT"
  | post => "POST"
  | delete => "DELETE"
  | patch => "PATCH"

/-- The verb with the given name in small letters. -/
def ofText? (t : Text) : Option Verb := [get, put, post, delete, patch].find? (·.toText = t)

end Verb

/-- The HTTP binding of a method. -/
structure HttpRule where
  /-- The verb. -/
  verb : Verb
  /-- The pattern of the request's path. -/
  path : Json
  /-- The field that takes the request's body: a name, a star for the whole message, or nothing. -/
  body : Json
deriving Repr

/-- A method of a service. -/
structure Method where
  /-- The name of the method. -/
  name : Json
  /-- What the method takes. -/
  request : Message
  /-- What the method gives. -/
  response : Message
  /-- Its HTTP binding, if it has one. -/
  http? : Option HttpRule
deriving Repr

/-- A service. -/
structure Service where
  /-- The name of the service. -/
  name : Json
  /-- Its methods, as declared. -/
  methods : List Method
deriving Repr

/-- A file with services. -/
structure Descriptor where
  /-- The name of the file. -/
  name : Json
  /-- The package of its types. -/
  package : GoPackage
  /-- Its services, as declared. -/
  services : List Service
deriving Repr

/-- A method together with its HTTP binding. -/
structure BoundMethod where
  /-- The method. -/
  method : Method
  /-- Its binding. -/
  rule : HttpRule
deriving Repr

namespace Service

/-- The methods with an HTTP binding, as declared. -/
def boundMethods (s : Service) : List BoundMethod :=
  s.methods.filterMap fun m => m.http?.map (⟨m, ·⟩)

end Service

namespace Descriptor

/-- The methods with an HTTP binding of all services, as declared. -/
def boundMethods (d : Descriptor) : List (Service × BoundMethod) :=
  d.services.flatMap fun s => s.boundMethods.map (s, ·)

end Descriptor

end ServiceWiring
