import Mathlib.Data.List.Forall2
import ServiceWiring.Descriptor.Reader

/-!
# The grammar of descriptor sets

`IsSet` says which documents are descriptor sets, level by level: a list of files, the services of a
file, the methods of a service, the messages and the binding of a method. `MirrorsSet` says what is
read of them: the same parts in the same order, each with the package that it names or else with the
one that it is owned by.

The grammar leaves open of what kind names and package options are. `WellTyped` says that they are
texts wherever they may be needed as such, and `Readable` that they are wherever they are needed.
-/

namespace ServiceWiring

/-- The items of the list under a key, if there is one. -/
def Json.itemsUnder (key : Text) (raw : Json) : List Json :=
  match raw.field? key with
  | some (.arr items) => items
  | _ => []

namespace Descriptor

variable {document raw : Json}

/-! ## The grammar -/

/-- Whatever stands under the key is a list. -/
def IsListUnder (key : Text) (raw : Json) : Prop :=
  ∀ v, raw.field? key = some v → ∃ items, v = .arr items

/-- An object with a name. -/
def IsMessage (raw : Json) : Prop := (raw.field? "name").isSome

/-- An object with the name of a verb, in letters of any case, and a path. -/
def IsBinding (raw : Json) : Prop :=
  (∃ v, raw.field? "method" = some v ∧ ∃ verb : Verb, verb.toText = v.display.lower) ∧
    (raw.field? "path").isSome

/-- An object with a name, two messages and at most one binding, which may be null. -/
structure IsMethod (raw : Json) : Prop where
  /-- There is a name. -/
  name : (raw.field? "name").isSome
  /-- What the method takes. -/
  request : ∃ q, raw.field? "request_type" = some q ∧ IsMessage q
  /-- What the method gives. -/
  response : ∃ q, raw.field? "response_type" = some q ∧ IsMessage q
  /-- The binding. -/
  binding : ∀ b, raw.field? "http" = some b → b = .null ∨ IsBinding b

/-- An object with a name and perhaps a list of methods. -/
structure IsService (raw : Json) : Prop where
  /-- There is a name. -/
  name : (raw.field? "name").isSome
  /-- The methods are a list. -/
  list : IsListUnder "methods" raw
  /-- The methods. -/
  methods : ∀ m ∈ raw.itemsUnder "methods", IsMethod m

/-- An object with a name and perhaps a list of services. -/
structure IsFile (raw : Json) : Prop where
  /-- There is a name. -/
  name : (raw.field? "name").isSome
  /-- The services are a list. -/
  list : IsListUnder "services" raw
  /-- The services. -/
  services : ∀ v ∈ raw.itemsUnder "services", IsService v

/-- An object with a list of files. -/
def IsSet (document : Json) : Prop :=
  ∃ files, document.field? "files" = some (.arr files) ∧ ∀ f ∈ files, IsFile f

/-! ## Names and options -/

/-- The object has a package option that is a text and not empty. -/
def HasOption (raw : Json) (option : Text) : Prop :=
  raw.field? "go_package" = some (.str option) ∧ option ≠ []

/-- The package option, if there is one, is a text or null. -/
def OptionIsText (raw : Json) : Prop :=
  ∀ v, raw.field? "go_package" = some v → v = .null ∨ ∃ option, v = .str option

/-- The package option is a text unless it counts as left out. -/
def OptionReadable (raw : Json) : Prop :=
  ∀ v, raw.field? "go_package" = some v → v.isTruthy = true → ∃ option, v = .str option

/-- The name, if there is one, is a text. -/
def NameIsText (raw : Json) : Prop := ∀ v, raw.field? "name" = some v → ∃ t, v = .str t

/-- The messages of a method. -/
def messagesOf (method : Json) : List Json :=
  (method.field? "request_type").toList ++ (method.field? "response_type").toList

/-- All files and all messages of a set are as stated. -/
def Throughout (file message : Json → Prop) (document : Json) : Prop :=
  ∀ f ∈ document.itemsUnder "files", file f ∧ ∀ v ∈ f.itemsUnder "services",
    ∀ m ∈ v.itemsUnder "methods", ∀ q ∈ messagesOf m, message q

/-- The names of files are texts, and the package options of files and messages are texts or null.
-/
def WellTyped (document : Json) : Prop :=
  Throughout (fun f => NameIsText f ∧ OptionIsText f) OptionIsText document

/-- The package of a file can be told: its option is readable, and where it has none its name is a
text. -/
def FileReadable (raw : Json) : Prop :=
  OptionReadable raw ∧ ((∀ option, ¬HasOption raw option) → NameIsText raw)

/-- Whatever is needed as a text is one. -/
def Readable (document : Json) : Prop := Throughout FileReadable OptionReadable document

theorem OptionIsText.readable (h : OptionIsText raw) : OptionReadable raw := by
  intro v hv htruthy
  rcases h v hv with rfl | h
  · cases htruthy
  · exact h

theorem Throughout.mono {file file' message message' : Json → Prop}
    (h : Throughout file message document) (hf : ∀ f, file f → file' f)
    (hm : ∀ q, message q → message' q) : Throughout file' message' document := fun f hfile =>
  ⟨hf f (h f hfile).1, fun v hv m hm' q hq => hm q ((h f hfile).2 v hv m hm' q hq)⟩

theorem WellTyped.readable (h : WellTyped document) : Readable document :=
  h.mono (fun _ hf => ⟨hf.2.readable, fun _ => hf.1⟩) fun _ hq => hq.readable

/-! ## What is read -/

/-- The message has the name of the object, and the package that the object names, or else the one
that it is owned by. -/
structure MirrorsMessage (owner : GoPackage) (raw : Json) (m : Message) : Prop where
  /-- The name. -/
  name : raw.field? "name" = some m.name
  /-- The package that the object names. -/
  named : ∀ option, HasOption raw option → m.package.path = (GoPackage.splitOption option).1
  /-- The package of the owner. -/
  owned : (∀ option, ¬HasOption raw option) → m.package = owner

/-- The rule has the verb, the path and the body of the object. -/
structure MirrorsRule (raw : Json) (r : HttpRule) : Prop where
  /-- The verb. -/
  verb : ∃ v, raw.field? "method" = some v ∧ r.verb.toText = v.display.lower
  /-- The path. -/
  path : raw.field? "path" = some r.path
  /-- The body, which is empty where it is left out. -/
  body : r.body = (raw.field? "body").getD (.str [])

/-- The method has the name, the messages and the binding of the object. -/
structure MirrorsMethod (owner : GoPackage) (raw : Json) (m : Method) : Prop where
  /-- The name. -/
  name : raw.field? "name" = some m.name
  /-- What the method takes. -/
  request : ∃ q, raw.field? "request_type" = some q ∧ MirrorsMessage owner q m.request
  /-- What the method gives. -/
  response : ∃ q, raw.field? "response_type" = some q ∧ MirrorsMessage owner q m.response
  /-- There is no binding iff it is left out or null. -/
  unbound : m.http? = none ↔ raw.field? "http" = none ∨ raw.field? "http" = some .null
  /-- The binding. -/
  bound : ∀ r, m.http? = some r → ∃ b, raw.field? "http" = some b ∧ MirrorsRule b r

/-- The service has the name and the methods of the object. -/
structure MirrorsService (owner : GoPackage) (raw : Json) (v : Service) : Prop where
  /-- The name. -/
  name : raw.field? "name" = some v.name
  /-- The methods, in their order. -/
  methods : List.Forall₂ (MirrorsMethod owner) (raw.itemsUnder "methods") v.methods

/-- The path of a file's package: the one that the file names, or else its directory. -/
structure MirrorsPackage (name raw : Json) (p : GoPackage) : Prop where
  /-- The package that the object names. -/
  named : ∀ option, HasOption raw option → p.path = (GoPackage.splitOption option).1
  /-- The directory. -/
  placed : (∀ option, ¬HasOption raw option) → ∃ file, name = .str file ∧
    p.path = if Path.directory file = [] then Text.ofString "." else Path.directory file

/-- The file has the name and the services of the object, and owns its messages. -/
structure MirrorsFile (raw : Json) (d : Descriptor) : Prop where
  /-- The name. -/
  name : raw.field? "name" = some d.name
  /-- The package. -/
  package : MirrorsPackage d.name raw d.package
  /-- The services, in their order. -/
  services : List.Forall₂ (MirrorsService d.package) (raw.itemsUnder "services") d.services

/-- The files are those of the document, in their order. -/
def MirrorsSet (document : Json) (ds : List Descriptor) : Prop :=
  List.Forall₂ MirrorsFile (document.itemsUnder "files") ds

end Descriptor

end ServiceWiring
