import ServiceWiring.Batch
import ServiceWiring.Proofs.Session.Growth

/-!
# What a wiring sees of its file

A wiring is about the methods that have an HTTP binding, and of these it never asks what they give.
So of a service it sees the `Interface`: its name, and of each bound method the name, the request
type and the binding. Methods without a binding leave no trace, not even in the numbers of routes,
which count bound methods only.

To compare two files, each is compared with one that holds nothing but the interfaces of the first
(`Descriptor.restricted`): every block of a wiring is the same for both, and so is what is imported.

Headline:
* **`Wiring.sourceOf_congr`**: files with the same interfaces have the same wiring, and assembling
  it does the same to the session.
-/

namespace ServiceWiring

open SessionM (result final)

/-! ## Interfaces -/

/-- What a wiring sees of a bound method. -/
structure Binding where
  /-- The name of the method. -/
  name : Json
  /-- What the method takes. -/
  request : Message
  /-- Its HTTP binding. -/
  rule : HttpRule

/-- What a wiring sees of a service. -/
structure Interface where
  /-- The name of the service. -/
  name : Json
  /-- Its bound methods, as declared. -/
  bindings : List Binding

/-- A bound method without what it gives. -/
def BoundMethod.binding (m : BoundMethod) : Binding := ⟨m.method.name, m.method.request, m.rule⟩

/-- The name of a service and its bound methods, without what they give. -/
def Service.interface (s : Service) : Interface := ⟨s.name, s.boundMethods.map (·.binding)⟩

/-- The two files have one name and one package, and their services have the same interfaces, in the
same order. -/
structure Descriptor.SameInterfaces (d d' : Descriptor) : Prop where
  /-- They have one name. -/
  name : d'.name = d.name
  /-- They have one package. -/
  package : d'.package = d.package
  /-- Their services have the same interfaces. -/
  services : d'.services.map Service.interface = d.services.map Service.interface

/-! ## Nothing but the interface -/

/-- A method that gives what it takes. -/
def Binding.toMethod (b : Binding) : Method := ⟨b.name, b.request, b.request, some b.rule⟩

/-- A service of an interface, without any other methods. -/
def Interface.toService (i : Interface) : Service := ⟨i.name, i.bindings.map (·.toMethod)⟩

/-- The file with nothing but the interfaces of its services. -/
def Descriptor.restricted (d : Descriptor) : Descriptor :=
  { d with services := d.services.map fun s => s.interface.toService }

/-- Files with the same interfaces are left with the same. -/
theorem Descriptor.SameInterfaces.restricted_eq {d d' : Descriptor} (h : d.SameInterfaces d') :
    d'.restricted = d.restricted := by
  have hservices : d'.services.map (fun s => s.interface.toService) =
      d.services.map fun s => s.interface.toService := by
    have hmap := congrArg (List.map Interface.toService) h.services
    rwa [List.map_map, List.map_map] at hmap
  unfold restricted
  rw [h.name, h.package, hservices]

/-- A bound method that gives what it takes. -/
def BoundMethod.restricted (m : BoundMethod) : BoundMethod := ⟨m.binding.toMethod, m.rule⟩

theorem Service.boundMethods_restricted (s : Service) :
    s.interface.toService.boundMethods = s.boundMethods.map (·.restricted) := by
  unfold Service.interface Interface.toService
  rw [boundMethods, List.filterMap_map, List.filterMap_map]
  exact congrFun (List.filterMap_eq_map (f := BoundMethod.restricted)) _

namespace Wiring

variable {d d' : Descriptor} {s : Service} {r : Route} {use : Use}

/-! ## Blocks -/

/-- A route of the service that is left. -/
def Route.restricted (r : Route) : Route :=
  ⟨r.service.interface.toService, r.bound.restricted, r.index⟩

/-- Routes are numbered among bound methods, so they keep their numbers. -/
theorem routes_restricted (s : Service) :
    routes s.interface.toService = (routes s).map (·.restricted) := by
  unfold routes
  rw [s.boundMethods_restricted, List.zipIdx_map, List.map_map, List.map_map]
  rfl

theorem serviceBlock_restricted (use : Use) (embedded? : Option Text) (s : Service) :
    serviceBlock use embedded? s.interface.toService = serviceBlock use embedded? s := by
  unfold serviceBlock
  rw [routes_restricted, List.flatMap_map]
  rfl

/-- A wiring is made of the interfaces alone. -/
theorem pieces_restricted (p : Parameters) :
    pieces { p with file := p.file.restricted } = pieces p := by
  have hservices (embedded? : Option Text) :
      p.file.restricted.services.flatMap (serviceBlock p.use embedded?) =
        p.file.services.flatMap (serviceBlock p.use embedded?) := by
    rw [Descriptor.restricted, List.flatMap_map]
    exact List.flatMap_congr fun s _ => serviceBlock_restricted p.use embedded? s
  have hdeclarations : declarations { p with file := p.file.restricted } = declarations p := by
    unfold declarations
    rw [Descriptor.restricted, List.flatMap_map]
    refine List.flatMap_congr fun s _ => ?_
    rw [routes_restricted, List.flatMap_map]
    rfl
  have hname : p.file.restricted.name = p.file.name := rfl
  have hheader : header { p with file := p.file.restricted } = header p := rfl
  have hembedding : embedding { p with file := p.file.restricted } = embedding p := rfl
  have huse : Parameters.use { p with file := p.file.restricted } = p.use := rfl
  unfold pieces
  simp only [hname, hheader, hembedding, huse, hservices, hdeclarations]

/-! ## Assembling -/

theorem addRequestPackages_restricted (imports : List GoPackage) (d : Descriptor) :
    addRequestPackages imports d.restricted = addRequestPackages imports d := by
  have hpackages : d.restricted.boundMethods.map (·.2.method.request.package) =
      d.boundMethods.map (·.2.method.request.package) := by
    unfold Descriptor.boundMethods
    rw [Descriptor.restricted, List.flatMap_map, List.map_flatMap, List.map_flatMap]
    refine List.flatMap_congr fun s _ => ?_
    rw [s.boundMethods_restricted, List.map_map, List.map_map, List.map_map]
    rfl
  -- Of a bound method the fold reads only the package of what it takes.
  show (d.restricted.boundMethods.map (·.2.method.request.package)).foldl _ imports =
    (d.boundMethods.map (·.2.method.request.package)).foldl _ imports
  rw [hpackages]
  rfl

/-- What is left of a file is assembled into the same, but for the file. -/
theorem parameters_restricted (d : Descriptor) (common : List GoPackage) (swagger : Json) :
    parameters d.restricted common swagger =
      (fun p => { p with file := p.file.restricted }) <$> parameters d common swagger := by
  unfold parameters
  rw [map_bind]
  refine bind_congr fun imports => ?_
  simp only [addRequestPackages_restricted]
  split
  · rw [map_bind]
    rfl
  · rw [map_bind]
    rfl

/-- The source of the wiring of a file: assembled, and then rendered. -/
def sourceOf (d : Descriptor) (common : List GoPackage) (swagger : Json := .null) :
    SessionM Text := do
  let p ← parameters d common swagger
  Generator.rendered (Renderer.standard.wiring p)

theorem sourceOf_restricted (d : Descriptor) (common : List GoPackage) (swagger : Json) :
    sourceOf d.restricted common swagger = sourceOf d common swagger := by
  have hsource (p : Parameters) : source { p with file := p.file.restricted } = source p := by
    unfold source
    rw [pieces_restricted]
  unfold sourceOf Renderer.standard
  rw [parameters_restricted, bind_map_left]
  simp only [hsource]

/-- **A wiring depends on the bound interface alone.** Take two files of one name and one package
whose services have the same names in the same order, and whose bound methods have, service by
service, the same names, request types and bindings. What the bound methods give may differ, and
methods without a binding may differ, be more or be fewer. From every session, with the same common
packages and the same swagger document, the sources of their wirings are the same text, or fail in
the same way, and the sessions afterwards are the same, with the same import table. -/
theorem sourceOf_congr (h : d.SameInterfaces d') (common : List GoPackage) (swagger : Json)
    (s : Session) :
    (sourceOf d' common swagger).result s = (sourceOf d common swagger).result s ∧
      (sourceOf d' common swagger).final s = (sourceOf d common swagger).final s := by
  have hsource : sourceOf d' common swagger = sourceOf d common swagger := by
    rw [← sourceOf_restricted d', h.restricted_eq, sourceOf_restricted]
  rw [hsource]
  exact ⟨rfl, rfl⟩

/-- A method of a file of the package `x/y` that takes a message of another package. -/
def foreignMethod (name : Text) (response : GoPackage) (http? : Option HttpRule) : Method where
  name := .str name
  request := ⟨.str "Req", { path := "z/q", name := "q" }⟩
  response := ⟨.str "Res", response⟩
  http? := http?

/-- A file of the package `x/y` with one service. -/
def oneService (methods : List Method) : Descriptor where
  name := .str "a/b.proto"
  package := { path := "x/y", name := "y" }
  services := [⟨.str "S", methods⟩]

/-- Methods without a binding stand before, between and after the bound ones of the first file; the
second file has none, and its bound methods give something else. -/
theorem sourceOf_congr_interleaved :
    let get : HttpRule := ⟨.get, .str "/b", .str []⟩
    let post : HttpRule := ⟨.post, .str "/d", .str "*"⟩
    let own : GoPackage := { path := "x/y", name := "y" }
    let other : GoPackage := { path := "z/p", name := "p" }
    let mixed := oneService [foreignMethod "A" other none, foreignMethod "B" other (some get),
      foreignMethod "C" own none, foreignMethod "D" own (some post), foreignMethod "E" own none]
    let bound := oneService [foreignMethod "B" own (some get), foreignMethod "D" other (some post)]
    mixed.SameInterfaces bound ∧ ∃ text,
      (sourceOf mixed [] (.arr [.int 1])).result {} = .ok text ∧
        (sourceOf bound [] (.arr [.int 1])).result {} = .ok text ∧
        (sourceOf bound [] (.arr [.int 1])).final {} =
          (sourceOf mixed [] (.arr [.int 1])).final {} := by
  intro get post own other mixed bound
  have hsame : mixed.SameInterfaces bound := ⟨rfl, rfl, rfl⟩
  have hmade : ((sourceOf mixed [] (.arr [.int 1])).result {}).toOption.map List.isEmpty =
      some false := by decide +kernel
  obtain ⟨text, htext, -⟩ := exists_ok_of_map hmade
  obtain ⟨hresult, hfinal⟩ := sourceOf_congr hsame [] (.arr [.int 1]) {}
  exact ⟨hsame, text, htext, hresult.trans htext, hfinal⟩

end Wiring

end ServiceWiring
