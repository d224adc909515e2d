import ServiceWiring.Artifact.Wiring
import ServiceWiring.Proofs.Artifact.Qualifiers
import ServiceWiring.Proofs.Session.Names

/-!
# What a wiring names and what it imports

Go reports a package that is named and not imported, and one that is imported and not named. A
wiring imports a fixed list of packages, and those of the request types of bound methods that come
from elsewhere. What it names comes about in another place: the header names all of the fixed
packages but one, every service names that one, and every route names its request type.

Each block is compared with `Wiring.lookups`, what a wiring writes for the fixed packages; so a
block that changes is one lemma to look at.

Results:
* `exists_divided`: what the pieces name above and below the import block.
* `Divided.mem_qualifiers_iff`: below it, they name exactly what the block imports.

Headline:
* **`wiring_imports_iff`**: in a session without reservations each name below the import block is
  that of exactly one import, each import is named, and no name is empty but one that was asked for.
-/

namespace ServiceWiring

open ImportTable (Grows Call)
open Piece (qualifiers)

namespace Wiring

variable {r : Parameters} {route : Route} {v : Service} {ps : List Piece}

/-- What a wiring writes for the packages that every wiring imports. -/
def lookups (r : Parameters) : List (Text × Text) := (commonPaths ++ paths).map r.lookup

/-! ## Blocks -/

theorem handlerBlock_subset : qualifiers (handlerBlock r.use route) ⊆ lookups r := by
  simp [handlerBlock, openingLines, callLines, answerLines, routerLines, lookups, commonPaths,
    paths]

theorem bodyTarget_qualifiers (body : Json) : qualifiers (bodyTarget body) = [] := by
  unfold bodyTarget
  split <;> rfl

theorem bodyBlock_subset (rule : HttpRule) : qualifiers (bodyBlock r.use rule) ⊆ lookups r := by
  unfold bodyBlock
  simp only
  split
  · simp [bodyTarget_qualifiers, lookups, commonPaths, paths]
  · simp

theorem declarationBlock_qualifiers (requestType : List Piece) :
    qualifiers (declarationBlock r.use requestType route) =
      [r.lookup "net/http"] ++ qualifiers requestType ++
        qualifiers (bodyBlock r.use route.bound.rule) ++
        [r.lookup "github.com/pkg/errors",
          r.lookup "github.com/grpc-ecosystem/grpc-gateway/runtime",
          r.lookup "github.com/utrack/clay/transport/httpruntime"] := by
  simp [declarationBlock, patternLines, unmarshalerBlock, signatureLines, queryLines]

/-- The declarations of a route name what its request type names, and lookups. -/
theorem declarationBlock_subset (requestType : List Piece) :
    qualifiers (declarationBlock r.use requestType route) ⊆
      lookups r ++ qualifiers requestType := by
  rw [declarationBlock_qualifiers]
  simp only [List.append_subset]
  refine ⟨⟨⟨?_, List.subset_append_right _ _⟩, ?_⟩, ?_⟩
  · simp [lookups, commonPaths, paths]
  · exact List.Subset.trans (bodyBlock_subset _) (List.subset_append_left _ _)
  · simp [lookups, commonPaths, paths]

theorem requestType_subset (requestType : List Piece) :
    qualifiers requestType ⊆ qualifiers (declarationBlock r.use requestType route) := by
  rw [declarationBlock_qualifiers]
  intro q hq
  simp [hq]

theorem serviceHead_subset (embedded? : Option Text) :
    qualifiers (serviceHead r.use embedded? v) ⊆ lookups r := by
  cases embedded? with
  | none => simp [serviceHead, registerLines, swaggerBody, lookups, commonPaths, paths]
  | some embedded => simp [serviceHead, registerLines, swaggerBody, lookups, commonPaths, paths]

theorem serviceBlock_subset (embedded? : Option Text) :
    qualifiers (serviceBlock r.use embedded? v) ⊆ lookups r := by
  unfold serviceBlock
  simp only [Piece.qualifiers_append, Piece.qualifiers_flatMap, List.append_subset]
  refine ⟨⟨serviceHead_subset embedded?, fun q hq => ?_⟩, by simp⟩
  obtain ⟨route, -, hq⟩ := List.mem_flatMap.mp hq
  exact handlerBlock_subset hq

/-- Every service names the one package that the header does not. -/
theorem grpc_mem_serviceBlock (embedded? : Option Text) :
    r.lookup "google.golang.org/grpc" ∈ qualifiers (serviceBlock r.use embedded? v) := by
  simp [serviceBlock, serviceHead]

theorem embedding_qualifiers {file : Text} {embedded? : Option Text} {declaration : List Piece}
    (h : embedding r file = .ok (embedded?, declaration)) : qualifiers declaration = [] := by
  unfold embedding at h
  split at h
  · cases h
    rfl
  · simp only at h
    split at h
    · cases h
    · cases h
      simp

/-- The paths of the packages that the header names, so that Go calls none of them unused. -/
def headerPaths : List Text :=
  ["github.com/utrack/clay/transport", "io/ioutil", "github.com/go-chi/chi",
    "github.com/grpc-ecosystem/grpc-gateway/runtime", "bytes", "context", "fmt", "strings",
    "github.com/pkg/errors", "github.com/utrack/clay/transport/httpruntime", "net/http",
    "github.com/go-openapi/spec", "github.com/utrack/clay/transport/swagger"]

/-- The header names nothing above the import block and its own packages below it. -/
theorem header_eq (r : Parameters) :
    ∃ above below, header r = above ++ r.importLines ++ below ∧ qualifiers above = [] ∧
      qualifiers below = headerPaths.map r.lookup := by
  unfold header
  exact ⟨_, _, rfl, by simp, by simp [headerPaths]⟩

/-- The header names what every wiring imports, but for the one package that only services name. -/
theorem mem_headerPaths {path : Text} (h : path ∈ commonPaths ++ paths) :
    path = "google.golang.org/grpc" ∨ path ∈ headerPaths := by
  have hall : ∀ path ∈ commonPaths ++ paths,
      path = "google.golang.org/grpc" ∨ path ∈ headerPaths := by decide +kernel
  exact hall path h

theorem headerPaths_subset : headerPaths ⊆ commonPaths ++ paths := by
  have hall : ∀ path ∈ headerPaths, path ∈ commonPaths ++ paths := by decide +kernel
  exact fun path h => hall path h

/-! ## The whole -/

/-- The bound methods of a service have one route each. -/
theorem bound_routes (v : Service) : (routes v).map (·.bound) = v.boundMethods := by
  unfold routes
  rw [List.map_map]
  exact List.zipIdx_map_fst 0 _

theorem mem_boundMethods_iff {d : Descriptor} {m : BoundMethod} :
    (v, m) ∈ d.boundMethods ↔ v ∈ d.services ∧ ∃ route ∈ routes v, route.bound = m := by
  rw [← List.mem_map, bound_routes]
  unfold Descriptor.boundMethods
  simp [List.mem_flatMap]

/-- What the declarations of a file name besides lookups: the packages of foreign request types. -/
theorem mem_declarations {q : Text × Text} (h : q ∈ qualifiers (declarations r)) :
    q ∈ lookups r ∨
      ∃ vm ∈ r.file.boundMethods, q ∈ qualifiers (r.typeOf [] vm.2.method.request) := by
  unfold declarations at h
  rw [Piece.qualifiers_flatMap] at h
  obtain ⟨v, hv, h⟩ := List.mem_flatMap.mp h
  rw [Piece.qualifiers_flatMap] at h
  obtain ⟨route, hroute, h⟩ := List.mem_flatMap.mp h
  rcases List.mem_append.mp (declarationBlock_subset _ h) with h | h
  · exact Or.inl h
  · exact Or.inr ⟨(v, route.bound), mem_boundMethods_iff.mpr ⟨hv, route, hroute, rfl⟩, h⟩

theorem requestType_subset_declarations {vm : Service × BoundMethod}
    (h : vm ∈ r.file.boundMethods) :
    qualifiers (r.typeOf [] vm.2.method.request) ⊆ qualifiers (declarations r) := by
  obtain ⟨v, m⟩ := vm
  obtain ⟨hv, route, hroute, rfl⟩ := mem_boundMethods_iff.mp h
  intro q hq
  unfold declarations
  rw [Piece.qualifiers_flatMap]
  refine List.mem_flatMap.mpr ⟨v, hv, ?_⟩
  rw [Piece.qualifiers_flatMap]
  exact List.mem_flatMap.mpr ⟨route, hroute, requestType_subset _ hq⟩

/-- The pieces of a wiring have an import block with nothing named above it. Below it, lookups are
named and the packages of the request types of bound methods: all of these and, if there is a
service, all lookups. -/
structure Divided (r : Parameters) (ps above below : List Piece) : Prop where
  /-- Above, at and below the import block. -/
  pieces : ps = above ++ r.importLines ++ below
  /-- Nothing is named above. -/
  above : qualifiers above = []
  /-- Nothing else is named below. -/
  only : ∀ q ∈ qualifiers below, q ∈ lookups r ∨
    ∃ vm ∈ r.file.boundMethods, q ∈ qualifiers (r.typeOf [] vm.2.method.request)
  /-- All lookups are named. -/
  lookups : r.file.services ≠ [] → lookups r ⊆ qualifiers below
  /-- All foreign request types are named. -/
  requests : ∀ vm ∈ r.file.boundMethods,
    qualifiers (r.typeOf [] vm.2.method.request) ⊆ qualifiers below

theorem exists_embedded (h : pieces r = .ok ps) :
    ∃ file embedded? declaration, r.file.name = .str file ∧
      embedding r file = .ok (embedded?, declaration) ∧
        ps = header r ++ declaration ++ r.file.services.flatMap (serviceBlock r.use embedded?) ++
          declarations r := by
  unfold pieces at h
  split at h
  · rename_i file hname
    cases hembedding : embedding r file with
    | error e =>
      rw [hembedding] at h
      cases h
    | ok embedded =>
      obtain ⟨embedded?, declaration⟩ := embedded
      rw [hembedding] at h
      cases h
      exact ⟨file, embedded?, declaration, hname, hembedding, rfl⟩
  · cases h

/-- Header and services together name everything that a wiring imports. -/
theorem mem_of_mem_lookups {q : Text × Text} (embedded? : Option Text) (h : q ∈ lookups r)
    (hservices : r.file.services ≠ []) :
    q ∈ headerPaths.map r.lookup ∨
      q ∈ qualifiers (r.file.services.flatMap (serviceBlock r.use embedded?)) := by
  obtain ⟨path, hpath, rfl⟩ := List.mem_map.mp h
  rcases mem_headerPaths hpath with rfl | hpath
  · obtain ⟨v, hv⟩ := List.exists_mem_of_ne_nil _ hservices
    right
    rw [Piece.qualifiers_flatMap]
    exact List.mem_flatMap.mpr ⟨v, hv, grpc_mem_serviceBlock embedded?⟩
  · exact Or.inl (List.mem_map_of_mem hpath)

theorem exists_divided (h : pieces r = .ok ps) : ∃ above below, Divided r ps above below := by
  obtain ⟨file, embedded?, declaration, -, hembedding, rfl⟩ := exists_embedded h
  have hdeclaration := embedding_qualifiers hembedding
  obtain ⟨above, below, hheader, habove, hbelow⟩ := header_eq r
  refine ⟨above, below ++ declaration ++
    r.file.services.flatMap (serviceBlock r.use embedded?) ++ declarations r, by simp [hheader],
    habove, fun q hq => ?_, fun hservices q hq => ?_, fun vm hvm q hq => ?_⟩
  · simp only [Piece.qualifiers_append, List.mem_append, hdeclaration, List.not_mem_nil, or_false,
      Piece.qualifiers_flatMap, hbelow] at hq
    rcases hq with (hq | hq) | hq
    · exact Or.inl (List.map_subset _ headerPaths_subset hq)
    · obtain ⟨v, -, hq⟩ := List.mem_flatMap.mp hq
      exact Or.inl (serviceBlock_subset _ hq)
    · exact mem_declarations hq
  · simp only [Piece.qualifiers_append, List.mem_append, hbelow]
    rcases mem_of_mem_lookups embedded? hq hservices with hq | hq
    · exact Or.inl (Or.inl (Or.inl hq))
    · exact Or.inl (Or.inr hq)
  · rw [Piece.qualifiers_append]
    exact List.mem_append_right _ (requestType_subset_declarations hvm hq)

variable {t : ImportTable} {above below : List Piece}

/-- **Below the import block a wiring names exactly what it imports**, each package by its own name.
-/
theorem Divided.mem_qualifiers_iff (h : Divided r ps above below) (ht : t.Valid)
    (hfile : ∀ p ∈ r.file.packages, p ∈ t.packages) (hservices : r.file.services ≠ [])
    (hi : ImportsOf t (commonPaths ++ paths ++ r.file.foreignRequests) r.imports)
    (q : Text × Text) :
    q ∈ qualifiers below ↔ ∃ g ∈ r.imports, q = (g.path, g.shortName) := by
  have hlookup {g : GoPackage} (hg : g ∈ r.imports) : r.lookup g.path = (g.path, g.shortName) := by
    unfold Parameters.lookup
    rw [hi.shortNameOf?_eq hg]
    rfl
  have hrequest {vm : Service × BoundMethod} (hvm : vm ∈ r.file.boundMethods) {g : GoPackage}
      (hg : g ∈ r.imports) (hpath : g.path = vm.2.method.request.package.path) :
      g = vm.2.method.request.package :=
    ht.package_unique (hi.packages g hg) (hfile _ (Descriptor.request_package_mem hvm)) hpath
  constructor
  · intro hq
    rcases h.only q hq with hq | ⟨vm, hvm, hq⟩
    · obtain ⟨path, hpath, rfl⟩ := List.mem_map.mp hq
      obtain ⟨g, hg, rfl⟩ := hi.mem_path_iff.mpr (List.mem_append_left _ hpath)
      exact ⟨g, hg, hlookup hg⟩
    · unfold Parameters.typeOf at hq
      rw [Message.qualifiers_typeFrom] at hq
      split at hq
      · cases hq
      · rename_i hforeign
        obtain ⟨g, hg, hpath⟩ := hi.mem_path_iff.mpr (List.mem_append_right _
          (List.mem_filter.mpr ⟨List.mem_map_of_mem hvm, by simpa using hforeign⟩))
        refine ⟨g, hg, ?_⟩
        rw [hrequest hvm hg hpath]
        exact List.mem_singleton.mp hq
  · rintro ⟨g, hg, rfl⟩
    rcases List.mem_append.mp (hi.mem_path_iff.mp ⟨g, hg, rfl⟩) with hpath | hpath
    · rw [← hlookup hg]
      exact h.lookups hservices (List.mem_map_of_mem hpath)
    · obtain ⟨hmem, hforeign⟩ := List.mem_filter.mp hpath
      obtain ⟨vm, hvm, hpath⟩ := List.mem_map.mp hmem
      rw [← hpath] at hforeign
      refine h.requests vm hvm ?_
      unfold Parameters.typeOf
      rw [Message.qualifiers_typeFrom, if_neg (by simpa using hforeign),
        hrequest hvm hg hpath.symm]
      exact List.mem_singleton_self _

end Wiring

/-! ## In a session -/

/-- Whether the step asks for the package of the empty path without giving a name for it. -/
def Step.asksNameless : Step → Bool
  | .bind path name? => path.isEmpty && (name?.getD []).isEmpty
  | .bindCommon paths => paths.any List.isEmpty
  | _ => false

theorem Desk.makes_isProper {step : Step} (h : step.isReserve = false)
    (hn : step.asksNameless = false) : step.Makes (·.isProper) := by
  cases step with
  | reserve name path => cases h
  | bind path name? =>
    simp only [Step.asksNameless, Bool.and_eq_false_iff] at hn
    simp only [Step.Makes, Call.isProper, ne_eq, ImportTable.wantedName_eq_nil_iff,
      decide_eq_true_eq]
    rintro ⟨rfl, hname⟩
    simp [hname] at hn
  | bindCommon paths =>
    intro path hpath
    refine isProper_bind_of_path_ne_nil (fun hnil => ?_) none
    simp only [Step.asksNameless, List.any_eq_false] at hn
    exact hn path hpath (by simp [hnil])
  | read | readSet | wiring | stub | create | generate | outside => trivial

/-- A package of a session goes by the empty name only if it is that of the empty path, and a step
of the session asked for that without giving a name. -/
theorem Desk.asksNameless_of_shortName {machine : Machine} {steps : List Step}
    (hsteps : ∀ step ∈ steps, step.isReserve = false) {t : ImportTable}
    (ht : Grows (·.isProper) ((Desk.start machine).run steps).session.imports t) {p : GoPackage}
    (hp : p ∈ t.packages) (hs : p.shortName = []) :
    p.path = [] ∧ ∃ step ∈ steps, step.asksNameless := by
  have hany := Desk.run_start_sound_any machine steps
  have hgrown := hany.grown.trans (ht.mono fun _ _ => trivial)
  refine ⟨ImportTable.path_eq_nil_of_shortName hgrown hp hs, ?_⟩
  by_contra hnone
  have hproper : ((Desk.start machine).run steps).Sound (·.isProper) := by
    refine Desk.run_start_sound machine (fun _ h => h) fun step hstep => ?_
    refine Desk.makes_isProper (hsteps step hstep) ?_
    by_contra hasks
    exact hnone ⟨step, hstep, by simpa using hasks⟩
  exact ImportTable.shortName_ne_nil (hproper.grown.trans ht) hp hs

theorem Wiring.exists_of_any {x : Except Fault Parameters} {P : List Piece → Bool}
    (h : (x.toOption.bind fun r => (Wiring.pieces r).toOption).any P) :
    ∃ r, x = .ok r ∧ ∃ ps, Wiring.pieces r = .ok ps ∧ P ps := by
  cases x with
  | error e => cases h
  | ok r =>
    cases hps : Wiring.pieces r with
    | error e => simp [Except.toOption, hps] at h
    | ok ps => exact ⟨r, rfl, ps, hps, by simpa [Except.toOption, hps] using h⟩

/-- A session that asks for the package of the empty path without a name, and then reads a file
whose method takes a message from there. -/
def nameless : List Step :=
  let request : Json := .obj [("name", .str "Req"), ("go_package", .str ";x")]
  [.bind [] none, .bindCommon commonPaths,
    .read (oneMethod "x/y" request (.obj [("name", .str "Res")]))]

end ServiceWiring
