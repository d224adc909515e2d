import ServiceWiring.Proofs.Artifact.Embedding
import ServiceWiring.Proofs.Artifact.StubImports
import ServiceWiring.Proofs.Artifact.WiringName

/-!
# The order of imports

The import list of an artifact is filled from several sources: the common paths, those of its kind,
the wiring's path in a stub that is kept apart, and the packages of request types from elsewhere.
The sources overlap. A path that came up before is left out, so the list is that of all paths, each
where it is first seen.

Meanwhile the paths are bound, and later steps of the session bind others. What is imported is what
binding the path gives, then and ever after.

Results:
* `Imported`: what is said of an import list.
* `wiringPaths_eq`: which path a stub imports for its wiring.

Headline:
* **`imports_first_seen`**: the paths of a wiring's and of a stub's imports, in their order.
-/

namespace ServiceWiring

open ImportTable (Grows Call)
open SessionM (Ensures Total result final)

variable {d : Descriptor} {common : List GoPackage} {site : Stub.Site} {s : Session}
  {r : Parameters} {t : ImportTable} {paths : List Text} {imports : List GoPackage}

/-! ## Import lists in a session -/

/-- The imports are those of the paths, each where it is first seen; and each of them is what
binding its path gives from then on, under whatever name and whatever is called in between. -/
structure Imported (t : ImportTable) (paths : List Text) (imports : List GoPackage) : Prop where
  /-- The paths, each where it is first seen. -/
  paths_eq : imports.map (·.path) = paths.eraseDups
  /-- The packages that binding gives. -/
  bound : ∀ g ∈ imports, ∀ calls name?,
    (t.after calls).bind g.path name? = (g, t.after calls)

theorem ImportsOf.imported (h : ImportsOf t paths imports) (ht : t.Valid) :
    Imported t paths imports where
  paths_eq := h.paths_eq
  bound := by
    intro g hg calls name?
    have hgrows : Grows (fun _ => True) t (t.after calls) := ⟨calls, fun _ _ => trivial, rfl⟩
    exact hgrows.bind_of_package (ht.package?_eq_some_iff.mpr ⟨h.packages g hg, rfl⟩) name?

/-! ## Wirings -/

/-- A wiring can be assembled if its document is null or can be written. -/
theorem Wiring.exists_parameters_iff (d : Descriptor) (common : List GoPackage) (swagger : Json)
    (s : Session) : (∃ r, (Wiring.parameters d common swagger).result s = .ok r) ↔
      swagger = .null ∨ ∃ octets, serializeSwagger swagger = .ok octets := by
  by_cases hnull : swagger = .null
  · subst hnull
    obtain ⟨imports, himports⟩ := addPaths_total (common.foldl addImport []) Wiring.paths s
    exact ⟨fun _ => Or.inl rfl,
      fun _ => ⟨_, SessionM.result_seq_eq_ok_iff.mpr ⟨imports, himports, rfl⟩⟩⟩
  · rw [or_iff_right hnull]
    constructor
    · rintro ⟨r, hr⟩
      unfold Wiring.parameters at hr
      obtain ⟨imports, -, hr⟩ := SessionM.result_seq_eq_ok_iff.mp hr
      simp only at hr
      obtain ⟨swagger?, hswagger, -⟩ := SessionM.result_seq_eq_ok_iff.mp hr
      cases hoctets : serializeSwagger swagger with
      | ok octets => exact ⟨octets, rfl⟩
      | error e =>
        rw [hoctets] at hswagger
        cases hswagger
    · rintro ⟨octets, hoctets⟩
      obtain ⟨r, hr, -⟩ := wiring_parameters_swagger hnull hoctets d common s
      exact ⟨r, hr⟩

/-! ## Stubs -/

/-- The path of a wiring that goes to a directory: nothing unless stubs go elsewhere and the root of
the tool is known. -/
def Stub.Site.wiringPaths (site : Stub.Site) (d : Descriptor) (wiringPath : Text) : List Text :=
  let root := ToolRoot.importPath d.package.path site.toolDir? site.roots
  if Path.normalize site.stubPath ≠ Path.normalize wiringPath ∧ root ≠ [] then
    [Path.normalize (Path.join root wiringPath)]
  else []

theorem Stub.Site.wiringPaths_eq {wiringPath : Text} (h : site.wiringPath? = some wiringPath)
    (d : Descriptor) : (site.importedWiring? d).toList = site.wiringPaths d wiringPath := by
  have hseparate : site.isSeparate = true ↔
      Path.normalize site.stubPath ≠ Path.normalize wiringPath := by
    simp [isSeparate, h]
  unfold importedWiring? wiringPaths wiringImport?
  simp only [h, List.isEmpty_iff]
  by_cases hsep : site.isSeparate = true
  · rw [if_pos hsep]
    by_cases hroot : ToolRoot.importPath d.package.path site.toolDir? site.roots = []
    · rw [if_pos hroot, if_neg fun hand => hand.2 hroot]
      rfl
    · rw [if_neg hroot, if_pos ⟨hseparate.mp hsep, hroot⟩]
      rfl
  · rw [if_neg hsep, if_neg fun hand => hsep (hseparate.mpr hand.1)]
    rfl

/-! ## Common packages stay on the desk -/

namespace Desk

theorem commons_subset_perform {α : Type} {desk : Desk} {x : SessionM α} {as : List Assembly}
    {put : α → Desk → Desk} (hput : ∀ a desk', desk'.commons ⊆ (put a desk').commons) :
    desk.commons ⊆ (desk.perform x as put).commons := by
  intro c hc
  unfold Desk.perform
  simp only
  split
  · exact hput _ _ hc
  · exact hc

theorem commons_subset_step (desk : Desk) (step : Step) :
    desk.commons ⊆ (desk.step step).commons := by
  cases step with
  | reserve | outside => exact List.Subset.refl _
  | bindCommon paths => exact commons_subset_perform fun _ _ => List.subset_append_left _ _
  | bind | read | readSet | create => exact commons_subset_perform fun _ _ => List.Subset.refl _
  | wiring | stub | generate =>
    simp only [Desk.step]
    split
    · exact commons_subset_perform fun _ _ => List.Subset.refl _
    · exact List.Subset.refl _

theorem commons_subset_run (desk : Desk) (steps : List Step) :
    desk.commons ⊆ (desk.run steps).commons := by
  induction steps generalizing desk with
  | nil => exact List.Subset.refl _
  | cons step steps ih =>
    exact List.Subset.trans (commons_subset_step desk step) (ih (desk.step step))

theorem run_append (desk : Desk) (earlier later : List Step) :
    desk.run (earlier ++ later) = (desk.run earlier).run later := List.foldl_append

/-- Common packages that were bound stay on the desk. -/
theorem common_mem_run {desk : Desk} {ps : List Text}
    (h : (ServiceWiring.bindCommon ps).result desk.session = .ok common) (later : List Step) :
    common ∈ (desk.run (.bindCommon ps :: later)).commons := by
  refine commons_subset_run (desk.step (.bindCommon ps)) later ?_
  show common ∈ (desk.perform (ServiceWiring.bindCommon ps) [] _).commons
  unfold Desk.perform
  rw [h]
  exact List.mem_append_right _ (List.mem_singleton_self common)

end Desk

/-! ## The lists -/

/-- What a wiring imports, in the table that its assembly leaves. -/
theorem wiring_imported {swagger : Json} (ht : s.imports.Valid)
    (hc : ∀ p ∈ common, p ∈ s.imports.packages) (hd : ∀ p ∈ d.packages, p ∈ s.imports.packages)
    (hr : (Wiring.parameters d common swagger).result s = .ok r) :
    Imported ((Wiring.parameters d common swagger).final s).imports
      (common.map (·.path) ++ Wiring.paths ++ d.foreignRequests) r.imports := by
  have hwiring := wiring_parameters_ensures swagger hc hd
  exact (hwiring.gives r hr).2.imported (hwiring.grows.valid ht)

/-- What a stub imports, in the table that its assembly leaves, and what stands before the names of
its wiring. -/
theorem stub_imported {wiringPath : Text} (hsite : site.wiringPath? = some wiringPath)
    (ht : s.imports.Valid) (hc : ∀ p ∈ common, p ∈ s.imports.packages)
    (hd : ∀ p ∈ d.packages, p ∈ s.imports.packages) :
    ∃ r, (Stub.parameters d common site).result s = .ok r ∧
      Imported ((Stub.parameters d common site).final s).imports
        (common.map (·.path) ++ Stub.paths ++ site.wiringPaths d wiringPath ++ d.foreignRequests)
        r.imports ∧
      (∀ path ∈ site.wiringPaths d wiringPath, ∃ g ∈ r.imports, g.path = path ∧
        r.wiringQualifier = g.shortName ++ ".") ∧
      (site.wiringPaths d wiringPath = [] → r.wiringQualifier = []) := by
  have hstub := stub_parameters_ensures site hc hd
  obtain ⟨r, hr⟩ := stub_parameters_total hsite d common s
  obtain ⟨-, himports, -, hnone⟩ := hstub.gives r hr
  rw [← Stub.Site.wiringPaths_eq hsite d]
  refine ⟨r, hr, himports.imported (hstub.grows.valid ht), fun path hpath => ?_, fun hnil => ?_⟩
  · exact stub_wiring_mem ht hc hd hr (Option.mem_toList.mp hpath)
  · exact hnone (by simpa using hnil)

/-- Binding the common paths never fails and gives packages of those paths. -/
theorem exists_common (s : Session) : ∃ common, (bindCommon commonPaths).result s = .ok common ∧
    common.map (·.path) = commonPaths := by
  obtain ⟨common, hcommon⟩ := Total.mapM (fun path => Total.bind path none) commonPaths s
  have hbound : Ensures (fun _ => True) (bindCommon commonPaths) s fun common t =>
      common.map (·.path) = commonPaths ∧ ∀ p ∈ common, p ∈ t.packages :=
    bindCommon_ensures fun _ _ => trivial
  exact ⟨common, hcommon, (hbound.gives common hcommon).1⟩

/-- **Import lists are those of all paths, each where it is first seen.** Take common packages that
were bound in any state of a session, and a file that has been read by any later state. A wiring of
the file can be assembled if its document is null or can be written; a stub always can. A wiring
imports the common paths, those of wirings, and the packages of foreign request types; a stub those
of stubs, and that of its wiring if it is kept apart and the root is known. What stands before the
names of the wiring is the name of that import with a dot, or nothing. -/
theorem imports_first_seen (machine : Machine) (earlier later : List Step) (swagger : Json)
    (site : Stub.Site) :
    let desk := (Desk.start machine).run (earlier ++ .bindCommon commonPaths :: later)
    ∃ common, (bindCommon commonPaths).result ((Desk.start machine).run earlier).session =
        .ok common ∧
      ∀ d ∈ desk.files,
        ((∃ r, (Wiring.parameters d common swagger).result desk.session = .ok r) ↔
          swagger = .null ∨ ∃ octets, serializeSwagger swagger = .ok octets) ∧
        (∀ r, (Wiring.parameters d common swagger).result desk.session = .ok r →
          Imported ((Wiring.parameters d common swagger).final desk.session).imports
              (commonPaths ++ Wiring.paths ++ d.foreignRequests) r.imports ∧
            r.wiringQualifier = []) ∧
        ∀ wiringPath, site.wiringPath? = some wiringPath →
          ∃ r, (Stub.parameters d common site).result desk.session = .ok r ∧
            Imported ((Stub.parameters d common site).final desk.session).imports
              (commonPaths ++ Stub.paths ++ site.wiringPaths d wiringPath ++ d.foreignRequests)
              r.imports ∧
            (∀ path ∈ site.wiringPaths d wiringPath, ∃ g ∈ r.imports, g.path = path ∧
              r.wiringQualifier = g.shortName ++ ".") ∧
            (site.wiringPaths d wiringPath = [] → r.wiringQualifier = []) := by
  intro desk
  obtain ⟨common, hcommon, hpaths⟩ := exists_common ((Desk.start machine).run earlier).session
  have hsound : desk.Sound fun _ => True := Desk.run_start_sound_any machine _
  have hvalid := hsound.grown.valid ImportTable.valid_empty
  have hpackages : ∀ p ∈ common, p ∈ desk.session.imports.packages := by
    refine hsound.commons common ?_
    rw [show desk = _ from Desk.run_append ..]
    exact Desk.common_mem_run hcommon later
  rw [← hpaths]
  refine ⟨common, hpaths ▸ hcommon, fun d hd => ⟨Wiring.exists_parameters_iff d common swagger _,
    fun r hr => ?_, fun wiringPath hsite => ?_⟩⟩
  · exact ⟨wiring_imported hvalid hpackages (hsound.files d hd) hr, Wiring.wiringQualifier_eq hr⟩
  · exact stub_imported hsite hvalid hpackages (hsound.files d hd)

/-- A session that reads a file of the package `svc` with one bound method, which takes a message of
the package `svc/pb`. -/
def sharedRequest : List Step :=
  let request : Json := .obj [("name", .str "Req"), ("go_package", .str "github.com/acme/svc/pb")]
  [.read (oneMethod "github.com/acme/svc" request (.obj [("name", .str "Res")]))]

/-- Where the wiring goes to the package of the request, the stub imports that package once. -/
theorem imports_first_seen_shared :
    ∃ common, (bindCommon commonPaths).result ((Desk.start {}).run []).session = .ok common ∧
      ∃ d ∈ ((Desk.start {}).run (.bindCommon commonPaths :: sharedRequest)).files,
        (∃ r, (Wiring.parameters d common .null).result
            ((Desk.start {}).run (.bindCommon commonPaths :: sharedRequest)).session = .ok r) ∧
        ∃ r, (Stub.parameters d common (acmeSite "pb")).result
            ((Desk.start {}).run (.bindCommon commonPaths :: sharedRequest)).session = .ok r ∧
          r.imports.map (·.path) = commonPaths ++ [Text.ofString "github.com/acme/svc/pb"] ∧
          ∃ g ∈ r.imports, g.path = Text.ofString "github.com/acme/svc/pb" ∧
            r.wiringQualifier = g.shortName ++ "." := by
  obtain ⟨common, hcommon, hlists⟩ := imports_first_seen {} [] sharedRequest .null (acmeSite "pb")
  have hread : ∃ d ∈ ((Desk.start {}).run (.bindCommon commonPaths :: sharedRequest)).files,
      (acmeSite "pb").wiringPaths d "pb" = [Text.ofString "github.com/acme/svc/pb"] ∧
        d.foreignRequests = [Text.ofString "github.com/acme/svc/pb"] := by decide +kernel
  obtain ⟨d, hd, hwiring, hforeign⟩ := hread
  obtain ⟨hwritten, -, hstub⟩ := hlists d hd
  obtain ⟨r, hr, himported, hqualifier, -⟩ := hstub "pb" rfl
  have hpaths := himported.paths_eq
  rw [hwiring, hforeign] at hpaths
  refine ⟨common, hcommon, d, hd, hwritten.mpr (Or.inl rfl), r, hr, ?_,
    hqualifier _ (hwiring ▸ List.mem_singleton_self _)⟩
  rw [hpaths]
  decide +kernel

end ServiceWiring
