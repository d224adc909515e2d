import Mathlib.Data.List.Induction
import ServiceWiring.Artifact.Assembly
import ServiceWiring.Proofs.Descriptor.Packages
import ServiceWiring.Proofs.ImportTable.AppendOnly

/-!
# What an artifact imports

The import list of an artifact names each path once, where it first comes up, and holds the packages
that the import table has for these paths. `ImportsOf t paths imports` states both; the order in
which paths come up is that of the assembly.

Results:
* `wiring_parameters_calls`, `stub_parameters_calls`: what is assembled, from which paths, and by
  which calls.
* `stub_wiring_mem`: how a stub that imports its wiring refers to it.
* `ImportsOf.shortNames_eq`: each imported path is looked up under the name of its own package.
* `ImportsOf.shortNames_nodup`: in a faithful table no two imports go by one name.
-/

namespace ServiceWiring

open ImportTable (Grows Call)
open SessionM (Ensures Quiet Total)

variable {t t' : ImportTable} {kind : Call → Prop} {paths : List Text} {imports : List GoPackage}
  {p q : GoPackage} {d : Descriptor} {s : Session}

/-! ## Lists without repetition -/

theorem eraseDups_concat_of_mem {l : List Text} {a : Text} (h : a ∈ l) :
    (l ++ [a]).eraseDups = l.eraseDups := by
  rw [List.eraseDups_append]
  simp [List.removeAll, h]

theorem eraseDups_concat_of_notMem {l : List Text} {a : Text} (h : a ∉ l) :
    (l ++ [a]).eraseDups = l.eraseDups ++ [a] := by
  rw [List.eraseDups_append]
  simp [List.removeAll, List.eraseDups_cons, h]

theorem nodup_eraseDups (l : List Text) : l.eraseDups.Nodup := by
  induction l using List.reverseRecOn with
  | nil => exact List.nodup_nil
  | append_singleton l a ih =>
    by_cases ha : a ∈ l
    · rwa [eraseDups_concat_of_mem ha]
    · rw [eraseDups_concat_of_notMem ha]
      refine List.nodup_append.mpr ⟨ih, List.nodup_singleton a, fun b hb c hc => ?_⟩
      rw [List.mem_singleton.mp hc]
      rintro rfl
      exact ha (List.mem_eraseDups.mp hb)

/-! ## Import lists -/

/-- The imports are those of the paths, each once, where it first comes up, and the packages are
those of the table. -/
structure ImportsOf (t : ImportTable) (paths : List Text) (imports : List GoPackage) : Prop where
  /-- Each path once. -/
  paths_eq : imports.map (·.path) = paths.eraseDups
  /-- The packages of the table. -/
  packages : ∀ p ∈ imports, p ∈ t.packages

namespace ImportsOf

theorem nil (t : ImportTable) : ImportsOf t [] [] := ⟨rfl, by simp⟩

theorem mono (h : ImportsOf t paths imports) (hg : Grows kind t t') : ImportsOf t' paths imports :=
  ⟨h.paths_eq, fun p hp => hg.packages (h.packages p hp)⟩

theorem addImport (h : ImportsOf t paths imports) (hp : p ∈ t.packages) :
    ImportsOf t (paths ++ [p.path]) (addImport imports p) := by
  have hmem : imports.any (·.path = p.path) = decide (p.path ∈ paths) := by
    have hiff : p.path ∈ imports.map (·.path) ↔ p.path ∈ paths := by
      rw [h.paths_eq, List.mem_eraseDups]
    rw [Bool.eq_iff_iff, decide_eq_true_eq, ← hiff]
    simp
  unfold ServiceWiring.addImport
  rw [hmem]
  by_cases hin : p.path ∈ paths
  · simp only [hin, decide_true, if_true]
    exact ⟨by rw [eraseDups_concat_of_mem hin, h.paths_eq], h.packages⟩
  · simp only [hin, decide_false, Bool.false_eq_true, if_false]
    refine ⟨by simp [eraseDups_concat_of_notMem hin, h.paths_eq], fun q hq => ?_⟩
    rcases List.mem_append.mp hq with hq | hq
    · exact h.packages q hq
    · rwa [List.mem_singleton.mp hq]

theorem foldl_addImport {ps : List GoPackage} (h : ImportsOf t paths imports)
    (hps : ∀ p ∈ ps, p ∈ t.packages) :
    ImportsOf t (paths ++ ps.map (·.path)) (ps.foldl ServiceWiring.addImport imports) := by
  induction ps generalizing paths imports with
  | nil => simpa using h
  | cons p ps ih =>
    have hrest := ih (h.addImport (hps p List.mem_cons_self))
      fun q hq => hps q (List.mem_cons_of_mem p hq)
    simpa using hrest

/-! ## Looking up an import -/

variable {r : Parameters}

theorem mem_path_iff (h : ImportsOf t paths imports) {path : Text} :
    (∃ p ∈ imports, p.path = path) ↔ path ∈ paths := by
  rw [← List.mem_map, h.paths_eq, List.mem_eraseDups]

theorem paths_nodup (h : ImportsOf t paths imports) : (imports.map (·.path)).Nodup := by
  rw [h.paths_eq]
  exact nodup_eraseDups paths

/-- In a faithful table no two imports go by one name. -/
theorem shortNames_nodup (h : ImportsOf t paths imports) (ht : t.Faithful) :
    (imports.map GoPackage.shortName).Nodup := by
  refine List.Nodup.map_on (fun p hp q hq hs => ?_) (List.Nodup.of_map _ h.paths_nodup)
  exact ht.shortName_injective (h.packages p hp) (h.packages q hq) hs

/-- In a faithful table the name of an import is that of no other import. -/
theorem filter_shortName_eq (h : ImportsOf t paths imports) (ht : t.Faithful) (hp : p ∈ imports) :
    imports.filter (·.shortName = p.shortName) = [p] := by
  have hn := h.shortNames_nodup ht
  clear h
  induction imports with
  | nil => cases hp
  | cons q imports ih =>
    obtain ⟨hq, hn⟩ := List.nodup_cons.mp hn
    rcases List.mem_cons.mp hp with rfl | hp
    · have hrest : imports.filter (·.shortName = p.shortName) = [] := by
        refine List.filter_eq_nil_iff.mpr fun g hg hs => hq ?_
        exact List.mem_map.mpr ⟨g, hg, by simpa using hs⟩
      simp [hrest]
    · have hne : q.shortName ≠ p.shortName := by
        intro hs
        exact hq (hs ▸ List.mem_map_of_mem hp)
      rw [List.filter_cons_of_neg (by simpa using hne), ih hp hn]

/-- An imported path is looked up under the name of its own package. -/
theorem shortNameOf?_eq (h : ImportsOf t paths r.imports) (hp : p ∈ r.imports) :
    r.shortNameOf? p.path = some p.shortName := by
  have hrev : (r.imports.reverse.map (·.path)).Nodup := by
    rw [List.map_reverse, List.nodup_reverse]
    exact h.paths_nodup
  unfold Parameters.shortNameOf?
  rw [(ImportTable.find?_key_eq_some_iff hrev).mpr ⟨List.mem_reverse.mpr hp, rfl⟩]
  rfl

/-- Collecting the paths of a list that repeats none of them gives them all. -/
theorem foldl_paths {acc : List Text} (h : (acc ++ imports.map (·.path)).Nodup) :
    imports.foldl (fun ps q => if ps.contains q.path then ps else ps ++ [q.path]) acc =
      acc ++ imports.map (·.path) := by
  induction imports generalizing acc with
  | nil => simp
  | cons q imports ih =>
    have hq : q.path ∉ acc := by
      intro hmem
      exact List.disjoint_of_nodup_append h hmem (by simp)
    rw [List.foldl_cons, if_neg (by simpa using hq), ih (by simpa using h)]
    simp

/-- **The names of the imported paths are the names of the imported packages**, in their order. -/
theorem shortNames_eq (h : ImportsOf t paths r.imports) :
    r.shortNames = r.imports.map fun p => (p.path, p.shortName) := by
  unfold Parameters.shortNames
  simp only
  rw [foldl_paths (by simpa using h.paths_nodup), List.nil_append, List.map_map]
  refine List.map_congr_left fun p hp => ?_
  simp [h.shortNameOf?_eq hp]

end ImportsOf

/-! ## Assembling -/

/-- The package paths of the request types of bound methods that come from elsewhere. -/
def Descriptor.foreignRequests (d : Descriptor) : List Text :=
  (d.boundMethods.map fun (_, m) => m.method.request.package.path).filter (· ≠ d.package.path)

theorem isProper_bind_of_path_ne_nil {path : Text} (h : path ≠ []) (name? : Option Text) :
    (Call.bind path name?).isProper := by
  simp [Call.isProper, ImportTable.wantedName_eq_nil_iff, h]

/-- Every request package of a bound method is a package of the file. -/
theorem Descriptor.request_package_mem {v : Service} {m : BoundMethod}
    (h : (v, m) ∈ d.boundMethods) : m.method.request.package ∈ d.packages := by
  obtain ⟨v', hv, hm⟩ := List.mem_flatMap.mp h
  obtain ⟨m', hm', he⟩ := List.mem_map.mp hm
  obtain ⟨rfl, rfl⟩ := Prod.mk.inj he
  obtain ⟨method, hmethod, hrule⟩ := List.mem_filterMap.mp hm'
  obtain ⟨rule, -, rfl⟩ := Option.map_eq_some_iff.mp hrule
  refine List.mem_cons_of_mem _ (List.mem_flatMap.mpr ⟨v', hv, ?_⟩)
  exact List.mem_flatMap.mpr ⟨method, hmethod, List.mem_cons_self⟩

theorem bindCommon_ensures {ps : List Text} (h : ∀ path ∈ ps, kind (.bind path none)) :
    Ensures kind (bindCommon ps) s fun common t =>
      common.map (·.path) = ps ∧ ∀ p ∈ common, p ∈ t.packages := by
  unfold bindCommon
  refine (Ensures.mapM (P := fun path p t => t.package? path = some p)
    (fun path p t t' hg hp => hg.package? hp)
    fun path hpath s' _ => SessionM.ensures_bind (h path hpath)).mono fun common t _ hc => ?_
  clear h
  induction hc with
  | nil => simp
  | cons hp _ ih =>
    obtain ⟨hmem, hpath⟩ := ImportTable.package?_mem hp
    exact ⟨by simp [hpath, ih.1], List.forall_mem_cons.mpr ⟨hmem, ih.2⟩⟩

theorem addPaths_total (imports : List GoPackage) (paths : List Text) :
    Total (addPaths imports paths) :=
  Total.foldlM (fun _ _ => (Total.bind _ _).seq fun _ => Total.pure _) paths imports

theorem addPaths_result (imports : List GoPackage) (paths : List Text) (s : Session) :
    (addPaths imports paths).result s =
      .ok ((s.imports.bindAll paths).1.foldl addImport imports) := by
  unfold addPaths
  induction paths generalizing imports s with
  | nil => rfl
  | cons path paths ih =>
    rw [List.foldlM_cons, SessionM.result_seq]
    exact ih _ _

theorem addPaths_final (imports : List GoPackage) (paths : List Text) (s : Session) :
    ((addPaths imports paths).final s).imports = (s.imports.bindAll paths).2 := by
  unfold addPaths
  induction paths generalizing imports s with
  | nil => rfl
  | cons path paths ih =>
    rw [List.foldlM_cons, SessionM.final_seq]
    exact ih _ _

theorem addPaths_ensures {ps : List Text} (h : ∀ path ∈ ps, kind (.bind path none))
    (hi : ImportsOf s.imports paths imports) :
    Ensures kind (addPaths imports ps) s fun imports' t => ImportsOf t (paths ++ ps) imports' := by
  unfold addPaths
  induction ps generalizing paths imports s with
  | nil => exact Ensures.pure (by simpa using hi)
  | cons path ps ih =>
    rw [List.foldlM_cons]
    refine Ensures.seq (Q := fun imports' t => ImportsOf t (paths ++ [path]) imports') ?_
      fun imports' s₁ _ hi₁ => ?_
    · have hbind := h path List.mem_cons_self
      refine (SessionM.ensures_bind hbind).seq fun p s₁ hg hp => Ensures.pure ?_
      obtain ⟨hmem, hpath⟩ := ImportTable.package?_mem hp
      exact hpath ▸ (hi.mono hg).addImport hmem
    · have hrest := ih (fun q hq => h q (List.mem_cons_of_mem path hq)) hi₁
      simpa using hrest

theorem addRequestPackages_importsOf (hi : ImportsOf t paths imports)
    (hd : ∀ p ∈ d.packages, p ∈ t.packages) :
    ImportsOf t (paths ++ d.foreignRequests) (addRequestPackages imports d) := by
  have hfold : addRequestPackages imports d =
      ((d.boundMethods.map fun (_, m) => m.method.request.package).filter
        (·.path ≠ d.package.path)).foldl addImport imports := by
    rw [List.foldl_filter]
    unfold addRequestPackages
    congr 1
    funext is p
    by_cases h : p.path = d.package.path <;> simp [h]
  have hpaths : d.foreignRequests =
      ((d.boundMethods.map fun (_, m) => m.method.request.package).filter
        (·.path ≠ d.package.path)).map (·.path) := by
    unfold Descriptor.foreignRequests
    rw [List.filter_map, List.filter_map, List.map_map]
    rfl
  rw [hfold, hpaths]
  refine hi.foldl_addImport fun p hp => ?_
  obtain ⟨vm, hvm, rfl⟩ := List.mem_map.mp (List.mem_filter.mp hp).1
  exact hd _ (Descriptor.request_package_mem hvm)

/-- **What the wiring of a file is assembled from**: the file, and the imports of the common paths,
the paths of every wiring, and the request packages from elsewhere. Its calls bind the paths of
wirings. -/
theorem wiring_parameters_calls {common : List GoPackage}
    (hk : ∀ path ∈ Wiring.paths, kind (.bind path none)) (swagger : Json)
    (hc : ∀ p ∈ common, p ∈ s.imports.packages) (hd : ∀ p ∈ d.packages, p ∈ s.imports.packages) :
    Ensures kind (Wiring.parameters d common swagger) s fun r t =>
      r.file = d ∧
        ImportsOf t (common.map (·.path) ++ Wiring.paths ++ d.foreignRequests) r.imports := by
  unfold Wiring.parameters
  have hcommon := (ImportsOf.nil s.imports).foldl_addImport hc
  refine (addPaths_ensures hk hcommon).seq fun imports s₁ h₁ hi => ?_
  have hreq := addRequestPackages_importsOf hi fun p hp => h₁.packages (hd p hp)
  simp only
  split
  · exact Ensures.pure ⟨rfl, hreq⟩
  · refine ((Quiet.lift _).map _).andThen fun octets s₂ h₂ => ?_
    exact Ensures.pure ⟨rfl, by rwa [h₂]⟩

theorem wiring_parameters_ensures {common : List GoPackage} (swagger : Json)
    (hc : ∀ p ∈ common, p ∈ s.imports.packages) (hd : ∀ p ∈ d.packages, p ∈ s.imports.packages) :
    Ensures (·.isProper) (Wiring.parameters d common swagger) s fun r t =>
      r.file = d ∧
        ImportsOf t (common.map (·.path) ++ Wiring.paths ++ d.foreignRequests) r.imports :=
  wiring_parameters_calls (by decide) swagger hc hd

/-- The path of the wiring that the stub of a file imports, if it imports one. -/
def Stub.Site.importedWiring? (site : Stub.Site) (d : Descriptor) : Option Text :=
  if site.isSeparate then (site.wiringImport? d).toOption.join else none

theorem normalize_ne_nil (path : Text) : Path.normalize path ≠ [] := by
  unfold Path.normalize Path.ofNames
  simp only
  split
  · decide
  · rename_i h
    simpa using h

theorem importedWiring?_ne_nil {site : Stub.Site} {path : Text}
    (h : site.importedWiring? d = some path) : path ≠ [] := by
  unfold Stub.Site.importedWiring? Stub.Site.wiringImport? at h
  simp only at h
  split at h
  · split at h
    · cases h
    · split at h
      · cases h
        exact normalize_ne_nil _
      · cases h
  · cases h

/-- Adding the wiring's package to the imports, if there is one to add. -/
theorem addWiring_ensures {site : Stub.Site} (hs : site.isSeparate)
    (hk : ∀ path, site.importedWiring? d = some path → kind (.bind path none))
    (hi : ImportsOf s.imports paths imports) :
    Ensures kind (Stub.addWiring imports d site) s fun r t =>
      ImportsOf t (paths ++ (site.importedWiring? d).toList) r.1 ∧
        (∀ path, site.importedWiring? d = some path →
          ∃ p ∈ t.packages, p.path = path ∧ r.2 = p.shortName ++ ".") ∧
        (site.importedWiring? d = none → r.2 = []) := by
  unfold Stub.Site.importedWiring? at hk
  unfold Stub.addWiring Stub.Site.importedWiring?
  rw [if_pos hs] at hk ⊢
  cases hw : site.wiringImport? d with
  | error e => exact Ensures.throw e
  | ok path? =>
    rw [hw] at hk
    simp only [liftExcept, pure_bind]
    cases path? with
    | none =>
      refine (Quiet.report _).andThen fun _ s₁ h₁ => Ensures.pure ?_
      exact ⟨by simpa [Except.toOption, h₁] using hi, by simp [Except.toOption], by simp⟩
    | some path =>
      refine (SessionM.ensures_bind (hk path rfl)).seq fun p s₁ hg hp => Ensures.pure ?_
      obtain ⟨hmem, hpath⟩ := ImportTable.package?_mem hp
      refine ⟨?_, fun path' he => ⟨p, hmem, ?_, rfl⟩, by simp [Except.toOption]⟩
      · simpa [Except.toOption, hpath] using (hi.mono hg).addImport hmem
      · rw [hpath]
        simpa [Except.toOption] using he

/-- **What the stub of a file is assembled from**: the file, and the imports of the common paths,
the paths of every stub, the wiring if it is elsewhere and can be told, and the request packages
from elsewhere. Its calls bind the paths of stubs and the one of the wiring. -/
theorem stub_parameters_calls {common : List GoPackage} {site : Stub.Site}
    (hk : ∀ path ∈ Stub.paths, kind (.bind path none))
    (hw : ∀ path, site.importedWiring? d = some path → kind (.bind path none))
    (hc : ∀ p ∈ common, p ∈ s.imports.packages) (hd : ∀ p ∈ d.packages, p ∈ s.imports.packages) :
    Ensures kind (Stub.parameters d common site) s fun r t =>
      r.file = d ∧
        ImportsOf t (common.map (·.path) ++ Stub.paths ++ (site.importedWiring? d).toList ++
          d.foreignRequests) r.imports ∧
        (∀ path, site.importedWiring? d = some path →
          ∃ p ∈ t.packages, p.path = path ∧ r.wiringQualifier = p.shortName ++ ".") ∧
        (site.importedWiring? d = none → r.wiringQualifier = []) := by
  unfold Stub.parameters
  have hcommon := (ImportsOf.nil s.imports).foldl_addImport hc
  refine (addPaths_ensures hk hcommon).seq fun imports s₁ h₁ hi => ?_
  split
  · rename_i hsep
    refine (addWiring_ensures hsep hw hi).seq fun r s₂ h₂ hr => ?_
    obtain ⟨himports, hsome, hnone⟩ := hr
    refine Ensures.pure ⟨rfl, ?_, hsome, hnone⟩
    exact addRequestPackages_importsOf himports fun p hp => (h₁.trans h₂).packages (hd p hp)
  · rename_i hsep
    have hnone : site.importedWiring? d = none := by
      unfold Stub.Site.importedWiring?
      rw [if_neg hsep]
    refine Ensures.pure ⟨rfl, ?_, by simp [hnone], fun _ => rfl⟩
    rw [hnone, Option.toList_none, List.append_nil]
    exact addRequestPackages_importsOf hi fun p hp => h₁.packages (hd p hp)

theorem stub_parameters_ensures {common : List GoPackage} (site : Stub.Site)
    (hc : ∀ p ∈ common, p ∈ s.imports.packages) (hd : ∀ p ∈ d.packages, p ∈ s.imports.packages) :
    Ensures (·.isProper) (Stub.parameters d common site) s fun r t =>
      r.file = d ∧
        ImportsOf t (common.map (·.path) ++ Stub.paths ++ (site.importedWiring? d).toList ++
          d.foreignRequests) r.imports ∧
        (∀ path, site.importedWiring? d = some path →
          ∃ p ∈ t.packages, p.path = path ∧ r.wiringQualifier = p.shortName ++ ".") ∧
        (site.importedWiring? d = none → r.wiringQualifier = []) :=
  stub_parameters_calls (by decide)
    (fun _ hpath => isProper_bind_of_path_ne_nil (importedWiring?_ne_nil hpath) none) hc hd

/-- A stub that imports its wiring has the name of that import before the names of the wiring. -/
theorem stub_wiring_mem {common : List GoPackage} {site : Stub.Site} {r : Parameters} {path : Text}
    (ht : s.imports.Valid) (hc : ∀ p ∈ common, p ∈ s.imports.packages)
    (hd : ∀ p ∈ d.packages, p ∈ s.imports.packages)
    (hr : (Stub.parameters d common site).result s = .ok r)
    (hpath : site.importedWiring? d = some path) :
    ∃ g ∈ r.imports, g.path = path ∧ r.wiringQualifier = g.shortName ++ "." := by
  have hstub := stub_parameters_ensures site hc hd
  obtain ⟨-, himports, hwiring, -⟩ := hstub.gives r hr
  obtain ⟨p, hp, hppath, hqualifier⟩ := hwiring path hpath
  obtain ⟨g, hg, hgpath⟩ := himports.mem_path_iff.mpr (show path ∈ _ by simp [hpath])
  obtain rfl : g = p := (hstub.grows.valid ht).package_unique (himports.packages g hg) hp
    (hgpath.trans hppath.symm)
  exact ⟨g, hg, hgpath, hqualifier⟩

end ServiceWiring
