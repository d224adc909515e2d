import ServiceWiring.Proofs.Artifact.Embedding
import ServiceWiring.Proofs.Artifact.FirstSeen
import ServiceWiring.Proofs.Artifact.Handlers
import ServiceWiring.Proofs.Batch.Names
import ServiceWiring.Proofs.Go.Identifier

/-!
# The swagger variables of a batch

The wiring of a file with a swagger document declares one variable for it, at the level of its
package. The variable is named after the file and is always a Go identifier. Other files of the
package have wirings in that package too, and nothing but their names tells the variables apart.

An identifier does not keep all of a name, so two files of one package may get one variable. They do
if and only if their names differ only where neither has a letter or a digit.

Headline:
* **`Generator.swagger_variables`**: the swagger variables of a batch, and which of them are one.
-/

namespace ServiceWiring

open Piece (declaredFrom)
open SessionM (Guards)

variable {d : Descriptor} {p : Parameters} {ps : List Piece} {document : Json} {octets : Octets}
  {s : Session} {common : List GoPackage}

/-! ## One wiring -/

namespace Wiring

theorem swaggerVariable_eq_iff {file file' : Text} :
    swaggerVariable file = swaggerVariable file' ↔
      List.Forall₂ Go.Alike (Go.guarded file) (Go.guarded file') := by
  unfold swaggerVariable
  rw [List.append_right_inj, Go.identifier_eq_iff]

theorem isIdentifier_swaggerVariable (file : Text) : Go.IsIdentifier (swaggerVariable file) :=
  Go.isIdentifier_append rfl (by decide) file

/-- A wiring embeds the document that it is assembled with. -/
theorem parameters_swagger (hdocument : document ≠ .null)
    (h : (parameters d common document).result s = .ok p) :
    ∃ octets, serializeSwagger document = .ok octets ∧ p.file = d ∧ p.swagger? = some octets := by
  rcases (exists_parameters_iff d common document s).mp ⟨p, h⟩ with hnull | ⟨octets, hoctets⟩
  · exact absurd hnull hdocument
  · obtain ⟨p', hp', hfile, hswagger⟩ := wiring_parameters_swagger hdocument hoctets d common s
    obtain rfl : p' = p := Except.ok.inj (hp'.symm.trans h)
    exact ⟨octets, hoctets, hfile, hswagger⟩

/-- Of the names that a wiring declares, the variable of its document is the one that starts so. -/
theorem declaredFrom_swaggerDef (h : pieces p = .ok ps) :
    ∃ file embedded? declaration, p.file.name = .str file ∧
      embedding p file = .ok (embedded?, declaration) ∧
        declaredFrom "_swaggerDef_" ps = embedded?.toList := by
  obtain ⟨file, embedded?, declaration, hname, hembedding, hdeclared⟩ := declared_pieces h
  refine ⟨file, embedded?, declaration, hname, hembedding, ?_⟩
  have hvariable : (Text.ofString "_swaggerDef_").isPrefixOf (swaggerVariable file) :=
    List.isPrefixOf_iff_prefix.mpr (List.prefix_append _ _)
  have hroutes : ((routesOf p.file).flatMap fun r => [r.pattern, r.unmarshaler]).filter
      (Text.ofString "_swaggerDef_").isPrefixOf = [] := by
    rw [List.filter_flatMap]
    exact List.flatMap_eq_nil_iff.mpr fun r _ => rfl
  unfold declaredFrom
  rw [hdeclared, List.filter_append, hroutes, List.append_nil, List.filter_eq_self]
  intro name hmem
  rw [(declared_embedding hembedding).2 name (Option.mem_toList.mp hmem)]
  exact hvariable

/-- The variable that a wiring declares for a document is that of its file. -/
theorem eq_swaggerVariable (h : pieces p = .ok ps) {v : Text}
    (hv : declaredFrom "_swaggerDef_" ps = [v]) :
    ∃ file, p.file.name = .str file ∧ v = swaggerVariable file := by
  obtain ⟨file, embedded?, declaration, hname, hembedding, hdeclared⟩ := declaredFrom_swaggerDef h
  have hmem : v ∈ embedded?.toList := by
    rw [← hdeclared, hv]
    exact List.mem_singleton_self v
  exact ⟨file, hname, (declared_embedding hembedding).2 v (Option.mem_toList.mp hmem)⟩

/-- A wiring that is assembled with a document declares a variable for it. -/
theorem declaredFrom_eq_of_swagger (h : pieces p = .ok ps)
    (hdocument : serializeSwagger document = .ok octets) (hp : p.swagger? = some octets) :
    ∃ file, p.file.name = .str file ∧
      declaredFrom "_swaggerDef_" ps = [swaggerVariable file] := by
  obtain ⟨file, embedded?, declaration, hname, hembedding, hdeclared⟩ := declaredFrom_swaggerDef h
  have hmade := embedding_of_decode (serializeSwagger_ne_nil hdocument) hp
    (Utf8.decode_of_encode? (serializeSwagger_spec hdocument)) file
  obtain rfl : some (swaggerVariable file) = embedded? :=
    congrArg Prod.fst (Except.ok.inj (hmade.symm.trans hembedding))
  exact ⟨file, hname, hdeclared⟩

end Wiring

/-! ## Batches -/

namespace Generator

variable {g : Generator} {files : List Descriptor} {outputs : List Output} {v : Text}

/-- The output is a wiring of the file: it is made of these pieces, which the wiring comes to with
the document of the file. -/
structure IsWiring (g : Generator) (d : Descriptor) (ps : List Piece) (o : Output) : Prop where
  /-- The wiring is assembled in some session and comes to the pieces. -/
  assembled : ∃ s p, (Wiring.parameters d g.common (g.swaggerOf d)).result s = .ok p ∧
    Wiring.pieces p = .ok ps
  /-- What the pieces are written as is formatted and encoded in some session. -/
  emitted : ∃ s, (g.emit o.name (Piece.render ps)).result s = .ok o

/-- The wiring of the file declares this variable for its document, and no other one. -/
def DeclaresSwagger (g : Generator) (outputs : List Output) (d : Descriptor) (v : Text) : Prop :=
  ∃ o ∈ outputs, ∃ ps, g.IsWiring d ps o ∧ declaredFrom "_swaggerDef_" ps = [v]

theorem rendered_wiring_eq_ok_iff {source : Text} :
    (rendered (Renderer.standard.wiring p)).result s = .ok source ↔
      ∃ ps, Wiring.pieces p = .ok ps ∧ source = Piece.render ps := by
  rw [rendered_result, ← Wiring.source_eq_ok_iff, Renderer.standard]
  simp only
  cases Wiring.source p with
  | ok made => rfl
  | error e => exact ⟨nofun, nofun⟩

theorem emitArtifact_makes (hstandard : g.renderer = .standard) (a : Artifact) :
    Guards (fun _ => True) (g.emitArtifact a) fun o =>
      a.kind = .wiring → ∃ ps, g.IsWiring a.file ps o where
  keeps := fun _ _ => trivial
  gives := by
    intro s o _ h hkind
    have hguards : Guards (fun _ => True) (g.emitArtifact a) fun o => o.name = a.output :=
      emitArtifact_guards (fun _ _ _ => trivial) a
    have hname := hguards.gives s o trivial h
    unfold emitArtifact assemble at h
    rw [hkind, hstandard] at h
    obtain ⟨p, hp, h⟩ := SessionM.result_seq_eq_ok_iff.mp h
    obtain ⟨source, hsource, h⟩ := SessionM.result_seq_eq_ok_iff.mp h
    obtain ⟨ps, hps, rfl⟩ := rendered_wiring_eq_ok_iff.mp hsource
    exact ⟨ps, ⟨s, p, hp, hps⟩, ⟨_, hname ▸ h⟩⟩

/-- A file with services has its wiring among what it gives. -/
theorem generateFile_makes (hstandard : g.renderer = .standard) (d : Descriptor) :
    Guards (fun _ => True) (g.generateFile d) fun part =>
      d.services ≠ [] → ∃ o ∈ part, ∃ ps, g.IsWiring d ps o := by
  refine (generateFile_artifacts (plan_yields g d) (emitArtifact_makes hstandard)).mono ?_
  rintro part ⟨plan, hplan, hpart⟩ hservices
  obtain ⟨output, hwiring⟩ : ∃ output, ⟨.wiring, d, output⟩ ∈ artifactsOf d plan := by
    cases plan with
    | nothing =>
      -- Nothing is planned for files without services only.
      rcases hplan with ⟨hs, -⟩ | ⟨-, file, -, hnone | hnone⟩
      · exact absurd hs hservices
      · cases hnone
      · cases hnone
    | wiring output kept? => exact ⟨output, List.mem_singleton_self _⟩
    | both output stub => exact ⟨output, List.mem_cons_self⟩
  obtain ⟨o, ho, hmade⟩ := exists_of_forall₂ hpart hwiring
  exact ⟨o, ho, hmade rfl⟩

theorem exists_isWiring (hstandard : g.renderer = .standard)
    (h : (g.generate files).result s = .ok outputs) (hd : d ∈ files) (hs : d.services ≠ []) :
    ∃ o ∈ outputs, ∃ ps, g.IsWiring d ps o := by
  unfold generate at h
  obtain ⟨parts, hparts, h⟩ := SessionM.result_seq_eq_ok_iff.mp h
  obtain rfl : parts.flatten = outputs := Except.ok.inj h
  have hall := (Guards.mapM_forall₂ fun d _ => generateFile_makes hstandard d).gives
    s parts trivial hparts
  obtain ⟨part, hpart, hmade⟩ := exists_of_forall₂ hall hd
  obtain ⟨o, ho, hwiring⟩ := hmade hs
  exact ⟨o, List.mem_flatten_of_mem hpart ho, hwiring⟩

/-- The wiring of a file with a document declares the variable of the file for it. -/
theorem declaresSwagger (hstandard : g.renderer = .standard)
    (h : (g.generate files).result s = .ok outputs) (hd : d ∈ files) (hs : d.services ≠ [])
    (hdocument : g.swaggerOf d ≠ .null) :
    ∃ file, d.name = .str file ∧ g.DeclaresSwagger outputs d (Wiring.swaggerVariable file) := by
  obtain ⟨o, ho, ps, hwiring⟩ := exists_isWiring hstandard h hd hs
  obtain ⟨s', p, hp, hps⟩ := hwiring.assembled
  obtain ⟨octets, hoctets, rfl, hswagger⟩ := Wiring.parameters_swagger hdocument hp
  obtain ⟨file, hname, hdeclared⟩ := Wiring.declaredFrom_eq_of_swagger hps hoctets hswagger
  exact ⟨file, hname, o, ho, ps, hwiring, hdeclared⟩

theorem DeclaresSwagger.eq_swaggerVariable (h : g.DeclaresSwagger outputs d v) :
    ∃ file, d.name = .str file ∧ v = Wiring.swaggerVariable file := by
  obtain ⟨o, -, ps, hwiring, hv⟩ := h
  obtain ⟨s, p, hp, hps⟩ := hwiring.assembled
  obtain rfl := Wiring.file_eq hp
  exact Wiring.eq_swaggerVariable hps hv

/-- **The swagger variables of a batch.** Every file with services and a document has a wiring among
the outputs, and this declares the variable of the file for the document and no other one. All of
these variables are Go identifiers. Those of two files, be they in one package or not, are one
variable if and only if the names of the files differ only where neither has a letter or a digit of
ASCII. -/
theorem swagger_variables (hstandard : g.renderer = .standard)
    (h : (g.generate files).result s = .ok outputs) :
    (∀ d ∈ files, d.services ≠ [] → g.swaggerOf d ≠ .null → ∃ file, d.name = .str file ∧
        g.DeclaresSwagger outputs d (Wiring.swaggerVariable file)) ∧
      ∀ d v d' v', g.DeclaresSwagger outputs d v → g.DeclaresSwagger outputs d' v' →
        Go.IsIdentifier v ∧
          (v = v' ↔ ∃ file file', d.name = .str file ∧ d'.name = .str file' ∧
            List.Forall₂ Go.Alike (Go.guarded file) (Go.guarded file')) := by
  refine ⟨fun d hd hs hdocument => declaresSwagger hstandard h hd hs hdocument, ?_⟩
  intro d v d' v' hv hv'
  obtain ⟨file, hname, rfl⟩ := hv.eq_swaggerVariable
  obtain ⟨file', hname', rfl⟩ := hv'.eq_swaggerVariable
  refine ⟨Wiring.isIdentifier_swaggerVariable file, ?_⟩
  rw [Wiring.swaggerVariable_eq_iff, hname, hname']
  simp only [Json.str.injEq, exists_and_left, exists_eq_left']

/-! ## Three files of one package -/

/-- A file of the package `x/y` with one service. -/
def oneService (file service : Text) : Descriptor where
  name := .str file
  package := { path := "x/y", name := "y" }
  services := [⟨.str service, []⟩]

/-- Three files. The names of the first two differ in a character that is no letter. -/
def threeFiles : List Descriptor :=
  [oneService "a-b.proto" "A", oneService "a_b.proto" "B", oneService "c.proto" "C"]

/-- A generator of wirings, with a document for each of the three files. -/
def documenting : Generator where
  options := { swagger := [("a-b.proto", .obj []), ("a_b.proto", .obj []), ("c.proto", .obj [])] }
  toolDir? := none
  roots := []
  common := []

theorem documenting_generate :
    ∃ outputs, (documenting.generate threeFiles).result {} = .ok outputs := by
  have hmade : ((documenting.generate threeFiles).result {}).toOption.map (fun _ => ()) =
      some () := by decide +kernel
  obtain ⟨outputs, hrun, -⟩ := exists_ok_of_map hmade
  exact ⟨outputs, hrun⟩

/-- The first and the last file have different variables. -/
theorem swagger_variables_apart : ∃ outputs v v',
    (documenting.generate threeFiles).result {} = .ok outputs ∧
      documenting.DeclaresSwagger outputs (oneService "a-b.proto" "A") v ∧
      documenting.DeclaresSwagger outputs (oneService "c.proto" "C") v' ∧ v ≠ v' := by
  obtain ⟨outputs, hrun⟩ := documenting_generate
  obtain ⟨hdeclares, hone⟩ := swagger_variables rfl hrun
  have hdocument : Json.obj [] ≠ .null := nofun
  obtain ⟨first, -, hv⟩ :=
    hdeclares (oneService "a-b.proto" "A") (by simp [threeFiles]) (by decide) hdocument
  obtain ⟨last, -, hv'⟩ :=
    hdeclares (oneService "c.proto" "C") (by simp [threeFiles]) (by decide) hdocument
  refine ⟨outputs, Wiring.swaggerVariable first, Wiring.swaggerVariable last, hrun, hv, hv',
    fun heq => ?_⟩
  obtain ⟨file, file', hfile, hfile', halike⟩ := (hone _ _ _ _ hv hv').2.mp heq
  obtain rfl := Json.str.inj hfile
  obtain rfl := Json.str.inj hfile'
  exact absurd halike (by decide)

/-- The files of one package have different names, and the first two have one variable. -/
theorem swagger_variables_clash :
    (threeFiles.map (·.name)).Nodup ∧ (∀ d ∈ threeFiles, d.package.path = ("x/y" : Text)) ∧
      ∃ outputs v, (documenting.generate threeFiles).result {} = .ok outputs ∧
        documenting.DeclaresSwagger outputs (oneService "a-b.proto" "A") v ∧
        documenting.DeclaresSwagger outputs (oneService "a_b.proto" "B") v := by
  have hnames : (threeFiles.map (·.name)).Nodup := by
    have htexts : [("a-b.proto" : Text), "a_b.proto", "c.proto"].Nodup := by decide
    have hmap : threeFiles.map (·.name) = [("a-b.proto" : Text), "a_b.proto", "c.proto"].map .str :=
      rfl
    rw [hmap]
    exact htexts.map fun _ _ => Json.str.inj
  obtain ⟨outputs, hrun⟩ := documenting_generate
  have hdocument : Json.obj [] ≠ .null := nofun
  have hdeclares (file service : Text) (hmem : oneService file service ∈ threeFiles)
      (hswagger : documenting.swaggerOf (oneService file service) ≠ .null) :
      documenting.DeclaresSwagger outputs (oneService file service)
        (Wiring.swaggerVariable file) := by
    obtain ⟨name, hname, hv⟩ := declaresSwagger rfl hrun hmem (List.cons_ne_nil _ _) hswagger
    obtain rfl := Json.str.inj hname
    exact hv
  have hone : Wiring.swaggerVariable "a_b.proto" = Wiring.swaggerVariable "a-b.proto" := by decide
  refine ⟨hnames, by simp [threeFiles, oneService], outputs, _, hrun,
    hdeclares "a-b.proto" "A" (by simp [threeFiles]) hdocument, ?_⟩
  rw [← hone]
  exact hdeclares "a_b.proto" "B" (by simp [threeFiles]) hdocument

end Generator

end ServiceWiring
