import ServiceWiring.Proofs.Batch.Independence

/-!
# The jobs of a batch

A batch comes down to a list of jobs, which is known before it starts. Each file is due its wiring
and perhaps its stub, or fails to be planned; the artifacts that are due are made one after another,
and each finds the import table that the ones before it leave, whatever comes of them. What the
artifact of a job comes to, `Job.output`, is then a matter of that table alone.

The formatter is taken to be a function of the source that leaves the machine alone.

Results:
* `emitArtifact_result`, `emitArtifact_final`: an artifact comes to what its job comes to.
* `emitArtifact_congr`: what a job asks of renderer and formatter.
* `generateFile_eq`, `plan_artifacts`: a file is planned, and then the artifacts that it is due are
  made.
-/

namespace ServiceWiring

open SessionM (Lasting Quiet Tabled)

/-! ## Jobs -/

/-- The two kinds of artifact. -/
inductive ArtifactKind where
  /-- A wiring. -/
  | wiring
  /-- A stub. -/
  | stub

/-- The source of an artifact. -/
def Renderer.render (r : Renderer) : ArtifactKind → Parameters → Except RenderFailure Text
  | .wiring => r.wiring
  | .stub => r.stub

/-- The fault that a failure to render is reported as. -/
def RenderFailure.toFault : RenderFailure → Fault
  | .template name message _ => .render name message
  | .fault f => f

/-- An artifact that a file is due. -/
structure Artifact where
  /-- Its kind. -/
  kind : ArtifactKind
  /-- The file. -/
  file : Descriptor
  /-- The name of the output. -/
  output : Text

/-- An artifact, and the import table that it finds. -/
structure Job where
  /-- The artifact. -/
  artifact : Artifact
  /-- The table. -/
  table : ImportTable

namespace Generator

/-- Whether a file with this name is due a stub: stubs are wanted, and they are overwritten or this
one does not exist. -/
def wantsStub (g : Generator) (m : Machine) (name : Text) : Except Fault Bool :=
  if !g.options.stubs then .ok false
  else if g.options.force then .ok true
  else (ToolRoot.answer g.toolDir? (OutputName.stub name) m).map (!·)

/-- The artifacts that a file is due: none without services, else its wiring and perhaps its stub.
-/
def due (g : Generator) (m : Machine) (d : Descriptor) : Except Fault (List Artifact) :=
  if d.services.isEmpty then .ok []
  else
    match d.name with
    | .str name =>
      (g.wantsStub m name).map fun
        | true => [⟨.wiring, d, OutputName.wiring name⟩, ⟨.stub, d, OutputName.stub name⟩]
        | false => [⟨.wiring, d, OutputName.wiring name⟩]
    | _ => .error .nameNotText

/-- The artifacts that a file is due, one by one, or the fault that ends the batch instead. -/
def tasks (g : Generator) (m : Machine) (d : Descriptor) : List (Except Fault Artifact) :=
  match g.due m d with
  | .ok artifacts => artifacts.map .ok
  | .error f => [.error f]

/-- What an artifact is made from. -/
def assemble (g : Generator) (a : Artifact) : SessionM Parameters :=
  match a.kind with
  | .wiring => Wiring.parameters a.file g.common (g.swaggerOf a.file)
  | .stub => Stub.parameters a.file g.common g.site

/-- The import table after an artifact. -/
def tableAfter (g : Generator) (t : ImportTable) : Except Fault Artifact → ImportTable
  | .ok a => ((g.assemble a).final { imports := t }).imports
  | .error _ => t

/-- The artifacts with the tables that they find if they are made in order. -/
def schedule (g : Generator) : ImportTable → List (Except Fault Artifact) → List (Except Fault Job)
  | _, [] => []
  | t, a :: as => a.map (⟨·, t⟩) :: g.schedule (g.tableAfter t a) as

/-- The jobs of a batch that starts from a session. -/
def jobs (g : Generator) (s : Session) (files : List Descriptor) : List (Except Fault Job) :=
  g.schedule s.imports (files.flatMap (g.tasks s.machine))

end Generator

/-- What the artifact of a job is made from. -/
def Job.parameters (g : Generator) (job : Job) : Except Fault Parameters :=
  (g.assemble job.artifact).result { imports := job.table }

/-- The output of a job: what its artifact is made from is rendered, formatted and encoded. -/
def Job.output (g : Generator) (format : Text → Except Fault Text) (job : Job) :
    Except Fault Output := do
  let p ← job.parameters g
  let source ← (g.renderer.render job.artifact.kind p).mapError RenderFailure.toFault
  let formatted ← format source
  match Utf8.encode? formatted with
  | some content => .ok ⟨job.artifact.output, content⟩
  | none => .error .unencodable

/-- The formatter does this to each source, and leaves the machine alone. -/
def Formatter.Computes (f : Formatter) (format : Text → Except Fault Text) : Prop :=
  ∀ m source, f m source = (m, format source)

/-- What a job comes to, if it is one. -/
def Generator.outcome (g : Generator) (format : Text → Except Fault Text)
    (job : Except Fault Job) : Except Fault Output := job.bind (Job.output g format)

/-- Another renderer and another formatter agree with those of the generator on what a job asks of
them: to render what its artifact is made from, and to format the source on the machine. -/
def Generator.AgreesOn (g : Generator) (renderer : Renderer) (formatter : Formatter) (m : Machine) :
    Except Fault Job → Prop
  | .ok job => ∀ p, job.parameters g = .ok p →
      renderer.render job.artifact.kind p = g.renderer.render job.artifact.kind p ∧
        ∀ source, g.renderer.render job.artifact.kind p = .ok source →
          formatter m source = g.formatter m source
  | .error _ => True

/-! ## One artifact -/

theorem addPaths_tabled (imports : List GoPackage) (paths : List Text) :
    Tabled (addPaths imports paths) :=
  Tabled.foldlM (fun _ _ => (Tabled.bind _ _).seq fun _ => Tabled.pure _) paths imports

theorem Wiring.parameters_tabled (d : Descriptor) (common : List GoPackage) (swagger : Json) :
    Tabled (Wiring.parameters d common swagger) := by
  unfold Wiring.parameters
  refine (addPaths_tabled _ _).seq fun imports => ?_
  simp only
  split
  · exact Tabled.pure _
  · exact ((Tabled.lift _).map _).seq fun _ => Tabled.pure _

theorem Stub.parameters_tabled (d : Descriptor) (common : List GoPackage) (site : Stub.Site) :
    Tabled (Stub.parameters d common site) := by
  have hwiring (imports : List GoPackage) : Tabled (addWiring imports d site) := by
    unfold addWiring
    refine (Tabled.lift _).seq fun path? => ?_
    cases path? with
    | some path => exact (Tabled.bind _ _).seq fun _ => Tabled.pure _
    | none => exact (Tabled.report _).seq fun _ => Tabled.pure _
  unfold Stub.parameters
  refine (addPaths_tabled _ _).seq fun imports => ?_
  split
  · exact (hwiring imports).seq fun _ => Tabled.pure _
  · exact Tabled.pure _

namespace Generator

variable {g : Generator} {s : Session} {format : Text → Except Fault Text}

theorem assemble_tabled (g : Generator) (a : Artifact) : Tabled (g.assemble a) := by
  unfold assemble
  split
  · exact Wiring.parameters_tabled _ _ _
  · exact Stub.parameters_tabled _ _ _

theorem assemble_lasting {alike : Machine → Machine → Prop} (g : Generator) (a : Artifact) :
    Lasting alike (g.assemble a) := by
  unfold assemble
  split
  · exact Wiring.parameters_lasting _ _ _
  · exact Stub.parameters_lasting _ _ _

theorem rendered_result (r : Except RenderFailure Text) (s : Session) :
    (rendered r).result s = r.mapError RenderFailure.toFault := by
  cases r with
  | ok source => rfl
  | error failure => cases failure <;> rfl

/-- The output of a source, if the formatter is a function. -/
theorem emit_result (hformat : g.formatter.Computes format)
    (name source : Text) (s : Session) : (g.emit name source).result s =
      (format source).bind fun formatted =>
        match Utf8.encode? formatted with
        | some content => .ok ⟨name, content⟩
        | none => .error .unencodable := by
  have honMachine :
      (SessionM.onMachine (g.formatter · source)).result s = .ok (format source) := by
    show Except.ok (g.formatter s.machine source).2 = _
    rw [hformat]
  unfold emit
  rw [SessionM.result_seq, honMachine]
  cases format source with
  | ok formatted =>
    simp only
    rw [SessionM.result_seq]
    cases hencoded : Utf8.encode? formatted with
    | some content => simp [Except.bind, hencoded]; rfl
    | none => simp [Except.bind, hencoded]; rfl
  | error f => cases f <;> rfl

/-- Makes an artifact, as its kind wants it. -/
def emitArtifact (g : Generator) (a : Artifact) : SessionM Output := do
  let p ← g.assemble a
  g.emit a.output (← rendered (g.renderer.render a.kind p))

theorem emitArtifact_result (hformat : g.formatter.Computes format)
    (a : Artifact) (s : Session) :
    (g.emitArtifact a).result s = Job.output g format ⟨a, s.imports⟩ := by
  have hassemble : (g.assemble a).result s = Job.parameters g ⟨a, s.imports⟩ :=
    (g.assemble_tabled a).result rfl
  unfold emitArtifact Job.output
  rw [SessionM.result_seq, hassemble]
  cases Job.parameters g ⟨a, s.imports⟩ with
  | error e => rfl
  | ok p =>
    simp only
    rw [SessionM.result_seq, rendered_result]
    cases hsource : (g.renderer.render a.kind p).mapError RenderFailure.toFault with
    | error e => simp only [bind, Except.bind, hsource]
    | ok source =>
      simp only [bind, Except.bind, hsource]
      exact emit_result hformat a.output source _

/-- After what it is made from, an artifact leaves the table alone. -/
theorem emitArtifact_final (g : Generator) (a : Artifact) (s : Session) :
    ((g.emitArtifact a).final s).imports = g.tableAfter s.imports (.ok a) := by
  have htable : ((g.assemble a).final s).imports = g.tableAfter s.imports (.ok a) :=
    (g.assemble_tabled a).table rfl
  unfold emitArtifact
  rw [SessionM.final_seq, ← htable]
  cases (g.assemble a).result s with
  | ok p => exact (rendered_quiet _).seq (fun source => emit_quiet g a.output source) _
  | error e => rfl

/-- Of the formatter nothing matters but what it makes of the source on the machine. -/
theorem emit_run_congr {renderer : Renderer} {formatter : Formatter} {source : Text}
    (h : formatter s.machine source = g.formatter s.machine source) (name : Text) :
    ({ g with renderer, formatter }.emit name source).run.run s =
      (g.emit name source).run.run s := by
  have hformat : (SessionM.onMachine (formatter · source)).run.run s =
      (SessionM.onMachine (g.formatter · source)).run.run s := by
    have hrun (f : Formatter) : (SessionM.onMachine (f · source)).run.run s =
        (.ok (f s.machine source).2, { s with machine := (f s.machine source).1 }) := rfl
    rw [hrun, hrun, h]
  exact run_seq_congr hformat fun _ _ => rfl

theorem emitArtifact_congr {renderer : Renderer} {formatter : Formatter} {a : Artifact}
    (h : g.AgreesOn renderer formatter s.machine (.ok ⟨a, s.imports⟩)) :
    ({ g with renderer, formatter }.emitArtifact a).run.run s = (g.emitArtifact a).run.run s := by
  unfold emitArtifact
  refine run_seq_congr rfl fun p hp => ?_
  have hparameters : Job.parameters g ⟨a, s.imports⟩ = .ok p := by
    rw [← hp]
    exact (g.assemble_tabled a).result rfl
  obtain ⟨hrender, hformat⟩ := h p hparameters
  refine run_seq_congr (by rw [hrender]) fun source hsource => ?_
  have hsource : g.renderer.render a.kind p = .ok source := by
    rw [rendered_result] at hsource
    cases hr : g.renderer.render a.kind p with
    | ok made =>
      rw [hr] at hsource
      simpa [Except.mapError] using hsource
    | error failure =>
      rw [hr] at hsource
      cases hsource
  refine emit_run_congr ?_ a.output
  have hassemble : Lasting Eq (g.assemble a) := g.assemble_lasting a
  have hrendered : Lasting Eq (rendered (g.renderer.render a.kind p)) := rendered_lasting _
  rw [hrendered.still, hassemble.still]
  exact hformat source hsource

/-! ## One file -/

/-- The artifacts of a plan. -/
def artifactsOf (d : Descriptor) : Plan → List Artifact
  | .nothing => []
  | .wiring output _ => [⟨.wiring, d, output⟩]
  | .both output stub => [⟨.wiring, d, output⟩, ⟨.stub, d, stub⟩]

theorem generateFile_eq (g : Generator) (d : Descriptor) :
    g.generateFile d = SessionM.report (.processing d.name) >>= fun _ =>
      g.plan d >>= fun plan => (artifactsOf d plan).mapM g.emitArtifact := by
  unfold generateFile
  refine bind_congr fun _ => bind_congr fun plan => ?_
  cases plan with
  | nothing => simp [artifactsOf]
  | wiring output kept? =>
    simp [artifactsOf]
    rfl
  | both output stub =>
    simp [artifactsOf]
    rfl

/-- The plan of a file is made of the artifacts that it is due. -/
theorem plan_artifacts (g : Generator) (d : Descriptor) (s : Session) :
    ((g.plan d).result s).map (artifactsOf d) = g.due s.machine d := by
  rw [plan_result_eq]
  unfold presence Plan.question? due Plan.make wantsStub
  cases hservices : d.services.isEmpty with
  | true => cases d.name <;> rfl
  | false =>
    cases d.name with
    | str name =>
      cases g.options.stubs with
      | false => rfl
      | true =>
        cases g.options.force with
        | true => rfl
        | false =>
          simp only [Bool.not_true, Bool.or_self, Bool.false_eq_true, ↓reduceIte]
          cases ToolRoot.answer g.toolDir? (OutputName.stub name) s.machine with
          | error e => rfl
          | ok present => cases present <;> rfl
    | null | bool | int | float | arr | obj => rfl

end Generator

end ServiceWiring
