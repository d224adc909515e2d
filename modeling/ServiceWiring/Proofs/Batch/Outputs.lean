import ServiceWiring.CommandLine.Run
import ServiceWiring.Proofs.Batch.Jobs
import ServiceWiring.Proofs.Descriptor.Reading
import ServiceWiring.Proofs.Session.Guards

/-!
# What a run is about to write

Until it writes, a run leaves the machine as it finds it, unless its formatter changes the disk. So
if the formatter spares the disk, what is written is for files that were loaded from the disk as the
run found it, and each of the outputs is the wiring of such a file, or its stub. A stub that stands
there already is only made if stubs are to be overwritten.

Headline:
* **`CommandLine.prepare_ends`**: what the outputs of a run are.
-/

namespace ServiceWiring

open SessionM (Ends Guards Lasting)

variable {α : Type} {m m' : Machine} {known : Machine → Prop} {l : Location}

/-! ## Machines that agree -/

/-- The two machines differ at most in the path that the tool was started by. -/
structure Machine.Agrees (m m' : Machine) : Prop where
  /-- They have the same disk. -/
  disk : m'.disk = m.disk
  /-- They work in the same directory. -/
  directory : m'.directory = m.directory
  /-- They have the same environment. -/
  environment : m'.environment = m.environment

theorem Machine.Agrees.of_eq (m' : Machine) (h : m' = m) : m.Agrees m' := by
  subst h
  exact ⟨rfl, rfl, rfl⟩

/-- Machines that agree answer alike whether a stub is present. -/
theorem Machine.Agrees.answer (h : m.Agrees m') (toolDir? : Option Text) (path : Text) :
    ToolRoot.answer toolDir? path m' = ToolRoot.answer toolDir? path m := by
  have hfind : m'.find = m.find := by
    unfold Machine.find Machine.locate
    rw [h.disk, h.directory]
  have hmachine (s : Session) : SessionM.machine.result s = .ok s.machine := rfl
  unfold ToolRoot.answer ToolRoot.isPresent
  cases toolDir? with
  | none => rfl
  | some dir =>
    simp only [SessionM.result_seq, hmachine, hfind]
    split <;> rfl

/-- On this machine the formatter leaves the disk alone. -/
def Formatter.Spares (f : Formatter) (m : Machine) : Prop :=
  ∀ m', m.Agrees m' → ∀ source, (f m' source).1.disk = m.disk

/-- A command that formats stays where the run works. -/
theorem Formatter.command_kept (start : Launcher) (name : Text) (m : Machine) (source : Text) :
    (command start name m source).1.directory = m.directory ∧
      (command start name m source).1.environment = m.environment := by
  unfold command
  simp only
  split
  · exact ⟨rfl, rfl⟩
  · exact ⟨rfl, rfl⟩
  · split <;> exact ⟨rfl, rfl⟩

/-- A command that leaves the disk alone is such a formatter. -/
theorem Formatter.command_spares {start : Launcher} {name : Text}
    (h : ∀ m' input? disk outcome, start m' name input? = .ok (disk, outcome) → disk = m'.disk)
    (m : Machine) : (command start name).Spares m := by
  intro m' hm source
  unfold command
  simp only
  split
  · exact hm.disk
  · exact hm.disk
  · rename_i disk outcome hstart
    have hdisk : disk = m.disk := (h _ _ _ _ hstart).trans hm.disk
    split <;> exact hdisk

/-- On machines that agree with this one the formatter leaves such a machine behind. -/
def Formatter.Stays (f : Formatter) (m : Machine) : Prop :=
  ∀ m', m.Agrees m' → ∀ source, m.Agrees (f m' source).1

/-- The formatter of a run changes no more than the disk. -/
theorem CommandLine.Settings.formatter_stays {s : CommandLine.Settings}
    {start : Launcher} (h : (s.formatter start).Spares m) : (s.formatter start).Stays m := by
  intro m' hm source
  have hkept : (s.formatter start m' source).1.directory = m'.directory ∧
      (s.formatter start m' source).1.environment = m'.environment := by
    unfold CommandLine.Settings.formatter
    split
    · exact ⟨rfl, rfl⟩
    · cases s.gofmt? with
      | some name => exact Formatter.command_kept start name m' source
      | none => exact ⟨rfl, rfl⟩
  exact ⟨h m' hm source, hkept.1.trans hm.directory, hkept.2.trans hm.environment⟩

/-! ## Steps that leave the machine alone -/

theorem SessionM.Lasting.guards {x : SessionM α} (h : Lasting Eq x) :
    Guards known x fun _ => True :=
  Guards.of_still h.still fun _ _ _ _ => trivial

namespace Inputs

theorem readDocument_guards (path : Text) : Guards known (readDocument path) fun _ => True := by
  unfold readDocument
  refine Guards.machine.seq fun m _ => (Guards.ofPath _).seq fun content _ => ?_
  split
  · exact Guards.pure trivial
  · exact Guards.throw _
  · exact Guards.throw _

theorem loadDescriptors_guards (l : Location) : Guards known (loadDescriptors l) fun _ => True := by
  unfold loadDescriptors
  refine (readDocument_guards _).seq fun document _ => ?_
  refine (Guards.of_still (Descriptor.readSet_judges document).still fun _ _ _ _ => trivial).seq
    (Q := fun _ => True) fun files _ => ?_
  exact (Guards.report _).seq fun _ _ => Guards.pure trivial

theorem addSwagger_guards (dir : Location) (documents : List (Text × Json)) (d : Descriptor) :
    Guards known (addSwagger dir documents d) fun _ => True := by
  unfold addSwagger
  split
  · refine Guards.machine.seq fun m _ => (Guards.ofPath _).seq fun found _ => ?_
    split
    · refine (readDocument_guards _).seq fun document _ => ?_
      exact (Guards.report _).seq fun _ _ => Guards.pure trivial
    · exact Guards.pure trivial
  · exact Guards.throw _

theorem loadSwagger_guards (dir : Location) (files : List Descriptor) :
    Guards known (loadSwagger dir files) fun _ => True :=
  Guards.foldlM (addSwagger_guards dir) files []

end Inputs

namespace ToolRoot

/-- Where the directory of the tool can be resolved it is found. -/
theorem directory?_guards (toolPath : Text) : Guards (· = m) (directory? toolPath) fun dir? =>
    ∀ path, resolve m (Location.ofText toolPath).parent = .ok path → dir? = some path := by
  unfold directory?
  refine Guards.machine.seq fun m' hm => ?_
  obtain rfl : m' = m := hm
  split
  · rename_i path hpath
    refine Guards.pure fun path' hpath' => ?_
    rw [Except.ok.inj (hpath.symm.trans hpath')]
  · rename_i u hu
    refine Guards.monadLift.seq fun reason _ => (Guards.report _).seq fun _ _ => Guards.pure ?_
    intro path hpath
    cases hu.symm.trans hpath

theorem resolveRoot_guards (root : Text) : Guards known (resolveRoot root) fun _ => True := by
  unfold resolveRoot
  refine Guards.machine.seq fun m _ => ?_
  split
  · exact Guards.pure trivial
  · refine Guards.monadLift.seq fun reason _ => (Guards.report _).seq fun _ _ => ?_
    exact Guards.pure trivial

theorem roots_guards (configured? : Option Text) :
    Guards known (roots configured?) fun _ => True := by
  unfold roots
  refine Guards.machine.seq fun m _ => Guards.monadLift.seq fun paths _ => ?_
  exact (Guards.mapM (P := fun _ _ => True) fun root _ => resolveRoot_guards root).mono
    fun _ _ => trivial

end ToolRoot

/-- An output for the file may have the name: that of its wiring, or that of its stub unless the
stub is present and to be kept. -/
def Descriptor.MayEmit (d : Descriptor) (force : Bool) (toolDir? : Option Text) (m : Machine)
    (name : Text) : Prop :=
  ∃ file, d.name = .str file ∧ (name = OutputName.wiring file ∨ name = OutputName.stub file ∧
    (force = true ∨ ToolRoot.answer toolDir? (OutputName.stub file) m = .ok false))

namespace Generator

variable {g : Generator} {d : Descriptor} {files : List Descriptor}

theorem bindCommon_guards (paths : List Text) : Guards known (bindCommon paths) fun _ => True :=
  (Guards.mapM (P := fun _ _ => True) fun path _ => Guards.bind path none).mono fun _ _ => trivial

/-- A generator is as it was asked for, and knows the directory of the tool if that can be resolved.
-/
theorem create_guards (options : Options) (renderer : Renderer) (formatter : Formatter) :
    Guards (· = m) (create options renderer formatter none none) fun g =>
      g.options = options ∧ g.formatter = formatter ∧
        ∀ path, ToolRoot.resolve m (Location.ofText m.toolPath).parent = .ok path →
          g.toolDir? = some path := by
  unfold create
  refine Guards.machine.seq fun m' hm => ?_
  obtain rfl : m' = m := hm
  refine (ToolRoot.directory?_guards m'.toolPath).seq fun dir? hdir => ?_
  refine (ToolRoot.roots_guards _).seq fun roots _ => ?_
  exact (bindCommon_guards _).seq fun common _ => Guards.pure ⟨rfl, rfl, hdir⟩

/-! ## Outputs -/

theorem emit_guards (h : ∀ m, known m → ∀ source, known (g.formatter m source).1)
    (name source : Text) : Guards known (g.emit name source) fun o => o.name = name := by
  unfold emit
  refine (Guards.onMachine fun m' hm => h m' hm source).seq fun formatted _ => ?_
  split
  · exact (Guards.report _).seq fun _ _ => Guards.throw _
  · exact Guards.throw _
  · refine (Guards.report _).seq fun _ _ => ?_
    split
    · exact Guards.pure rfl
    · exact Guards.throw _

theorem emitArtifact_guards (h : ∀ m, known m → ∀ source, known (g.formatter m source).1)
    (a : Artifact) : Guards known (g.emitArtifact a) fun o => o.name = a.output := by
  unfold emitArtifact
  refine (g.assemble_lasting a).guards.seq fun p _ => ?_
  refine (rendered_lasting _).guards.seq fun source _ => ?_
  exact emit_guards h a.output source

/-- What a file gives is made of the artifacts of a plan, one by one. -/
theorem generateFile_artifacts {Q : Plan → Prop} {P : Artifact → Output → Prop}
    (hplan : Guards known (g.plan d) Q) (hemit : ∀ a, Guards known (g.emitArtifact a) (P a)) :
    Guards known (g.generateFile d) fun part =>
      ∃ plan, Q plan ∧ List.Forall₂ P (artifactsOf d plan) part := by
  rw [generateFile_eq]
  refine (Guards.report _).seq fun _ _ => hplan.seq fun plan hq => ?_
  exact (Guards.mapM_forall₂ fun a _ => hemit a).mono fun part hpart => ⟨plan, hq, hpart⟩

/-- The artifacts of a plan are for the outputs that it names. -/
theorem map_output_artifactsOf (d : Descriptor) (plan : Plan) :
    (artifactsOf d plan).map Artifact.output = plan.wiring?.toList ++ plan.stub?.toList := by
  cases plan <;> rfl

/-- What a plan names may be emitted. -/
theorem plan_guards (g : Generator) (m : Machine) (d : Descriptor) :
    Guards m.Agrees (g.plan d) fun plan =>
      ∀ name, plan.wiring? = some name ∨ plan.stub? = some name →
        d.MayEmit g.options.force g.toolDir? m name := by
  have hlasting : Lasting Eq (g.plan d) := plan_lasting (by rintro m _ rfl stub -; rfl)
  refine Guards.of_still hlasting.still fun s plan hm hplan name hname => ?_
  obtain ⟨present, hanswer, hmake⟩ := plan_result hplan
  rcases make_cases hmake with ⟨-, rfl⟩ | ⟨hs, file, hfile, ⟨kept?, rfl⟩ | ⟨hstubs, hdue, rfl⟩⟩
  · rcases hname with h | h <;> cases h
  · rcases hname with h | h
    · exact ⟨file, hfile, Or.inl (Option.some.inj h).symm⟩
    · cases h
  · rcases hname with h | h
    · exact ⟨file, hfile, Or.inl (Option.some.inj h).symm⟩
    · refine ⟨file, hfile, Or.inr ⟨(Option.some.inj h).symm, ?_⟩⟩
      cases hforce : g.options.force with
      | true => exact Or.inl rfl
      | false =>
        obtain rfl : present = false := hdue.resolve_left (by simp [hforce])
        rw [← hm.answer, hanswer _ (by simp [Plan.question?, hfile, hs, hstubs, hforce])]
        exact Or.inr rfl

theorem generateFile_guards (h : g.formatter.Stays m) (d : Descriptor) :
    Guards m.Agrees (g.generateFile d) fun outputs =>
      ∀ o ∈ outputs, d.MayEmit g.options.force g.toolDir? m o.name := by
  refine (generateFile_artifacts (plan_guards g m d) (emitArtifact_guards h)).mono ?_
  rintro part ⟨plan, hplan, hpart⟩ o ho
  obtain ⟨a, ha, hname⟩ := exists_of_forall₂ hpart.flip ho
  have hnamed : a.output ∈ plan.wiring?.toList ++ plan.stub?.toList := by
    rw [← map_output_artifactsOf d]
    exact List.mem_map_of_mem ha
  rw [show o.name = a.output from hname]
  exact hplan a.output (by simpa using hnamed)

theorem generate_guards (h : g.formatter.Stays m) (files : List Descriptor) :
    Guards m.Agrees (g.generate files) fun outputs =>
      ∀ o ∈ outputs, ∃ d ∈ files, d.MayEmit g.options.force g.toolDir? m o.name := by
  unfold generate
  refine (Guards.mapM fun d _ => generateFile_guards h d).seq fun parts hparts => Guards.pure ?_
  intro o ho
  obtain ⟨part, hpart, ho⟩ := List.mem_flatten.mp ho
  obtain ⟨d, hd, hemit⟩ := hparts part hpart
  exact ⟨d, hd, hemit o ho⟩

end Generator

namespace CommandLine

variable {s : Settings} {start : Launcher}

/-- The outputs are wirings and stubs of the files; a stub is overwritten or not present in the
directory of the tool, if that can be resolved. -/
def Settings.MayGive (s : Settings) (m : Machine) (files : List Descriptor)
    (outputs : List Output) : Prop :=
  ∃ toolDir?, (∀ path, ToolRoot.resolve m (Location.ofText m.toolPath).parent = .ok path →
    toolDir? = some path) ∧ ∀ o ∈ outputs, ∃ d ∈ files, d.MayEmit s.force toolDir? m o.name

/-- Once its inputs are loaded the run makes its generator, and then what it writes. -/
theorem generate_ends (h : (s.formatter start).Spares m) (files : List Descriptor)
    (swagger : List (Text × Json)) {session : Session} (hsession : session.machine = m) :
    Ends m.Agrees (do
      let g ← Generator.create (s.options swagger) .standard (s.formatter start) none none
      g.generate files) session (s.MayGive m files) := by
  refine ((Generator.create_guards _ _ _).ends hsession).seq Machine.Agrees.of_eq ?_
  rintro g ⟨hoptions, hformatter, hdir⟩ session' hsession'
  have hstays : g.formatter.Stays m := hformatter ▸ Settings.formatter_stays h
  have hends := (Generator.generate_guards hstays files).ends (Machine.Agrees.of_eq _ hsession')
  refine hends.mono fun outputs houtputs => ⟨g.toolDir?, hdir, ?_⟩
  rwa [hoptions] at houtputs

/-- **What the outputs of a run are**, if its formatter spares the disk: each is the wiring of a
file that was loaded, or the stub of one. -/
theorem prepare_ends (h : (s.formatter start).Spares m) :
    Ends m.Agrees (prepare start s) { machine := m } fun outputs =>
      ∃ files, (Inputs.loadDescriptors s.descriptors).result { machine := m } = .ok files ∧
        s.MayGive m files outputs := by
  have hguards : Guards (· = m) (Inputs.loadDescriptors s.descriptors) fun _ => True :=
    Inputs.loadDescriptors_guards _
  have hload : Ends (· = m) (Inputs.loadDescriptors s.descriptors) { machine := m } fun files =>
      (Inputs.loadDescriptors s.descriptors).result { machine := m } = .ok files :=
    ⟨hguards.keeps _ rfl, fun _ h => h⟩
  unfold prepare
  refine hload.seq Machine.Agrees.of_eq fun files hfiles session hsession => ?_
  refine Ends.mono ?_ fun outputs houtputs => ⟨files, hfiles, houtputs⟩
  cases s.swaggerDir? with
  | some dir =>
    exact ((Inputs.loadSwagger_guards dir files).ends hsession).seq Machine.Agrees.of_eq
      fun swagger _ _ => generate_ends h files swagger
  | none =>
    exact ((Guards.pure trivial).ends hsession).seq (Q := fun _ => True) Machine.Agrees.of_eq
      fun swagger _ _ => generate_ends h files swagger

end CommandLine

end ServiceWiring
