import ServiceWiring.Proofs.Session.Desk
import ServiceWiring.Proofs.Session.Lasting

/-!
# Repeating a batch

While a batch goes on, the import table grows: each artifact is assembled from another table than
the one before it, and a stub may bind the package of its wiring under a name that nobody expected.
Still, no artifact would come out differently from the final table. All that the assembly of an
artifact asks of the table is bound by then, and what is bound lasts.

The formatter has to give the same on each call and to leave the machine alone (`Formatter.IsPure`).
Besides the table, a batch asks the machine only which stubs exist: `ToolRoot.answer`.

Headline:
* **`generate_again`**: a batch that succeeded gives the same outputs again and binds nothing new,
  also when other calls were made of the table in between.
-/

namespace ServiceWiring

open ImportTable (Grows)
open SessionM (Lasting Quiet Steady result final)

variable {alike : Machine → Machine → Prop} {s s' : Session}

/-! ## What a batch asks the machine -/

/-- The formatter turns a source into another by itself and leaves the machine alone. -/
def Formatter.IsPure (f : Formatter) : Prop :=
  ∃ format : Text → Except Fault Text, ∀ m source, f m source = (m, format source)

/-- The answer of a machine whether something stands at a path, as seen from the directory of the
tool. -/
def ToolRoot.answer (toolDir? : Option Text) (path : Text) (m : Machine) : Except Fault Bool :=
  (ToolRoot.isPresent toolDir? path).result { machine := m }

/-- Only the machine decides whether something is present. -/
theorem ToolRoot.isPresent_result (toolDir? : Option Text) (path : Text) (s : Session) :
    (ToolRoot.isPresent toolDir? path).result s = ToolRoot.answer toolDir? path s.machine := by
  unfold ToolRoot.answer ToolRoot.isPresent
  cases toolDir? with
  | none => rfl
  | some dir =>
    simp only
    rw [SessionM.result_seq, SessionM.result_seq]
    have hmachine (s : Session) : SessionM.machine.result s = .ok s.machine := rfl
    rw [hmachine, hmachine]
    simp only
    split
    · rfl
    · rfl
    · rw [SessionM.result_seq, SessionM.result_seq]
      rfl
    · rfl

theorem ToolRoot.isPresent_still (toolDir? : Option Text) (path : Text) (s : Session) :
    ((ToolRoot.isPresent toolDir? path).final s).machine = s.machine := by
  unfold ToolRoot.isPresent
  cases toolDir? with
  | none => rfl
  | some dir =>
    have hmachine : SessionM.machine.result s = .ok s.machine := rfl
    simp only
    rw [SessionM.final_seq, hmachine]
    simp only
    split
    · rfl
    · rfl
    · rfl
    · rfl

theorem ToolRoot.isPresent_lasting {toolDir? : Option Text} {path : Text}
    (h : ∀ m m', alike m m' → answer toolDir? path m' = answer toolDir? path m) :
    Lasting alike (ToolRoot.isPresent toolDir? path) := by
  refine Lasting.of_quiet (isPresent_quiet toolDir? path) (isPresent_still toolDir? path) ?_
  intro s s' halike
  rw [isPresent_result, isPresent_result]
  exact h _ _ halike

/-! ## Assembling lasts -/

theorem addPaths_lasting (imports : List GoPackage) (paths : List Text) :
    Lasting alike (addPaths imports paths) :=
  Lasting.foldlM (fun _ _ => (Lasting.bind _ _).seq fun _ => Lasting.pure _) paths imports

theorem Wiring.parameters_lasting (d : Descriptor) (common : List GoPackage) (swagger : Json) :
    Lasting alike (Wiring.parameters d common swagger) := by
  unfold Wiring.parameters
  refine (addPaths_lasting _ _).seq fun imports => ?_
  simp only
  split
  · exact Lasting.pure _
  · exact ((Lasting.lift _).map _).seq fun _ => Lasting.pure _

theorem Stub.addWiring_lasting (imports : List GoPackage) (d : Descriptor) (site : Stub.Site) :
    Lasting alike (Stub.addWiring imports d site) := by
  unfold Stub.addWiring
  refine (Lasting.lift _).seq fun path? => ?_
  cases path? with
  | some path => exact (Lasting.bind _ _).seq fun _ => Lasting.pure _
  | none => exact (Lasting.report _).seq fun _ => Lasting.pure _

theorem Stub.parameters_lasting (d : Descriptor) (common : List GoPackage) (site : Stub.Site) :
    Lasting alike (Stub.parameters d common site) := by
  unfold Stub.parameters
  refine (addPaths_lasting _ _).seq fun imports => ?_
  split
  · exact (Stub.addWiring_lasting imports d site).seq fun _ => Lasting.pure _
  · exact Lasting.pure _

/-! ## Generating lasts -/

namespace Generator

variable {g : Generator} {d : Descriptor}

theorem rendered_lasting (r : Except RenderFailure Text) : Lasting alike (rendered r) := by
  unfold rendered
  split
  · exact Lasting.pure _
  · exact (Lasting.report _).seq fun _ => Lasting.throw _
  · exact Lasting.throw _

theorem format_lasting (hpure : g.formatter.IsPure) (source : Text) :
    Lasting alike (SessionM.onMachine (g.formatter · source)) := by
  obtain ⟨format, hformat⟩ := hpure
  refine Lasting.of_quiet (Quiet.onMachine _) (fun s => ?_) fun s s' _ => ?_
  · exact congrArg Prod.fst (hformat s.machine source)
  · exact Steady.onMachine (a := format source) (fun m => by rw [hformat]) s s'

theorem emit_lasting (hpure : g.formatter.IsPure) (name source : Text) :
    Lasting alike (g.emit name source) := by
  unfold emit
  refine (format_lasting hpure source).seq fun formatted => ?_
  split
  · exact (Lasting.report _).seq fun _ => Lasting.throw _
  · exact Lasting.throw _
  · refine (Lasting.report _).seq fun _ => ?_
    split
    · exact Lasting.pure _
    · exact Lasting.throw _

theorem emitWiring_lasting (hpure : g.formatter.IsPure) (d : Descriptor) (output : Text) :
    Lasting alike (g.emitWiring d output) := by
  unfold emitWiring
  refine (Wiring.parameters_lasting d g.common (g.swaggerOf d)).seq fun p => ?_
  exact (rendered_lasting _).seq fun source => emit_lasting hpure output source

theorem emitStub_lasting (hpure : g.formatter.IsPure) (d : Descriptor) (output : Text) :
    Lasting alike (g.emitStub d output) := by
  unfold emitStub
  refine (Stub.parameters_lasting d g.common g.site).seq fun p => ?_
  exact (rendered_lasting _).seq fun source => emit_lasting hpure output source

/-- The two machines answer alike whether the stub of a file exists, if that is asked. -/
def AnswersAlike (g : Generator) (d : Descriptor) (m m' : Machine) : Prop :=
  ∀ stub, Plan.question? d g.options.stubs g.options.force = some stub →
    ToolRoot.answer g.toolDir? stub m' = ToolRoot.answer g.toolDir? stub m

theorem plan_lasting (h : ∀ m m', alike m m' → g.AnswersAlike d m m') :
    Lasting alike (g.plan d) := by
  have hmake (present : Bool) : Lasting alike (do
      let plan ← liftExcept (Plan.make d g.options.stubs g.options.force present)
      (plan.events d).forM SessionM.report
      return plan) :=
    (Lasting.lift _).seq fun plan =>
      (Lasting.forM Lasting.report (plan.events d)).seq fun _ => Lasting.pure plan
  unfold plan
  simp only
  split
  · rename_i stub hstub
    exact (ToolRoot.isPresent_lasting fun m m' hm => h m m' hm stub hstub).seq hmake
  · exact hmake false

theorem generateFile_lasting (hpure : g.formatter.IsPure)
    (h : ∀ m m', alike m m' → g.AnswersAlike d m m') : Lasting alike (g.generateFile d) := by
  unfold generateFile
  refine (Lasting.report _).seq fun _ => (plan_lasting h).seq fun plan => ?_
  cases plan with
  | nothing => exact Lasting.pure _
  | wiring output kept? => exact (emitWiring_lasting hpure d output).seq fun _ => Lasting.pure _
  | both output stub =>
    refine (emitWiring_lasting hpure d output).seq fun _ => ?_
    exact (emitStub_lasting hpure d stub).seq fun _ => Lasting.pure _

/-- **Generating a batch lasts**, as long as the stubs that are looked for do. -/
theorem generate_lasting {files : List Descriptor} (hpure : g.formatter.IsPure)
    (h : ∀ d ∈ files, ∀ m m', alike m m' → g.AnswersAlike d m m') :
    Lasting alike (g.generate files) := by
  unfold generate
  refine (Lasting.mapM fun d hd => generateFile_lasting hpure (h d hd)).seq fun parts => ?_
  exact Lasting.pure _

/-- **A batch can be repeated.** Let a batch with a pure formatter succeed from any session, and run
the same generator on the same files from any session whose table has grown from the one that the
batch left, or is that one. If the machine still gives the same answers on stubs that are looked
for, then the second run succeeds with exactly the same outputs in the same order, and the table
stays exactly as it was after the first run and whatever followed it. -/
theorem generate_again {files : List Descriptor} {outputs : List Output}
    (hpure : g.formatter.IsPure) (h : (g.generate files).result s = .ok outputs)
    (hanswers : ∀ d ∈ files, g.AnswersAlike d s.machine s'.machine)
    (hgrown : Grows (fun _ => True) ((g.generate files).final s).imports s'.imports) :
    (g.generate files).result s' = .ok outputs ∧
      ((g.generate files).final s').imports = s'.imports := by
  have hlasting : Lasting (fun m m' => ∀ d ∈ files, g.AnswersAlike d m m') (g.generate files) :=
    generate_lasting hpure fun d hd m m' halike => halike d hd
  exact hlasting.again h hanswers hgrown

end Generator

theorem Formatter.keep_isPure : Formatter.keep.IsPure := ⟨.ok, fun _ _ => rfl⟩

/-- Shows of a wiring the short names of its imports, and of a stub what qualifies its wiring. -/
def Renderer.brief : Renderer where
  wiring p := .ok (Text.joinWith " " (p.imports.map GoPackage.shortName))
  stub p := .ok p.wiringQualifier

/-- Overwrites stubs, and puts them apart from their wirings. -/
def Generator.apart : Generator where
  options := { stubs := true, force := true, wiringPath? := some "bytes" }
  renderer := .brief
  toolDir? := some "/r/src/me"
  roots := ["/r"]
  common := (bindCommon.result {}).toOption.getD []

/-- Two files whose packages have one name, which a common package has already. -/
def twoFiles : Desk :=
  (Desk.start {}).run [.bindCommon commonPaths,
    .read (oneMethod "x/errors" (.obj [("name", .str "Req")]) (.obj [("name", .str "Res")])),
    .read (oneMethod "y/errors" (.obj [("name", .str "Req")]) (.obj [("name", .str "Res")]))]

namespace Generator

/-- The stub of the second file imports its wiring by a name with a number. -/
theorem apart_generate : ∃ outputs,
    (apart.generate twoFiles.files).result twoFiles.session = .ok outputs ∧
      outputs[3]?.map Output.content = Utf8.encode? "bytes_1." := by
  have hmade : ((apart.generate twoFiles.files).result twoFiles.session).toOption.map
      (fun outputs => outputs[3]?.map Output.content) = some (Utf8.encode? "bytes_1.") := by
    decide +kernel
  exact exists_ok_of_map hmade

/-- Whatever is asked of the table and happens to the machine afterwards, the two files come out the
same again. -/
theorem generate_again_apart : ∃ outputs,
    (apart.generate twoFiles.files).result twoFiles.session = .ok outputs ∧
      outputs[3]?.map Output.content = Utf8.encode? "bytes_1." ∧
      ∀ later machine log,
        let s : Session := ⟨machine,
          ((apart.generate twoFiles.files).final twoFiles.session).imports.after later, log⟩
        (apart.generate twoFiles.files).result s = .ok outputs ∧
          ((apart.generate twoFiles.files).final s).imports = s.imports := by
  obtain ⟨outputs, h, hlast⟩ := apart_generate
  refine ⟨outputs, h, hlast, fun later machine log => ?_⟩
  refine generate_again Formatter.keep_isPure h (fun d _ stub hstub => ?_)
    ⟨later, fun _ _ => trivial, rfl⟩
  -- Stubs are overwritten, so none is looked for.
  have hnone : Plan.question? d true true = none := by
    unfold Plan.question?
    split <;> simp
  exact nomatch hnone.symm.trans hstub

end Generator

end ServiceWiring
