import ServiceWiring.Proofs.Batch.Repetition

/-!
# Wirings do not depend on the batch

All artifacts of a batch share one import table, and a stub may bind the package of its wiring in
between, under a name that then is taken for everything after it. The wiring of a file comes out the
same all the same, whatever files come before it and whatever is asked for besides wirings.

The reason is the order of a batch. Of all that happens in it only the first wiring and the stubs
bind anything, and the first wiring binds everything that any wiring asks the table for. So a wiring
meets either the table that the batch started from, or one that has grown from the one that the
first wiring left: it is `Settled`.

Headline:
* **`wiring_independent`**: from one table, the wirings of all batches are one function of the file,
  and it gives what a batch of that file alone gives without stubs.
-/

namespace ServiceWiring

open ImportTable (Grows)
open SessionM (Lasting Quiet Steady)

variable {s s' : Session} {t : ImportTable}

/-! ## What a wiring asks the table for -/

/-- The table is the first one, or it has grown from the first one with the packages of every wiring
bound. -/
def Settled (t t' : ImportTable) : Prop :=
  t' = t ∨ Grows (fun _ => True) (t.bindAll Wiring.paths).2 t'

/-- A settled table gives wirings the packages that the first one gives them. -/
theorem Settled.bindAll_eq {t' : ImportTable} (h : Settled t t') :
    (t'.bindAll Wiring.paths).1 = (t.bindAll Wiring.paths).1 := by
  rcases h with rfl | h
  · rfl
  · rw [h.bindAll_again]

/-- Once the packages of every wiring are bound, a table is settled for good. -/
theorem Settled.of_grows {t' t'' : ImportTable} (h : Settled t t')
    (hg : Grows (fun _ => True) (t'.bindAll Wiring.paths).2 t'') : Settled t t'' := by
  rcases h with rfl | h
  · exact Or.inr hg
  · rw [h.bindAll_again] at hg
    exact Or.inr (h.trans hg)

theorem wiring_parameters_congr {d : Descriptor} {common : List GoPackage} {swagger : Json}
    (h : (s'.imports.bindAll Wiring.paths).1 = (s.imports.bindAll Wiring.paths).1) :
    (Wiring.parameters d common swagger).result s' =
      (Wiring.parameters d common swagger).result s := by
  unfold Wiring.parameters
  refine SessionM.result_seq_congr (by rw [addPaths_result, addPaths_result, h]) fun imports => ?_
  simp only
  split
  · exact Steady.pure _ _ _
  · exact ((Steady.lift _).map _).seq (fun _ => Steady.pure _) _ _

/-! ## The wiring of a file -/

namespace Generator

variable {g g' : Generator} {d : Descriptor} {name : Text} {outputs part : List Output}

/-- The two generators differ at most in what is asked for besides wirings, and in where the tool
and the stubs are. -/
structure SameWirings (g' g : Generator) : Prop where
  /-- They render wirings alike. -/
  wiring : g'.renderer.wiring = g.renderer.wiring
  /-- They format alike. -/
  formatter : g'.formatter = g.formatter
  /-- They have the same common packages. -/
  common : g'.common = g.common
  /-- They have the same documents. -/
  swagger : g'.options.swagger = g.options.swagger

/-- Of the options only the swagger documents matter. -/
theorem SameWirings.of_options {options : Options} (h : options.swagger = g.options.swagger) :
    ({ g with options } : Generator).SameWirings g := ⟨rfl, rfl, rfl, h⟩

theorem SameWirings.symm (h : g'.SameWirings g) : g.SameWirings g' :=
  ⟨h.wiring.symm, h.formatter.symm, h.common.symm, h.swagger.symm⟩

theorem SameWirings.trans {g'' : Generator} (h : g''.SameWirings g') (h' : g'.SameWirings g) :
    g''.SameWirings g :=
  ⟨h.wiring.trans h'.wiring, h.formatter.trans h'.formatter, h.common.trans h'.common,
    h.swagger.trans h'.swagger⟩

theorem rendered_steady (r : Except RenderFailure Text) : Steady (rendered r) := by
  unfold rendered
  split
  · exact Steady.pure _
  · exact (Steady.report _).seq fun _ => Steady.throw _
  · exact Steady.throw _

theorem emit_steady (hpure : g.formatter.IsPure) (name source : Text) :
    Steady (g.emit name source) := by
  obtain ⟨format, hformat⟩ := hpure
  unfold emit
  refine Steady.seq (Steady.onMachine (a := format source) fun m => by rw [hformat])
    fun formatted => ?_
  split
  · exact (Steady.report _).seq fun _ => Steady.throw _
  · exact Steady.throw _
  · refine (Steady.report _).seq fun _ => ?_
    split
    · exact Steady.pure _
    · exact Steady.throw _

theorem emit_congr (h : g'.formatter = g.formatter) (name source : Text) :
    g'.emit name source = g.emit name source := by
  unfold emit
  rw [h]

/-- Generators with the same wirings emit the same wiring wherever the packages of every wiring are
the same. -/
theorem emitWiring_result_congr (hsame : g'.SameWirings g) (hpure : g.formatter.IsPure)
    (h : (s'.imports.bindAll Wiring.paths).1 = (s.imports.bindAll Wiring.paths).1)
    (output : Text) : (g'.emitWiring d output).result s' = (g.emitWiring d output).result s := by
  have hswagger : g'.swaggerOf d = g.swaggerOf d := by
    unfold swaggerOf
    rw [hsame.swagger]
  unfold emitWiring
  rw [hsame.common, hswagger, hsame.wiring]
  refine SessionM.result_seq_congr (wiring_parameters_congr h) fun p => ?_
  refine SessionM.result_seq_congr (rendered_steady _ _ _) fun source => ?_
  rw [emit_congr hsame.formatter]
  exact emit_steady hpure output source _ _

/-- After the wiring of a file the packages of every wiring are bound. -/
theorem emitWiring_grows (hpure : g.formatter.IsPure) (d : Descriptor) (output : Text)
    (s : Session) : Grows (fun _ => True) (s.imports.bindAll Wiring.paths).2
      ((g.emitWiring d output).final s).imports := by
  have hparameters : Grows (fun _ => True) (s.imports.bindAll Wiring.paths).2
      ((Wiring.parameters d g.common (g.swaggerOf d)).final s).imports := by
    rw [← addPaths_final (g.common.foldl addImport [])]
    unfold Wiring.parameters
    refine Lasting.grows_left (fun _ _ => True) (fun imports => ?_) s
    simp only
    split
    · exact Lasting.pure _
    · exact ((Lasting.lift _).map _).seq fun _ => Lasting.pure _
  refine hparameters.trans ?_
  unfold emitWiring
  refine Lasting.grows_left (fun _ _ => True) (fun p => ?_) s
  exact (rendered_lasting _).seq fun source => emit_lasting hpure output source

/-! ## One file of a batch -/

theorem make_cases {stubs force present : Bool} {plan : Plan}
    (h : Plan.make d stubs force present = .ok plan) :
    d.services = [] ∧ plan = .nothing ∨
      d.services ≠ [] ∧ ∃ name, d.name = .str name ∧
        ((∃ kept?, plan = .wiring (OutputName.wiring name) kept?) ∨
          stubs = true ∧ (force = true ∨ present = false) ∧
            plan = .both (OutputName.wiring name) (OutputName.stub name)) := by
  unfold Plan.make at h
  split at h
  · rename_i hs
    exact Or.inl ⟨List.isEmpty_iff.mp hs, (Except.ok.inj h).symm⟩
  · rename_i hs
    refine Or.inr ⟨fun he => hs (List.isEmpty_iff.mpr he), ?_⟩
    split at h
    · rename_i name hname
      refine ⟨name, hname, ?_⟩
      simp only at h
      split at h
      · exact Or.inl ⟨none, (Except.ok.inj h).symm⟩
      · rename_i hstubs
        split at h
        · exact Or.inl ⟨_, (Except.ok.inj h).symm⟩
        · rename_i hkept
          refine Or.inr ⟨by simpa using hstubs, ?_, (Except.ok.inj h).symm⟩
          simpa [or_iff_not_imp_left] using hkept
    · cases h

/-- Whether a stub is present, if that is asked; else it does not matter. -/
def presence (g : Generator) (d : Descriptor) (m : Machine) : Except Fault Bool :=
  match Plan.question? d g.options.stubs g.options.force with
  | some stub => ToolRoot.answer g.toolDir? stub m
  | none => .ok false

/-- A plan comes from the answer on the stub. -/
theorem plan_result_eq (g : Generator) (d : Descriptor) (s : Session) : (g.plan d).result s =
    (g.presence d s.machine).bind (Plan.make d g.options.stubs g.options.force) := by
  have hmake (present : Bool) (s : Session) : (do
      let plan ← liftExcept (Plan.make d g.options.stubs g.options.force present)
      (plan.events d).forM SessionM.report
      return plan : SessionM Plan).result s =
        Plan.make d g.options.stubs g.options.force present := by
    cases hm : Plan.make d g.options.stubs g.options.force present with
    | error e => rfl
    | ok plan =>
      obtain ⟨u, hu⟩ := SessionM.Total.forM SessionM.Total.report (plan.events d) s
      exact SessionM.result_seq_eq_ok_iff.mpr
        ⟨plan, rfl, SessionM.result_seq_eq_ok_iff.mpr ⟨u, hu, rfl⟩⟩
  unfold plan presence
  cases Plan.question? d g.options.stubs g.options.force with
  | some stub =>
    simp only
    rw [SessionM.result_seq, ToolRoot.isPresent_result]
    cases ToolRoot.answer g.toolDir? stub s.machine with
    | ok present => exact hmake present _
    | error e => rfl
  | none => exact hmake false s

theorem plan_result {made : Plan} (h : (g.plan d).result s = .ok made) :
    ∃ present, (∀ stub, Plan.question? d g.options.stubs g.options.force = some stub →
        ToolRoot.answer g.toolDir? stub s.machine = .ok present) ∧
      Plan.make d g.options.stubs g.options.force present = .ok made := by
  rw [plan_result_eq] at h
  cases hpresence : g.presence d s.machine with
  | error e =>
    rw [hpresence] at h
    cases h
  | ok present =>
    rw [hpresence] at h
    refine ⟨present, fun stub hstub => ?_, h⟩
    unfold presence at hpresence
    rwa [hstub] at hpresence

/-- What a file of a batch gives: nothing without services; else its wiring, made from the table
that the file found, and perhaps a stub. -/
theorem generateFile_cases (hpure : g.formatter.IsPure)
    (h : (g.generateFile d).result s = .ok part) :
    d.services = [] ∧ part = [] ∧ ((g.generateFile d).final s).imports = s.imports ∨
      d.services ≠ [] ∧ ∃ name s₁ wiring, ∃ stub? : Option Output, d.name = .str name ∧
        s₁.imports = s.imports ∧ part = wiring :: stub?.toList ∧
        (g.emitWiring d (OutputName.wiring name)).result s₁ = .ok wiring ∧
        Grows (fun _ => True) (s.imports.bindAll Wiring.paths).2
          ((g.generateFile d).final s).imports := by
  unfold generateFile at h ⊢
  obtain ⟨u, hreport, h⟩ := SessionM.result_seq_eq_ok_iff.mp h
  obtain ⟨plan, hplan, h⟩ := SessionM.result_seq_eq_ok_iff.mp h
  rw [SessionM.final_seq, hreport]
  simp only
  rw [SessionM.final_seq, hplan]
  simp only
  -- The session in which the wiring is made has the table of `s`.
  have hquiet : ((g.plan d).final ((SessionM.report (.processing d.name)).final s)).imports =
      s.imports := (plan_quiet g d _).trans (Quiet.report _ s)
  revert h hquiet
  generalize (g.plan d).final ((SessionM.report (.processing d.name)).final s) = s₁
  intro h hquiet
  obtain ⟨present, -, hmake⟩ := plan_result hplan
  rcases make_cases hmake with ⟨hs, rfl⟩ | ⟨hs, name, hname, ⟨kept?, rfl⟩ | ⟨-, -, rfl⟩⟩
  · exact Or.inl ⟨hs, (Except.ok.inj h).symm, hquiet⟩
  · obtain ⟨wiring, hwiring, h⟩ := SessionM.result_seq_eq_ok_iff.mp h
    refine Or.inr ⟨hs, name, s₁, wiring, none, hname, hquiet, (Except.ok.inj h).symm, hwiring, ?_⟩
    rw [← hquiet]
    exact (emitWiring_grows hpure d _ s₁).trans
      (Lasting.grows_left (fun _ _ => True) (fun _ => Lasting.pure _) s₁)
  · obtain ⟨wiring, hwiring, h⟩ := SessionM.result_seq_eq_ok_iff.mp h
    obtain ⟨output, -, h⟩ := SessionM.result_seq_eq_ok_iff.mp h
    refine Or.inr ⟨hs, name, s₁, wiring, some output, hname, hquiet, (Except.ok.inj h).symm,
      hwiring, ?_⟩
    rw [← hquiet]
    refine (emitWiring_grows hpure d _ s₁).trans
      (Lasting.grows_left (fun _ _ => True) (fun _ => ?_) s₁)
    exact (emitStub_lasting hpure d _).seq fun _ => Lasting.pure _

/-- A batch of one file with services, without stubs, gives the wiring as it is made from the table
at the start. -/
theorem generate_alone (hstubs : g.options.stubs = false) (hs : d.services ≠ [])
    (hname : d.name = .str name) {wiring : Output}
    (h : ∀ s₁ : Session, s₁.imports = s.imports →
      (g.emitWiring d (OutputName.wiring name)).result s₁ = .ok wiring) :
    (g.generate [d]).result s = .ok [wiring] := by
  have hplan (s₁ : Session) :
      (g.plan d).result s₁ = .ok (.wiring (OutputName.wiring name) none) := by
    have hquestion : Plan.question? d g.options.stubs g.options.force = none := by
      simp [Plan.question?, hname, hstubs]
    have hmake : Plan.make d g.options.stubs g.options.force false =
        .ok (.wiring (OutputName.wiring name) none) := by
      simp [Plan.make, hname, hstubs, hs]
    unfold plan
    simp only [hquestion, pure_bind, hmake]
    rfl
  have hfile : (g.generateFile d).result s = .ok [wiring] := by
    unfold generateFile
    refine SessionM.result_seq_eq_ok_iff.mpr ⟨(), rfl, ?_⟩
    refine SessionM.result_seq_eq_ok_iff.mpr ⟨_, hplan _, ?_⟩
    refine SessionM.result_seq_eq_ok_iff.mpr ⟨wiring, h _ ?_, rfl⟩
    exact (plan_quiet g d _).trans (Quiet.report _ s)
  unfold generate
  rw [List.mapM_cons, List.mapM_nil]
  refine SessionM.result_seq_eq_ok_iff.mpr ⟨[[wiring]], ?_, rfl⟩
  exact SessionM.result_seq_eq_ok_iff.mpr ⟨[wiring], hfile, rfl⟩

/-! ## Whole batches -/

/-- Every file of a batch finds a settled table. -/
theorem mapM_generateFile_settled {files : List Descriptor} {parts : List (List Output)}
    (hpure : g.formatter.IsPure) (hsettled : Settled t s.imports)
    (h : (files.mapM g.generateFile).result s = .ok parts) :
    List.Forall₂ (fun d part => ∃ s₁, Settled t s₁.imports ∧
      (g.generateFile d).result s₁ = .ok part) files parts := by
  induction files generalizing s parts with
  | nil =>
    rw [List.mapM_nil] at h
    obtain rfl : [] = parts := Except.ok.inj h
    exact List.Forall₂.nil
  | cons d files ih =>
    rw [List.mapM_cons] at h
    obtain ⟨part, hpart, h⟩ := SessionM.result_seq_eq_ok_iff.mp h
    obtain ⟨rest, hrest, h⟩ := SessionM.result_seq_eq_ok_iff.mp h
    obtain rfl : part :: rest = parts := Except.ok.inj h
    refine List.Forall₂.cons ⟨s, hsettled, hpart⟩ (ih ?_ hrest)
    rcases generateFile_cases hpure hpart with ⟨-, -, hfinal⟩ | ⟨-, _, _, _, _, -, -, -, -, hgrows⟩
    · rwa [hfinal]
    · exact hsettled.of_grows hgrows

/-- What a file of a batch gives starts with the wiring that the file alone gives. -/
theorem alone_of_generateFile (hpure : g.formatter.IsPure) (hsettled : Settled t s.imports)
    (hs : d.services ≠ []) (h : (g.generateFile d).result s = .ok part) :
    ∃ wiring, ∃ stub? : Option Output, part = wiring :: stub?.toList ∧
      ∀ (g' : Generator) (s' : Session), g'.SameWirings g → g'.options.stubs = false →
        s'.imports = t → (g'.generate [d]).result s' = .ok [wiring] := by
  rcases generateFile_cases hpure h with
    ⟨hnone, -⟩ | ⟨-, name, s₁, wiring, stub?, hname, himports, hpart, hwiring, -⟩
  · exact absurd hnone hs
  · refine ⟨wiring, stub?, hpart, fun g' s' hsame hstubs ht => ?_⟩
    refine generate_alone hstubs hs hname fun s₂ hs₂ => ?_
    have hbound : (s₂.imports.bindAll Wiring.paths).1 = (s₁.imports.bindAll Wiring.paths).1 := by
      rw [hs₂, ht, himports, hsettled.bindAll_eq]
    rw [emitWiring_result_congr hsame hpure hbound, hwiring]

/-- **The wiring of a file does not depend on the rest of the batch.** Fix an import table, a pure
formatter, a way to render wirings, common packages and swagger documents. Then one function of the
file gives the wirings of all batches that start from this table and succeed, whatever their files
and their order, whatever is asked for besides wirings, wherever the tool and the stubs are, and
whatever machine it all happens on: the outputs of a batch are, file by file, nothing for a file
without services, and else the wiring of the file and at most one stub. And for each file with
services of such a batch, the batch of that file alone, without stubs, succeeds from the same table
and gives just this wiring. -/
theorem wiring_independent (g : Generator) (t : ImportTable) (hpure : g.formatter.IsPure) :
    ∃ wiring : Descriptor → Output, ∀ (g' : Generator) (s : Session) (files : List Descriptor)
      (outputs : List Output), g'.SameWirings g → s.imports = t →
      (g'.generate files).result s = .ok outputs →
        (∃ parts, outputs = parts.flatten ∧
          List.Forall₂ (fun d part =>
            d.services = [] ∧ part = [] ∨
              d.services ≠ [] ∧ ∃ stub? : Option Output, part = wiring d :: stub?.toList)
            files parts) ∧
        ∀ d ∈ files, d.services ≠ [] → ∀ (g'' : Generator) (s' : Session),
          g''.SameWirings g → g''.options.stubs = false → s'.imports = t →
            (g''.generate [d]).result s' = .ok [wiring d] := by
  let alone : Generator := { g with options := { g.options with stubs := false } }
  have halone : alone.SameWirings g := SameWirings.of_options rfl
  let wiring (d : Descriptor) : Output :=
    ((((alone.generate [d]).result { imports := t }).toOption.getD []).head?).getD ⟨[], []⟩
  refine ⟨wiring, fun g' s files outputs hsame ht h => ?_⟩
  have hpure' : g'.formatter.IsPure := by rwa [hsame.formatter]
  unfold generate at h
  obtain ⟨parts, hparts, h⟩ := SessionM.result_seq_eq_ok_iff.mp h
  obtain rfl : parts.flatten = outputs := Except.ok.inj h
  have hall := mapM_generateFile_settled hpure' (Or.inl ht) hparts
  -- What a file alone gives determines `wiring`.
  have hwiring : ∀ d part, (∃ s₁, Settled t s₁.imports ∧
      (g'.generateFile d).result s₁ = .ok part) → d.services ≠ [] →
        (∃ stub? : Option Output, part = wiring d :: stub?.toList) ∧
          ∀ (g'' : Generator) (s' : Session), g''.SameWirings g → g''.options.stubs = false →
            s'.imports = t → (g''.generate [d]).result s' = .ok [wiring d] := by
    rintro d part ⟨s₁, hsettled, hpart⟩ hs
    obtain ⟨w, stub?, hw, hrun⟩ := alone_of_generateFile hpure' hsettled hs hpart
    have hd : wiring d = w := by
      have hself := hrun alone { imports := t } (halone.trans hsame.symm) rfl rfl
      simp only [wiring, hself]
      rfl
    rw [hd]
    exact ⟨⟨stub?, hw⟩, fun g'' s' h'' => hrun g'' s' (h''.trans hsame.symm)⟩
  refine ⟨⟨parts, rfl, hall.imp fun d part hpart => ?_⟩, fun d hd hs => ?_⟩
  · by_cases hs : d.services = []
    · obtain ⟨s₁, -, hpart⟩ := hpart
      rcases generateFile_cases hpure' hpart with ⟨-, hnone, -⟩ | ⟨hsome, -⟩
      · exact Or.inl ⟨hs, hnone⟩
      · exact absurd hs hsome
    · exact Or.inr ⟨hs, (hwiring d part hpart hs).1⟩
  · obtain ⟨part, -, hpart⟩ := exists_of_forall₂ hall hd
    exact (hwiring d part hpart hs).2

/-- Each of the two files has the wiring among the outputs that it has alone, without stubs. -/
theorem wiring_independent_apart : twoFiles.files.length = 2 ∧ ∃ outputs,
    (apart.generate twoFiles.files).result twoFiles.session = .ok outputs ∧
      ∀ d ∈ twoFiles.files, ∃ output ∈ outputs, ∀ s, s.imports = twoFiles.session.imports →
        (({ apart with options := {} } : Generator).generate [d]).result s = .ok [output] := by
  have hfiles : twoFiles.files.length = 2 ∧ ∀ d ∈ twoFiles.files, d.services ≠ [] := by
    decide +kernel
  obtain ⟨outputs, h, -⟩ := apart_generate
  refine ⟨hfiles.1, outputs, h, fun d hd => ?_⟩
  obtain ⟨wiring, hwiring⟩ :=
    wiring_independent apart twoFiles.session.imports Formatter.keep_isPure
  obtain ⟨⟨parts, rfl, hparts⟩, halone⟩ :=
    hwiring apart twoFiles.session twoFiles.files outputs ⟨rfl, rfl, rfl, rfl⟩ rfl h
  have hs := hfiles.2 d hd
  refine ⟨wiring d, ?_, fun s h => halone d hd hs _ s (SameWirings.of_options rfl) rfl h⟩
  obtain ⟨part, hpart, ⟨hnone, -⟩ | ⟨-, stub?, rfl⟩⟩ := exists_of_forall₂ hparts hd
  · exact absurd hnone hs
  · exact List.mem_flatten_of_mem hpart List.mem_cons_self

end Generator

end ServiceWiring
