import ServiceWiring.Batch
import ServiceWiring.Proofs.Artifact.Imports

/-!
# What a generator assembles

A batch assembles parameters for one artifact after another and hands them to the renderer.
`Generator.assembled` lists them, each with the import table right after its assembly, up to the
first failure. It leaves nothing out: a generator asks its renderer about nothing else.

Results:
* `generate_congr`: renderers that agree on what is assembled lead to the same run.
* `Composes.generate`: what holds of the steps that assemble parameters holds of a batch.
* `generate_traced`: each of the assembled parameters imports packages of the table at that time,
  and that table comes between the first and the last one of the run.
-/

namespace ServiceWiring

open ImportTable (Grows Call)
open SessionM (Ensures Quiet result final)

/-- Parameters, and the import table right after they were assembled. -/
structure Assembly where
  /-- The parameters. -/
  parameters : Parameters
  /-- The table. -/
  table : ImportTable

variable {α β γ : Type} {x : SessionM α} {f : α → SessionM β} {k : α → Session → List Assembly}
  {s : Session} {a : Assembly} {as : List Assembly}

/-! ## Listing what is assembled -/

/-- What is listed after a step, if the step does not fail. -/
def following (x : SessionM α) (k : α → Session → List Assembly) (s : Session) : List Assembly :=
  match x.result s with
  | .ok a => k a (x.final s)
  | .error _ => []

/-- What a step that assembles parameters assembles. -/
def assembly (x : SessionM Parameters) : Session → List Assembly :=
  following x fun p s => [⟨p, s.imports⟩]

namespace Generator

/-- What the artifacts of a file are made from. -/
def assembledOf (g : Generator) (d : Descriptor) : Session → List Assembly :=
  following (SessionM.report (.processing d.name)) fun _ =>
    following (g.plan d) fun plan s =>
      match plan with
      | .nothing => []
      | .wiring _ _ => assembly (Wiring.parameters d g.common (g.swaggerOf d)) s
      | .both output _ =>
        assembly (Wiring.parameters d g.common (g.swaggerOf d)) s ++
          following (g.emitWiring d output)
            (fun _ => assembly (Stub.parameters d g.common g.site)) s

/-- What all artifacts of a list of files are made from, in order. -/
def assembled (g : Generator) : List Descriptor → Session → List Assembly
  | [], _ => []
  | d :: ds, s => g.assembledOf d s ++ following (g.generateFile d) (fun _ => g.assembled ds) s

end Generator

/-! ## Nothing else is rendered -/

theorem result_congr {x' : SessionM α} (h : x'.run.run s = x.run.run s) :
    x'.result s = x.result s :=
  congrArg Prod.fst h

theorem final_congr {x' : SessionM α} (h : x'.run.run s = x.run.run s) :
    x'.final s = x.final s :=
  congrArg Prod.snd h

theorem run_seq_congr {x' : SessionM α} {f' : α → SessionM β} (hx : x'.run.run s = x.run.run s)
    (hf : ∀ a, x.result s = .ok a → (f' a).run.run (x.final s) = (f a).run.run (x.final s)) :
    (x' >>= f').run.run s = (x >>= f).run.run s := by
  refine Prod.ext ?_ ?_
  · show (x' >>= f').result s = (x >>= f).result s
    rw [SessionM.result_seq, SessionM.result_seq, result_congr hx, final_congr hx]
    cases h : x.result s with
    | ok a => exact result_congr (hf a h)
    | error e => rfl
  · show (x' >>= f').final s = (x >>= f).final s
    rw [SessionM.final_seq, SessionM.final_seq, result_congr hx, final_congr hx]
    cases h : x.result s with
    | ok a => exact final_congr (hf a h)
    | error e => rfl

theorem mem_assembly_iff {x : SessionM Parameters} :
    a ∈ assembly x s ↔ ∃ r, x.result s = .ok r ∧ a = ⟨r, (x.final s).imports⟩ := by
  unfold assembly following
  cases x.result s <;> simp

theorem mem_assembly_of_ok {x : SessionM Parameters} {p : Parameters} (h : x.result s = .ok p) :
    ⟨p, (x.final s).imports⟩ ∈ assembly x s :=
  mem_assembly_iff.mpr ⟨p, h, rfl⟩

namespace Generator

variable {g : Generator} {renderer : Renderer} {d : Descriptor}

theorem emitWiring_congr (output : Text)
    (h : ∀ a ∈ assembly (Wiring.parameters d g.common (g.swaggerOf d)) s,
      renderer.wiring a.parameters = g.renderer.wiring a.parameters) :
    ({ g with renderer }.emitWiring d output).run.run s = (g.emitWiring d output).run.run s := by
  unfold emitWiring
  refine run_seq_congr rfl fun p hp => ?_
  rw [h _ (mem_assembly_of_ok hp)]
  rfl

theorem emitStub_congr (output : Text)
    (h : ∀ a ∈ assembly (Stub.parameters d g.common g.site) s,
      renderer.stub a.parameters = g.renderer.stub a.parameters) :
    ({ g with renderer }.emitStub d output).run.run s = (g.emitStub d output).run.run s := by
  unfold emitStub
  refine run_seq_congr rfl fun p hp => ?_
  rw [h _ (mem_assembly_of_ok hp)]
  rfl

theorem mem_following {b : α} (hr : x.result s = .ok b) (ha : a ∈ k b (x.final s)) :
    a ∈ following x k s := by
  unfold following
  rwa [hr]

theorem generateFile_congr
    (h : ∀ a ∈ g.assembledOf d s, renderer.wiring a.parameters = g.renderer.wiring a.parameters ∧
      renderer.stub a.parameters = g.renderer.stub a.parameters) :
    ({ g with renderer }.generateFile d).run.run s = (g.generateFile d).run.run s := by
  unfold generateFile
  refine run_seq_congr rfl fun _ hreport => run_seq_congr rfl fun plan hplan => ?_
  have hlisted {a : Assembly} := fun ha => h a (mem_following hreport (mem_following hplan ha))
  cases plan with
  | nothing => rfl
  | wiring output kept? =>
    exact run_seq_congr (emitWiring_congr output fun a ha => (hlisted ha).1) fun _ _ => rfl
  | both output stub =>
    have hwiring := emitWiring_congr output fun a ha => (hlisted (List.mem_append_left _ ha)).1
    refine run_seq_congr hwiring fun _ hout => ?_
    refine run_seq_congr (emitStub_congr stub fun a ha => ?_) fun _ _ => rfl
    exact (hlisted (List.mem_append_right _ (mem_following hout ha))).2

/-- **A generator asks its renderer about nothing that is not listed.** -/
theorem generate_congr (files : List Descriptor)
    (h : ∀ a ∈ g.assembled files s,
      renderer.wiring a.parameters = g.renderer.wiring a.parameters ∧
        renderer.stub a.parameters = g.renderer.stub a.parameters) :
    ({ g with renderer }.generate files).run.run s = (g.generate files).run.run s := by
  unfold generate
  refine run_seq_congr ?_ fun _ _ => rfl
  induction files generalizing s with
  | nil => rw [List.mapM_nil, List.mapM_nil]
  | cons d ds ih =>
    rw [List.mapM_cons, List.mapM_cons]
    have hfile := generateFile_congr fun a ha => h a (List.mem_append_left _ ha)
    refine run_seq_congr hfile fun out hout => run_seq_congr ?_ fun _ _ => rfl
    exact ih fun a ha => h a (List.mem_append_right _ (mem_following hout ha))

end Generator

/-! ## Steps that bind nothing -/

theorem ToolRoot.reason_quiet (u : ToolRoot.Unresolved) :
    Quiet (liftM u.reason : SessionM Text) := by
  cases u.reason with
  | ok reason => exact Quiet.pure reason
  | error e => exact Quiet.throw e

theorem ToolRoot.directory?_quiet (toolPath : Text) : Quiet (ToolRoot.directory? toolPath) := by
  unfold ToolRoot.directory?
  refine Quiet.machine.seq fun m => ?_
  split
  · exact Quiet.pure _
  · exact (ToolRoot.reason_quiet _).seq fun _ => (Quiet.report _).seq fun _ => Quiet.pure _

theorem ToolRoot.resolveRoot_quiet (root : Text) : Quiet (ToolRoot.resolveRoot root) := by
  unfold ToolRoot.resolveRoot
  refine Quiet.machine.seq fun m => ?_
  split
  · exact Quiet.pure _
  · exact (ToolRoot.reason_quiet _).seq fun _ => (Quiet.report _).seq fun _ => Quiet.pure _

theorem ToolRoot.roots_quiet (configured? : Option Text) : Quiet (ToolRoot.roots configured?) := by
  unfold ToolRoot.roots
  refine Quiet.machine.seq fun m => ?_
  refine Quiet.seq ?_ fun paths => Quiet.mapM ToolRoot.resolveRoot_quiet paths
  cases ToolRoot.rootPaths m configured? with
  | ok paths => exact Quiet.pure paths
  | error e => exact Quiet.throw e

theorem ToolRoot.isPresent_quiet (toolDir? : Option Text) (path : Text) :
    Quiet (ToolRoot.isPresent toolDir? path) := by
  unfold ToolRoot.isPresent
  split
  · exact Quiet.pure _
  · refine Quiet.machine.seq fun m => ?_
    split
    · exact Quiet.pure _
    · exact Quiet.pure _
    · exact (Quiet.report _).seq fun _ => Quiet.pure _
    · exact Quiet.throw _

namespace Generator

variable {g : Generator} {d : Descriptor}

theorem rendered_quiet (r : Except RenderFailure Text) : Quiet (rendered r) := by
  unfold rendered
  split
  · exact Quiet.pure _
  · exact (Quiet.report _).seq fun _ => Quiet.throw _
  · exact Quiet.throw _

theorem emit_quiet (g : Generator) (name source : Text) : Quiet (g.emit name source) := by
  unfold emit
  refine (Quiet.onMachine _).seq fun formatted => ?_
  split
  · exact (Quiet.report _).seq fun _ => Quiet.throw _
  · exact Quiet.throw _
  · refine (Quiet.report _).seq fun _ => ?_
    split
    · exact Quiet.pure _
    · exact Quiet.throw _

theorem plan_quiet (g : Generator) (d : Descriptor) : Quiet (g.plan d) := by
  have hmake (present : Bool) : Quiet (do
      let plan ← liftExcept (Plan.make d g.options.stubs g.options.force present)
      (plan.events d).forM SessionM.report
      return plan) :=
    (Quiet.lift _).seq fun plan => (Quiet.forM Quiet.report _).seq fun _ => Quiet.pure plan
  unfold plan
  simp only
  split
  · exact (ToolRoot.isPresent_quiet _ _).seq hmake
  · exact hmake false

end Generator

/-! ## One assembly after another -/

/-- The second table is what steps that assemble the listed parameters make of the first, in a sense
that goes on from one step to the next. -/
structure Composes (rel : List Assembly → ImportTable → ImportTable → Prop) : Prop where
  /-- Steps that assemble nothing may leave the table alone. -/
  nil : ∀ t, rel [] t t
  /-- One step may follow another. -/
  append : ∀ {as bs t t' t''}, rel as t t' → rel bs t' t'' → rel (as ++ bs) t t''
  /-- The table only grows. -/
  grows : ∀ {as t t'}, rel as t t' → Grows (fun _ => True) t t'

namespace Composes

variable {rel : List Assembly → ImportTable → ImportTable → Prop}

theorem quiet (h : Composes rel) (hx : Quiet x) : rel [] s.imports (x.final s).imports := by
  rw [hx s]
  exact h.nil s.imports

/-- What is listed of one step after another. -/
theorem seq (h : Composes rel) (hx : rel as s.imports (x.final s).imports)
    (hf : ∀ b, rel (k b (x.final s)) (x.final s).imports ((f b).final (x.final s)).imports) :
    rel (as ++ following x k s) s.imports ((x >>= f).final s).imports := by
  unfold following
  rw [SessionM.final_seq]
  cases x.result s with
  | ok b => exact h.append hx (hf b)
  | error e => rwa [List.append_nil]

/-- A step before which nothing is listed. -/
theorem after (h : Composes rel) (hx : Quiet x)
    (hf : ∀ b, rel (k b (x.final s)) (x.final s).imports ((f b).final (x.final s)).imports) :
    rel (following x k s) s.imports ((x >>= f).final s).imports :=
  h.seq (h.quiet hx) hf

/-- A step after which nothing is listed. -/
theorem before (h : Composes rel) (hx : rel as s.imports (x.final s).imports)
    (hf : ∀ b, Quiet (f b)) : rel as s.imports ((x >>= f).final s).imports := by
  have hseq := h.seq (k := fun _ _ => []) hx fun b => h.quiet (hf b)
  have hnil : following x (fun _ _ => []) s = [] := by
    unfold following
    split <;> rfl
  rwa [hnil, List.append_nil] at hseq

/-- The relation between the tables before and after a step that assembles parameters. -/
abbrev Holds (rel : List Assembly → ImportTable → ImportTable → Prop) (x : SessionM Parameters)
    (s : Session) : Prop :=
  rel (assembly x s) s.imports (x.final s).imports

variable {g : Generator} {d : Descriptor}

theorem emitWiring (h : Composes rel) (output : Text)
    (hwiring : Holds rel (Wiring.parameters d g.common (g.swaggerOf d)) s) :
    rel (assembly (Wiring.parameters d g.common (g.swaggerOf d)) s) s.imports
      ((g.emitWiring d output).final s).imports :=
  h.before hwiring fun _ =>
    (Generator.rendered_quiet _).seq fun source => Generator.emit_quiet g output source

theorem emitStub (h : Composes rel) (output : Text)
    (hstub : Holds rel (Stub.parameters d g.common g.site) s) :
    rel (assembly (Stub.parameters d g.common g.site) s) s.imports
      ((g.emitStub d output).final s).imports :=
  h.before hstub fun _ =>
    (Generator.rendered_quiet _).seq fun source => Generator.emit_quiet g output source

theorem generateFile (h : Composes rel)
    (hwiring : ∀ s', Grows (fun _ => True) s.imports s'.imports →
      Holds rel (Wiring.parameters d g.common (g.swaggerOf d)) s')
    (hstub : ∀ s', Grows (fun _ => True) s.imports s'.imports →
      Holds rel (Stub.parameters d g.common g.site) s') :
    rel (g.assembledOf d s) s.imports ((g.generateFile d).final s).imports := by
  unfold Generator.generateFile Generator.assembledOf
  refine h.after (Quiet.report _) fun _ => h.after (Generator.plan_quiet g d) fun plan => ?_
  have hgrows : Grows (fun _ => True) s.imports
      ((g.plan d).final ((SessionM.report (.processing d.name)).final s)).imports := by
    rw [Generator.plan_quiet g d]
    exact Grows.refl _ _
  cases plan with
  | nothing => exact h.quiet (Quiet.pure _)
  | wiring output kept? =>
    exact h.before (h.emitWiring output (hwiring _ hgrows)) fun _ => Quiet.pure _
  | both output stub =>
    have hemit := h.emitWiring output (hwiring _ hgrows)
    refine h.seq hemit fun _ => h.before ?_ fun _ => Quiet.pure _
    exact h.emitStub stub (hstub _ (hgrows.trans (h.grows hemit)))

/-- **What holds of the steps that assemble parameters holds of a batch.** -/
theorem generate (h : Composes rel) (files : List Descriptor)
    (hwiring : ∀ d ∈ files, ∀ s', Grows (fun _ => True) s.imports s'.imports →
      Holds rel (Wiring.parameters d g.common (g.swaggerOf d)) s')
    (hstub : ∀ d ∈ files, ∀ s', Grows (fun _ => True) s.imports s'.imports →
      Holds rel (Stub.parameters d g.common g.site) s') :
    rel (g.assembled files s) s.imports ((g.generate files).final s).imports := by
  unfold Generator.generate
  refine h.before ?_ fun _ => Quiet.pure _
  induction files generalizing s with
  | nil =>
    rw [List.mapM_nil]
    exact h.quiet (Quiet.pure _)
  | cons d ds ih =>
    rw [List.mapM_cons]
    have hfile := h.generateFile (hwiring d List.mem_cons_self) (hstub d List.mem_cons_self)
    refine h.seq hfile fun _ => h.before (ih ?_ ?_) fun _ => Quiet.pure _
    · exact fun d' hd' s' hs' =>
        hwiring d' (List.mem_cons_of_mem d hd') s' ((h.grows hfile).trans hs')
    · exact fun d' hd' s' hs' =>
        hstub d' (List.mem_cons_of_mem d hd') s' ((h.grows hfile).trans hs')

end Composes

/-! ## The tables in between -/

/-- The table grows by a step, and each of the listed parameters imports packages of a table that it
passes through. -/
structure Traced (kind : Call → Prop) (x : SessionM α) (s : Session) (as : List Assembly) :
    Prop where
  /-- The table only grows. -/
  grows : Grows kind s.imports (x.final s).imports
  /-- Where the listed parameters come from. -/
  each : ∀ a ∈ as, (∃ paths, ImportsOf a.table paths a.parameters.imports) ∧
    Grows kind s.imports a.table ∧ Grows kind a.table (x.final s).imports

namespace Traced

variable {kind : Call → Prop}

theorem kind_mono {kind' : Call → Prop} (hk : ∀ c, kind c → kind' c) (h : Traced kind x s as) :
    Traced kind' x s as where
  grows := h.grows.mono hk
  each := by
    intro a ha
    obtain ⟨hi, hbefore, hafter⟩ := h.each a ha
    exact ⟨hi, hbefore.mono hk, hafter.mono hk⟩

theorem assembly {x : SessionM Parameters} {P : Parameters → Prop} {paths : List Text}
    (h : Ensures kind x s fun r t => P r ∧ ImportsOf t paths r.imports) :
    Traced kind x s (assembly x s) where
  grows := h.grows
  each := by
    intro a ha
    obtain ⟨r, hr, rfl⟩ := mem_assembly_iff.mp ha
    exact ⟨⟨paths, (h.gives r hr).2⟩, h.grows, Grows.refl _ _⟩

/-- What is traced of one step after another is traced of both. -/
theorem composes (kind : Call → Prop) : Composes fun as t t' =>
    Grows kind t t' ∧ ∀ a ∈ as, (∃ paths, ImportsOf a.table paths a.parameters.imports) ∧
      Grows kind t a.table ∧ Grows kind a.table t' where
  nil := fun t => ⟨Grows.refl _ _, by simp⟩
  append := by
    rintro as bs t t' t'' ⟨hgrows, heach⟩ ⟨hgrows', heach'⟩
    refine ⟨hgrows.trans hgrows', fun a ha => ?_⟩
    rcases List.mem_append.mp ha with ha | ha
    · obtain ⟨hi, hbefore, hafter⟩ := heach a ha
      exact ⟨hi, hbefore, hafter.trans hgrows'⟩
    · obtain ⟨hi, hbefore, hafter⟩ := heach' a ha
      exact ⟨hi, hgrows.trans hbefore, hafter⟩
  grows := fun h => h.1.mono fun _ _ => trivial

end Traced

namespace Generator

variable {g : Generator} {d : Descriptor}

/-- **A batch imports the packages of the tables that it passes through.** -/
theorem generate_traced (files : List Descriptor) (hc : ∀ p ∈ g.common, p ∈ s.imports.packages)
    (hd : ∀ d ∈ files, ∀ p ∈ d.packages, p ∈ s.imports.packages) :
    Traced (·.isProper) (g.generate files) s (g.assembled files s) := by
  have h := (Traced.composes (·.isProper)).generate (g := g) (s := s) files
    (fun d hdesc s' hs' => ?_) fun d hdesc s' hs' => ?_
  · exact ⟨h.1, h.2⟩
  · have hwiring := Traced.assembly (wiring_parameters_ensures (g.swaggerOf d)
      (fun p hp => hs'.packages (hc p hp)) fun p hp => hs'.packages (hd d hdesc p hp))
    exact ⟨hwiring.grows, hwiring.each⟩
  · have hstub := Traced.assembly ((stub_parameters_ensures g.site
      (fun p hp => hs'.packages (hc p hp)) fun p hp => hs'.packages (hd d hdesc p hp)).mono
        fun r t _ hr => And.intro hr.1 hr.2.1)
    exact ⟨hstub.grows, hstub.each⟩

/-- A generator has bound its common packages. -/
theorem create_ensures {kind : Call → Prop} (hk : ∀ path ∈ commonPaths, kind (.bind path none))
    (options : Options) (renderer : Renderer) (formatter : Formatter) (toolDir? : Option Text)
    (roots? : Option (List Text)) :
    Ensures kind (create options renderer formatter toolDir? roots?) s fun g t =>
      ∀ p ∈ g.common, p ∈ t.packages := by
  have hrest (roots : SessionM (List Text)) (hq : Quiet roots) (toolDir? : Option Text)
      (s' : Session) :
      Ensures kind (do
        let roots ← roots
        let common ← bindCommon
        return ({ options, renderer, formatter, toolDir?, roots, common } : Generator)) s'
        fun g t => ∀ p ∈ g.common, p ∈ t.packages :=
    hq.andThen fun roots s₁ _ =>
      (bindCommon_ensures hk).seq fun common s₂ _ h => Ensures.pure h.2
  unfold create
  refine Quiet.machine.andThen fun m s₁ _ => ?_
  cases toolDir? with
  | some dir =>
    cases roots? with
    | some roots => exact hrest (pure roots) (Quiet.pure roots) (some dir) s₁
    | none => exact hrest _ (ToolRoot.roots_quiet _) (some dir) s₁
  | none =>
    refine (ToolRoot.directory?_quiet _).andThen fun dir? s₂ _ => ?_
    cases roots? with
    | some roots => exact hrest (pure roots) (Quiet.pure roots) dir? s₂
    | none => exact hrest _ (ToolRoot.roots_quiet _) dir? s₂

end Generator

end ServiceWiring
