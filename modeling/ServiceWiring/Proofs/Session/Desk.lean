import ServiceWiring.Proofs.Batch.Assembled

/-!
# Whole sessions

A session is a list of steps that share one import table: files are read, common packages bound,
artifacts assembled and batches generated, in any order and each as often as one likes. A step that
fails keeps the session as far as it got. What the steps give lies on a `Desk`, for later steps to
take up by its number; a number that nothing has changes nothing.

`Desk.Sound kind` is the invariant of sessions that make only calls of a kind: whatever lies on the
desk has its packages from the table. A table loses no package, so what was read or bound long
before it is imported still agrees with what is bound then.

Results:
* `step_sound`, `run_sound`: every step keeps a sound desk sound.
* `run_start_sound`: so the desk of every session is sound.
* `assembled_subset_run`: nothing that was assembled is lost.
-/

namespace ServiceWiring

open ImportTable (Grows Call)
open SessionM (Ensures Quiet result final)

/-- What the steps of a session have given so far. -/
structure Desk where
  /-- What the steps share. -/
  session : Session
  /-- The files that were read. -/
  files : List Descriptor := []
  /-- The lists of common packages that were bound. -/
  commons : List (List GoPackage) := []
  /-- The generators. -/
  generators : List Generator := []
  /-- The parameters that were assembled, by a step of their own or within a batch. -/
  assembled : List Assembly := []

/-- A step of a session. -/
inductive Step where
  /-- Reserves a short name. -/
  | reserve (name path : Text)
  /-- Asks for the package of a path. -/
  | bind (path : Text) (name? : Option Text)
  /-- Reads a file. -/
  | read (raw : Json)
  /-- Reads a descriptor set. -/
  | readSet (document : Json)
  /-- Binds common packages. -/
  | bindCommon (paths : List Text)
  /-- Assembles the wiring of a file with common packages. -/
  | wiring (file common : Nat) (swagger : Json)
  /-- Assembles the stub of a file with common packages. -/
  | stub (file common : Nat) (site : Stub.Site)
  /-- Creates a generator. -/
  | create (options : Options) (renderer : Renderer) (formatter : Formatter)
      (toolDir? : Option Text) (roots? : Option (List Text))
  /-- Generates a batch of files. -/
  | generate (generator : Nat) (files : List Nat)
  /-- Something else happens to the machine. -/
  | outside (machine : Machine)

/-- Whether the step reserves a short name. -/
def Step.isReserve : Step → Bool
  | .reserve .. => true
  | _ => false

/-- Whether the calls that the step chooses by itself are of a kind. -/
def Step.Makes (kind : Call → Prop) : Step → Prop
  | .reserve name path => kind (.reserve name path)
  | .bind path name? => kind (.bind path name?)
  | .bindCommon paths => ∀ path ∈ paths, kind (.bind path none)
  | _ => True

namespace Desk

variable {α : Type} {kind : Call → Prop} {desk : Desk}

/-- The desk at the start of a session. -/
def start (machine : Machine) : Desk where
  session := { machine }

/-- The desk after a step of the session that assembles the listed parameters. What the step gives
is put on the desk. -/
def perform (desk : Desk) (x : SessionM α) (as : List Assembly) (put : α → Desk → Desk) : Desk :=
  let desk' := { desk with session := x.final desk.session, assembled := desk.assembled ++ as }
  match x.result desk.session with
  | .ok a => put a desk'
  | .error _ => desk'

/-- The desk after a step that assembles parameters. -/
def assemble (desk : Desk) (x : SessionM Parameters) : Desk :=
  desk.perform x (assembly x desk.session) fun _ desk => desk

/-- The desk after one step. -/
def step (desk : Desk) : Step → Desk
  | .reserve name path =>
    { desk with session.imports := (desk.session.imports.reserve name path).2 }
  | .bind path name? => desk.perform (SessionM.bind path name?) [] fun _ desk => desk
  | .read raw =>
    desk.perform (Descriptor.read raw) [] fun d desk => { desk with files := desk.files ++ [d] }
  | .readSet document =>
    desk.perform (Descriptor.readSet document) [] fun ds desk =>
      { desk with files := desk.files ++ ds }
  | .bindCommon paths =>
    desk.perform (ServiceWiring.bindCommon paths) [] fun common desk =>
      { desk with commons := desk.commons ++ [common] }
  | .wiring file common swagger =>
    match desk.files[file]?, desk.commons[common]? with
    | some d, some common => desk.assemble (Wiring.parameters d common swagger)
    | _, _ => desk
  | .stub file common site =>
    match desk.files[file]?, desk.commons[common]? with
    | some d, some common => desk.assemble (Stub.parameters d common site)
    | _, _ => desk
  | .create options renderer formatter toolDir? roots? =>
    desk.perform (Generator.create options renderer formatter toolDir? roots?) [] fun g desk =>
      { desk with generators := desk.generators ++ [g] }
  | .generate generator files =>
    match desk.generators[generator]? with
    | some g =>
      let files := files.filterMap (desk.files[·]?)
      desk.perform (g.generate files) (g.assembled files desk.session) fun _ desk => desk
    | none => desk
  | .outside machine => { desk with session.machine := machine }

/-- The desk after a list of steps. -/
def run (desk : Desk) (steps : List Step) : Desk := steps.foldl Desk.step desk

/-! ## The invariant -/

/-- The table was made by calls of a kind, and what lies on the desk has its packages from it. -/
structure Sound (kind : Call → Prop) (desk : Desk) : Prop where
  /-- The calls that made the table. -/
  grown : Grows kind ∅ desk.session.imports
  /-- The packages of the files. -/
  files : ∀ d ∈ desk.files, ∀ p ∈ d.packages, p ∈ desk.session.imports.packages
  /-- The common packages. -/
  commons : ∀ c ∈ desk.commons, ∀ p ∈ c, p ∈ desk.session.imports.packages
  /-- The common packages of the generators. -/
  generators : ∀ g ∈ desk.generators, ∀ p ∈ g.common, p ∈ desk.session.imports.packages
  /-- The imports of the assembled parameters, in the table at their time. -/
  assembled : ∀ a ∈ desk.assembled, (∃ paths, ImportsOf a.table paths a.parameters.imports) ∧
    Grows kind ∅ a.table ∧ Grows kind a.table desk.session.imports

theorem Sound.kind_mono {kind' : Call → Prop} (hk : ∀ c, kind c → kind' c) (h : desk.Sound kind) :
    desk.Sound kind' where
  grown := h.grown.mono hk
  files := h.files
  commons := h.commons
  generators := h.generators
  assembled := by
    intro a ha
    obtain ⟨hi, hbefore, hafter⟩ := h.assembled a ha
    exact ⟨hi, hbefore.mono hk, hafter.mono hk⟩

theorem start_sound (machine : Machine) : (start machine).Sound kind where
  grown := Grows.refl _ _
  files := by simp [start]
  commons := by simp [start]
  generators := by simp [start]
  assembled := by simp [start]

theorem Sound.perform {Q : α → ImportTable → Prop} {x : SessionM α} {as : List Assembly}
    {put : α → Desk → Desk} (h : desk.Sound kind)
    (hx : Traced kind x desk.session as) (hq : Ensures kind x desk.session Q)
    (hput : ∀ a desk', desk'.Sound kind → Q a desk'.session.imports → (put a desk').Sound kind) :
    (desk.perform x as put).Sound kind := by
  have hsound : Sound kind
      { desk with session := x.final desk.session, assembled := desk.assembled ++ as } := by
    refine ⟨h.grown.trans hx.grows, fun d hd p hp => ?_, fun c hc p hp => ?_, fun g hg p hp => ?_,
      fun a ha => ?_⟩
    · exact hx.grows.packages (h.files d hd p hp)
    · exact hx.grows.packages (h.commons c hc p hp)
    · exact hx.grows.packages (h.generators g hg p hp)
    · rcases List.mem_append.mp ha with ha | ha
      · obtain ⟨hi, hbefore, hafter⟩ := h.assembled a ha
        exact ⟨hi, hbefore, hafter.trans hx.grows⟩
      · obtain ⟨hi, hbefore, hafter⟩ := hx.each a ha
        exact ⟨hi, h.grown.trans hbefore, hafter⟩
  unfold Desk.perform
  cases hr : x.result desk.session with
  | ok a => exact hput a _ hsound (hq.gives a hr)
  | error e => exact hsound

/-- A step that puts something on the desk and assembles nothing. -/
theorem Sound.put {Q : α → ImportTable → Prop} {x : SessionM α} {put : α → Desk → Desk}
    (h : desk.Sound kind) (hq : Ensures kind x desk.session Q)
    (hput : ∀ a desk', desk'.Sound kind → Q a desk'.session.imports → (put a desk').Sound kind) :
    (desk.perform x [] put).Sound kind :=
  h.perform ⟨hq.grows, by simp⟩ hq hput

theorem Sound.assemble {P : Parameters → Prop} {paths : List Text} {x : SessionM Parameters}
    (h : desk.Sound kind)
    (hx : Ensures kind x desk.session fun r t => P r ∧ ImportsOf t paths r.imports) :
    (desk.assemble x).Sound kind :=
  h.perform (Traced.assembly hx) hx fun _ _ hsound _ => hsound

/-- A call that the session makes of its table. -/
theorem Sound.call {c : Call} (h : desk.Sound kind) (hc : kind c) :
    Sound kind { desk with session.imports := desk.session.imports.call c } where
  grown := h.grown.trans (Grows.single hc)
  files := fun d hd p hp => (Grows.single hc).packages (h.files d hd p hp)
  commons := fun c hcommon p hp => (Grows.single hc).packages (h.commons c hcommon p hp)
  generators := fun g hg p hp => (Grows.single hc).packages (h.generators g hg p hp)
  assembled := by
    intro a ha
    obtain ⟨hi, hbefore, hafter⟩ := h.assembled a ha
    exact ⟨hi, hbefore, hafter.trans (Grows.single hc)⟩

/-! ## Every step keeps the invariant -/

/-- **Every step keeps a sound desk sound.** -/
theorem step_sound {step : Step} (hk : ∀ c, c.isProper → kind c) (hstep : step.Makes kind)
    (h : desk.Sound kind) : (desk.step step).Sound kind := by
  cases step with
  | reserve name path => exact h.call hstep
  | bind path name? => exact h.put (SessionM.ensures_bind hstep) fun _ _ hsound _ => hsound
  | read raw =>
    simp only [Desk.step]
    refine h.put ((Descriptor.read_ensures raw).kind_mono hk) fun d desk' h' hd => ?_
    refine ⟨h'.grown, fun f hf => ?_, h'.commons, h'.generators, h'.assembled⟩
    rcases List.mem_append.mp hf with hf | hf
    · exact h'.files f hf
    · rw [List.mem_singleton.mp hf]
      exact hd
  | readSet document =>
    simp only [Desk.step]
    refine h.put ((Descriptor.readSet_ensures document).kind_mono hk) fun ds desk' h' hds => ?_
    refine ⟨h'.grown, fun f hf => ?_, h'.commons, h'.generators, h'.assembled⟩
    rcases List.mem_append.mp hf with hf | hf
    · exact h'.files f hf
    · exact hds f hf
  | bindCommon paths =>
    simp only [Desk.step]
    refine h.put (bindCommon_ensures hstep) fun common desk' h' hcommon => ?_
    refine ⟨h'.grown, h'.files, fun c hc => ?_, h'.generators, h'.assembled⟩
    rcases List.mem_append.mp hc with hc | hc
    · exact h'.commons c hc
    · rw [List.mem_singleton.mp hc]
      exact hcommon.2
  | wiring file common swagger =>
    simp only [Desk.step]
    split
    · rename_i d c hd hc
      exact h.assemble ((wiring_parameters_ensures swagger (h.commons c (List.mem_of_getElem? hc))
        (h.files d (List.mem_of_getElem? hd))).kind_mono hk)
    · exact h
  | stub file common site =>
    simp only [Desk.step]
    split
    · rename_i d c hd hc
      have hstub := (stub_parameters_ensures site (h.commons c (List.mem_of_getElem? hc))
        (h.files d (List.mem_of_getElem? hd))).mono fun r t _ hr => And.intro hr.1 hr.2.1
      exact h.assemble (hstub.kind_mono hk)
    · exact h
  | create options renderer formatter toolDir? roots? =>
    have hcreate : Ensures (·.isProper)
        (Generator.create options renderer formatter toolDir? roots?) desk.session _ :=
      Generator.create_ensures (by decide) ..
    simp only [Desk.step]
    refine h.put (hcreate.kind_mono hk) fun g desk' h' hg => ?_
    refine ⟨h'.grown, h'.files, h'.commons, fun g' hg' => ?_, h'.assembled⟩
    rcases List.mem_append.mp hg' with hg' | hg'
    · exact h'.generators g' hg'
    · rw [List.mem_singleton.mp hg']
      exact hg
  | generate generator files =>
    simp only [Desk.step]
    split
    · rename_i g hg
      have hfiles : ∀ d ∈ files.filterMap (desk.files[·]?), ∀ p ∈ d.packages,
          p ∈ desk.session.imports.packages := by
        intro d hd
        obtain ⟨i, -, hi⟩ := List.mem_filterMap.mp hd
        exact h.files d (List.mem_of_getElem? hi)
      have htraced := Generator.generate_traced (files.filterMap (desk.files[·]?))
        (h.generators g (List.mem_of_getElem? hg)) hfiles
      have hgrows : Ensures kind (g.generate (files.filterMap (desk.files[·]?))) desk.session
          fun _ _ => True := ⟨htraced.grows.mono hk, fun _ _ => trivial⟩
      exact h.perform (htraced.kind_mono hk) hgrows fun _ _ hsound _ => hsound
    · exact h
  | outside machine => exact ⟨h.grown, h.files, h.commons, h.generators, h.assembled⟩

theorem run_sound {steps : List Step} (hk : ∀ c, c.isProper → kind c)
    (hsteps : ∀ s ∈ steps, s.Makes kind) (h : desk.Sound kind) : (desk.run steps).Sound kind := by
  induction steps generalizing desk with
  | nil => exact h
  | cons s steps ih =>
    exact ih (fun s' hs => hsteps s' (List.mem_cons_of_mem s hs))
      (step_sound hk (hsteps s List.mem_cons_self) h)

/-- **The desk of every session is sound.** -/
theorem run_start_sound {steps : List Step} (machine : Machine) (hk : ∀ c, c.isProper → kind c)
    (hsteps : ∀ s ∈ steps, s.Makes kind) : ((start machine).run steps).Sound kind :=
  run_sound hk hsteps (start_sound machine)

theorem makes_any (step : Step) : step.Makes fun _ => True := by
  cases step with
  | bindCommon paths => exact fun path _ => trivial
  | reserve | bind | read | readSet | wiring | stub | create | generate | outside => trivial

/-- Whatever calls the steps of a session make, its desk is sound. -/
theorem run_start_sound_any (machine : Machine) (steps : List Step) :
    ((start machine).run steps).Sound fun _ => True :=
  run_start_sound machine (fun _ _ => trivial) fun step _ => makes_any step

/-! ## Nothing that was assembled is lost -/

theorem assembled_subset_perform {x : SessionM α} {as : List Assembly} {put : α → Desk → Desk}
    (hput : ∀ a desk', (put a desk').assembled = desk'.assembled) :
    desk.assembled ⊆ (desk.perform x as put).assembled := by
  intro a ha
  unfold Desk.perform
  simp only
  split
  · rw [hput]
    exact List.mem_append_left as ha
  · exact List.mem_append_left as ha

theorem assembled_subset_step (desk : Desk) (step : Step) :
    desk.assembled ⊆ (desk.step step).assembled := by
  cases step with
  | reserve | outside => exact List.Subset.refl _
  | bind | read | readSet | bindCommon | create => exact assembled_subset_perform fun _ _ => rfl
  | wiring | stub | generate =>
    simp only [Desk.step]
    split
    · exact assembled_subset_perform fun _ _ => rfl
    · exact List.Subset.refl _

theorem assembled_subset_run (desk : Desk) (steps : List Step) :
    desk.assembled ⊆ (desk.run steps).assembled := by
  induction steps generalizing desk with
  | nil => exact List.Subset.refl _
  | cons step steps ih =>
    exact List.Subset.trans (assembled_subset_step desk step) (ih (desk.step step))

end Desk

/-- A raw file whose only method is bound, takes one message and gives another. -/
def oneMethod (package : Text) (request response : Json) : Json :=
  let method : Json := .obj [("name", .str "Do"), ("request_type", request),
    ("response_type", response), ("http", .obj [("method", .str "get"), ("path", .str "/do")])]
  .obj [("name", .str "a/b.proto"), ("go_package", .str package),
    ("services", .arr [.obj [("name", .str "Svc"), ("methods", .arr [method])]])]

end ServiceWiring
