import ServiceWiring.Proofs.Batch.Jobs

/-!
# What exactly a batch gives

The jobs of a batch are known before it starts. The batch carries them out in order, up to the first
that fails: `Generator.Carries` says so of one artifact, of a file and of the whole, and what is
asked of renderer and formatter meanwhile. There is one rule for each way that steps are put
together.

Headline:
* **`generate_exact`**: a batch gives the outputs of its jobs, or fails as the first of them that
  fails, and asks nothing of renderer or formatter afterwards.
-/

namespace ServiceWiring

open SessionM (Lasting)

/-! ## Up to the first failure -/

section Reached

variable {α β : Type} {outcome : α → Except Fault β} {a : α} {as bs : List α}

/-- What is reached of a list: everything up to the first failure, which is included. -/
def reached (outcome : α → Except Fault β) : List α → List α
  | [] => []
  | a :: as =>
    a :: match outcome a with
      | .ok _ => reached outcome as
      | .error _ => []

theorem mem_reached_append_left (h : a ∈ reached outcome as) (bs : List α) :
    a ∈ reached outcome (as ++ bs) := by
  induction as with
  | nil => cases h
  | cons b as ih =>
    rw [List.cons_append, reached]
    rw [reached] at h
    refine List.mem_cons.mpr ((List.mem_cons.mp h).imp_right fun h => ?_)
    cases hb : outcome b with
    | ok _ => exact ih (by rwa [hb] at h)
    | error _ => simp [hb] at h

theorem mapM_cons_of_ok {o : β} (h : outcome a = .ok o) (as : List α) :
    (a :: as).mapM outcome = (as.mapM outcome).map (o :: ·) := by
  rw [List.mapM_cons, h]
  cases as.mapM outcome <;> rfl

theorem mapM_cons_of_error {f : Fault} (h : outcome a = .error f) (as : List α) :
    (a :: as).mapM outcome = .error f := by
  rw [List.mapM_cons, h]
  rfl

/-- If nothing fails before, it is reached. -/
theorem mem_reached_append_right {outs : List β} (has : as.mapM outcome = .ok outs)
    (h : a ∈ reached outcome bs) : a ∈ reached outcome (as ++ bs) := by
  induction as generalizing outs with
  | nil => exact h
  | cons b as ih =>
    rw [List.cons_append, reached]
    cases hb : outcome b with
    | error e => cases (mapM_cons_of_error hb as).symm.trans has
    | ok o =>
      rw [mapM_cons_of_ok hb] at has
      cases hrest : as.mapM outcome with
      | error e =>
        rw [hrest] at has
        cases has
      | ok outs' => exact List.mem_cons_of_mem _ (ih hrest)

theorem mapM_eq_ok {outs : List β} (h : as.map outcome = outs.map .ok) :
    as.mapM outcome = .ok outs := by
  induction outs generalizing as with
  | nil =>
    obtain rfl := List.map_eq_nil_iff.mp h
    rfl
  | cons o outs ih =>
    obtain ⟨a, as, rfl, ha, has⟩ := List.map_eq_cons_iff.mp h
    rw [mapM_cons_of_ok ha, ih has]
    rfl

/-- The first failure is what the list comes to, and the last thing that is reached. -/
theorem mapM_eq_error {outs : List β} {f : Fault} {later : List (Except Fault β)}
    (h : as.map outcome = outs.map .ok ++ .error f :: later) :
    as.mapM outcome = .error f ∧ reached outcome as = as.take (outs.length + 1) := by
  induction outs generalizing as with
  | nil =>
    obtain ⟨a, as, rfl, ha, -⟩ := List.map_eq_cons_iff.mp h
    refine ⟨mapM_cons_of_error ha as, ?_⟩
    rw [reached, ha]
    rfl
  | cons o outs ih =>
    obtain ⟨a, as, rfl, ha, has⟩ := List.map_eq_cons_iff.mp h
    obtain ⟨hmapM, hreached⟩ := ih has
    refine ⟨?_, ?_⟩
    · rw [mapM_cons_of_ok ha, hmapM]
      rfl
    · rw [reached, ha]
      simp only [hreached]
      rfl

end Reached

namespace Generator

variable {g : Generator} {s : Session} {format : Text → Except Fault Text}
  {as bs : List (Except Fault Artifact)} {x y : Generator → SessionM (List Output)}

/-! ## What jobs come to -/

/-- The import table after some artifacts. -/
def tableAfterAll (g : Generator) (t : ImportTable) (as : List (Except Fault Artifact)) :
    ImportTable := as.foldl g.tableAfter t

theorem schedule_append (t : ImportTable) (as bs : List (Except Fault Artifact)) :
    g.schedule t (as ++ bs) = g.schedule t as ++ g.schedule (g.tableAfterAll t as) bs := by
  induction as generalizing t with
  | nil => rfl
  | cons a as ih => rw [List.cons_append, schedule, schedule, ih, List.cons_append]; rfl

/-- From a session the step of the generator gives what the jobs of some artifacts come to, leaves
the machine alone, and leaves the table that they leave unless it fails. Of renderer and formatter
nothing matters but what they do for the jobs that are reached. -/
structure Carries (g : Generator) (format : Text → Except Fault Text)
    (x : Generator → SessionM (List Output)) (s : Session) (as : List (Except Fault Artifact)) :
    Prop where
  /-- What the step gives. -/
  result : (x g).result s = (g.schedule s.imports as).mapM (g.outcome format)
  /-- The machine stays as it is. -/
  machine : ((x g).final s).machine = s.machine
  /-- The table that the step leaves. -/
  table : ∀ outputs, (x g).result s = .ok outputs →
    ((x g).final s).imports = g.tableAfterAll s.imports as
  /-- What is asked of renderer and formatter. -/
  asks : ∀ renderer formatter,
    (∀ job ∈ reached (g.outcome format) (g.schedule s.imports as),
      g.AgreesOn renderer formatter s.machine job) →
    (x { g with renderer, formatter }).run.run s = (x g).run.run s

/-- What is made of what a step gives is the same if the step does the same. -/
theorem run_map_congr {α β : Type} {x x' : SessionM α} (h : x'.run.run s = x.run.run s)
    (f : α → β) : (f <$> x').run.run s = (f <$> x).run.run s := by
  rw [← bind_pure_comp, ← bind_pure_comp]
  exact run_seq_congr h fun _ _ => rfl

namespace Carries

theorem nil : g.Carries format (fun _ => pure []) s [] :=
  ⟨rfl, rfl, fun _ _ => rfl, fun _ _ _ => rfl⟩

/-- One step after another carries out the artifacts of both. -/
theorem append (hx : g.Carries format x s as)
    (hy : ∀ s', s'.machine = s.machine → g.Carries format y s' bs) :
    g.Carries format (fun g => x g >>= fun outs => (outs ++ ·) <$> y g) s (as ++ bs) := by
  have hjobs : (g.schedule s.imports (as ++ bs)).mapM (g.outcome format) =
      ((x g).result s).bind fun outs =>
        ((g.schedule (g.tableAfterAll s.imports as) bs).mapM (g.outcome format)).map
          (outs ++ ·) := by
    rw [schedule_append, List.mapM_append, hx.result]
    refine bind_congr fun outs => ?_
    cases (g.schedule (g.tableAfterAll s.imports as) bs).mapM (g.outcome format) <;> rfl
  have hasks (renderer : Renderer) (formatter : Formatter)
      (h : ∀ job ∈ reached (g.outcome format) (g.schedule s.imports (as ++ bs)),
        g.AgreesOn renderer formatter s.machine job) :
      (x { g with renderer, formatter } >>= fun outs =>
          (outs ++ ·) <$> y { g with renderer, formatter }).run.run s =
        (x g >>= fun outs => (outs ++ ·) <$> y g).run.run s := by
    rw [schedule_append] at h
    have hfirst := hx.asks renderer formatter fun job hjob => h job (mem_reached_append_left hjob _)
    -- The first step did not fail, so whatever the second one reaches is reached in the whole.
    refine run_seq_congr hfirst fun outs houts => run_map_congr ?_ _
    refine (hy _ hx.machine).asks renderer formatter fun job hjob => ?_
    rw [hx.table outs houts] at hjob
    rw [hx.machine]
    exact h job (mem_reached_append_right (hx.result.symm.trans houts) hjob)
  cases hr : (x g).result s with
  | error e =>
    refine ⟨?_, ?_, fun outputs h => ?_, hasks⟩
    · rw [hjobs, hr, SessionM.result_seq_of_error hr]
      rfl
    · rw [SessionM.final_seq_of_error hr, hx.machine]
    · cases (SessionM.result_seq_of_error hr).symm.trans h
  | ok outs =>
    have hfollow := hy ((x g).final s) hx.machine
    have htable := hx.table outs hr
    refine ⟨?_, ?_, fun outputs h => ?_, hasks⟩
    · rw [hjobs, hr, SessionM.result_seq_of_ok hr, SessionM.result_map, hfollow.result, htable]
      rfl
    · rw [SessionM.final_seq_of_ok hr, SessionM.final_map, hfollow.machine, hx.machine]
    · rw [SessionM.result_seq_of_ok hr, SessionM.result_map] at h
      rw [SessionM.final_seq_of_ok hr, SessionM.final_map]
      cases hr' : (y g).result ((x g).final s) with
      | error e =>
        rw [hr'] at h
        cases h
      | ok outs' =>
        rw [hfollow.table outs' hr', htable]
        exact List.foldl_append.symm

/-- Before anything is made, a step that asks neither renderer nor formatter may end the batch. -/
theorem after {α : Type} {x : Generator → SessionM α} {f : Generator → α → SessionM (List Output)}
    (htable : ((x g).final s).imports = s.imports)
    (hmachine : ((x g).final s).machine = s.machine)
    (hx : ∀ renderer formatter, x { g with renderer, formatter } = x g)
    (hok : ∀ a, (x g).result s = .ok a → g.Carries format (f · a) ((x g).final s) as)
    (herror : ∀ e, (x g).result s = .error e → as = [.error e]) :
    g.Carries format (fun g => x g >>= f g) s as := by
  have hasks (renderer : Renderer) (formatter : Formatter)
      (h : ∀ job ∈ reached (g.outcome format) (g.schedule s.imports as),
        g.AgreesOn renderer formatter s.machine job) :
      (x { g with renderer, formatter } >>= f { g with renderer, formatter }).run.run s =
        (x g >>= f g).run.run s := by
    refine run_seq_congr (by rw [hx]) fun a ha => (hok a ha).asks renderer formatter ?_
    rwa [htable, hmachine]
  cases hr : (x g).result s with
  | ok a =>
    have hf := hok a hr
    refine ⟨?_, ?_, fun outputs h => ?_, hasks⟩
    · rw [SessionM.result_seq_of_ok hr, hf.result, htable]
    · rw [SessionM.final_seq_of_ok hr, hf.machine, hmachine]
    · rw [SessionM.result_seq_of_ok hr] at h
      rw [SessionM.final_seq_of_ok hr, hf.table outputs h, htable]
  | error e =>
    refine ⟨?_, ?_, fun outputs h => ?_, hasks⟩
    · rw [SessionM.result_seq_of_error hr, herror e hr]
      rfl
    · rw [SessionM.final_seq_of_error hr, hmachine]
    · cases (SessionM.result_seq_of_error hr).symm.trans h

end Carries

/-- An artifact comes to what its job comes to. -/
theorem emitArtifact_carries (hformat : g.formatter.Computes format) (a : Artifact) (s : Session) :
    g.Carries format (fun g => ([·]) <$> g.emitArtifact a) s [.ok a] := by
  have hlasting : Lasting Eq (g.emitArtifact a) :=
    (g.assemble_lasting a).seq fun p => (rendered_lasting _).seq fun source =>
      emit_lasting ⟨format, hformat⟩ a.output source
  refine ⟨?_, ?_, fun _ _ => ?_, fun renderer formatter h => ?_⟩
  · rw [SessionM.result_map, emitArtifact_result hformat, schedule, schedule]
    show Except.map _ (Job.output g format ⟨a, s.imports⟩) =
      (Job.output g format ⟨a, s.imports⟩).bind fun o => .ok [o]
    cases Job.output g format ⟨a, s.imports⟩ <;> rfl
  · rw [SessionM.final_map, hlasting.still]
  · rw [SessionM.final_map, emitArtifact_final]
    rfl
  · exact run_map_congr (emitArtifact_congr (h _ List.mem_cons_self)) _

/-- Artifacts that are made in order come to what their jobs come to. -/
theorem mapM_emitArtifact_carries (hformat : g.formatter.Computes format)
    (artifacts : List Artifact) (s : Session) :
    g.Carries format (fun g => artifacts.mapM g.emitArtifact) s (artifacts.map .ok) := by
  induction artifacts generalizing s with
  | nil =>
    simp only [List.mapM_nil]
    exact Carries.nil
  | cons a artifacts ih =>
    have hcons (g : Generator) : (a :: artifacts).mapM g.emitArtifact =
        ([·]) <$> g.emitArtifact a >>= fun outs =>
          (outs ++ ·) <$> artifacts.mapM g.emitArtifact := by
      simp
    simp only [hcons]
    exact (emitArtifact_carries hformat a s).append fun s' _ => ih s'

/-- A file comes to what the jobs of its artifacts come to. -/
theorem generateFile_carries (hformat : g.formatter.Computes format)
    (d : Descriptor) (s : Session) :
    g.Carries format (·.generateFile d) s (g.tasks s.machine d) := by
  have hplan : Lasting Eq (g.plan d) := plan_lasting (by rintro m _ rfl stub -; rfl)
  simp only [generateFile_eq]
  refine Carries.after rfl rfl (fun _ _ => rfl) (fun _ _ => ?_) fun e h => by cases h
  -- The plan is made in a session with the table and the machine of `s`.
  have hdue : ((g.plan d).result ((SessionM.report (.processing d.name)).final s)).map
      (artifactsOf d) = g.due s.machine d := plan_artifacts g d _
  refine Carries.after (plan_quiet g d _) (hplan.still _) (fun _ _ => rfl) (fun plan h => ?_)
    fun e h => ?_
  · have htasks : g.tasks s.machine d = (artifactsOf d plan).map .ok := by
      unfold tasks
      rw [← hdue, h]
      rfl
    rw [htasks]
    exact mapM_emitArtifact_carries hformat _ _
  · unfold tasks
    rw [← hdue, h]
    rfl

/-! ## A whole batch -/

/-- Files come to what the jobs of their artifacts come to. -/
theorem generate_carries (hformat : g.formatter.Computes format)
    (files : List Descriptor) (s : Session) :
    g.Carries format (·.generate files) s (files.flatMap (g.tasks s.machine)) := by
  induction files generalizing s with
  | nil =>
    have hnil (g : Generator) : g.generate [] = pure [] := by simp [generate]
    simp only [hnil]
    exact Carries.nil
  | cons d files ih =>
    have hcons (g : Generator) : g.generate (d :: files) =
        g.generateFile d >>= fun outs => (outs ++ ·) <$> g.generate files := by
      simp [generate]
    simp only [hcons]
    refine (generateFile_carries hformat d s).append fun s' hs' => ?_
    rw [← hs']
    exact ih s'

/-- **What a batch gives, and how far it gets.** Take any files, any generator whose formatter is a
function of the source, and any session. The jobs of the batch are known before it starts: for each
file with services, in order, its wiring and then, if stubs are wanted, its stub, unless that exists
and is not to be overwritten; each with the import table that the artifacts before it leave.

If all jobs give outputs, the batch gives just these, in order. Otherwise it fails as the first job
that does not, and any other renderer and any other formatter would have led to the same run if they
agree on what the jobs up to that one ask of them: later jobs ask nothing. -/
theorem generate_exact (hformat : g.formatter.Computes format)
    (files : List Descriptor) (s : Session) :
    (∀ outputs : List Output, (g.jobs s files).map (g.outcome format) = outputs.map .ok →
        (g.generate files).result s = .ok outputs) ∧
      ∀ (done : List Output) (f : Fault) (later : List (Except Fault Output)),
        (g.jobs s files).map (g.outcome format) = done.map .ok ++ .error f :: later →
        (g.generate files).result s = .error f ∧
          ∀ renderer formatter,
            (∀ job ∈ (g.jobs s files).take (done.length + 1),
              g.AgreesOn renderer formatter s.machine job) →
            ({ g with renderer, formatter }.generate files).run.run s =
              (g.generate files).run.run s := by
  have hcarries := generate_carries hformat files s
  refine ⟨fun outputs h => hcarries.result.trans (mapM_eq_ok h), fun done f later h => ?_⟩
  obtain ⟨hfails, hreached⟩ := mapM_eq_error h
  refine ⟨hcarries.result.trans hfails, fun renderer formatter hagrees => ?_⟩
  refine hcarries.asks renderer formatter fun job hjob => hagrees job ?_
  rw [← hreached]
  exact hjob

/-- Turns down one source. -/
def picky (source : Text) : Except Fault Text :=
  if source = Text.ofString "bytes_1." then .error (.format "too long") else .ok source

/-- A file without services is passed over, and the second stub is turned down. What comes after it
is not made any more. -/
theorem generate_exact_picky :
    let g : Generator := { apart with formatter := fun m source => (m, picky source) }
    let skipped : Descriptor := ⟨.str "x.proto", { path := "x", name := "x" }, []⟩
    let files := skipped :: twoFiles.files ++ twoFiles.files
    ∃ (done : List Output) (later : List (Except Fault Output)),
      (g.jobs twoFiles.session files).map (g.outcome picky) =
          done.map .ok ++ .error (.format "too long") :: later ∧
        done.length = 3 ∧ later.length = 4 ∧
        (g.generate files).result twoFiles.session = .error (.format "too long") ∧
        (g.generate twoFiles.files.dropLast).result twoFiles.session = .ok (done.take 2) := by
  intro g skipped files
  let outcomes := (g.jobs twoFiles.session files).map (g.outcome picky)
  let done := (outcomes.take 3).filterMap (·.toOption)
  have houtcomes : outcomes = done.map .ok ++ .error (.format "too long") :: outcomes.drop 4 ∧
      done.length = 3 ∧ (outcomes.drop 4).length = 4 := by decide +kernel
  have hformat : g.formatter.Computes picky := fun _ _ => rfl
  have hexact := generate_exact hformat
  obtain ⟨hjobs, hdone, hlater⟩ := houtcomes
  refine ⟨done, outcomes.drop 4, hjobs, hdone, hlater, ?_, ?_⟩
  · exact ((hexact files twoFiles.session).2 done _ _ hjobs).1
  · refine (hexact _ twoFiles.session).1 _ ?_
    decide +kernel

end Generator

end ServiceWiring
