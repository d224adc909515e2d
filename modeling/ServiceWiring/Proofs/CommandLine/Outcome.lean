import ServiceWiring.Proofs.CommandLine.Stubs
import ServiceWiring.Proofs.Delivery.Contents

/-!
# All or nothing

A run writes only after everything has been made. So a run that fails before has changed nothing,
however far it got, and a run that succeeds has written exactly its outputs: the files that none of
them goes to are as they were, and of the outputs that go to one file the last one stands there.

This takes a formatter that leaves the disk alone. A run that fails while it writes is another
matter. What an output changes is a file and not a place: if the file has other places then these
change as well, wherever they are.

Headline:
* **`run_all_or_nothing`**: what a run leaves on the disk if it fails before it writes, and if it
  succeeds.
-/

namespace ServiceWiring

/-- One of the faults that a run reports: an error of its own, or a refusal of the system. All
others break the run off. -/
def Fault.isReported : Fault → Bool
  | flawed _ | unreadable .. | unprintable _ | render .. | format _ | refused .. => true
  | _ => false

theorem Fault.isSome_message? (f : Fault) : f.message?.isSome = f.isReported := by
  cases f <;> rfl

namespace CommandLine

open OutputName (stubEnding wiringEnding)
open Utf8 (spell)

variable {m m' : Machine} {s : Settings} {start : Launcher} {args : List Text} {outputs : List Output}
  {fault : Fault}

/-- The place that an output of a run goes to, if outputs go anywhere. -/
def Settings.target? (s : Settings) (m : Machine) (o : Output) : Option Place :=
  s.out?.map fun dir => m.destination (o.placeIn dir).toText

/-- An output of a run goes to the file at the place: to this place, or to another one of the file.
-/
def Settings.GoesTo (s : Settings) (m : Machine) (o : Output) (q : Place) : Prop :=
  ∃ p, s.target? m o = some p ∧ m.disk.SameFile p q

/-- The second machine has the outputs of a run on the first one. -/
structure Delivered (s : Settings) (m m' : Machine) (outputs : List Output) : Prop where
  /-- Each output goes to a place. -/
  targets : ∀ o ∈ outputs, (s.target? m o).isSome
  /-- Where no output goes there are the same files as before. -/
  elsewhere : ∀ q content executable, (∀ o ∈ outputs, ¬s.GoesTo m o q) →
    (m'.disk.node? q = some (.file content executable) ↔
      m.disk.node? q = some (.file content executable))
  /-- The last output that goes to a file stands there, at all its places, unless something that is
  no file and no directory stood there and has swallowed it. -/
  last : ∀ before o after q, outputs = before ++ o :: after → s.GoesTo m o q →
    (∀ o' ∈ after, ¬s.GoesTo m o' q) →
      m'.Holds q o.content ∨
        ∃ n, ¬n.IsPlain ∧ m.disk.node? q = some n ∧ m'.disk.node? q = some n

/-! ## How a run ends -/

theorem finish_error (m : Machine) (s : Settings) (log : List Event) (fault : Fault) :
    (finish m s log (.error fault)).exit =
      if fault.isReported then .ok 1 else .error fault := by
  rw [← fault.isSome_message?]
  unfold finish
  simp only
  cases fault.message? <;> rfl

theorem finish_eq_zero {log : List Event} {outcome : Except Fault Nat}
    (h : (finish m s log outcome).exit = .ok 0) : ∃ count, outcome = .ok count := by
  cases outcome with
  | ok count => exact ⟨count, rfl⟩
  | error fault =>
    rw [finish_error] at h
    split at h <;> cases h

theorem runSettings_exit_of_error
    (h : (prepare start s).result { machine := m } = .error fault) :
    (runSettings start m s).exit = if fault.isReported then .ok 1 else .error fault := by
  unfold SessionM.result at h
  unfold runSettings
  generalize (prepare start s).run.run { machine := m } = ended at h
  obtain ⟨result, session⟩ := ended
  subst h
  exact finish_error _ _ _ _

/-- A run that succeeds has delivered its outputs. -/
theorem exists_outputs_of_zero (h : (runSettings start m s).exit = .ok 0) :
    ∃ outputs, (prepare start s).result { machine := m } = .ok outputs ∧
      (deliver ((prepare start s).final { machine := m }).machine s outputs).fault? = none := by
  unfold runSettings at h
  unfold SessionM.result SessionM.final
  generalize (prepare start s).run.run { machine := m } = ended at h
  obtain ⟨fault | outputs, session⟩ := ended
  · obtain ⟨count, hcount⟩ := finish_eq_zero h
    cases hcount
  · refine ⟨outputs, rfl, ?_⟩
    obtain ⟨count, hcount⟩ := finish_eq_zero h
    cases hfault : (deliver session.machine s outputs).fault? with
    | none => rfl
    | some fault =>
      simp only [hfault] at hcount
      cases hcount

/-! ## What a delivery leaves -/

/-- A delivery that does not end early has delivered its outputs. -/
theorem deliver_delivered (h : m.IsSound) (hwritten : (deliver m s outputs).fault? = none) :
    Delivered s m (deliver m s outputs).machine outputs := by
  unfold deliver at hwritten ⊢
  cases hout : s.out? with
  | none =>
    obtain rfl : outputs = [] := by
      by_contra hne
      simp [hout, hne] at hwritten
    exact ⟨by simp, fun _ _ _ _ => Iff.rfl, by simp⟩
  | some dir =>
    have htarget (o : Output) : s.target? m o = some (m.destination (o.placeIn dir).toText) := by
      unfold Settings.target?
      rw [hout]
      rfl
    simp only [hout] at hwritten ⊢
    have hchanges := Delivery.write_changes h dir outputs
    refine ⟨fun o _ => by rw [htarget]; rfl, fun q content executable hq => ?_, ?_⟩
    · refine (hchanges.places q).eq_some_iff ?_ (by simp)
      rintro ⟨o, ho, hs⟩
      exact hq o ho ⟨_, htarget o, hs.symm⟩
    · rintro before o after q rfl ⟨p, hp, hs⟩ hlast
      obtain rfl := Option.some.inj ((htarget o).symm.trans hp)
      refine (Delivery.write_last h hwritten fun o' ho' hs' => ?_).of_sameFile h.tree hchanges hs
      exact hlast o' ho' ⟨_, htarget o', hs'.trans hs⟩

/-! ## Whole runs -/

theorem Delivered.of_agrees {m₁ : Machine} (hm : m.Agrees m₁) (h : Delivered s m₁ m' outputs) :
    Delivered s m m' outputs := by
  have htarget : s.target? m₁ = s.target? m := by
    funext o
    unfold Settings.target?
    simp only [Machine.destination_congr hm.directory]
  have hgoes (o : Output) (q : Place) : s.GoesTo m₁ o q ↔ s.GoesTo m o q := by
    unfold Settings.GoesTo
    rw [htarget, hm.disk]
  obtain ⟨htargets, helsewhere, hlast⟩ := h
  simp only [hgoes] at helsewhere hlast
  rw [htarget] at htargets
  rw [hm.disk] at helsewhere hlast
  exact ⟨htargets, helsewhere, hlast⟩

/-- **All or nothing.** Take arguments that ask for a run, and a formatter that leaves the disk
alone. If anything fails before the run writes, then the disk is just as it was, and the run ends
with 1 if the fault is one of its own or a refusal of the system. If the run ends with 0, on a disk
without links, then it has delivered its outputs: files that none of them goes to are the same as
before, and of those that go to one file the last one stands there, unless something that is no file
and no directory has swallowed it. -/
theorem run_all_or_nothing (hparse : parse args = .ok (.run s))
    (hspares : (s.formatter start).Spares m) :
    (∀ fault, (prepare start s).result { machine := m } = .error fault →
        (run start m args).machine.disk = m.disk ∧
          (run start m args).exit = if fault.isReported then .ok 1 else .error fault) ∧
      (m.IsSound → (run start m args).exit = .ok 0 →
        ∃ outputs, (prepare start s).result { machine := m } = .ok outputs ∧
          Delivered s m (run start m args).machine outputs) := by
  have hrun : run start m args = runSettings start m s := by
    unfold run
    rw [hparse]
  have hagrees := (prepare_ends hspares).leaves
  rw [hrun]
  refine ⟨fun fault hfault => ⟨?_, runSettings_exit_of_error hfault⟩, fun h hzero => ?_⟩
  · rw [runSettings_machine, hfault]
    exact hagrees.disk
  · obtain ⟨outputs, houtputs, hwritten⟩ := exists_outputs_of_zero hzero
    refine ⟨outputs, houtputs, Delivered.of_agrees hagrees ?_⟩
    rw [runSettings_machine, houtputs]
    exact deliver_delivered (h.of_agrees hagrees) hwritten

namespace Use

/-- A use that asks for wirings alone. -/
def asksForWiring : Use where
  toolPath := "/t/tool"
  start := repeats
  args := ["d", "--out", "t"]

/-- What it asks for. -/
def wiringSettings : Settings where
  descriptors := Location.ofText "d"
  out? := some (Location.ofText "t")

/-- The disk with a stub, and a swagger document that cannot be written. -/
def withSwagger : Disk :=
  (withStub.put [[0x73]] .directory).put [[0x73], Utf8.spell "a.swagger.json"]
    (.file ((Utf8.encode? "NaN").getD []) false)

/-- A use that embeds the document. -/
def asksForSwagger : Use where
  toolPath := "/t/tool"
  start := repeats
  args := ["d", "--swagger-dir", "s", "--out", "t"]

/-- The run of a use. -/
def result (u : Use) (d : Disk) : Result := run u.start (u.machine d) u.args

theorem spares_repeats {s : Settings} (h : s.formatter repeats = .command repeats "gofmt")
    (m : Machine) : (s.formatter repeats).Spares m := by
  rw [h]
  exact Formatter.command_spares (fun _ _ _ _ h => (Prod.mk.inj (Except.ok.inj h)).1.symm) m

set_option maxRecDepth 100000 in
/-- One run fails since a document cannot be written, and another one writes its wiring. -/
theorem run_all_or_nothing_uses :
    ((asksForSwagger.result withSwagger).machine.disk = withSwagger ∧
      (asksForSwagger.result withSwagger).exit = .ok 1) ∧
    (asksForWiring.result withStub).exit = .ok 0 ∧ ∃ s outputs,
      (prepare repeats s).result { machine := asksForWiring.machine withStub } = .ok outputs ∧
      Delivered s (asksForWiring.machine withStub) (asksForWiring.result withStub).machine
        outputs := by
  constructor
  · have hparse : parse asksForSwagger.args = .ok (.run
        { wiringSettings with swaggerDir? := some (Location.ofText "s") }) := by cbv
    have hfails : (prepare repeats
        { wiringSettings with swaggerDir? := some (Location.ofText "s") }).result
        { machine := asksForSwagger.machine withSwagger } =
          .error (.unprintable (.notFinite .nan)) := by cbv
    exact (run_all_or_nothing hparse (spares_repeats rfl _)).1 _ hfails
  · have hparse : parse asksForWiring.args = .ok (.run wiringSettings) := by cbv
    have hzero : (asksForWiring.result withStub).exit = .ok 0 := by cbv
    have hsound : (asksForWiring.machine withStub).IsSound := ⟨isTree_withStub, rfl⟩
    obtain ⟨outputs, houtputs, hdelivered⟩ :=
      (run_all_or_nothing hparse (spares_repeats rfl _)).2 hsound hzero
    exact ⟨hzero, _, outputs, houtputs, hdelivered⟩

/-- The disk with a stub that also stands where the wiring of its file goes. -/
def withSharedStub : Disk :=
  withStub.addName [[0x74], 0x61 :: spell stubEnding] [[0x74], 0x61 :: spell wiringEnding]

theorem isTree_withSharedStub : withSharedStub.IsTree :=
  isTree_withStub.addName
    (show withStub.node? [[0x74], 0x61 :: spell stubEnding] = some (.file [0x6B] false) by decide)
    (show withStub.node? [[0x74]] = some .directory by decide)
    (show IsName (0x61 :: spell wiringEnding) by decide) (by decide)

set_option maxRecDepth 100000 in
theorem result_withSharedStub : (asksForWiring.result withSharedStub).exit = .ok 0 ∧
    (asksForWiring.result withSharedStub).machine.disk.node? [[0x74], 0x61 :: spell stubEnding] ≠
      some (.file [0x6B] false) := by
  have hrun : (fun r : Result => (r.exit, decide (r.machine.disk.node?
      [[0x74], 0x61 :: spell stubEnding] = some (.file [0x6B] false))))
        (asksForWiring.result withSharedStub) = (.ok 0, false) := by cbv
  obtain ⟨hzero, hchanged⟩ := Prod.mk.inj hrun
  exact ⟨hzero, of_decide_eq_false hchanged⟩

set_option maxRecDepth 100000 in
/-- A run that succeeds changes a file at a place that none of its outputs has, if that is another
place of a file that it writes. -/
theorem run_reaches_other_places :
    (asksForWiring.machine withSharedStub).IsSound ∧
    parse asksForWiring.args = .ok (.run wiringSettings) ∧
    (wiringSettings.formatter repeats).Spares (asksForWiring.machine withSharedStub) ∧
    (asksForWiring.result withSharedStub).exit = .ok 0 ∧
    ∃ outputs, (prepare repeats wiringSettings).result
        { machine := asksForWiring.machine withSharedStub } = .ok outputs ∧
      ∃ q, (∀ o ∈ outputs,
          wiringSettings.target? (asksForWiring.machine withSharedStub) o ≠ some q) ∧
        withSharedStub.node? q = some (.file [0x6B] false) ∧
        (asksForWiring.result withSharedStub).machine.disk.node? q ≠
          some (.file [0x6B] false) := by
  have hparse : parse asksForWiring.args = .ok (.run wiringSettings) := by cbv
  obtain ⟨hzero, hchanged⟩ := result_withSharedStub
  have hmade : ((prepare repeats wiringSettings).result
      { machine := asksForWiring.machine withSharedStub }).toOption.map
      (fun outputs => outputs.all fun o => decide
        (wiringSettings.target? (asksForWiring.machine withSharedStub) o ≠
          some [[0x74], 0x61 :: spell stubEnding])) = some true := by cbv
  obtain ⟨outputs, hprepared, hall⟩ := exists_ok_of_map hmade
  refine ⟨⟨isTree_withSharedStub, rfl⟩, hparse, spares_repeats rfl _, hzero, outputs, hprepared,
    [[0x74], 0x61 :: spell stubEnding], fun o ho => ?_, by decide, hchanged⟩
  exact of_decide_eq_true (List.all_eq_true.mp hall o ho)

end Use

end CommandLine

end ServiceWiring
