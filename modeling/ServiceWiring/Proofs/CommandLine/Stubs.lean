import Mathlib
import ServiceWiring.Proofs.Batch.Outputs
import ServiceWiring.Proofs.Delivery.Kept
import ServiceWiring.Proofs.ToolRoot.Presence

/-!
# Stubs survive

A stub is looked for in the directory of the tool and written below the output directory. Where the
two are the same place, the path that is looked for and the path that is written lead to one place,
although they are put together in different ways. So a run that does not force stubs writes a stub
only where nothing stands, and it writes wirings only under names that end as wirings do. Whatever
stands under a name that ends as stubs do stays, however the run ends, and the disk stays a tree. By
induction it stays in all the runs that follow.

Headline:
* **`stubs_survive`**: what stands under the name of a stub outlasts every sequence of runs that do
  not force stubs.
-/

namespace ServiceWiring

open OutputName (stubEnding wiringEnding)
open ServiceWiring.Path (isAbsolute)
open Utf8 (spell)

variable {m m' m'' : Machine} {d : Disk} {dir : Place} {x : Octets} {node : Node}
  {lost : Place → Prop}

/-! ## Machines that agree -/

theorem Machine.IsSound.of_agrees (h : m.IsSound) (hm : m.Agrees m') : m'.IsSound where
  tree := hm.disk ▸ h.tree
  home := by
    rw [hm.disk, hm.directory]
    exact h.home

theorem Machine.Keeps.of_agrees (hm : m.Agrees m') (h : m'.Keeps m'' lost) : m.Keeps m'' lost where
  sound := h.sound
  directory := h.directory.trans hm.directory
  owner := h.owner.trans (by rw [hm.disk])
  nodes := fun hq => h.nodes (hm.disk.symm ▸ hq)

namespace CommandLine

variable {s : Settings} {start : Launcher}

/-! ## Names of stubs -/

/-- No name ends both as wirings and as stubs do. -/
theorem append_wiringEnding_ne (x y : Octets) :
    x ++ spell wiringEnding ≠ y ++ spell stubEnding := by
  intro h
  have hsuffix : spell stubEnding <:+ spell wiringEnding :=
    List.suffix_of_suffix_length_le (h ▸ List.suffix_append _ _) (List.suffix_append x _)
      (by decide)
  exact absurd hsuffix (by decide)

/-! ## One run -/

/-- A run that does not force stubs and writes into the directory of the tool, on a machine where no
path is too long. -/
structure Settings.IsUnforced (start : Launcher) (s : Settings) (m : Machine) : Prop where
  /-- Stubs are not to be overwritten. -/
  unforced : s.force = false
  /-- The formatter leaves the disk alone. -/
  spares : (s.formatter start).Spares m
  /-- Every directory has a path that is short enough. -/
  roomy : ToolRoot.IsRoomy m
  /-- Outputs go to the directory of the tool, which exists; stubs have paths there that are short
  enough. -/
  home : ∃ out place, s.out? = some (Location.ofText out) ∧
    m.find .look (Location.ofText out).toText = .ok (place, .directory) ∧
    m.find .look (Location.ofText m.toolPath).parent.toText = .ok (place, .directory) ∧
    ∀ files, (Inputs.loadDescriptors s.descriptors).result { machine := m } = .ok files →
      ∀ d ∈ files, ∀ file, d.name = .str file →
        Machine.Fits (Path.join (Machine.pathOf place) (OutputName.stub file))

theorem finish_machine (m : Machine) (s : Settings) (log : List Event)
    (outcome : Except Fault Nat) : (finish m s log outcome).machine = m := by
  unfold finish
  split
  · rfl
  · split <;> rfl

/-- The machine after a run: the one that the outputs were made on, or what their delivery leaves of
it. -/
theorem runSettings_machine (start : Launcher) (m : Machine) (s : Settings) :
    (runSettings start m s).machine =
      match (prepare start s).result { machine := m } with
      | .ok outputs =>
        (deliver ((prepare start s).final { machine := m }).machine s outputs).machine
      | .error _ => ((prepare start s).final { machine := m }).machine := by
  unfold runSettings SessionM.result SessionM.final
  generalize (prepare start s).run.run { machine := m } = ended
  rcases ended with ⟨fault | outputs, session⟩
  · exact finish_machine _ _ _ _
  · exact finish_machine _ _ _ _

/-- Where an output may go that is not forced, nothing stands that has the name of a stub. -/
theorem free_of_mayEmit (h : m.IsSound) {out : Text} {place : Place} {f : Descriptor}
    {name : Text} (hplace : m.find .look (Location.ofText out).toText = .ok (place, .directory))
    (hfits : ∀ file, f.name = .str file →
      Machine.Fits (Path.join (Machine.pathOf place) (OutputName.stub file)))
    (hname : f.MayEmit false (some (Machine.pathOf place)) m name) {q : Place}
    (hq : q = m.destination (Location.ofText out ++ Location.ofText name).toText) :
    m.disk.node? q = none ∨ ∀ dir x, q ≠ dir ++ [x ++ spell stubEnding] := by
  obtain ⟨hdestination, hdir⟩ := Machine.destination_of_find h.tree hplace
  rw [Machine.destination_append, ← hdestination] at hq
  -- A wiring goes under a name that no stub has, and a stub goes where none was present.
  obtain ⟨file, hfile, rfl | ⟨rfl, habsent⟩⟩ := hname
  · obtain ⟨q', x', hend⟩ := OutputName.follow_wiring
      (if isAbsolute (OutputName.wiring file) then [] else place) file
    refine Or.inr fun dir x he => append_wiringEnding_ne x' x ?_
    exact List.singleton_inj.mp (List.append_inj' (hend.symm.trans (hq.symm.trans he)) rfl).2
  · rw [hq]
    exact Or.inl (ToolRoot.node?_of_absent h.tree hdir (hfits file hfile)
      (habsent.resolve_left (by simp)))

/-- **What an unforced run keeps** where every file has one place, however the run ends: every
directory, and whatever stands under the name of a stub. -/
theorem runSettings_keeps (h : m.IsSound) (hone : m.disk.IsUnshared) (hs : s.IsUnforced start m) :
    m.Keeps (runSettings start m s).machine fun q =>
      m.disk.node? q = none ∨ ∀ dir x, q ≠ dir ++ [x ++ spell stubEnding] := by
  obtain ⟨out, place, hout, hplace, htool, hfits⟩ := hs.home
  have hresolve := ToolRoot.resolve_of_find h.tree hs.roomy
    (Location.arePlain_parent (Location.arePlain_ofText m.toolPath)) htool
  have hends := prepare_ends hs.spares
  have hagrees := hends.leaves
  refine Machine.Keeps.of_agrees hagrees ?_
  rw [runSettings_machine]
  cases hr : (prepare start s).result { machine := m } with
  | error fault => exact Machine.Keeps.refl (h.of_agrees hagrees) _
  | ok outputs =>
    obtain ⟨files, hfiles, toolDir?, htoolDir, hnames⟩ := hends.gives outputs hr
    simp only
    rw [deliver, hout]
    refine (Delivery.write_keeps (h.of_agrees hagrees) _ outputs).mono ?_
    rintro q ⟨o, ho, hq⟩
    obtain ⟨f, hf, hmay⟩ := hnames o ho
    rw [hs.unforced, htoolDir _ hresolve] at hmay
    rw [Machine.destination_congr hagrees.directory, hagrees.disk] at hq
    exact free_of_mayEmit h hplace (hfits files hfiles f hf) hmay (hone _ _ hq)

/-! ## Runs one after another -/

/-- A use of the tool: what it finds, apart from the disk. -/
structure Use where
  /-- The directory that it works in. -/
  directory : Place := []
  /-- The variables of the environment. -/
  environment : List (Text × Text) := []
  /-- The path that the tool is started by. -/
  toolPath : Text
  /-- What starts commands. -/
  start : Launcher
  /-- The arguments. -/
  args : List Text

namespace Use

/-- The machine of a use on a disk. -/
def machine (u : Use) (d : Disk) : Machine :=
  { disk := d, directory := u.directory, environment := u.environment, toolPath := u.toolPath }

/-- The disk that a use leaves behind. -/
def leaves (d : Disk) (u : Use) : Disk := (run u.start (u.machine d) u.args).machine.disk

/-- The disk that uses leave behind, one after another. -/
def after (d : Disk) (us : List Use) : Disk := us.foldl leaves d

/-- The use does not force stubs: if its arguments ask for a run, then for an unforced one. -/
structure IsUnforced (u : Use) (d : Disk) : Prop where
  /-- It works in a directory of the disk. -/
  works : d.node? u.directory = some .directory
  /-- What its arguments ask for. -/
  settings : ∀ s, parse u.args = .ok (.run s) → s.IsUnforced u.start (u.machine d)

/-- Each use does not force stubs, on the disk that it finds. -/
def AllUnforced (d : Disk) : List Use → Prop
  | [] => True
  | u :: us => u.IsUnforced d ∧ AllUnforced (leaves d u) us

variable {u : Use} {us before later : List Use}

/-- **One use keeps stubs**, and the disk stays a tree on which every file has one place. -/
theorem leaves_keeps (h : d.IsTree) (hone : d.IsUnshared) (hu : u.IsUnforced d) :
    (leaves d u).IsTree ∧ (leaves d u).IsUnshared ∧
      ∀ {dir x node}, d.node? (dir ++ [x ++ spell stubEnding]) = some node →
        (leaves d u).node? (dir ++ [x ++ spell stubEnding]) = some node := by
  have hsound : (u.machine d).IsSound := ⟨h, hu.works⟩
  unfold leaves run
  cases hparse : parse u.args with
  | error misuse => exact ⟨h, hone, id⟩
  | ok request =>
    cases request with
    | help => exact ⟨h, hone, id⟩
    | run s =>
      have hkeeps := runSettings_keeps hsound hone (hu.settings s hparse)
      refine ⟨hkeeps.sound.tree, fun p q hs => hone p q ?_, fun {dir x node} hnode => ?_⟩
      · unfold Disk.SameFile at hs
        rwa [hkeeps.owner] at hs
      refine hkeeps.nodes hnode (Or.inr ?_)
      rintro (hnone | hname)
      · cases hnone.symm.trans hnode
      · exact hname dir x rfl

/-- **Uses one after another keep stubs**, and the disk stays a tree on which every file has one
place. -/
theorem after_keeps (h : d.IsTree) (hone : d.IsUnshared) (hus : AllUnforced d us) :
    (after d us).IsTree ∧ (after d us).IsUnshared ∧
      ∀ {dir x node}, d.node? (dir ++ [x ++ spell stubEnding]) = some node →
        (after d us).node? (dir ++ [x ++ spell stubEnding]) = some node := by
  induction us generalizing d with
  | nil => exact ⟨h, hone, id⟩
  | cons u us ih =>
    obtain ⟨htree, hone, hkeeps⟩ := leaves_keeps h hone hus.1
    obtain ⟨htree', hone', hkeeps'⟩ := ih htree hone hus.2
    exact ⟨htree', hone', fun hnode => hkeeps' (hkeeps hnode)⟩

theorem allUnforced_append : AllUnforced d (before ++ later) ↔
    AllUnforced d before ∧ AllUnforced (after d before) later := by
  induction before generalizing d with
  | nil => simp [AllUnforced, after]
  | cons u us ih =>
    simp only [List.cons_append, AllUnforced, ih, and_assoc]
    rfl

theorem after_append (d : Disk) (before later : List Use) :
    after d (before ++ later) = after (after d before) later := List.foldl_append

/-- **Stubs survive.** Take a disk without links on which every file has one place, and any sequence
of uses of the tool, each of which does not force stubs, writes into the directory of the tool, and
formats, if at all, by a command that leaves the disk alone, whatever it makes of a source. At any
point of the sequence, take a file whose name ends as those of stubs do, wherever it stands. After
all the uses that follow, however each of them ends, this very file still stands there, and holds
what it held. -/
theorem stubs_survive (h : d.IsTree) (hone : d.IsUnshared) (hus : AllUnforced d (before ++ later))
    (hnode : (after d before).node? (dir ++ [x ++ spell stubEnding]) = some node) :
    (after d (before ++ later)).node? (dir ++ [x ++ spell stubEnding]) = some node := by
  obtain ⟨hbefore, hlater⟩ := allUnforced_append.mp hus
  obtain ⟨htree, hone, -⟩ := after_keeps h hone hbefore
  rw [after_append]
  exact (after_keeps htree hone hlater).2.2 hnode

/-- A disk with a descriptor set, `d`, and a directory of the tool, `t`, that holds the stub of the
only file of the set. -/
def withStub : Disk :=
  let file : Text := "\x7b\"name\": \"a.proto\", \"services\": [\x7b\"name\": \"S\"\x7d]\x7d"
  let files : Octets := (Utf8.encode? ("\x7b\"files\": [" ++ file ++ "]\x7d")).getD []
  (((∅ : Disk).put [[0x74]] .directory).put [[0x74], 0x61 :: spell stubEnding]
    (.file [0x6B] false)).put [[0x64]] (.file files false)

/-- Starts commands that write what they read, whatever they are called. -/
def repeats : Launcher := fun m _ input? => .ok (m.disk, ⟨input?.getD [], [], .exited 0⟩)

/-- A use that asks for the stub, where the formatter leaves a source as it is. -/
def asksForStub : Use where
  toolPath := "/t/tool"
  start := repeats
  args := ["d", "--impl", "--out", "t"]

theorem isTree_withStub : withStub.IsTree := by
  have hroot (d : Disk) : d.node? [] = some .directory := rfl
  have htool : ((∅ : Disk).put [[0x74]] .directory).IsTree :=
    Disk.IsTree.empty.put_new (hroot _) (show IsName [0x74] by decide) (by decide) (by simp)
  have hstub := htool.put_new (n := .file [0x6B] false)
    (show (Disk.put ∅ [[0x74]] .directory).node? [[0x74]] = some .directory by decide)
    (show IsName (0x61 :: spell stubEnding) by decide) (by decide) (by simp)
  exact hstub.put_new (hroot _) (show IsName [0x64] by decide) (by decide) (by simp)

theorem directory_withStub {q : Place} (h : withStub.node? q = some .directory) :
    q = [] ∨ q = [[0x74]] := by
  unfold withStub at h
  have hone := Disk.IsUnshared.empty
  simp only at h
  rw [((hone.put _ _).put _ _).node?_put (by simp), (hone.put _ _).node?_put (by simp),
    hone.node?_put (by simp)] at h
  split at h
  · cases h
  split at h
  · cases h
  split at h
  · exact Or.inr ‹_›
  · exact Or.inl (Disk.eq_nil_of_node?_empty h)

theorem asksForStub_isUnforced : asksForStub.IsUnforced withStub where
  works := rfl
  settings := by
    intro s hs
    have hparse : parse asksForStub.args = .ok (.run
        { descriptors := Location.ofText "d", out? := some (Location.ofText "t")
          impl := true }) := by cbv
    obtain rfl := Request.run.inj (Except.ok.inj (hparse.symm.trans hs))
    have hload : (Inputs.loadDescriptors (Location.ofText "d")).result
        { machine := asksForStub.machine withStub } =
        .ok [⟨.str "a.proto", ⟨".", "a", none⟩, [⟨.str "S", []⟩]⟩] := by cbv
    have hspares : (Formatter.command repeats "gofmt").Spares (asksForStub.machine withStub) :=
      Formatter.command_spares (fun _ _ _ _ h => (Prod.mk.inj (Except.ok.inj h)).1.symm) _
    refine ⟨rfl, hspares, ?_, "t", [[0x74]], rfl, by cbv, by cbv, ?_⟩
    · intro q hq
      unfold Machine.Fits
      rcases directory_withStub hq with rfl | rfl
      · decide +kernel
      · decide +kernel
    · intro files hfiles f hf file hfile
      obtain rfl := Except.ok.inj (hload.symm.trans hfiles)
      obtain rfl := List.mem_singleton.mp hf
      obtain rfl := Json.str.inj hfile
      unfold Machine.Fits
      decide +kernel

set_option maxRecDepth 100000 in
/-- The stub of a file stays when it is asked for again, and the wiring is formatted and written. -/
theorem stubs_survive_asksForStub :
    (after withStub [asksForStub]).node? [[0x74], 0x61 :: spell stubEnding] =
        some (.file [0x6B] false) ∧
      (run repeats (asksForStub.machine withStub) asksForStub.args).exit = .ok 0 := by
  refine ⟨?_, by cbv⟩
  exact stubs_survive isTree_withStub (((Disk.IsUnshared.empty.put _ _).put _ _).put _ _)
    (show AllUnforced withStub ([] ++ [asksForStub]) from ⟨asksForStub_isUnforced, trivial⟩)
    (show (after withStub []).node? ([[0x74]] ++ [[0x61] ++ spell stubEnding]) = _ from rfl)

end Use

end CommandLine

end ServiceWiring
