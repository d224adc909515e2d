import Mathlib
import ServiceWiring.Proofs.Delivery.Contents

/-!
# How far a delivery gets

A delivery writes its outputs one after another until one of them fails. So those that were written
come first in the list, and of each place it is known what they leave there: the last one that goes
to the file there, be it at this place or at another one, or else what stood there before. Nothing is
said of the file that the output goes to that fails, but that it is still a file. No file ever goes,
and none becomes a directory.

A device takes whatever is written and holds nothing of it, and a file that has more than one place
holds what was written last at any of them. So not every place has the last output that names it in
the end, even if nothing fails.

Headline:
* **`Delivery.write_outcome`**: what a delivery leaves on the disk, whether it ends early or not.
-/

namespace ServiceWiring

open Utf8 (spell)

variable {m m' m'' : Machine} {dir : Location} {outputs : List Output} {o : Output} {q : Place}
  {content : Octets} {fault : Fault} {mayWrite : Prop}

/-- Where an output goes from a machine that writes it below a directory. -/
def Output.target (o : Output) (m : Machine) (dir : Location) : Place :=
  m.destination (o.placeIn dir).toText

/-- What was received is kept where nothing is written. -/
theorem Machine.Receives.of_change (h : m.Receives m' q content)
    (hchange : Change mayWrite (m'.disk.node? q) (m''.disk.node? q)) (hw : ¬mayWrite) :
    m.Receives m'' q content := by
  rcases h with ⟨executable, hfile⟩ | ⟨n, hnot, hbefore, hafter⟩
  · exact Or.inl ⟨executable, (hchange.eq_some_iff hw (by simp)).mpr hfile⟩
  · have hdirectory : n ≠ .directory := fun he => hnot (Or.inl he)
    exact Or.inr ⟨n, hnot, hbefore, (hchange.eq_some_iff hw hdirectory).mpr hafter⟩

namespace Delivery

/-! ## What outputs leave at a place -/

/-- The last of the outputs that go to a place, or to another place of the file there. -/
def lastTo? (m : Machine) (dir : Location) (outputs : List Output) (q : Place) : Option Output :=
  outputs.reverse.find? fun o => m.disk.SameFile (o.target m dir) q

theorem lastTo?_eq_none_iff :
    lastTo? m dir outputs q = none ↔ ∀ o ∈ outputs, ¬m.disk.SameFile (o.target m dir) q := by
  simp [lastTo?]

theorem exists_of_lastTo? (h : lastTo? m dir outputs q = some o) :
    m.disk.SameFile (o.target m dir) q ∧ ∃ before after, outputs = before ++ o :: after ∧
      ∀ o' ∈ after, ¬m.disk.SameFile (o'.target m dir) q := by
  obtain ⟨htarget, after, before, hsplit, hafter⟩ := List.find?_eq_some_iff_append.mp h
  refine ⟨of_decide_eq_true htarget, before.reverse, after.reverse, ?_, fun o' ho' => ?_⟩
  · rw [← outputs.reverse_reverse, hsplit]
    simp
  · simpa using hafter o' (List.mem_reverse.mp ho')

/-- What outputs leave at a place: the last one that goes to the file there. Where none goes
everything is as before, but for directories that are new. -/
def Leaves (m m' : Machine) (dir : Location) (outputs : List Output) (q : Place) : Prop :=
  match lastTo? m dir outputs q with
  | some o => m.Receives m' q o.content
  | none => ∀ n, n ≠ .directory → (m'.disk.node? q = some n ↔ m.disk.node? q = some n)

/-- Where nothing more is written the outputs leave what they have left. -/
theorem Leaves.of_change (h : Leaves m m' dir outputs q)
    (hchange : Change mayWrite (m'.disk.node? q) (m''.disk.node? q)) (hw : ¬mayWrite) :
    Leaves m m'' dir outputs q := by
  unfold Leaves at h ⊢
  split
  · rename_i o ho
    rw [ho] at h
    exact h.of_change hchange hw
  · rename_i hnone
    rw [hnone] at h
    exact fun n hn => (hchange.eq_some_iff hw hn).trans (h n hn)

/-! ## Deliveries that end early and others -/

/-- A delivery that does not end early leaves its outputs. -/
theorem leaves_of_unfailed (h : m.IsSound) (hwritten : (write m dir outputs).fault? = none)
    (q : Place) : Leaves m (write m dir outputs).machine dir outputs q := by
  unfold Leaves
  split
  · rename_i o ho
    obtain ⟨htarget, before, after, rfl, hlast⟩ := exists_of_lastTo? ho
    refine (write_last h hwritten fun o' ho' hs => ?_).of_sameFile h.tree (write_changes h dir _)
      htarget
    exact hlast o' ho' (hs.trans htarget)
  · rename_i hnone
    intro n hn
    refine ((write_changes h dir outputs).places q).eq_some_iff ?_ hn
    rintro ⟨o, ho, hs⟩
    exact lastTo?_eq_none_iff.mp hnone o ho hs.symm

/-- A delivery that ends early has written the outputs before one of them, and then failed there. -/
theorem exists_failed (h : (write m dir outputs).fault? = some fault) :
    ∃ before o after, outputs = before ++ o :: after ∧
      (write m dir outputs).written = before.map (·.placeIn dir) ∧
      (write m dir before).fault? = none ∧
      writeOne (write m dir before).machine (o.placeIn dir) o.content =
        ((write m dir outputs).machine, some fault) := by
  induction outputs generalizing m with
  | nil => cases h
  | cons output outputs ih =>
    rcases hone : writeOne m (output.placeIn dir) output.content with ⟨m₁, _ | fault'⟩
    · -- One of the outputs that follow fails.
      rw [write_of_written hone] at h ⊢
      obtain ⟨before, o, after, rfl, hwritten, hunfailed, hfails⟩ := ih h
      refine ⟨output :: before, o, after, rfl, by rw [List.map_cons, ← hwritten], ?_, ?_⟩
      · rw [write_of_written hone]
        exact hunfailed
      · rw [write_of_written hone]
        exact hfails
    · rw [write_of_failed hone] at h ⊢
      obtain rfl := Option.some.inj h
      exact ⟨[], output, outputs, rfl, rfl, rfl, hone⟩

/-- **What a delivery leaves on the disk.** If it does not end early then it has written all of its
outputs, and leaves them. If it ends early then it has written the outputs before one of them, which
fails, and leaves those everywhere but at the places of the file that the one goes to that fails. In
either case what stood somewhere has not gone: a file is still a file, and may be run if it could be,
and nothing else has become one. -/
theorem write_outcome (h : m.IsSound) (dir : Location) (outputs : List Output) :
    let d := write m dir outputs
    (d.fault? = none →
      d.written = outputs.map (·.placeIn dir) ∧ ∀ q, Leaves m d.machine dir outputs q) ∧
    (∀ fault, d.fault? = some fault → ∃ before o after, outputs = before ++ o :: after ∧
      d.written = before.map (·.placeIn dir) ∧
      (write m dir before).fault? = none ∧
      (writeOne (write m dir before).machine (o.placeIn dir) o.content).2 = some fault ∧
      ∀ q, ¬m.disk.SameFile q (o.target m dir) → Leaves m d.machine dir before q) ∧
    ∀ q n, m.disk.node? q = some n →
      ∃ n', d.machine.disk.node? q = some n' ∧ n'.executable? = n.executable? := by
  obtain ⟨-, hall⟩ := written_prefix m dir outputs
  refine ⟨fun hwritten => ⟨hall hwritten, leaves_of_unfailed h hwritten⟩, fun fault hfault => ?_,
    fun q n hn => ?_⟩
  · obtain ⟨before, o, after, hsplit, hwritten, hunfailed, hfails⟩ := exists_failed hfault
    refine ⟨before, o, after, hsplit, hwritten, hunfailed, congrArg Prod.snd hfails,
      fun q hq => (leaves_of_unfailed h hunfailed q).of_change ?_ hq⟩
    -- The output that fails changes at most the file that it goes to.
    have hbefore := write_changes h dir before
    have hone := (writeOne_changes hbefore.sound (o.placeIn dir) o.content).mono
      fun _ => hbefore.sameFile_iff.mp
    rw [Machine.destination_congr hbefore.directory, hfails] at hone
    exact hone.places q
  · have hchange := (write_changes h dir outputs).places q
    rw [hn] at hchange
    exact hchange.executable?_eq

/-- Two outputs for one place, and a third one that takes the place for a directory. -/
def crowded : List Output := [⟨"a/b", [1]⟩, ⟨"a/../a/b", [2]⟩, ⟨"a/b/c", [3]⟩]

/-- The third output fails, and the second one stands where the first one stood. -/
theorem write_outcome_crowded : Machine.IsSound {} ∧
    (write {} (Location.ofText "out") crowded).fault? = some (.refused .occupied "out/a/b") ∧
    (write {} (Location.ofText "out") crowded).machine.Holds
      [spell "out", spell "a", spell "b"] [2] := by
  have hsound : Machine.IsSound {} := ⟨Disk.IsTree.empty, rfl⟩
  have hfault : (write {} (Location.ofText "out") crowded).fault? =
      some (.refused .occupied "out/a/b") := by cbv
  have hlength : (write {} (Location.ofText "out") crowded).written.length = 2 := by cbv
  refine ⟨hsound, hfault, ?_⟩
  obtain ⟨before, o, after, hsplit, hwritten, -, -, hleaves⟩ :=
    (write_outcome hsound (Location.ofText "out") crowded).2.1 _ hfault
  rw [hwritten, List.length_map] at hlength
  obtain ⟨rfl, hafter⟩ := List.append_inj
    (show crowded.take 2 ++ crowded.drop 2 = before ++ o :: after from hsplit) hlength.symm
  obtain rfl : o = ⟨"a/b/c", [3]⟩ := (List.cons.inj hafter).1.symm
  have hleft := hleaves [spell "out", spell "a", spell "b"] (by decide +kernel)
  have hlast : lastTo? {} (Location.ofText "out") (crowded.take 2)
      [spell "out", spell "a", spell "b"] = some ⟨"a/../a/b", [2]⟩ := by decide +kernel
  unfold Leaves at hleft
  rw [hlast] at hleft
  refine hleft.resolve_right ?_
  rintro ⟨n, -, hn, -⟩
  exact absurd (Disk.eq_nil_of_node?_empty hn) (by simp)

/-- A machine with a device. -/
def withDevice : Machine where
  disk := (Disk.put ∅ [spell "dev"] .directory).put [spell "dev", spell "null"] .device

theorem withDevice_isSound : withDevice.IsSound where
  tree := by
    have hdirectory : (Disk.put ∅ [spell "dev"] .directory).IsTree :=
      Disk.IsTree.empty.put_new (Disk.node?_root _) (show IsName (spell "dev") by decide)
        (by decide) (by simp)
    exact hdirectory.put_new
      (show (Disk.put ∅ [spell "dev"] .directory).node? [spell "dev"] = some .directory by decide)
      (show IsName (spell "null") by decide) (by decide) (by simp)
  home := rfl

/-- Places do not always have the last output that names them. A device holds nothing of what is
written to it. Of two outputs that go to two places of one file the second one stands at both, and an
output that goes to one place of a file changes what stands at the other. Nothing fails. -/
theorem paths_fall_short :
    (withDevice.IsSound ∧
      let d := write withDevice (Location.ofText "/dev") [⟨"null", [1]⟩]
      d.fault? = none ∧ d.written = [Location.ofText "/dev/null"] ∧
        ¬d.machine.Holds (withDevice.destination "/dev/null") [1]) ∧
    (Machine.twice (spell "a") (spell "b") [0]).IsSound ∧
      (let d := write (Machine.twice (spell "a") (spell "b") [0]) (Location.ofText "/")
        [⟨"a", [1]⟩, ⟨"b", [2]⟩]
      d.fault? = none ∧ ¬d.machine.Holds (Machine.destination {} "/a") [1]) ∧
      let d := write (Machine.twice (spell "a") (spell "b") [0]) (Location.ofText "/") [⟨"a", [1]⟩]
      d.fault? = none ∧ ¬d.machine.Holds (Machine.destination {} "/b") [0] := by
  have hnot {m : Machine} {q : Place} {node : Node} {content : Octets}
      (hnode : m.disk.node? q = some node) (hne : ∀ executable, node ≠ .file content executable) :
      ¬m.Holds q content := by
    rintro ⟨executable, hfile⟩
    exact hne executable (Option.some.inj (hnode.symm.trans hfile))
  refine ⟨⟨withDevice_isSound, by cbv, by cbv, ?_⟩,
    Machine.twice_isSound (by decide) (by decide) (by decide) _, ⟨by cbv, ?_⟩, by cbv, ?_⟩
  · exact hnot (show _ = some .device by cbv) (by simp)
  · exact hnot (show _ = some (.file [2] false) by cbv) (by simp)
  · exact hnot (show _ = some (.file [1] false) by cbv) (by simp)

end Delivery

end ServiceWiring
