import ServiceWiring.Proofs.Delivery.Inside
import ServiceWiring.Proofs.Delivery.Kept

/-!
# What a delivery leaves on the disk

A delivery that does not end early has written each of its outputs to its place. An output that
comes later takes the place of an earlier one without a word, and so does one that goes to another
place of the same file. So the last output that goes to a file is what it holds in the end. Nothing
but directories and files is ever put on the disk, so a place that holds what is written goes on to
do so.

Headline:
* **`Delivery.write_holds`**: the last output that goes to a file stands there.
* `Delivery.write_last`: so it does, or else something stands there that swallows what is written.
-/

namespace ServiceWiring

variable {m m' : Machine} {q : Place}

namespace Machine

/-- What stands at the place, if anything does, is a directory or a file. -/
def HasPlain (m : Machine) (q : Place) : Prop := ∀ n, m.disk.node? q = some n → n.IsPlain

/-- The file at the place has the content. -/
def Holds (m : Machine) (q : Place) (content : Octets) : Prop :=
  ∃ executable, m.disk.node? q = some (.file content executable)

instance (m : Machine) (q : Place) (content : Octets) : Decidable (m.Holds q content) :=
  decidable_of_iff _
    (Bool.exists_bool (p := fun executable => m.disk.node? q = some (.file content executable))).symm

/-- The second machine has received the content at the place: the file there has it, or what stood
there on the first machine is no file and no directory, and still stands there. -/
def Receives (m m' : Machine) (q : Place) (content : Octets) : Prop :=
  m'.Holds q content ∨ ∃ n, ¬n.IsPlain ∧ m.disk.node? q = some n ∧ m'.disk.node? q = some n

/-- What is received at one place of a file is received at all of them. -/
theorem Receives.of_sameFile {p : Place} {content : Octets} {written : Place → Prop}
    (h : m.Receives m' p content) (hm : m.disk.IsTree) (hchanges : m.Changes m' written)
    (hs : m.disk.SameFile p q) : m.Receives m' q content := by
  unfold Receives Holds at h ⊢
  rwa [hm.node?_eq hs, hchanges.sound.tree.node?_eq (hchanges.sameFile_iff.mpr hs)] at h

/-- Only directories and files are put where there was nothing else. -/
theorem Changes.hasPlain {written : Place → Prop} (h : m.Changes m' written) (hq : m.HasPlain q) :
    m'.HasPlain q := by
  intro n hn
  have hplaces := h.places q
  rw [hn] at hplaces
  generalize hold : m.disk.node? q = old at hplaces
  cases hplaces with
  | stays => exact hq n hold
  | makes => exact Or.inl rfl
  | writes | overwrites => exact Or.inr rfl

/-- A machine with one file, which has two places. -/
def twice (a b : DiskName) (content : Octets) : Machine where
  disk := (Disk.put ∅ [a] (.file content false)).addName [a] [b]

theorem twice_isSound {a b : DiskName} (ha : IsName a) (hb : IsName b) (hab : a ≠ b)
    (content : Octets) : (twice a b content).IsSound where
  tree := by
    have htree : (Disk.put ∅ [a] (.file content false)).IsTree :=
      Disk.IsTree.empty.put_new (Disk.node?_root _) ha
        (Option.eq_none_iff_forall_ne_some.mpr fun _ h => absurd (Disk.eq_nil_of_node?_empty h)
          (by simp)) (by simp)
    have hnode := Disk.IsUnshared.empty.node?_put (show [a] ≠ [] by simp) (.file content false)
    refine htree.addName (hnode _ ▸ if_pos rfl) (Disk.node?_root _) hb ?_
    rw [hnode, if_neg (by simpa using Ne.symm hab)]
    exact Option.eq_none_iff_forall_ne_some.mpr fun _ h => absurd (Disk.eq_nil_of_node?_empty h)
      (by simp)
  home := rfl

end Machine

/-! ## Deliveries -/

namespace Delivery

/-- An output that is written stands where its location leads. -/
theorem writeOne_holds (h : m.IsSound) (l : Location) (content : Octets)
    (hwritten : (writeOne m l content).2 = none) (hplain : m.HasPlain (m.destination l.toText)) :
    (writeOne m l content).1.Holds (m.destination l.toText) content := by
  have hchanges := Machine.makeDirectories_changes h l.parent
  unfold writeOne at hwritten ⊢
  split at hwritten
  · cases hwritten
  · rename_i m₁ hm₁
    rw [hm₁] at hchanges
    have hmade := hchanges.hasPlain hplain
    simp only at hmade hchanges ⊢
    rw [← Machine.destination_congr hchanges.directory] at hmade ⊢
    split at hwritten
    · rename_i m₂ hm₂
      obtain ⟨-, ⟨executable, rfl, hchange⟩ | ⟨-, n, hn, hnot⟩⟩ :=
        Machine.writeFile_cases hchanges.sound.tree hm₂
      · have hne : m₁.destination l.toText ≠ [] := fun hnil =>
          hchange.ne_directory (by simp) (hnil ▸ Disk.node?_root m₁.disk)
        refine ⟨executable, ?_⟩
        show (m₁.disk.put _ _).node? _ = _
        rw [hchanges.sound.tree.node?_put hne, if_pos (Disk.SameFile.refl _ _)]
      · exact absurd (hmade n hn) hnot
    · cases hwritten

/-- **The last output that goes to a file stands there** after a delivery that does not end early,
unless something stood there that swallows what is written. -/
theorem write_holds {dir : Location} {before after : List Output} {o : Output} (h : m.IsSound)
    (hwritten : (write m dir (before ++ o :: after)).fault? = none)
    (hplain : m.HasPlain (m.destination (o.placeIn dir).toText))
    (hlast : ∀ o' ∈ after, ¬m.disk.SameFile (m.destination (o'.placeIn dir).toText)
      (m.destination (o.placeIn dir).toText)) :
    (write m dir (before ++ o :: after)).machine.Holds
      (m.destination (o.placeIn dir).toText) o.content := by
  induction before generalizing m with
  | nil =>
    rw [List.nil_append] at hwritten ⊢
    have hchanges := writeOne_changes h (o.placeIn dir) o.content
    have hholds := writeOne_holds h (o.placeIn dir) o.content
    rcases hone : writeOne m (o.placeIn dir) o.content with ⟨m₁, _ | fault⟩
    · rw [hone] at hchanges hholds
      rw [write_of_written hone]
      obtain ⟨executable, hfile⟩ := hholds rfl hplain
      -- None of the outputs that follow goes to the file.
      refine ⟨executable, (write_keeps hchanges.sound dir after).nodes hfile (Or.inr ?_)⟩
      rintro ⟨o', ho', hs⟩
      rw [hchanges.sameFile_iff, Machine.destination_congr hchanges.directory] at hs
      exact hlast o' ho' hs.symm
    · rw [write_of_failed hone] at hwritten
      cases hwritten
  | cons first before ih =>
    rw [List.cons_append] at hwritten ⊢
    have hchanges := writeOne_changes h (first.placeIn dir) first.content
    rcases hone : writeOne m (first.placeIn dir) first.content with ⟨m₁, _ | fault⟩
    · rw [hone] at hchanges
      rw [write_of_written hone] at hwritten ⊢
      have hrest := ih hchanges.sound hwritten
      simp only [Machine.destination_congr hchanges.directory, hchanges.sameFile_iff] at hrest
      exact hrest (hchanges.hasPlain hplain) hlast
    · rw [write_of_failed hone] at hwritten
      cases hwritten

/-- The last output that goes to a file stands there, or something that swallows it and was there
before. -/
theorem write_last {dir : Location} {before after : List Output} {o : Output} (h : m.IsSound)
    (hwritten : (write m dir (before ++ o :: after)).fault? = none)
    (hlast : ∀ o' ∈ after, ¬m.disk.SameFile (m.destination (o'.placeIn dir).toText)
      (m.destination (o.placeIn dir).toText)) :
    m.Receives (write m dir (before ++ o :: after)).machine
      (m.destination (o.placeIn dir).toText) o.content := by
  by_cases hplain : m.HasPlain (m.destination (o.placeIn dir).toText)
  · exact Or.inl (write_holds h hwritten hplain hlast)
  · obtain ⟨n, hn, hnot⟩ : ∃ n, m.disk.node? (m.destination (o.placeIn dir).toText) = some n ∧
        ¬n.IsPlain := by
      simpa [Machine.HasPlain] using hplain
    have hchange := (write_changes h dir (before ++ o :: after)).places
      (m.destination (o.placeIn dir).toText)
    rw [hn] at hchange
    exact Or.inr ⟨n, hnot, hn, hchange.eq_of_not_isPlain hnot⟩

/-- If no two outputs go to one file, then each of them stands where it belongs. -/
theorem write_holds_all {dir : Location} {outputs : List Output} (h : m.IsSound)
    (hwritten : (write m dir outputs).fault? = none)
    (hplain : ∀ o ∈ outputs, m.HasPlain (m.destination (o.placeIn dir).toText))
    (hapart : (outputs.map fun o => m.disk.owner (m.destination (o.placeIn dir).toText)).Nodup) :
    ∀ o ∈ outputs,
      (write m dir outputs).machine.Holds (m.destination (o.placeIn dir).toText) o.content := by
  intro o ho
  obtain ⟨before, after, rfl⟩ := List.append_of_mem ho
  refine write_holds h hwritten (hplain o ho) fun o' ho' hs => ?_
  rw [List.map_append, List.map_cons] at hapart
  have hnot := (List.nodup_cons.mp hapart.of_append_right).1
  exact hnot (List.mem_map.mpr ⟨o', ho', hs⟩)

end Delivery

end ServiceWiring
