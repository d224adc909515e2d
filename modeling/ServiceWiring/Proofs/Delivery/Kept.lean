import ServiceWiring.Delivery
import ServiceWiring.Proofs.Disk.Find

/-!
# What a delivery changes and what it leaves alone

Making directories only adds some, and writing a file changes nothing but what stands where its path
leads, and at the other places of the file there: a file is new, or holds something else. So of each
place `Change` says what may become of it, and `Machine.Changes` says so of the whole disk. A
delivery keeps every directory, and everything that stands where none of its outputs go, whether it
ends early or not. The disk stays a tree, and places that are of one file stay so.

Results:
* `Machine.writeFile_cases`: what a write does, from which everything else about it follows.

Headlines:
* **`Delivery.write_changes`**: what a delivery changes.
* **`Delivery.write_keeps`**: what a delivery keeps.
-/

namespace ServiceWiring

variable {m m' m'' : Machine} {lost lost' written written' : Place → Prop} {path : Text}
  {l : Location}

/-! ## One place -/

/-- Whether a regular file may be run. Nothing else has an answer. -/
def Node.executable? : Node → Option Bool
  | .file _ executable => some executable
  | _ => none

/-- A directory or a regular file: not a thing that swallows what is written. -/
def Node.IsPlain (n : Node) : Prop := n = .directory ∨ n.executable?.isSome

/-- What may become of what stands at a place, if anything does. -/
inductive Change (mayWrite : Prop) : Option Node → Option Node → Prop where
  /-- Nothing happens. -/
  | stays (n? : Option Node) : Change mayWrite n? n?
  /-- There is a directory now. -/
  | makes : Change mayWrite none (some .directory)
  /-- There is a file now. -/
  | writes (h : mayWrite) (content : Octets) (executable : Bool) :
      Change mayWrite none (some (.file content executable))
  /-- A file holds something else now. -/
  | overwrites (h : mayWrite) (old content : Octets) (executable : Bool) :
      Change mayWrite (some (.file old executable)) (some (.file content executable))

namespace Change

variable {mayWrite mayWrite' : Prop} {n? n?' n?'' : Option Node} {n : Node}

theorem trans (h : Change mayWrite n? n?') (h' : Change mayWrite n?' n?'') :
    Change mayWrite n? n?'' := by
  cases h with
  | stays => exact h'
  | makes =>
    cases h' with
    | stays => exact makes
  | writes hw content executable =>
    cases h' with
    | stays => exact writes hw content executable
    | overwrites _ _ content' => exact writes hw content' _
  | overwrites hw old content executable =>
    cases h' with
    | stays => exact overwrites hw old content executable
    | overwrites _ _ content' => exact overwrites hw old content' executable

theorem mono (h : Change mayWrite n? n?') (hw : mayWrite → mayWrite') :
    Change mayWrite' n? n?' := by
  cases h with
  | stays => exact stays _
  | makes => exact makes
  | writes h => exact writes (hw h) _ _
  | overwrites h => exact overwrites (hw h) _ _ _

/-- Directories stay, and so does what stands where nothing may be written. -/
theorem eq_of_some (h : Change mayWrite (some n) n?) (hn : n = .directory ∨ ¬mayWrite) :
    n? = some n := by
  cases h with
  | stays => rfl
  | overwrites hw =>
    rcases hn with hdirectory | hn
    · cases hdirectory
    · exact absurd hw hn

/-- What swallows whatever is written stays. -/
theorem eq_of_not_isPlain (h : Change mayWrite (some n) n?) (hn : ¬n.IsPlain) : n? = some n := by
  cases h with
  | stays => rfl
  | overwrites => exact absurd (Or.inr rfl) hn

/-- Where nothing may be written there is the same as before, but for directories. -/
theorem eq_some_iff (h : Change mayWrite n? n?') (hw : ¬mayWrite) (hn : n ≠ .directory) :
    n?' = some n ↔ n? = some n := by
  cases h with
  | stays => exact Iff.rfl
  | makes => simpa using Ne.symm hn
  | writes h | overwrites h => exact absurd h hw

/-- A directory becomes nothing else. -/
theorem ne_directory (h : Change mayWrite n? (some n)) (hn : n ≠ .directory) :
    n? ≠ some .directory := by
  rintro rfl
  exact hn (Option.some.inj (h.eq_of_some (Or.inl rfl)))

/-- A regular file stays one, to be run or not as before, and nothing else becomes one. -/
theorem executable?_eq (h : Change mayWrite (some n) n?) :
    ∃ n', n? = some n' ∧ n'.executable? = n.executable? := by
  cases h with
  | stays => exact ⟨n, rfl, rfl⟩
  | overwrites => exact ⟨_, rfl, rfl⟩

end Change

namespace Machine

/-- A machine without links that works in a directory of its disk. -/
structure IsSound (m : Machine) : Prop where
  /-- The disk is a tree. -/
  tree : m.disk.IsTree
  /-- The directory exists. -/
  home : m.disk.node? m.directory = some .directory

/-- The second machine is sound, and the first one has become it by directories that were made and
by files that were written to some places. -/
structure Changes (m m' : Machine) (written : Place → Prop) : Prop where
  /-- The machine is sound. -/
  sound : m'.IsSound
  /-- It works in the same directory. -/
  directory : m'.directory = m.directory
  /-- The same places are of one file. -/
  owner : m'.disk.owner = m.disk.owner
  /-- What became of each place. -/
  places : ∀ q, Change (written q) (m.disk.node? q) (m'.disk.node? q)

namespace Changes

theorem refl (h : m.IsSound) (written : Place → Prop) : m.Changes m written where
  sound := h
  directory := rfl
  owner := rfl
  places := fun _ => .stays _

theorem trans (h : m.Changes m' written) (h' : m'.Changes m'' written) : m.Changes m'' written where
  sound := h'.sound
  directory := h'.directory.trans h.directory
  owner := h'.owner.trans h.owner
  places := fun q => (h.places q).trans (h'.places q)

theorem mono (h : m.Changes m' written) (hwritten : ∀ q, written q → written' q) :
    m.Changes m' written' where
  sound := h.sound
  directory := h.directory
  owner := h.owner
  places := fun q => (h.places q).mono (hwritten q)

theorem sameFile_iff {p q : Place} (h : m.Changes m' written) :
    m'.disk.SameFile p q ↔ m.disk.SameFile p q := by
  unfold Disk.SameFile
  rw [h.owner]

end Changes

/-- The second machine is sound and has what the first one has, but for files at some places. -/
structure Keeps (m m' : Machine) (lost : Place → Prop) : Prop where
  /-- The machine is sound. -/
  sound : m'.IsSound
  /-- It works in the same directory. -/
  directory : m'.directory = m.directory
  /-- The same places are of one file. -/
  owner : m'.disk.owner = m.disk.owner
  /-- Directories stay, and so does what stands elsewhere. -/
  nodes : ∀ {q n}, m.disk.node? q = some n → n = .directory ∨ ¬lost q → m'.disk.node? q = some n

theorem Keeps.refl (h : m.IsSound) (lost : Place → Prop) : m.Keeps m lost where
  sound := h
  directory := rfl
  owner := rfl
  nodes := fun hq _ => hq

theorem Keeps.mono (h : m.Keeps m' lost) (hlost : ∀ q, lost q → lost' q) : m.Keeps m' lost' where
  sound := h.sound
  directory := h.directory
  owner := h.owner
  nodes := fun hq hn => h.nodes hq (hn.imp_right fun h' hl => h' (hlost _ hl))

/-- What is not written is kept. -/
theorem Changes.keeps (h : m.Changes m' written) : m.Keeps m' written where
  sound := h.sound
  directory := h.directory
  owner := h.owner
  nodes := fun {q n} hq hn => by
    have hchange := h.places q
    rw [hq] at hchange
    exact hchange.eq_of_some hn

theorem destination_congr (h : m'.directory = m.directory) (path : Text) :
    m'.destination path = m.destination path := by
  unfold destination startOf
  rw [h]

/-! ## One operation -/

/-- Putting something where a path was located changes nothing but the places of the file there,
unless a directory stands there. -/
theorem put_changes {errand : Errand} {p : Place} {node : Node} (h : m.IsSound)
    (hl : m.locate errand path = .ok p) (hnot : m.disk.node? p ≠ some .directory)
    (hnode : ∀ target, node ≠ .link target)
    (hkind : m.disk.node? p = none ∨ ∃ content executable, node = .file content executable)
    (hchange : ∀ q, m.disk.SameFile q p → Change (written q) (m.disk.node? p) (some node)) :
    m.Changes (m.put p node) written := by
  rcases parent_of_locate h.tree h.home hl with hdir | ⟨q, name, rfl, hdir, hname⟩
  · exact absurd hdir hnot
  · refine ⟨⟨h.tree.put hdir hname hnot hnode hkind, ?_⟩, rfl, rfl, fun q' => ?_⟩
    · exact h.tree.put_directory hnot h.home
    · show Change _ _ ((m.disk.put _ _).node? _)
      rw [h.tree.node?_put (by simp)]
      split
      · rename_i hs
        rw [h.tree.node?_eq hs]
        exact hchange q' hs
      · exact .stays _

theorem makeDirectory_changes (h : m.IsSound) (hm : m.makeDirectory path = .ok m') :
    m.Changes m' fun _ => False := by
  unfold makeDirectory at hm
  cases hl : m.locate .make path with
  | error e =>
    rw [hl] at hm
    cases hm
  | ok p =>
    rw [hl] at hm
    simp only [bind, Except.bind] at hm
    split at hm
    · cases hm
    · rename_i hnone
      obtain rfl := Except.ok.inj hm
      exact put_changes h hl (by simp [hnone]) (by simp) (Or.inl hnone) fun _ _ => hnone ▸ .makes

/-- **Making directories only adds some**, even if it fails halfway. -/
theorem makeDirectories_changes (h : m.IsSound) (l : Location) :
    m.Changes (m.makeDirectories l).1 fun _ => False := by
  fun_induction Machine.makeDirectories m l with
  | case1 l m' hm => exact makeDirectory_changes h hm
  | case2 => exact Changes.refl h _
  | case3 l path hm hl m₁ fault hm₁ hparent =>
    rw [hm₁] at hparent
    exact hparent
  | case4 l path hm hl m₁ hm₁ m₂ hm₂ hparent =>
    rw [hm₁] at hparent
    exact hparent.trans (makeDirectory_changes hparent.sound hm₂)
  | case5 l path hm hl m₁ hm₁ path' hm₂ hparent =>
    rw [hm₁] at hparent
    exact hparent
  | case6 l path hm hl m₁ hm₁ fault hm₂ hne hparent =>
    rw [hm₁] at hparent
    exact hparent
  | case7 => exact Changes.refl h _

/-- What a write puts on the disk is a file, and it stands where the path leads, unless something is
there that swallows it. -/
theorem writeFile_cases {content : Octets} (h : m.disk.IsTree)
    (hm : m.writeFile path content = .ok m') :
    m.locate .write path = .ok (m.destination path) ∧
      ((∃ executable, m' = m.put (m.destination path) (.file content executable) ∧
          Change True (m.disk.node? (m.destination path)) (some (.file content executable))) ∨
        m' = m ∧ ∃ n, m.disk.node? (m.destination path) = some n ∧ ¬n.IsPlain) := by
  unfold writeFile at hm
  cases hl : m.locate .write path with
  | error e =>
    rw [hl] at hm
    cases hm
  | ok p =>
    obtain rfl := destination_of_locate h hl
    refine ⟨rfl, ?_⟩
    rw [hl] at hm
    simp only [bind, Except.bind] at hm
    split at hm
    · rename_i hnone
      exact Or.inl ⟨_, (Except.ok.inj hm).symm, hnone ▸ .writes trivial _ _⟩
    · rename_i hfile
      exact Or.inl ⟨_, (Except.ok.inj hm).symm, hfile ▸ .overwrites trivial _ _ _⟩
    · cases hm
    · rename_i n hfile hdirectory hnode
      refine Or.inr ⟨(Except.ok.inj hm).symm, n, hnode, ?_⟩
      rintro (rfl | hregular)
      · exact hdirectory rfl
      · cases n with
        | file content executable => exact hfile content executable rfl
        | directory | link | device | stream => cases hregular

/-- **Writing a file changes nothing but the file that its path leads to**, at all its places. -/
theorem writeFile_changes {content : Octets} (h : m.IsSound)
    (hm : m.writeFile path content = .ok m') :
    m.Changes m' fun q => m.disk.SameFile q (m.destination path) := by
  obtain ⟨hl, ⟨executable, rfl, hchange⟩ | ⟨rfl, -⟩⟩ := writeFile_cases h.tree hm
  · exact put_changes h hl (hchange.ne_directory (by simp)) (by simp) (Or.inr ⟨_, _, rfl⟩)
      fun _ hs => hchange.mono fun _ => hs
  · exact Changes.refl h _

end Machine

/-! ## Deliveries -/

namespace Delivery

theorem writeOne_changes (h : m.IsSound) (l : Location) (content : Octets) :
    m.Changes (writeOne m l content).1 fun q => m.disk.SameFile q (m.destination l.toText) := by
  have hmade := Machine.makeDirectories_changes h l.parent
  unfold writeOne
  split
  · rename_i m₁ fault hm₁
    rw [hm₁] at hmade
    exact hmade.mono fun _ hfalse => hfalse.elim
  · rename_i m₁ hm₁
    rw [hm₁] at hmade
    have hmade : m.Changes m₁ fun q => m.disk.SameFile q (m.destination l.toText) :=
      hmade.mono fun _ hfalse => hfalse.elim
    split
    · rename_i m₂ hm₂
      have hwritten := Machine.writeFile_changes hmade.sound hm₂
      rw [Machine.destination_congr hmade.directory] at hwritten
      exact hmade.trans (hwritten.mono fun _ => hmade.sameFile_iff.mp)
    · exact hmade

/-- **What a delivery changes**: it makes directories, and writes the files that its outputs go to.
-/
theorem write_changes (h : m.IsSound) (dir : Location) (outputs : List Output) :
    m.Changes (write m dir outputs).machine fun q =>
      ∃ o ∈ outputs, m.disk.SameFile q (m.destination (dir ++ Location.ofText o.name).toText) := by
  induction outputs generalizing m with
  | nil => exact Machine.Changes.refl h _
  | cons output outputs ih =>
    have hone : m.Changes (writeOne m (dir ++ Location.ofText output.name) output.content).1
        fun q => ∃ o ∈ output :: outputs,
          m.disk.SameFile q (m.destination (dir ++ Location.ofText o.name).toText) :=
      (writeOne_changes h _ _).mono fun q hq => ⟨output, List.mem_cons_self, hq⟩
    unfold write
    simp only
    split
    · rename_i m₁ fault hm₁
      rw [hm₁] at hone
      exact hone
    · rename_i m₁ hm₁
      rw [hm₁] at hone
      refine hone.trans ((ih hone.sound).mono ?_)
      rintro q ⟨o, ho, hq⟩
      rw [Machine.destination_congr hone.directory, hone.sameFile_iff] at hq
      exact ⟨o, List.mem_cons_of_mem _ ho, hq⟩

/-- **What a delivery keeps**: every directory, and every file that none of its outputs go to. -/
theorem write_keeps (h : m.IsSound) (dir : Location) (outputs : List Output) :
    m.Keeps (write m dir outputs).machine fun q =>
      ∃ o ∈ outputs, m.disk.SameFile q (m.destination (dir ++ Location.ofText o.name).toText) :=
  (write_changes h dir outputs).keeps

end Delivery

end ServiceWiring
