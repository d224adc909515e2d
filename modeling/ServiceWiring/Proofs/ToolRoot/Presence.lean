import ServiceWiring.Proofs.Batch.Repetition
import ServiceWiring.Proofs.Disk.Find

/-!
# Whether a stub is present

A stub is looked for below the directory of the tool, under the path that joins the two. On a disk
without links the answer is right: if it is no, then nothing stands where the name of the stub leads
from that directory. A no may also mean that the path is too long, so it must not be.

The real directory of the tool is found wherever the way to it can be walked.

Results:
* `node?_of_absent`: where a stub is not present nothing stands.
* `resolve_of_find`: the real path of a directory is that of its place.
-/

namespace ServiceWiring

open Path (isAbsolute slash steps)
open Utf8 (IsWritable spell)

variable {m : Machine} {dir place : Place} {path file name : Text} {node : Node}
  {errand : Errand} {l : Location}

namespace Machine

/-! ## Below a directory -/

/-- A path below a directory is walked as from the directory itself. -/
theorem walk_join (h : m.disk.IsTree) (hdir : m.disk.node? dir = some .directory)
    (herrand : errand ≠ .write) (path : Text) (links : Nat) :
    m.disk.walk errand links (m.startOf (Path.join (pathOf dir) path))
        (steps (Path.join (pathOf dir) path)) =
      m.disk.walk errand links (if isAbsolute path then [] else dir) (steps path) := by
  unfold startOf
  rw [Path.isAbsolute_join (isAbsolute_pathOf dir)]
  cases habs : isAbsolute path with
  | true =>
    have hjoin : Path.join (pathOf dir) path = path := if_pos habs
    rw [hjoin]
    rfl
  | false =>
    rw [Path.steps_join habs, steps_pathOf (h.isName_of_mem hdir)]
    exact h.walk_into herrand hdir

/-- **What a walk from a directory ends at is found** under the path that joins the two. -/
theorem find_join (h : m.disk.IsTree) (hdir : m.disk.node? dir = some .directory)
    (herrand : errand ≠ .write) (hpath : IsWritable (Path.join (pathOf dir) path))
    (hfits : Fits (Path.join (pathOf dir) path)) (hne : path ≠ [])
    (hlast : path.getLast? ≠ some slash)
    (hw : m.disk.walk errand Disk.maxLinks (if isAbsolute path then [] else dir) (steps path) =
      .ok place) (hnode : m.disk.node? place = some node) :
    m.find errand (Path.join (pathOf dir) path) = .ok (place, node) := by
  obtain ⟨hne, hlast⟩ := Path.getLast?_join hne hlast (pathOf dir)
  refine find_of_walk hpath hfits hne hlast ?_ hnode
  rw [walk_join h hdir herrand, hw]

end Machine

namespace ToolRoot

/-! ## Stubs -/

theorem answer_eq_false (h : answer (some path) file m = .ok false) :
    ∃ r full, m.find .look (Path.join path file) = .error (.refused r full) := by
  unfold answer isPresent at h
  have hmachine : SessionM.machine.result { machine := m } = .ok m := rfl
  simp only at h
  rw [SessionM.result_seq, hmachine] at h
  simp only at h
  split at h
  · cases h
  · rename_i full hfind
    exact ⟨_, full, hfind⟩
  · rename_i r full _ hfind
    exact ⟨r, full, hfind⟩
  · cases h

/-- **Where a stub is not present nothing stands.** -/
theorem node?_of_absent (h : m.disk.IsTree) (hdir : m.disk.node? dir = some .directory)
    (hfits : Machine.Fits (Path.join (Machine.pathOf dir) (OutputName.stub file)))
    (habsent : answer (some (Machine.pathOf dir)) (OutputName.stub file) m = .ok false) :
    m.disk.node? (Place.follow (if isAbsolute (OutputName.stub file) then [] else dir)
      (steps (OutputName.stub file))) = none := by
  obtain ⟨r, full, hrefused⟩ := answer_eq_false habsent
  obtain ⟨k, downs, hsteps, hdowns⟩ := OutputName.steps_stub file
  rw [Option.eq_none_iff_forall_ne_some]
  intro node hnode
  have hstart : m.disk.node? (if isAbsolute (OutputName.stub file) then [] else dir) =
      some .directory := by
    split
    · exact Disk.node?_root _
    · exact hdir
  -- A stub goes back first and down then, so the walk ends at what stands there.
  rw [hsteps] at hnode
  have hups : ∀ n ∈ List.replicate k upName, n = [] ∨ n = hereName ∨ n = upName :=
    fun n hn => Or.inr (Or.inr (List.mem_replicate.mp hn).2)
  have hwalk (links : Nat) := h.walk_of_node? .look links hups hdowns hstart hnode
  rw [← hsteps] at hwalk hnode
  have hfound := Machine.find_join h hdir (by simp) (Machine.isWritable_of_refused hrefused) hfits
    (OutputName.stub_ne_nil file) (OutputName.getLast?_stub file) (hwalk _) hnode
  cases hrefused.symm.trans hfound

/-! ## The directory of the tool -/

/-- Every directory has a path that is short enough for a disk. -/
def IsRoomy (m : Machine) : Prop :=
  ∀ q, m.disk.node? q = some .directory → Machine.Fits (Machine.pathOf q)

/-- A name that stands in a directory is found there. -/
theorem find_name (h : m.disk.IsTree) (hroomy : IsRoomy m)
    (hdir : m.disk.node? (dir ++ [spell name]) = some .directory) (hs : slash ∉ name)
    (hname : IsWritable name) : m.find .lookAtName (Path.join (Machine.pathOf dir) name) =
      .ok (dir ++ [spell name], .directory) := by
  have hnames := h.isName_of_mem hdir
  have hparent := h.parent hdir
  have hne : name ≠ [] := by
    rintro rfl
    exact (hnames [] (by simp)).ne_nil rfl
  have hlast : name.getLast? ≠ some slash := fun hlast => hs (List.mem_of_getLast? hlast)
  have hwritable := Machine.isWritable_join
    (Machine.isWritable_pathOf (h.isName_of_mem hparent)) hname
  refine Machine.find_join h hparent (by simp) hwritable
    (Machine.fits_join_pathOf hnames hs hname (hroomy _ hdir)) hne hlast ?_ hdir
  rw [Machine.isAbsolute_of_notMem hs, Path.steps_name hne hs]
  exact h.walk_down hdir

/-- Where no link is, names are resolved as a walk goes. -/
theorem resolveFrom_of_walk (h : m.disk.IsTree) (hroomy : IsRoomy m) {names : List Text}
    (hplain : Path.ArePlain names) (hnames : ∀ n ∈ names, IsWritable n) {links : Nat}
    (hw : m.disk.walk errand links dir (names.map spell) = .ok place)
    (hplace : m.disk.node? place = some .directory) (opened : List Place) (depth : Nat) :
    resolveFrom m opened depth dir names = .ok place := by
  induction names generalizing dir with
  | nil =>
    rw [List.map_nil, Disk.walk] at hw
    rw [resolveFrom, Except.ok.inj hw]
  | cons name names ih =>
    obtain ⟨⟨hne, hs⟩, hplain'⟩ := List.forall_mem_cons.mp hplain
    obtain ⟨hname, hnames'⟩ := List.forall_mem_cons.mp hnames
    rw [resolveFrom]
    rcases h.walk_cons hw with ⟨hback, hw⟩ | ⟨⟨h₁, h₂, h₃, -⟩, ⟨hnode, hw⟩ | ⟨hnode, -, rfl⟩⟩
    · rcases hback with he | he | he
      · exact absurd (Utf8.spell_eq_nil he) hne
      · obtain rfl := Utf8.eq_of_spell_eq_map "." (by decide) he
        exact ih hplain' hnames' hw
      · obtain rfl := Utf8.eq_of_spell_eq_map ".." (by decide) he
        exact ih hplain' hnames' hw
    · have hhere : ¬(name = "" ∨ name = ".") := by
        rintro (rfl | rfl)
        · exact h₁ rfl
        · exact h₂ rfl
      have hup : name ≠ ".." := by
        rintro rfl
        exact h₃ rfl
      rw [if_neg (by simpa using hhere), if_neg hup]
      simp only [find_name h hroomy hnode hs hname]
      exact ih hplain' hnames' hw
    · -- What a walk stops at is no directory, but `place` is one.
      exact absurd hplace hnode

theorem isWritable_of_mem_names (h : IsWritable l.toText) (hname : name ∈ l.names) :
    IsWritable name := by
  rw [Utf8.isWritable_iff] at h ⊢
  intro c hc
  have hjoin : c ∈ Text.joinWith "/" l.names := Text.mem_joinWith_of_mem hname hc _
  refine h c ?_
  unfold Location.toText Path.ofNames
  simp only
  rw [if_neg (by simpa using fun _ => List.ne_nil_of_mem hjoin)]
  exact List.mem_append_right _ hjoin

/-- **The real path of a directory is that of its place**, if the directory can be found. -/
theorem resolve_of_find (h : m.disk.IsTree) (hroomy : IsRoomy m) (hplain : Path.ArePlain l.names)
    (hfind : m.find .look l.toText = .ok (place, .directory)) :
    resolve m l = .ok (Machine.pathOf place) := by
  obtain ⟨hplace, hnode⟩ := Machine.destination_of_find h hfind
  rw [Machine.destination_toText hplain] at hplace
  have hresolve : resolveFrom m [] (linkCount m.disk + 1)
      (if l.root = .none then m.directory else []) l.names = .ok place := by
    by_cases hnil : l.names = []
    · rw [hnil] at hplace ⊢
      rw [resolveFrom, hplace]
      rfl
    · obtain ⟨hpath, hw⟩ := Machine.walk_of_find hfind
        (Path.getLast?_ofNames hplain hnil l.root)
      have hsteps : steps l.toText = l.names.map spell :=
        Path.steps_ofNames hplain (Or.inr hnil)
      have hstart : m.startOf l.toText = if l.root = .none then m.directory else [] := by
        unfold Machine.startOf Location.toText
        rw [Path.isAbsolute_ofNames hplain]
        by_cases hroot : l.root = .none <;> simp [hroot]
      rw [hsteps, hstart] at hw
      exact resolveFrom_of_walk h hroomy hplain
        (fun n hn => isWritable_of_mem_names hpath hn) hw hnode _ _
  unfold resolve
  simp only
  rw [hresolve]
  rfl

end ToolRoot

end ServiceWiring
