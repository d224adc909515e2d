import Mathlib.Data.List.Induction
import ServiceWiring.Disk.Walk

/-!
# Disks without links

A disk without links is a tree: everything stands in a directory, under a name. There a path leads
where its names say, whatever stands on the way: `Place.follow` goes down by a name and back by
`..`. A walk ends there if it ends at all, and it does if something stands there and no name is left
again. A file may still have more than one place; anything else has one.

Results:
* `IsTree.walk_eq_follow`: where a walk ends.
* `IsTree.walk_of_node?`: a walk that goes back first and down then finds what stands at its end.
* `IsTree.walk_parent`: the end of a walk stands in a directory, if anything may be put there.
* `IsTree.put`: a tree stays a tree when something that is no link is put into a directory.
* `IsTree.addName`: so it does when a file gets one more place.
-/

namespace ServiceWiring

/-! ## Places by their names -/

/-- One step from a place. -/
def Place.step (dir : Place) (name : DiskName) : Place :=
  if name.isEmpty || name = hereName then dir
  else if name = upName then dir.dropLast
  else dir ++ [name]

/-- Where names lead from a place. -/
def Place.follow (dir : Place) (names : List DiskName) : Place := names.foldl Place.step dir

/-- A name that something can stand under. -/
structure IsName (n : DiskName) : Prop where
  /-- It is not empty. -/
  ne_nil : n ≠ []
  /-- It is not the directory itself. -/
  ne_here : n ≠ hereName
  /-- It is not the directory before. -/
  ne_up : n ≠ upName
  /-- It holds no slash. -/
  no_slash : slashOctet ∉ n
  /-- It holds no null character. -/
  no_null : 0 ∉ n
  /-- It is not too long. -/
  short : n.length ≤ Disk.maxName

instance : DecidablePred IsName := fun n => decidable_of_iff
  (n ≠ [] ∧ n ≠ hereName ∧ n ≠ upName ∧ slashOctet ∉ n ∧ 0 ∉ n ∧ n.length ≤ Disk.maxName)
  ⟨fun ⟨h₁, h₂, h₃, h₄, h₅, h₆⟩ => ⟨h₁, h₂, h₃, h₄, h₅, h₆⟩,
    fun h => ⟨h.ne_nil, h.ne_here, h.ne_up, h.no_slash, h.no_null, h.short⟩⟩

namespace Place

variable {dir : Place} {name : DiskName} {names : List DiskName}

@[simp]
theorem follow_nil (dir : Place) : follow dir [] = dir := rfl

@[simp]
theorem follow_cons (dir : Place) (name : DiskName) (names : List DiskName) :
    follow dir (name :: names) = follow (step dir name) names := rfl

theorem follow_append (dir : Place) (names more : List DiskName) :
    follow dir (names ++ more) = follow (follow dir names) more := List.foldl_append

@[simp]
theorem step_nil (dir : Place) : step dir [] = dir := rfl

@[simp]
theorem step_here (dir : Place) : step dir hereName = dir := rfl

@[simp]
theorem step_up (dir : Place) : step dir upName = dir.dropLast := rfl

theorem step_of_ne (h₁ : name ≠ []) (h₂ : name ≠ hereName) (h₃ : name ≠ upName) :
    step dir name = dir ++ [name] := by
  unfold step
  rw [if_neg (by simp [h₁, h₂]), if_neg h₃]

theorem follow_of_ne (h : ∀ n ∈ names, n ≠ [] ∧ n ≠ hereName ∧ n ≠ upName) :
    follow dir names = dir ++ names := by
  induction names generalizing dir with
  | nil => simp
  | cons name names ih =>
    obtain ⟨⟨h₁, h₂, h₃⟩, hnames⟩ := List.forall_mem_cons.mp h
    rw [follow_cons, step_of_ne h₁ h₂ h₃, ih hnames]
    simp

/-- Empty names lead nowhere. -/
theorem follow_filter (dir : Place) (names : List DiskName) :
    follow dir (names.filter (!·.isEmpty)) = follow dir names := by
  induction names generalizing dir with
  | nil => rfl
  | cons name names ih =>
    cases name with
    | nil => simpa using ih dir
    | cons b r => simpa using ih _

end Place

namespace Disk

variable {d : Disk} {p q dir : Place} {n node : Node} {errand : Errand} {links : Nat}
  {name : DiskName} {names : List DiskName}

/-! ## What stands where -/

theorem node?_root (d : Disk) : d.node? [] = some .directory := rfl

theorem eq_nil_of_node?_empty (h : (∅ : Disk).node? p = some n) : p = [] := by
  unfold node? at h
  split at h
  · simpa using ‹p.isEmpty = true›
  · cases h

@[simp]
theorem owner_empty (p : Place) : (∅ : Disk).owner p = p := rfl

@[simp]
theorem owner_put (d : Disk) (p : Place) (n : Node) : (d.put p n).owner = d.owner := rfl

theorem owner_addName (d : Disk) (p q r : Place) :
    (d.addName p q).owner r = if r = q then d.owner p else d.owner r := by
  unfold addName owner
  by_cases hr : r = q
  · simp [hr]
  · simp [hr, List.lookup_cons, show (r == q) = false from beq_eq_false_iff_ne.mpr hr]

theorem SameFile.refl (d : Disk) (p : Place) : d.SameFile p p := rfl

theorem SameFile.symm (h : d.SameFile p q) : d.SameFile q p := Eq.symm h

/-- Below the root, what stands at a place is what stands at its owner. -/
theorem node?_of_ne (hp : p ≠ []) :
    d.node? p = (d.nodes.find? (·.1 = d.owner p)).map (·.2) := by
  unfold node?
  rw [if_neg (by simpa using hp)]

theorem SameFile.node?_eq (h : d.SameFile p q) (hp : p ≠ []) (hq : q ≠ []) :
    d.node? p = d.node? q := by
  rw [node?_of_ne hp, node?_of_ne hq, show d.owner p = d.owner q from h]

/-- **What stands where** when something is put at a place: that, at all places of the file. -/
theorem node?_put (d : Disk) (p : Place) (n : Node) (q : Place) :
    (d.put p n).node? q = if q ≠ [] ∧ d.SameFile q p then some n else d.node? q := by
  by_cases hroot : q = []
  · rw [if_neg (fun h => h.1 hroot), hroot, node?_root, node?_root]
  rw [node?_of_ne hroot, node?_of_ne hroot, owner_put]
  show ((_ :: d.nodes.filter _).find? _).map _ = _
  by_cases hq : d.SameFile q p
  · rw [if_pos ⟨hroot, hq⟩, List.find?_cons_of_pos (by simpa using Eq.symm hq)]
    rfl
  · rw [if_neg (fun h => hq h.2), List.find?_cons_of_neg (by simpa using Ne.symm hq),
      List.find?_filter]
    congr 2
    funext x
    by_cases hx : x.1 = d.owner q
    · simpa [hx] using show d.owner q ≠ d.owner p from hq
    · simp [hx]

/-- What stands where when a file gets one more place. -/
theorem node?_addName (hp : p ≠ []) (d : Disk) (q r : Place) :
    (d.addName p q).node? r = if r ≠ [] ∧ r = q then d.node? p else d.node? r := by
  by_cases hroot : r = []
  · rw [if_neg (fun h => h.1 hroot), hroot, node?_root, node?_root]
  rw [node?_of_ne hroot, owner_addName]
  show (d.nodes.find? _).map _ = _
  by_cases hr : r = q
  · rw [if_pos hr, if_pos ⟨hroot, hr⟩, node?_of_ne hp]
  · rw [if_neg hr, if_neg (fun h => hr h.2), node?_of_ne hroot]

/-- Every file has one place. -/
def IsUnshared (d : Disk) : Prop := ∀ p q, d.SameFile p q → p = q

namespace IsUnshared

theorem empty : (∅ : Disk).IsUnshared := fun _ _ h => h

theorem put (h : d.IsUnshared) (p : Place) (n : Node) : (d.put p n).IsUnshared := h

theorem node?_put (h : d.IsUnshared) (hp : p ≠ []) (n : Node) (q : Place) :
    (d.put p n).node? q = if q = p then some n else d.node? q := by
  rw [Disk.node?_put]
  by_cases hq : q = p
  · rw [if_pos hq, if_pos ⟨hq ▸ hp, hq ▸ SameFile.refl d q⟩]
  · rw [if_neg hq, if_neg fun hs => hq (h _ _ hs.2)]

end IsUnshared

/-- A disk without links. -/
structure IsTree (d : Disk) : Prop where
  /-- Everything stands in a directory. -/
  parent : ∀ {p name node}, d.node? (p ++ [name]) = some node → d.node? p = some .directory
  /-- Everything stands under a name. -/
  name : ∀ {p name node}, d.node? (p ++ [name]) = some node → IsName name
  /-- Nothing is a link. -/
  linkless : ∀ {p target}, d.node? p ≠ some (.link target)
  /-- What has more than one place is a file. -/
  shared : ∀ {p q}, d.SameFile p q → p ≠ q →
    ∃ content executable, d.node? p = some (.file content executable)

namespace IsTree

theorem empty : (∅ : Disk).IsTree where
  parent := fun h => absurd (eq_nil_of_node?_empty h) (by simp)
  name := fun h => absurd (eq_nil_of_node?_empty h) (by simp)
  linkless := by
    intro p target h
    cases eq_nil_of_node?_empty h
    cases h
  shared := fun h hne => absurd h hne

/-- What is no file has one place. -/
theorem eq_of_sameFile (h : d.IsTree) (hs : d.SameFile p q)
    (hp : ∀ content executable, d.node? p ≠ some (.file content executable)) : q = p := by
  by_contra hne
  obtain ⟨content, executable, hfile⟩ := h.shared hs (Ne.symm hne)
  exact hp content executable hfile

/-- What stands where when something is put at a place below the root. -/
theorem node?_put (h : d.IsTree) (hp : p ≠ []) (n : Node) (q : Place) :
    (d.put p n).node? q = if d.SameFile q p then some n else d.node? q := by
  rw [Disk.node?_put]
  by_cases hs : d.SameFile q p
  · have hq : q ≠ [] := by
      rintro rfl
      exact hp (h.eq_of_sameFile hs fun _ _ => by simp [node?_root])
    rw [if_pos ⟨hq, hs⟩, if_pos hs]
  · rw [if_neg (fun h => hs h.2), if_neg hs]

theorem dropLast (h : d.IsTree) (hdir : d.node? dir = some .directory) :
    d.node? dir.dropLast = some .directory := by
  rcases List.eq_nil_or_concat dir with rfl | ⟨p, name, rfl⟩
  · exact node?_root d
  · rw [List.concat_eq_append, List.dropLast_concat]
    exact h.parent (by rwa [List.concat_eq_append] at hdir)

theorem isName_of_mem (h : d.IsTree) (hp : d.node? p = some node) : ∀ n ∈ p, IsName n := by
  induction p using List.reverseRecOn generalizing node with
  | nil => simp
  | append_singleton p name ih =>
    exact List.forall_mem_append.mpr ⟨ih (h.parent hp), List.forall_mem_singleton.mpr (h.name hp)⟩

/-! ## Walks -/

/-- A walk that ends and goes down first goes into a directory, or goes down to its end. -/
theorem walk_name (h : d.IsTree) (h₁ : name ≠ []) (h₂ : name ≠ hereName) (h₃ : name ≠ upName)
    (hw : d.walk errand links dir (name :: names) = .ok p) : name.length ≤ maxName ∧
      (d.node? (dir ++ [name]) = some .directory ∧
          d.walk errand links (dir ++ [name]) names = .ok p ∨
        d.node? (dir ++ [name]) ≠ some .directory ∧ (names = [] ∨ names = [[]]) ∧
          p = dir ++ [name]) := by
  rw [walk, if_neg (by simp [h₁, h₂]), if_neg h₃] at hw
  split at hw
  · cases hw
  rename_i hshort
  split at hw
  · cases hw
  refine ⟨Nat.le_of_not_lt hshort, ?_⟩
  -- Where no directory is, a walk goes no further.
  have hend (hnot : d.node? (dir ++ [name]) ≠ some .directory)
      (hlast : (names.isEmpty || errand = .make && names = [[]]) = true)
      (hp : Except.ok (dir ++ [name]) = (.ok p : Except Refusal Place)) :
      d.node? (dir ++ [name]) ≠ some .directory ∧ (names = [] ∨ names = [[]]) ∧
        p = dir ++ [name] := by
    refine ⟨hnot, ?_, (Except.ok.inj hp).symm⟩
    simp only [Bool.or_eq_true, List.isEmpty_iff, Bool.and_eq_true, decide_eq_true_eq] at hlast
    exact hlast.imp_right And.right
  simp only at hw
  split at hw
  · rename_i hnode
    split at hw
    · exact Or.inr (hend (by simp [hnode]) ‹_› hw)
    · cases hw
  · exact Or.inl ⟨‹_›, hw⟩
  · rename_i hnode
    exact absurd hnode h.linkless
  · rename_i hnot _ hnode
    split at hw
    · exact Or.inr (hend (by simpa [hnode] using hnot) ‹_› hw)
    · cases hw

/-- What the first step of a walk that ends was: back or nowhere, down into a directory, or down to
the end. -/
theorem walk_cons (h : d.IsTree) (hw : d.walk errand links dir (name :: names) = .ok p) :
    (name = [] ∨ name = hereName ∨ name = upName) ∧
        d.walk errand links (Place.step dir name) names = .ok p ∨
      (name ≠ [] ∧ name ≠ hereName ∧ name ≠ upName ∧ name.length ≤ maxName) ∧
        (d.node? (dir ++ [name]) = some .directory ∧
            d.walk errand links (dir ++ [name]) names = .ok p ∨
          d.node? (dir ++ [name]) ≠ some .directory ∧ (names = [] ∨ names = [[]]) ∧
            p = dir ++ [name]) := by
  by_cases hback : name = [] ∨ name = hereName ∨ name = upName
  · refine Or.inl ⟨hback, ?_⟩
    rw [walk] at hw
    rcases hback with rfl | rfl | rfl <;> exact hw
  · obtain ⟨h₁, h₂, h₃⟩ : name ≠ [] ∧ name ≠ hereName ∧ name ≠ upName := by
      simpa [not_or] using hback
    obtain ⟨hshort, hdown⟩ := h.walk_name h₁ h₂ h₃ hw
    exact Or.inr ⟨⟨h₁, h₂, h₃, hshort⟩, hdown⟩

/-- **A walk ends where its names lead**, if it ends. -/
theorem walk_eq_follow (h : d.IsTree) (hw : d.walk errand links dir names = .ok p) :
    p = Place.follow dir names := by
  induction names generalizing dir with
  | nil =>
    rw [walk] at hw
    exact (Except.ok.inj hw).symm
  | cons name names ih =>
    rw [Place.follow_cons]
    rcases h.walk_cons hw with ⟨-, hw⟩ | ⟨⟨h₁, h₂, h₃, -⟩, ⟨-, hw⟩ | ⟨-, hnames, rfl⟩⟩
    · exact ih hw
    · rw [Place.step_of_ne h₁ h₂ h₃]
      exact ih hw
    · rw [Place.step_of_ne h₁ h₂ h₃]
      rcases hnames with rfl | rfl <;> rfl

/-- The end of a walk from a directory is a directory, or a name in one. -/
theorem walk_parent (h : d.IsTree) (hdir : d.node? dir = some .directory)
    (hnames : ∀ n ∈ names, slashOctet ∉ n ∧ 0 ∉ n)
    (hw : d.walk errand links dir names = .ok p) :
    d.node? p = some .directory ∨
      ∃ q name, p = q ++ [name] ∧ d.node? q = some .directory ∧ IsName name := by
  induction names generalizing dir with
  | nil =>
    rw [walk] at hw
    exact Or.inl (Except.ok.inj hw ▸ hdir)
  | cons name names ih =>
    obtain ⟨⟨hslash, hnull⟩, hnames⟩ := List.forall_mem_cons.mp hnames
    rcases h.walk_cons hw with ⟨hname, hw⟩ | ⟨⟨h₁, h₂, h₃, hshort⟩, ⟨hnode, hw⟩ | ⟨-, -, rfl⟩⟩
    · refine ih ?_ hnames hw
      rcases hname with rfl | rfl | rfl
      · exact hdir
      · exact hdir
      · exact h.dropLast hdir
    · exact ih hnode hnames hw
    · exact Or.inr ⟨dir, name, rfl, hdir, h₁, h₂, h₃, hslash, hnull, hshort⟩

/-- What leads to something is a directory. -/
theorem directory_of_append (h : d.IsTree) {more : List DiskName} (hmore : more ≠ [])
    (hnode : d.node? (p ++ more) = some node) : d.node? p = some .directory := by
  induction more using List.reverseRecOn generalizing node with
  | nil => exact absurd rfl hmore
  | append_singleton more name ih =>
    have hparent := h.parent (p := p ++ more) (by rwa [← List.append_assoc] at hnode)
    by_cases hnil : more = []
    · rwa [hnil, List.append_nil] at hparent
    · exact ih hnil hparent

theorem walk_back (h : d.IsTree) {ups : List DiskName}
    (hups : ∀ n ∈ ups, n = [] ∨ n = hereName ∨ n = upName) (hdir : d.node? dir = some .directory) :
    d.node? (Place.follow dir ups) = some .directory ∧
      d.walk errand links dir (ups ++ names) =
        d.walk errand links (Place.follow dir ups) names := by
  induction ups generalizing dir with
  | nil => exact ⟨hdir, rfl⟩
  | cons name ups ih =>
    obtain ⟨hname, hrest⟩ := List.forall_mem_cons.mp hups
    rw [List.cons_append, walk, Place.follow_cons]
    rcases hname with rfl | rfl | rfl
    · exact ih hrest hdir
    · exact ih hrest hdir
    · exact ih hrest (h.dropLast hdir)

/-- A walk goes through the directories on its way. -/
theorem walk_into (h : d.IsTree) (herrand : errand ≠ .write) {more : List DiskName}
    (hdir : d.node? (dir ++ names) = some .directory) :
    d.walk errand links dir (names ++ more) = d.walk errand links (dir ++ names) more := by
  induction names generalizing dir with
  | nil => simp
  | cons name names ih =>
    have hname := h.isName_of_mem hdir name (by simp)
    have hsplit : dir ++ name :: names = (dir ++ [name]) ++ names := by simp
    rw [hsplit] at hdir ⊢
    have hnext : d.node? (dir ++ [name]) = some .directory := by
      by_cases hnames : names = []
      · rwa [hnames, List.append_nil] at hdir
      · exact h.directory_of_append hnames hdir
    rw [List.cons_append, walk, if_neg (by simp [hname.ne_nil, hname.ne_here]),
      if_neg hname.ne_up, if_neg (Nat.not_lt.mpr hname.short), if_neg (by simp [herrand])]
    simp only [hnext]
    exact ih hdir

theorem walk_down (h : d.IsTree) (hnode : d.node? (dir ++ names) = some node) :
    d.walk errand links dir names = .ok (dir ++ names) := by
  induction names generalizing dir with
  | nil => rw [walk, List.append_nil]
  | cons name names ih =>
    have hname := h.isName_of_mem hnode name (by simp)
    have hsplit : dir ++ name :: names = (dir ++ [name]) ++ names := by simp
    rw [hsplit] at hnode ⊢
    have hlast : ¬(errand = .write ∧ names = [[]]) := by
      rintro ⟨-, rfl⟩
      exact (h.isName_of_mem hnode [] (by simp)).ne_nil rfl
    rw [walk, if_neg (by simp [hname.ne_nil, hname.ne_here]), if_neg hname.ne_up,
      if_neg (Nat.not_lt.mpr hname.short), if_neg (by simpa using hlast)]
    by_cases hnames : names = []
    · subst hnames
      rw [List.append_nil] at hnode
      simp only [hnode]
      cases node with
      | directory =>
        have hend : d.walk errand links (dir ++ [name]) [] = .ok ((dir ++ [name]) ++ []) :=
          ih (by simpa using hnode)
        simpa using hend
      | link target => exact absurd hnode h.linkless
      | _ => simp
    · simp only [h.directory_of_append hnames hnode]
      exact ih hnode

/-- **A walk that goes back first and down then finds what stands at its end.** -/
theorem walk_of_node? (h : d.IsTree) (errand : Errand) (links : Nat) {ups : List DiskName}
    (hups : ∀ n ∈ ups, n = [] ∨ n = hereName ∨ n = upName)
    (hnames : ∀ n ∈ names, n ≠ [] ∧ n ≠ hereName ∧ n ≠ upName)
    (hdir : d.node? dir = some .directory)
    (hnode : d.node? (Place.follow dir (ups ++ names)) = some node) :
    d.walk errand links dir (ups ++ names) = .ok (Place.follow dir (ups ++ names)) := by
  rw [Place.follow_append, Place.follow_of_ne hnames] at hnode ⊢
  rw [(h.walk_back hups hdir).2]
  exact h.walk_down hnode

/-! ## Putting something there -/

/-- Where no directory stood, directories stay. -/
theorem put_directory (h : d.IsTree) (hp : d.node? p ≠ some .directory)
    (hq : d.node? q = some .directory) : (d.put p n).node? q = some .directory := by
  have hnil : p ≠ [] := fun he => hp (he ▸ node?_root d)
  rw [h.node?_put hnil, if_neg ?_, hq]
  intro hs
  exact hp ((h.eq_of_sameFile hs fun _ _ => by simp [hq]) ▸ hq)

/-- At all places of a file the same stands. -/
theorem node?_eq (h : d.IsTree) (hs : d.SameFile p q) : d.node? p = d.node? q := by
  by_cases hpq : p = q
  · rw [hpq]
  have hne {p q : Place} (hs : d.SameFile p q) (hpq : p ≠ q) : p ≠ [] := by
    rintro rfl
    exact hpq (h.eq_of_sameFile hs fun _ _ => by simp [node?_root]).symm
  exact hs.node?_eq (hne hs hpq) (hne hs.symm (Ne.symm hpq))

/-- What has a place of the same file has one that something stands at. -/
theorem exists_node?_of_sameFile (h : d.IsTree) (hs : d.SameFile p q) :
    p = q ∨ ∃ node, d.node? p = some node := by
  by_cases hpq : p = q
  · exact Or.inl hpq
  · obtain ⟨content, executable, hfile⟩ := h.shared hs hpq
    exact Or.inr ⟨_, hfile⟩

/-- Where directories stay and the only new place is a name in one, everything stands in a directory
and under a name. -/
theorem below_of_new (h : d.IsTree) (hdir : d.node? dir = some .directory) (hname : IsName name)
    {d' : Disk} (hkept : ∀ {r}, d.node? r = some .directory → d'.node? r = some .directory)
    (hnew : ∀ {r node}, d'.node? r = some node → r = dir ++ [name] ∨ ∃ node, d.node? r = some node)
    {name' : DiskName} (hq : d'.node? (q ++ [name']) = some node) :
    d'.node? q = some .directory ∧ IsName name' := by
  rcases hnew hq with he | ⟨node, hnode⟩
  · obtain ⟨rfl, hlast⟩ := List.append_inj' he rfl
    exact ⟨hkept hdir, List.singleton_inj.mp hlast ▸ hname⟩
  · exact ⟨hkept (h.parent hnode), h.name hnode⟩

/-- **A tree stays a tree** when something that is no link is put into a directory, not in the place
of one, and in the place of a file only if it is a file too. -/
theorem put (h : d.IsTree) (hdir : d.node? dir = some .directory) (hname : IsName name)
    (hnot : d.node? (dir ++ [name]) ≠ some .directory) (hn : ∀ target, n ≠ .link target)
    (hkind : d.node? (dir ++ [name]) = none ∨ ∃ content executable, n = .file content executable) :
    (d.put (dir ++ [name]) n).IsTree := by
  have hnode := h.node?_put (p := dir ++ [name]) (by simp) n
  have hnew {r : Place} {node : Node} (hr : (d.put (dir ++ [name]) n).node? r = some node) :
      r = dir ++ [name] ∨ ∃ node, d.node? r = some node := by
    rw [hnode] at hr
    split at hr
    · exact h.exists_node?_of_sameFile ‹_›
    · exact Or.inr ⟨node, hr⟩
  refine ⟨fun hq => (h.below_of_new hdir hname (h.put_directory hnot) hnew hq).1,
    fun hq => (h.below_of_new hdir hname (h.put_directory hnot) hnew hq).2,
    fun {q target} hq => ?_, fun {q r} hs hne => ?_⟩
  · rw [hnode] at hq
    split at hq
    · exact hn target (Option.some.inj hq)
    · exact h.linkless hq
  · rw [hnode]
    split
    · rename_i hp
      rcases hkind with hnone | ⟨content, executable, rfl⟩
      · -- Where nothing stood no other place is of the same file, so the two were one.
        have hone (r : Place) (hr : d.SameFile (dir ++ [name]) r) : r = dir ++ [name] :=
          h.eq_of_sameFile hr fun _ _ => by simp [hnone]
        exact absurd ((hone q hp.symm).trans (hone r (hp.symm.trans hs)).symm) hne
      · exact ⟨content, executable, rfl⟩
    · exact h.shared hs hne

/-- A tree stays a tree when something new that is no link is put into a directory. -/
theorem put_new (h : d.IsTree) (hdir : d.node? dir = some .directory) (hname : IsName name)
    (hnone : d.node? (dir ++ [name]) = none) (hn : ∀ target, n ≠ .link target) :
    (d.put (dir ++ [name]) n).IsTree :=
  h.put hdir hname (by simp [hnone]) hn (Or.inl hnone)

/-- **A tree stays a tree** when a file gets one more place, where nothing stood. -/
theorem addName (h : d.IsTree) {content : Octets} {executable : Bool}
    (hfile : d.node? p = some (.file content executable))
    (hdir : d.node? dir = some .directory) (hname : IsName name)
    (hnone : d.node? (dir ++ [name]) = none) : (d.addName p (dir ++ [name])).IsTree := by
  have hp : p ≠ [] := by
    rintro rfl
    cases hfile
  have hnode (r : Place) : (d.addName p (dir ++ [name])).node? r =
      if r = dir ++ [name] then some (.file content executable) else d.node? r := by
    rw [node?_addName hp]
    by_cases hr : r = dir ++ [name]
    · rw [if_pos ⟨by simp [hr], hr⟩, if_pos hr, hfile]
    · rw [if_neg (fun h => hr h.2), if_neg hr]
  have hkept {r : Place} (hr : d.node? r = some .directory) :
      (d.addName p (dir ++ [name])).node? r = some .directory := by
    rw [hnode, if_neg (by rintro rfl; cases hnone.symm.trans hr), hr]
  have hnew {r : Place} {node : Node} (hr : (d.addName p (dir ++ [name])).node? r = some node) :
      r = dir ++ [name] ∨ ∃ node, d.node? r = some node := by
    rw [hnode] at hr
    split at hr
    · exact Or.inl ‹_›
    · exact Or.inr ⟨node, hr⟩
  refine ⟨fun hq => (h.below_of_new hdir hname hkept hnew hq).1,
    fun hq => (h.below_of_new hdir hname hkept hnew hq).2, fun {q target} hq => ?_,
    fun {q r} hs hne => ?_⟩
  · rw [hnode] at hq
    split at hq
    · cases hq
    · exact h.linkless hq
  · rw [hnode]
    split
    · exact ⟨content, executable, rfl⟩
    · rename_i hq
      unfold SameFile at hs
      rw [owner_addName, owner_addName, if_neg hq] at hs
      split at hs
      · -- The other place is the new one, so this one is of the file that gets it.
        by_cases hqp : q = p
        · exact ⟨content, executable, hqp ▸ hfile⟩
        · exact h.shared hs hqp
      · exact h.shared hs hne

end IsTree

end Disk

end ServiceWiring
