import Mathlib.Data.List.TakeWhile
import ServiceWiring.Proofs.Path.Steps

/-!
# Normal forms

A path in normal form is a root, some steps back and some names down, and a root has no step back.
What a path does to the way that it is followed from depends on these alone: first it takes back as
many names as it goes back, and then it adds the names that it goes down. So the normal form of a
path that is seen from a directory comes from the normal forms of both.

Results:
* `normalize_eq_iff`, `normalize_normalize`: a normal form is its root and its names.
* `advance_eq`: what a path does to the way that it is followed from.
* `Location.names_append`: the normal form of a path that is seen from a directory.
-/

namespace ServiceWiring

open Utf8 (spell)

namespace Path

variable {t u n : Text} {ns ns' : List Text} {r r' : Root} {way : List Text}

/-! ## The root -/

/-- The root of a path is decided by what comes before its first name. -/
theorem root_append (h : isAbsolute u = false ∨ ∃ c ∈ t, c ≠ slash) : root (t ++ u) = root t := by
  have htake : (t ++ u).takeWhile (· = slash) = t.takeWhile (· = slash) := by
    rw [List.takeWhile_append]
    split
    · rename_i hall
      have hself : t.takeWhile (· = slash) = t := (List.takeWhile_prefix _).eq_of_length hall
      have hslashes : ∀ c ∈ t, c = slash := fun c hc => by
        simpa using List.mem_takeWhile_imp (hself.symm ▸ hc : c ∈ t.takeWhile (· = slash))
      have hu : isAbsolute u = false := h.resolve_right fun ⟨c, hc, hne⟩ => hne (hslashes c hc)
      have hnone : u.takeWhile (· = slash) = [] := by
        cases u with
        | nil => rfl
        | cons c u => exact List.takeWhile_cons_of_neg (by simpa [isAbsolute] using hu)
      rw [hnone, List.append_nil, hself]
    · rfl
  unfold root
  rw [htake]

theorem root_toText_append (h : isAbsolute u = false) (r : Root) : root (r.toText ++ u) = r := by
  rw [root_append (Or.inl h)]
  cases r <;> decide

theorem root_ofNames (h : ArePlain ns) (r : Root) : root (ofNames r ns) = r := by
  unfold ofNames
  simp only
  split
  · rename_i hnil
    have hr : r.toText = [] := (List.append_eq_nil_iff.mp (List.isEmpty_iff.mp hnil)).1
    cases r with
    | none => decide
    | single => cases hr
    | double => cases hr
  · exact root_toText_append (isAbsolute_joinWith h) r

/-! ## Following a path -/

/-- The names on the way after a path, last one first. -/
def advance (r : Root) (way : List Text) (t : Text) : List Text :=
  (Text.splitOn slash t).foldl (step r) way

theorem names_eq_advance (t : Text) : names t = (advance (root t) [] t).reverse := rfl

theorem advance_append (r : Root) (way : List Text) (t u : Text) :
    advance r way (t ++ slash :: u) = advance r (advance r way t) u := by
  unfold advance
  rw [Text.splitOn_append, List.foldl_append]

@[simp]
theorem advance_slash (r : Root) (way : List Text) (t : Text) :
    advance r way (slash :: t) = advance r way t := advance_append r way [] t

theorem advance_concat_slash (r : Root) (way : List Text) (t : Text) :
    advance r way (t ++ [slash]) = advance r way t := advance_append r way t []

theorem advance_of_notMem (h : slash ∉ n) (r : Root) (way : List Text) :
    advance r way n = step r way n := by
  unfold advance
  rw [Text.splitOn_of_notMem h]
  rfl

theorem advance_root (r : Root) (way : List Text) (r' : Root) (t : Text) :
    advance r way (r'.toText ++ t) = advance r way t := by
  cases r' with
  | none => rfl
  | single => exact advance_slash r way t
  | double => exact (advance_slash r way _).trans (advance_slash r way t)

theorem advance_joinWith (h : ArePlain ns) (r : Root) (way : List Text) :
    advance r way (Text.joinWith "/" ns) = ns.foldl (step r) way := by
  induction ns generalizing way with
  | nil => rfl
  | cons n ns ih =>
    obtain ⟨⟨-, hs⟩, hns⟩ := List.forall_mem_cons.mp h
    cases ns with
    | nil => simpa [Text.joinWith] using advance_of_notMem hs r way
    | cons n' ns =>
      rw [Text.joinWith_cons_cons]
      show advance r way (n ++ slash :: Text.joinWith "/" (n' :: ns)) = _
      rw [advance_append, advance_of_notMem hs, ih hns]
      rfl

theorem advance_ofNames (h : ArePlain ns) (r : Root) (way : List Text) (r' : Root) :
    advance r way (ofNames r' ns) = ns.foldl (step r) way := by
  unfold ofNames
  simp only
  split
  · rename_i hnil
    have hns : ns = [] :=
      (joinWith_eq_nil_iff h).mp (List.append_eq_nil_iff.mp (List.isEmpty_iff.mp hnil)).2
    rw [hns]
    rfl
  · rw [advance_root, advance_joinWith h]

/-- A location has the names of its path that matter. -/
theorem advance_eq_foldl_ofText (r : Root) (way : List Text) (t : Text) :
    advance r way t = (Location.ofText t).names.foldl (step r) way := by
  unfold advance Location.ofText
  simp only
  generalize Text.splitOn slash t = pieces
  induction pieces generalizing way with
  | nil => rfl
  | cons n pieces ih =>
    by_cases hn : n = "" ∨ n = "."
    · have hstep : step r way n = way := by
        unfold step
        rw [if_pos (by simpa using hn)]
      rw [List.filter_cons_of_neg (by simpa [or_iff_not_imp_left] using hn), List.foldl_cons, hstep]
      exact ih way
    · rw [List.filter_cons_of_pos (by simpa [not_or] using hn)]
      exact ih _

/-! ## Steps back and names down -/

/-- How many names a path goes back. -/
def ups (t : Text) : Nat := ((names t).takeWhile (· = (".." : Text))).length

/-- The names that a path goes down. -/
def downs (t : Text) : List Text := (names t).dropWhile (· = (".." : Text))

theorem takeWhile_up {k : Nat} (h : ∀ n ∈ ns, IsDown n) :
    (List.replicate k (".." : Text) ++ ns).takeWhile (· = (".." : Text)) =
        List.replicate k (".." : Text) ∧
      (List.replicate k (".." : Text) ++ ns).dropWhile (· = (".." : Text)) = ns := by
  have hback : ∀ n ∈ List.replicate k (".." : Text), decide (n = (".." : Text)) = true :=
    fun n hn => decide_eq_true (List.mem_replicate.mp hn).2
  have hdown : ns.takeWhile (· = (".." : Text)) = [] ∧ ns.dropWhile (· = (".." : Text)) = ns := by
    cases ns with
    | nil => exact ⟨rfl, rfl⟩
    | cons n ns =>
      have hn : ¬(decide (n = (".." : Text)) = true) := by
        simpa using (h n List.mem_cons_self).ne_up
      exact ⟨List.takeWhile_cons_of_neg hn, List.dropWhile_cons_of_neg hn⟩
  rw [List.takeWhile_append_of_pos hback, List.dropWhile_append_of_pos hback, hdown.1, hdown.2]
  exact ⟨List.append_nil _, rfl⟩

/-- Steps back and names down are told apart by what they are. -/
theorem ups_downs_of_names {k : Nat} (h : names t = List.replicate k (".." : Text) ++ ns)
    (hns : ∀ n ∈ ns, IsDown n) : ups t = k ∧ downs t = ns := by
  obtain ⟨htake, hdrop⟩ := takeWhile_up (k := k) hns
  unfold ups downs
  rw [h, htake, hdrop, List.length_replicate]
  exact ⟨rfl, rfl⟩

theorem names_eq (t : Text) : names t = List.replicate (ups t) (".." : Text) ++ downs t := by
  obtain ⟨k, ns, hnames, hdowns⟩ := names_shape t
  obtain ⟨hk, hns⟩ := ups_downs_of_names hnames hdowns
  rw [hk, hns, hnames]

theorem isDown_of_mem_downs (h : n ∈ downs t) : IsDown n := by
  obtain ⟨k, ns, hnames, hdowns⟩ := names_shape t
  rw [(ups_downs_of_names hnames hdowns).2] at h
  exact hdowns n h

theorem arePlain_names (t : Text) : ArePlain (names t) := by
  intro n hn
  rw [names_eq, List.mem_append] at hn
  rcases hn with hn | hn
  · rw [(List.mem_replicate.mp hn).2]
    exact ⟨by decide, by decide⟩
  · exact ⟨(isDown_of_mem_downs hn).ne_nil, (isDown_of_mem_downs hn).no_slash⟩

/-- A name is passed over, leads back or leads down. -/
theorem step_cases (hs : slash ∉ n) :
    ((∀ r way, step r way n = way) ∧ ∀ dir, Place.step dir (spell n) = dir) ∨
      n = ".." ∨ IsDown n := by
  by_cases hskip : n = "" ∨ n = "."
  · refine Or.inl ⟨fun r way => ?_, fun dir => ?_⟩
    · unfold step
      rw [if_pos (by simpa using hskip)]
    · rcases hskip with rfl | rfl <;> rfl
  · obtain ⟨hn, hhere⟩ := not_or.mp hskip
    refine Or.inr ?_
    by_cases hup : n = ".."
    · exact Or.inl hup
    · exact Or.inr ⟨hn, hhere, hup, hs⟩

theorem step_up_of_isDown {last : Text} (h : IsDown last) (r : Root) (way : List Text) :
    step r (last :: way) ".." = way := by
  show (if last = ".." then _ else way) = way
  rw [if_neg h.ne_up]

/-- Wherever they are followed from, names take back some others and then add some, on the way of a
path as well as on a disk. -/
theorem foldl_step_shape {pieces : List Text} (h : ∀ n ∈ pieces, slash ∉ n) :
    ∃ ns k, (∀ n ∈ ns, IsDown n) ∧
      (∀ r way,
        pieces.foldl (step r) way = ns ++ (List.replicate k (".." : Text)).foldl (step r) way) ∧
      ∀ dir, Place.follow dir (pieces.map spell) =
        Place.follow dir (List.replicate k upName) ++ (ns.map spell).reverse := by
  induction pieces using List.reverseRecOn with
  | nil => exact ⟨[], 0, by simp, fun _ _ => rfl, by simp⟩
  | append_singleton pieces n ih =>
    obtain ⟨hpieces, hn⟩ := List.forall_mem_append.mp h
    obtain ⟨ns, k, hns, hway, hdir⟩ := ih hpieces
    simp only [List.foldl_append, List.foldl_cons, List.foldl_nil, List.map_append, List.map_cons,
      List.map_nil, Place.follow_append, Place.follow_cons, Place.follow_nil, hway, hdir]
    rcases step_cases (hn n List.mem_cons_self) with ⟨hskip, hhere⟩ | rfl | hdown
    · exact ⟨ns, k, hns, fun r way => hskip r _, fun dir => hhere _⟩
    · -- A step back takes back the last name that was added, if there is one.
      cases ns with
      | nil =>
        refine ⟨[], k + 1, by simp, fun r way => ?_, fun dir => ?_⟩
        · rw [List.replicate_succ', List.foldl_append]
          rfl
        · rw [List.replicate_succ', Place.follow_append, List.map_nil, List.reverse_nil,
            List.append_nil, List.append_nil]
          rfl
      | cons last ns =>
        obtain ⟨hlast, hns⟩ := List.forall_mem_cons.mp hns
        refine ⟨ns, k, hns, fun r way => step_up_of_isDown hlast r _, fun dir => ?_⟩
        show List.dropLast _ = _
        rw [List.map_cons, List.reverse_cons, ← List.append_assoc, List.dropLast_concat]
    · obtain ⟨h₁, h₂, h₃⟩ := hdown.spell
      refine ⟨n :: ns, k, List.forall_mem_cons.mpr ⟨hdown, hns⟩,
        fun r way => step_of_isDown hdown r _, fun dir => ?_⟩
      rw [Place.step_of_ne h₁ h₂ h₃, List.map_cons, List.reverse_cons, List.append_assoc]

/-- Steps back take back names that lead down, while there are any. A relative path goes back
further then, and a root stays where it is. -/
theorem foldl_step_ups (hns : ∀ n ∈ ns, IsDown n) {j : Nat} (hj : r ≠ .none → j = 0) (k : Nat) :
    (List.replicate k (".." : Text)).foldl (step r) (ns ++ List.replicate j (".." : Text)) =
      ns.drop k ++
        List.replicate (if r = .none then j + (k - ns.length) else 0) (".." : Text) := by
  induction k generalizing ns j with
  | zero =>
    by_cases hr : r = .none
    · simp [hr]
    · simp [hr, hj hr]
  | succ k ih =>
    rw [List.replicate_succ, List.foldl_cons]
    cases ns with
    | nil =>
      by_cases hr : r = .none
      · have hstep : step r ([] ++ List.replicate j (".." : Text)) ".." =
            [] ++ List.replicate (j + 1) (".." : Text) := by
          subst hr
          cases j <;> rfl
        rw [hstep, ih (by simp) fun hne => absurd hr hne]
        simp only [if_pos hr, List.drop_nil, List.nil_append, List.length_nil]
        congr 1
        omega
      · obtain rfl := hj hr
        have hstep : step r ([] ++ List.replicate 0 (".." : Text)) ".." =
            [] ++ List.replicate 0 (".." : Text) := by
          show (if r = .none then _ else []) = []
          rw [if_neg hr]
        rw [hstep, ih (by simp) fun _ => rfl]
        simp [hr]
    | cons last ns =>
      obtain ⟨hlast, hns⟩ := List.forall_mem_cons.mp hns
      rw [List.cons_append, step_up_of_isDown hlast, ih hns hj]
      simp

/-- A root has no steps back. -/
theorem ups_of_root (h : root t ≠ .none) : ups t = 0 := by
  obtain ⟨ns, k, hns, hall, -⟩ := foldl_step_shape
    fun n (hn : n ∈ Text.splitOn slash t) => Text.notMem_of_mem_splitOn hn
  have hback := foldl_step_ups (r := root t) (j := 0) (List.forall_mem_nil IsDown) (fun _ => rfl) k
  have hnames : names t = List.replicate 0 (".." : Text) ++ ns.reverse := by
    rw [names_eq_advance, advance, hall]
    simp only [List.replicate_zero, List.append_nil, List.drop_nil, if_neg h] at hback
    rw [hback, List.append_nil]
    rfl
  exact (ups_downs_of_names hnames fun n hn => hns n (List.mem_reverse.mp hn)).1

/-- **What a relative path does to the way that it is followed from**: it takes back names, and then
it adds others. On a disk without links it leads there too. -/
theorem advance_eq (h : root t = .none) :
    (∀ r way, advance r way t =
      (downs t).reverse ++ (List.replicate (ups t) (".." : Text)).foldl (step r) way) ∧
    ∀ dir, Place.follow dir (steps t) =
      Place.follow dir (List.replicate (ups t) upName) ++ (downs t).map spell := by
  obtain ⟨ns, k, hns, hway, hdir⟩ := foldl_step_shape
    fun n (hn : n ∈ Text.splitOn slash t) => Text.notMem_of_mem_splitOn hn
  have hnames : names t = List.replicate k (".." : Text) ++ ns.reverse := by
    have hback := foldl_step_ups (r := .none) (j := 0) (List.forall_mem_nil IsDown) (fun _ => rfl) k
    rw [names_eq_advance, advance, hway, h]
    simp only [List.replicate_zero, List.append_nil, List.drop_nil, if_true, List.nil_append,
      List.length_nil, Nat.sub_zero, Nat.zero_add] at hback
    rw [hback, List.reverse_append, List.reverse_replicate]
  obtain ⟨hups, hdowns⟩ :=
    ups_downs_of_names hnames fun n hn => hns n (List.mem_reverse.mp hn)
  rw [hups, hdowns, List.reverse_reverse, List.map_reverse]
  refine ⟨hway, fun dir => ?_⟩
  unfold steps
  rw [Place.follow_filter, hdir]

/-! ## A normal form is its root and its names -/

/-- Names in normal form stay as they are. -/
theorem foldl_step_names (t : Text) : ((names t).foldl (step (root t)) []).reverse = names t := by
  have hdowns : ∀ ns : List Text, (∀ n ∈ ns, IsDown n) → ∀ way,
      ns.foldl (step (root t)) way = ns.reverse ++ way := by
    intro ns
    induction ns with
    | nil => simp
    | cons n ns ih =>
      intro h way
      obtain ⟨hn, hns⟩ := List.forall_mem_cons.mp h
      rw [List.foldl_cons, step_of_isDown hn, ih hns]
      simp
  have hback := foldl_step_ups (r := root t) (j := 0) (List.forall_mem_nil IsDown) (fun _ => rfl)
    (ups t)
  have hups : (if root t = .none then 0 + (ups t - ([] : List Text).length) else 0) = ups t := by
    by_cases hr : root t = .none
    · simp [hr]
    · simp [hr, ups_of_root hr]
  rw [hups] at hback
  simp only [List.replicate_zero, List.append_nil, List.drop_nil, List.nil_append] at hback
  conv_lhs => rw [names_eq t, List.foldl_append, hback, hdowns _ fun n => isDown_of_mem_downs]
  conv_rhs => rw [names_eq t]
  simp

theorem root_normalize (t : Text) : root (normalize t) = root t :=
  root_ofNames (arePlain_names t) _

theorem names_normalize (t : Text) : names (normalize t) = names t := by
  rw [names_eq_advance, root_normalize, normalize, advance_ofNames (arePlain_names t),
    foldl_step_names]

theorem normalize_eq_iff : normalize t = normalize u ↔ root t = root u ∧ names t = names u := by
  constructor
  · intro h
    exact ⟨by rw [← root_normalize t, h, root_normalize],
      by rw [← names_normalize t, h, names_normalize]⟩
  · rintro ⟨hroot, hnames⟩
    unfold normalize
    rw [hroot, hnames]

theorem normalize_normalize (t : Text) : normalize (normalize t) = normalize t :=
  normalize_eq_iff.mpr ⟨root_normalize t, names_normalize t⟩

end Path

/-! ## Locations -/

namespace Location

open Path (ArePlain advance downs step ups)

variable {l : Location} {dir t : Text}

theorem root_toText (h : ArePlain l.names) : Path.root l.toText = l.root := Path.root_ofNames h _

theorem names_toText (h : ArePlain l.names) :
    Path.names l.toText = (l.names.foldl (step l.root) []).reverse := by
  rw [Path.names_eq_advance, root_toText h, toText, Path.advance_ofNames h]

theorem names_toText_ofText (t : Text) : Path.names (ofText t).toText = Path.names t := by
  rw [names_toText (arePlain_ofText t), ← Path.advance_eq_foldl_ofText]
  rfl

theorem append_of_root (h : Path.root t ≠ .none) (l : Location) : l ++ ofText t = ofText t := by
  show append l (ofText t) = _
  unfold append
  exact if_neg h

theorem append_of_relative (h : Path.root t = .none) (dir : Text) :
    ofText dir ++ ofText t = ⟨Path.root dir, (ofText dir).names ++ (ofText t).names⟩ := by
  show append (ofText dir) (ofText t) = _
  unfold append
  exact if_pos h

theorem root_append (h : Path.root t = .none) (dir : Text) :
    Path.root (ofText dir ++ ofText t).toText = Path.root dir := by
  rw [root_toText (arePlain_append (arePlain_ofText dir) (arePlain_ofText t)),
    append_of_relative h]

/-- **The normal form of a path that is seen from a directory.** The path takes back as many names
of the directory as it goes back. If there are not that many, then a relative directory goes back
further and a root does not. -/
theorem names_append (h : Path.root t = .none) (dir : Text) :
    Path.names (ofText dir ++ ofText t).toText =
      List.replicate (if Path.root dir = .none then ups dir + (ups t - (downs dir).length) else 0)
        (".." : Text) ++ ((downs dir).take ((downs dir).length - ups t) ++ downs t) := by
  have hdowns : ∀ n ∈ (downs dir).reverse, Path.IsDown n :=
    fun n hn => Path.isDown_of_mem_downs (List.mem_reverse.mp hn)
  have hback :=
    Path.foldl_step_ups (r := Path.root dir) (j := ups dir) hdowns Path.ups_of_root (ups t)
  have hway : advance (Path.root dir) [] dir =
      (downs dir).reverse ++ List.replicate (ups dir) (".." : Text) := by
    rw [← List.reverse_inj, ← Path.names_eq_advance, Path.names_eq]
    simp
  rw [names_toText (arePlain_append (arePlain_ofText dir) (arePlain_ofText t)),
    append_of_relative h]
  simp only
  rw [List.foldl_append, ← Path.advance_eq_foldl_ofText, ← Path.advance_eq_foldl_ofText, hway,
    (Path.advance_eq h).1, hback]
  simp [List.drop_reverse]

end Location

end ServiceWiring
