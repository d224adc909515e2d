import ServiceWiring.OutputName
import ServiceWiring.Path.Location
import ServiceWiring.Proofs.Disk.Tree
import ServiceWiring.Proofs.Text.Pieces
import ServiceWiring.Proofs.Text.Utf8Name

/-!
# The steps of a path

The steps of a path are the names between its slashes, as a disk knows them. Joining paths puts
their steps one after another, and a location has the steps of the path that it was read from, so it
does not matter whether a path is put together as a text or as a location.

A path in normal form goes back first and down then, and so does the name of a stub. The name of a
wiring leads to a name that ends as those of wirings do.

Results:
* `steps_join`, `steps_ofNames`: the steps of what is put together.
* `Location.follow_names_ofText`: a location leads where the path leads that it was read from.
* `names_shape`, `OutputName.stub_shape`: the shape of a normal form, and of the name of a stub.
* `OutputName.follow_wiring`: where the name of a wiring leads.
-/

namespace ServiceWiring

open Utf8 (spell)

namespace Path

variable {t u n : Text} {ns : List Text}

/-! ## Steps -/

/-- The names between the slashes of a path, as a disk knows them. -/
def steps (t : Text) : List DiskName := ((Text.splitOn slash t).map spell).filter (!·.isEmpty)

@[simp]
theorem steps_nil : steps [] = [] := rfl

theorem steps_append (t u : Text) : steps (t ++ slash :: u) = steps t ++ steps u := by
  unfold steps
  rw [Text.splitOn_append, List.map_append, List.filter_append]

@[simp]
theorem steps_slash (t : Text) : steps (slash :: t) = steps t := steps_append [] t

theorem steps_name (hn : n ≠ []) (hs : slash ∉ n) : steps n = [spell n] := by
  have hspell : spell n ≠ [] := fun h => hn (Utf8.spell_eq_nil h)
  unfold steps
  rw [Text.splitOn_of_notMem hs]
  simp [hspell]

theorem steps_join (h : isAbsolute u = false) : steps (join t u) = steps t ++ steps u := by
  unfold join
  rw [if_neg (by simp [h])]
  split
  · rename_i ht
    rcases List.eq_nil_or_concat t with rfl | ⟨t, c, rfl⟩
    · rfl
    · obtain rfl : c = slash := by simpa using ht
      rw [List.concat_eq_append, List.append_assoc, List.singleton_append, steps_append,
        steps_append, steps_nil, List.append_nil]
  · rw [List.append_assoc]
    exact steps_append t u

theorem isAbsolute_join (h : isAbsolute t = true) (u : Text) : isAbsolute (join t u) = true := by
  have happend (v : Text) : isAbsolute (t ++ v) = true := by
    cases t with
    | nil => cases h
    | cons c r => exact h
  unfold join
  split
  · assumption
  · split
    · exact happend u
    · rw [List.append_assoc]
      exact happend _

/-- A path that is joined to another ends as it did. -/
theorem getLast?_join (hu : u ≠ []) (hlast : u.getLast? ≠ some slash) (t : Text) :
    join t u ≠ [] ∧ (join t u).getLast? ≠ some slash := by
  have happend : ∃ before, join t u = before ++ u := by
    unfold join
    split
    · exact ⟨[], rfl⟩
    · split
      · exact ⟨t, rfl⟩
      · exact ⟨t ++ "/", rfl⟩
  obtain ⟨before, hbefore⟩ := happend
  rw [hbefore, List.getLast?_append]
  refine ⟨List.append_ne_nil_of_right_ne_nil _ hu, ?_⟩
  cases hc : u.getLast? with
  | none => exact absurd (List.getLast?_eq_none_iff.mp hc) hu
  | some c => rwa [hc] at hlast

theorem steps_joinWith (h : ∀ n ∈ ns, n ≠ [] ∧ slash ∉ n) :
    steps (Text.joinWith "/" ns) = ns.map spell := by
  induction ns with
  | nil => rfl
  | cons n ns ih =>
    obtain ⟨⟨hn, hs⟩, hns⟩ := List.forall_mem_cons.mp h
    cases ns with
    | nil => simpa [Text.joinWith] using steps_name hn hs
    | cons n' ns =>
      rw [Text.joinWith_cons_cons]
      show steps (n ++ slash :: Text.joinWith "/" (n' :: ns)) = _
      rw [steps_append, steps_name hn hs, ih hns]
      rfl

/-! ## Roots and names -/

/-- Names that are not empty and hold no slash. -/
def ArePlain (ns : List Text) : Prop := ∀ n ∈ ns, n ≠ [] ∧ slash ∉ n

theorem joinWith_eq_nil_iff (h : ArePlain ns) : Text.joinWith "/" ns = [] ↔ ns = [] := by
  cases ns with
  | nil => simp [Text.joinWith]
  | cons n ns =>
    have hn := (h n List.mem_cons_self).1
    cases ns with
    | nil => simpa [Text.joinWith] using hn
    | cons n' ns => simp [Text.joinWith_cons_cons, hn]

theorem isAbsolute_joinWith (h : ArePlain ns) : isAbsolute (Text.joinWith "/" ns) = false := by
  cases ns with
  | nil => decide
  | cons n ns =>
    obtain ⟨hn, hs⟩ := h n List.mem_cons_self
    obtain ⟨c, r, rfl⟩ := List.exists_cons_of_ne_nil hn
    have hc : c ≠ slash := fun he => hs (he ▸ List.mem_cons_self)
    cases ns with
    | nil => simpa [Text.joinWith, isAbsolute] using hc
    | cons n' ns => simpa [Text.joinWith_cons_cons, isAbsolute] using hc

theorem steps_root (r : Root) (t : Text) : steps (r.toText ++ t) = steps t := by
  cases r with
  | none => rfl
  | single => exact steps_slash t
  | double => exact (steps_slash _).trans (steps_slash t)

theorem isAbsolute_ofNames (h : ArePlain ns) (r : Root) :
    isAbsolute (ofNames r ns) = decide (r ≠ .none) := by
  cases r with
  | none =>
    have hjoin := isAbsolute_joinWith h
    show isAbsolute (if (Text.joinWith "/" ns).isEmpty then (Text.ofString ".") else _) = false
    split
    · decide
    · exact hjoin
  | single => rfl
  | double => rfl

theorem steps_ofNames (h : ArePlain ns) {r : Root} (hne : r ≠ .none ∨ ns ≠ []) :
    steps (ofNames r ns) = ns.map spell := by
  have hnil : r.toText ++ Text.joinWith "/" ns ≠ [] := by
    rcases hne with hr | hns
    · cases r with
      | none => exact absurd rfl hr
      | single => exact List.cons_ne_nil _ _
      | double => exact List.cons_ne_nil _ _
    · exact List.append_ne_nil_of_right_ne_nil _ (mt (joinWith_eq_nil_iff h).mp hns)
  unfold ofNames
  simp only [List.isEmpty_iff, if_neg hnil]
  rw [steps_root, steps_joinWith h]

theorem follow_ofNames (h : ArePlain ns) (r : Root) (dir : Place) :
    Place.follow dir (steps (ofNames r ns)) = Place.follow dir (ns.map spell) := by
  by_cases hne : r ≠ .none ∨ ns ≠ []
  · rw [steps_ofNames h hne]
  · simp only [ne_eq, not_or, not_not] at hne
    obtain ⟨rfl, rfl⟩ := hne
    rfl

theorem getLast?_ofNames (h : ArePlain ns) (hne : ns ≠ []) (r : Root) :
    (ofNames r ns).getLast? ≠ some slash := by
  rcases List.eq_nil_or_concat ns with rfl | ⟨init, n, rfl⟩
  · exact absurd rfl hne
  rw [List.concat_eq_append] at h ⊢
  obtain ⟨hn, hs⟩ := h n (by simp)
  have hends : ∃ before, ofNames r (init ++ [n]) = before ++ n := by
    have hjoin : ∃ before, Text.joinWith "/" (init ++ [n]) = before ++ n := by
      by_cases hinit : init = []
      · exact ⟨[], by simp [hinit, Text.joinWith]⟩
      · exact ⟨Text.joinWith "/" init ++ "/", by simp [Text.joinWith_concat hinit]⟩
    obtain ⟨before, hbefore⟩ := hjoin
    unfold ofNames
    simp only
    rw [hbefore, ← List.append_assoc, if_neg (by simp [hn])]
    exact ⟨_, rfl⟩
  obtain ⟨before, hbefore⟩ := hends
  rw [hbefore, List.getLast?_append]
  intro hlast
  cases hc : n.getLast? with
  | none => exact hn (List.getLast?_eq_none_iff.mp hc)
  | some c =>
    rw [hc] at hlast
    exact hs (Option.some.inj hlast ▸ List.mem_of_getLast? hc)

theorem root_eq_none_iff : root t = .none ↔ isAbsolute t = false := by
  unfold root isAbsolute
  cases t with
  | nil => decide
  | cons c r =>
    by_cases hc : c = slash
    · subst hc
      simp only [List.takeWhile_cons, decide_true, if_true, List.length_cons, List.head?_cons]
      split <;> simp_all
    · simp [hc]

end Path

/-! ## Normal forms -/

namespace Path

/-- A name that leads down. -/
structure IsDown (n : Text) : Prop where
  /-- It is not empty. -/
  ne_nil : n ≠ []
  /-- It is not the place itself. -/
  ne_here : n ≠ "."
  /-- It does not lead back. -/
  ne_up : n ≠ ".."
  /-- It holds no slash. -/
  no_slash : slash ∉ n

variable {t n last : Text} {r : Root} {way downs : List Text}

theorem IsDown.spell (h : IsDown n) : spell n ≠ [] ∧ spell n ≠ hereName ∧ spell n ≠ upName := by
  refine ⟨fun hn => h.ne_nil (Utf8.spell_eq_nil hn), fun hn => h.ne_here ?_, fun hn => h.ne_up ?_⟩
  · exact Utf8.eq_of_spell_eq_map "." (by decide) hn
  · exact Utf8.eq_of_spell_eq_map ".." (by decide) hn

/-- The way of a path in normal form, last name first: names that lead down, after some that lead
back. -/
def Climbs (way : List Text) : Prop :=
  ∃ downs k, way = downs ++ List.replicate k (".." : Text) ∧ ∀ n ∈ downs, IsDown n

theorem step_of_isDown (h : IsDown n) (r : Root) (way : List Text) : step r way n = n :: way := by
  unfold step
  rw [if_neg (by simpa using ⟨h.ne_nil, h.ne_here⟩), if_neg h.ne_up]

theorem climbs_step (hway : Climbs way) (hs : slash ∉ n) : Climbs (step r way n) := by
  obtain ⟨downs, k, rfl, hdowns⟩ := hway
  by_cases hskip : n = "" ∨ n = "."
  · unfold step
    rw [if_pos (by simpa using hskip)]
    exact ⟨downs, k, rfl, hdowns⟩
  obtain ⟨hn, hhere⟩ := not_or.mp hskip
  by_cases hup : n = ".."
  · -- A step back takes back the last step down. Where there is none it adds one more step back,
    -- unless the path is at its root.
    subst hup
    unfold step
    rw [if_neg (by simpa using hskip), if_pos rfl]
    cases downs with
    | nil =>
      cases k with
      | zero =>
        simp only [List.replicate_zero, List.append_nil]
        split
        · exact ⟨[], 1, rfl, by simp⟩
        · exact ⟨[], 0, rfl, by simp⟩
      | succ k => exact ⟨[], k + 2, rfl, by simp⟩
    | cons last downs =>
      obtain ⟨hlast, hdowns⟩ := List.forall_mem_cons.mp hdowns
      simp only [List.cons_append, if_neg hlast.ne_up]
      exact ⟨downs, k, rfl, hdowns⟩
  · have hdown : IsDown n := ⟨hn, hhere, hup, hs⟩
    rw [step_of_isDown hdown]
    exact ⟨n :: downs, k, rfl, List.forall_mem_cons.mpr ⟨hdown, hdowns⟩⟩

theorem climbs_foldl {pieces : List Text} (hp : ∀ n ∈ pieces, slash ∉ n) (hway : Climbs way) :
    Climbs (pieces.foldl (step r) way) := by
  induction pieces generalizing way with
  | nil => exact hway
  | cons n pieces ih =>
    obtain ⟨hn, hp⟩ := List.forall_mem_cons.mp hp
    exact ih hp (climbs_step hway hn)

/-- **A path in normal form goes back first and down then.** -/
theorem names_shape (t : Text) :
    ∃ k downs, names t = List.replicate k (".." : Text) ++ downs ∧ ∀ n ∈ downs, IsDown n := by
  have hclimbs : Climbs ((Text.splitOn slash t).foldl (step (root t)) []) :=
    climbs_foldl (fun n hn => Text.notMem_of_mem_splitOn hn) ⟨[], 0, rfl, by simp⟩
  obtain ⟨downs, k, hway, hdowns⟩ := hclimbs
  refine ⟨k, downs.reverse, ?_, fun n hn => hdowns n (List.mem_reverse.mp hn)⟩
  unfold names
  rw [hway, List.reverse_append, List.reverse_replicate]

/-- A last name that leads down stays the last name. -/
theorem names_ne_nil {pieces : List Text} (h : Text.splitOn slash t = pieces ++ [last])
    (hlast : IsDown last) : names t ≠ [] := by
  unfold names
  rw [h, List.foldl_append, List.foldl_cons, List.foldl_nil, step_of_isDown hlast]
  simp

end Path

/-! ## Outputs -/

namespace OutputName

open Path (IsDown slash steps)

variable {u : Text}

/-- What the name of a wiring ends with. -/
def wiringEnding : Text := ".pb.goclay.go"

/-- What the name of a stub ends with. -/
def stubEnding : Text := ".pb.impl.go"

theorem isDown_append {ending : Text} (hs : slash ∉ ending) (hlong : 2 < ending.length)
    (h : slash ∉ u) : IsDown (u ++ ending) := by
  have hlength : 2 < (u ++ ending).length := by simp; omega
  refine ⟨?_, ?_, ?_, List.not_mem_append h hs⟩ <;> intro he <;> rw [he] at hlength <;>
    exact absurd hlength (by decide)

/-- **A wiring goes under a name that ends as wirings do.** -/
theorem follow_wiring (dir : Place) (file : Text) :
    ∃ q x, Place.follow dir (steps (wiring file)) = q ++ [x ++ spell wiringEnding] := by
  obtain ⟨pieces, last, hsplit⟩ := Text.splitOn_append_of_notMem
    (show slash ∉ wiringEnding by decide) (Path.dropExtension file)
  have hdown : IsDown (last ++ wiringEnding) := by
    refine isDown_append (by decide) (by decide) fun h => ?_
    exact Text.notMem_of_mem_splitOn (hsplit ▸ List.mem_append_right _ List.mem_cons_self)
      (List.mem_append_left _ h)
  obtain ⟨h₁, h₂, h₃⟩ := hdown.spell
  refine ⟨Place.follow dir (pieces.map spell), spell last, ?_⟩
  unfold steps
  rw [Place.follow_filter]
  show Place.follow dir
    ((Text.splitOn slash (Path.dropExtension file ++ wiringEnding)).map spell) = _
  rw [hsplit, List.map_append, Place.follow_append, List.map_singleton, Place.follow_cons,
    Place.step_of_ne h₁ h₂ h₃, Utf8.spell_append, Place.follow_nil]

/-- **The name of a stub** goes back first and down then, and down at least once. -/
theorem stub_shape (file : Text) : ∃ r k downs,
    stub file = Path.ofNames r (List.replicate k (".." : Text) ++ downs) ∧
      Path.ArePlain (List.replicate k (".." : Text) ++ downs) ∧
      List.replicate k (".." : Text) ++ downs ≠ [] ∧ ∀ n ∈ downs, IsDown n := by
  obtain ⟨pieces, last, hsplit⟩ := Text.splitOn_append_of_notMem
    (show slash ∉ stubEnding by decide) (Path.dropExtension file)
  have hdown : IsDown (last ++ stubEnding) := by
    refine isDown_append (by decide) (by decide) fun h => ?_
    exact Text.notMem_of_mem_splitOn (hsplit ▸ List.mem_append_right _ List.mem_cons_self)
      (List.mem_append_left _ h)
  have hne := Path.names_ne_nil hsplit hdown
  obtain ⟨k, downs, hnames, hdowns⟩ := Path.names_shape (Path.dropExtension file ++ stubEnding)
  rw [hnames] at hne
  refine ⟨Path.root (Path.dropExtension file ++ stubEnding), k, downs, ?_, ?_, hne, hdowns⟩
  · rw [← hnames]
    rfl
  · refine List.forall_mem_append.mpr ⟨fun n hn => ?_, fun n hn => ?_⟩
    · rw [(List.mem_replicate.mp hn).2]
      exact ⟨by decide, by decide⟩
    · exact ⟨(hdowns n hn).ne_nil, (hdowns n hn).no_slash⟩

theorem getLast?_stub (file : Text) : (stub file).getLast? ≠ some slash := by
  obtain ⟨r, k, downs, hstub, hplain, hne, -⟩ := stub_shape file
  rw [hstub]
  exact Path.getLast?_ofNames hplain hne r

theorem stub_ne_nil (file : Text) : stub file ≠ [] := by
  unfold stub Path.normalize Path.ofNames
  simp only
  split
  · decide
  · exact mt List.isEmpty_iff.mpr ‹_›

/-- The steps of a stub go back first and down then. -/
theorem steps_stub (file : Text) : ∃ k downs, steps (stub file) = List.replicate k upName ++ downs ∧
    ∀ n ∈ downs, n ≠ [] ∧ n ≠ hereName ∧ n ≠ upName := by
  obtain ⟨r, k, downs, hstub, hplain, hne, hdowns⟩ := stub_shape file
  refine ⟨k, downs.map spell, ?_, fun n hn => ?_⟩
  · rw [hstub, Path.steps_ofNames hplain (Or.inr hne), List.map_append, List.map_replicate]
    rfl
  · obtain ⟨m, hm, rfl⟩ := List.mem_map.mp hn
    exact (hdowns m hm).spell

end OutputName

/-! ## Locations -/

namespace Location

open Path (ArePlain steps)

variable {l : Location} {t : Text}

theorem arePlain_ofText (t : Text) : ArePlain (ofText t).names := by
  intro n hn
  obtain ⟨hn, hkeep⟩ := List.mem_filter.mp hn
  have hkeep : n ≠ "" ∧ n ≠ "." := by simpa using hkeep
  exact ⟨hkeep.1, Text.notMem_of_mem_splitOn hn⟩

theorem arePlain_append {m : Location} (hl : ArePlain l.names) (hm : ArePlain m.names) :
    ArePlain (l ++ m).names := by
  show ArePlain (append l m).names
  unfold append
  split
  · exact List.forall_mem_append.mpr ⟨hl, hm⟩
  · exact hm

theorem arePlain_parent (h : ArePlain l.names) : ArePlain l.parent.names :=
  fun n hn => h n (List.dropLast_subset _ hn)

/-- A location leads where the path leads that it was read from. -/
theorem follow_names_ofText (dir : Place) (t : Text) :
    Place.follow dir ((ofText t).names.map spell) = Place.follow dir (steps t) := by
  unfold ofText steps
  rw [Place.follow_filter]
  generalize Text.splitOn Path.slash t = pieces
  induction pieces generalizing dir with
  | nil => rfl
  | cons n pieces ih =>
    by_cases hn : n = "" ∨ n = "."
    · have hstep : Place.step dir (spell n) = dir := by rcases hn with rfl | rfl <;> rfl
      rw [List.filter_cons_of_neg (by simpa [or_iff_not_imp_left] using hn), List.map_cons,
        Place.follow_cons, hstep]
      exact ih dir
    · rw [List.filter_cons_of_pos (by simpa [not_or] using hn)]
      exact ih _

end Location

end ServiceWiring
