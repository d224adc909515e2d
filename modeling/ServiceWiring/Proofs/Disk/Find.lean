import ServiceWiring.Machine
import ServiceWiring.Proofs.Path.Steps

/-!
# Where the paths of a machine lead

On a disk without links a path leads where its steps say: `Machine.destination`. Whatever is located
under a path is located there, and what stands there is found, as long as the path can be written,
is not too long, and goes back before it goes down.

Results:
* `destination_of_locate`, `parent_of_locate`: what is known of a place that was located.
* `destination_append`: where a location leads that is put together.
* `find_of_walk`: what a walk along the steps of a path ends at is found under the path.
* `steps_pathOf`: the steps of the path of a place are the names on the way to it.
-/

namespace ServiceWiring

open Utf8 (encodeName? spell)
open Path (isAbsolute slash steps)

variable {m : Machine} {errand : Errand} {path t u : Text} {p dir : Place} {node : Node}
  {o : Octets} {l : Location}

/-! ## The steps that octets spell -/

theorem head?_spell_iff (t : Text) : (spell t).head? = some slashOctet ↔ isAbsolute t = true := by
  unfold isAbsolute
  cases t with
  | nil => simp
  | cons c t =>
    simp only [List.head?_cons, decide_eq_true_eq, Option.some_inj]
    constructor
    · intro h
      have hcons : ∃ r, spell (c :: t) = slashOctet :: r := by
        cases hs : spell (c :: t) with
        | nil =>
          rw [hs] at h
          cases h
        | cons b r =>
          rw [hs] at h
          exact ⟨r, by rw [Option.some.inj h]⟩
      obtain ⟨r, hr⟩ := hcons
      obtain ⟨c', u, he, hc, -⟩ := Utf8.spell_eq_cons hr (by decide)
      rw [(List.cons.inj he).1]
      exact Fin.ext hc
    · rintro rfl
      rfl

/-- A path starts at the root if its octets do. -/
theorem fromRoot_ofOctets (h : encodeName? path = some o) :
    (Steps.ofOctets o).fromRoot = isAbsolute path := by
  rw [Bool.eq_iff_iff, ← head?_spell_iff, Utf8.spell_of_encodeName? h]
  simp [Steps.ofOctets]

theorem getLast?_spell (h : t.getLast? ≠ some slash) : (spell t).getLast? ≠ some slashOctet := by
  rcases List.eq_nil_or_concat t with rfl | ⟨t, c, rfl⟩
  · simp
  rw [List.concat_eq_append] at h ⊢
  have hc : c ≠ slash := by simpa using h
  rw [Utf8.spell_append, Utf8.spell_cons, Utf8.spell_nil, List.append_nil, List.getLast?_append]
  intro hlast
  cases hone : (Utf8.nameOne c).getLast? with
  | none => exact Utf8.nameOne_ne_nil c (List.getLast?_eq_none_iff.mp hone)
  | some b =>
    rw [hone] at hlast
    obtain rfl : b = slashOctet := Option.some.inj hlast
    exact hc (Fin.ext (Utf8.nameOne_of_low (List.mem_of_getLast? hone) (by decide)).2)

theorem names_ofOctets_spell (t : Text) : (Steps.ofOctets (spell t)).names =
    if (spell t).getLast? = some slashOctet then steps t ++ [[]] else steps t := by
  unfold Steps.ofOctets steps
  simp only [Utf8.splitSlash_spell]

theorem follow_ofOctets_spell (dir : Place) (t : Text) :
    Place.follow dir (Steps.ofOctets (spell t)).names = Place.follow dir (steps t) := by
  rw [names_ofOctets_spell]
  split
  · rw [Place.follow_append]
    rfl
  · rfl

/-! ## Places that are located -/

namespace Machine

/-- Where the first step of a path is taken. -/
def startOf (m : Machine) (path : Text) : Place := if isAbsolute path then [] else m.directory

/-- Where a path leads if nothing on the way is a link. -/
def destination (m : Machine) (path : Text) : Place := Place.follow (m.startOf path) (steps path)

theorem walk_of_locate (h : m.locate errand path = .ok p) :
    ∃ o, encodeName? path = some o ∧ 0 ∉ o ∧
      m.disk.walk errand Disk.maxLinks (m.startOf path) (Steps.ofOctets o).names = .ok p := by
  unfold locate at h
  split at h
  · cases h
  rename_i o ho
  split at h
  · cases h
  rename_i hnull
  refine ⟨o, ho, by simpa using hnull, ?_⟩
  unfold Disk.locate at h
  split at h
  · cases h
  split at h
  · cases h
  simp only [fromRoot_ofOctets ho] at h
  unfold startOf
  cases hw : m.disk.walk errand Disk.maxLinks (if isAbsolute path then [] else m.directory)
    (Steps.ofOctets o).names with
  | ok q =>
    rw [hw] at h
    exact congrArg _ (Except.ok.inj h)
  | error r =>
    rw [hw] at h
    cases h

/-- **Whatever is located under a path is located where it leads.** -/
theorem destination_of_locate (h : m.disk.IsTree) (hl : m.locate errand path = .ok p) :
    p = m.destination path := by
  obtain ⟨o, ho, -, hw⟩ := walk_of_locate hl
  rw [h.walk_eq_follow hw, ← Utf8.spell_of_encodeName? ho, follow_ofOctets_spell]
  rfl

theorem notMem_of_mem_ofOctets (hnull : 0 ∉ o) :
    ∀ n ∈ (Steps.ofOctets o).names, slashOctet ∉ n ∧ 0 ∉ n := by
  have hsplit : ∀ n ∈ splitSlash o, slashOctet ∉ n ∧ 0 ∉ n :=
    fun n hn => Utf8.notMem_of_mem_splitSlash hnull hn
  intro n hn
  unfold Steps.ofOctets at hn
  simp only at hn
  split at hn
  · rcases List.mem_append.mp hn with hn | hn
    · exact hsplit n ((List.mem_filter.mp hn).1)
    · rw [List.mem_singleton.mp hn]
      simp
  · exact hsplit n ((List.mem_filter.mp hn).1)

/-- What is located is a directory, or stands in one. -/
theorem parent_of_locate (h : m.disk.IsTree) (hdir : m.disk.node? m.directory = some .directory)
    (hl : m.locate errand path = .ok p) : m.disk.node? p = some .directory ∨
      ∃ q name, p = q ++ [name] ∧ m.disk.node? q = some .directory ∧ IsName name := by
  obtain ⟨o, -, hnull, hw⟩ := walk_of_locate hl
  refine h.walk_parent ?_ (notMem_of_mem_ofOctets hnull) hw
  unfold startOf
  split
  · exact Disk.node?_root _
  · exact hdir

/-- What is found is what stands where the path was located. -/
theorem locate_of_find (hf : m.find errand path = .ok (p, node)) :
    m.locate errand path = .ok p ∧ m.disk.node? p = some node := by
  unfold find at hf
  cases hl : m.locate errand path with
  | error e =>
    rw [hl] at hf
    cases hf
  | ok q =>
    rw [hl] at hf
    simp only [bind, Except.bind] at hf
    split at hf
    · rename_i n hn
      obtain ⟨rfl, rfl⟩ := Prod.mk.inj (Except.ok.inj hf)
      exact ⟨rfl, hn⟩
    · cases hf

theorem destination_of_find (h : m.disk.IsTree) (hf : m.find errand path = .ok (p, node)) :
    p = m.destination path ∧ m.disk.node? p = some node := by
  obtain ⟨hl, hnode⟩ := locate_of_find hf
  exact ⟨destination_of_locate h hl, hnode⟩

/-- What is found under a path that does not end with a slash is at the end of its steps. -/
theorem walk_of_find (hf : m.find errand path = .ok (p, node))
    (hlast : path.getLast? ≠ some slash) : Utf8.IsWritable path ∧
      m.disk.walk errand Disk.maxLinks (m.startOf path) (steps path) = .ok p := by
  obtain ⟨o, ho, hnull, hw⟩ := walk_of_locate (locate_of_find hf).1
  refine ⟨⟨o, ho, hnull⟩, ?_⟩
  rwa [← Utf8.spell_of_encodeName? ho, names_ofOctets_spell,
    if_neg (getLast?_spell hlast)] at hw

/-- The path is short enough for a disk. -/
def Fits (path : Text) : Prop := (Utf8.nameOctets path).length ≤ Disk.maxPath

/-- **What a walk along the steps of a path ends at is found** under the path, if the path can be
written, is not too long, and does not end with a slash. -/
theorem find_of_walk (hpath : Utf8.IsWritable path) (hfits : Fits path) (hne : path ≠ [])
    (hlast : path.getLast? ≠ some slash)
    (hw : m.disk.walk errand Disk.maxLinks (m.startOf path) (steps path) = .ok p)
    (hnode : m.disk.node? p = some node) : m.find errand path = .ok (p, node) := by
  obtain ⟨o, ho, hnull⟩ := hpath
  have hspell := Utf8.spell_of_encodeName? ho
  have hnil : o ≠ [] := fun h => hne (Utf8.spell_eq_nil (hspell.trans h))
  have hshort : o.length ≤ Disk.maxPath := by
    unfold Fits Utf8.nameOctets at hfits
    rwa [ho] at hfits
  have hnames : (Steps.ofOctets o).names = steps path := by
    rw [← hspell, names_ofOctets_spell, if_neg (getLast?_spell hlast)]
  have hroot : (if (Steps.ofOctets o).fromRoot then [] else m.directory) = m.startOf path := by
    unfold startOf
    rw [fromRoot_ofOctets ho]
  have hlocate : m.locate errand path = .ok p := by
    unfold locate Disk.locate
    rw [ho]
    simp only [List.contains_iff_mem, hnull, if_false, List.isEmpty_iff, hnil,
      Nat.not_lt.mpr hshort, hroot, hnames, hw]
    rfl
  unfold find
  rw [hlocate]
  simp only [bind, Except.bind, hnode]
  rfl

/-- A path that is refused can be written. -/
theorem isWritable_of_refused {r : Refusal} {full : Text}
    (h : m.find errand path = .error (.refused r full)) : Utf8.IsWritable path := by
  unfold find locate at h
  cases ho : encodeName? path with
  | none =>
    rw [ho] at h
    cases h
  | some o =>
    rw [ho] at h
    simp only at h
    by_cases hnull : 0 ∈ o
    · rw [if_pos (by simpa using hnull)] at h
      cases h
    · exact ⟨o, ho, hnull⟩

/-! ## Locations -/

theorem destination_toText (h : Path.ArePlain l.names) : m.destination l.toText =
    Place.follow (if l.root = .none then m.directory else []) (l.names.map spell) := by
  unfold destination startOf Location.toText
  rw [Path.isAbsolute_ofNames h, Path.follow_ofNames h]
  by_cases hroot : l.root = .none <;> simp [hroot]

/-- **Where a location leads** that is put together from two paths. -/
theorem destination_append (t u : Text) :
    m.destination (Location.ofText t ++ Location.ofText u).toText =
      Place.follow (if isAbsolute u then [] else m.destination (Location.ofText t).toText)
        (steps u) := by
  have ht := Location.arePlain_ofText t
  have hu := Location.arePlain_ofText u
  rw [destination_toText (Location.arePlain_append ht hu), destination_toText ht]
  have happend : Location.ofText t ++ Location.ofText u = if Path.root u = .none then
      { Location.ofText t with names := (Location.ofText t).names ++ (Location.ofText u).names }
      else Location.ofText u := rfl
  rw [happend]
  cases habs : isAbsolute u with
  | false =>
    rw [if_pos (Path.root_eq_none_iff.mpr habs), List.map_append, Place.follow_append,
      Location.follow_names_ofText]
    rfl
  | true =>
    have hroot : ¬Path.root u = .none := by simp [Path.root_eq_none_iff, habs]
    have hlocation : ¬(Location.ofText u).root = .none := hroot
    rw [if_neg hroot, if_neg hlocation, Location.follow_names_ofText]
    rfl

/-! ## Paths of places -/

variable {name : Text}

theorem pathOf_eq_ofNames (p : Place) :
    pathOf p = Path.ofNames .single (p.map Utf8.decodeName) := rfl

theorem isAbsolute_pathOf (p : Place) : isAbsolute (pathOf p) = true := rfl

theorem arePlain_decodeName (h : ∀ n ∈ p, IsName n) : Path.ArePlain (p.map Utf8.decodeName) := by
  intro t ht
  obtain ⟨n, hn, rfl⟩ := List.mem_map.mp ht
  have hspell := Utf8.spell_decodeName n
  refine ⟨fun hnil => (h n hn).ne_nil ?_, fun hs => (h n hn).no_slash ?_⟩
  · rw [← hspell, hnil]
    rfl
  · rw [← hspell]
    exact List.mem_flatMap.mpr ⟨slash, hs, List.mem_cons_self⟩

/-- **The steps of the path of a place** are the names on the way to it. -/
theorem steps_pathOf (h : ∀ n ∈ p, IsName n) : steps (pathOf p) = p := by
  rw [pathOf_eq_ofNames, Path.steps_ofNames (arePlain_decodeName h) (by simp), List.map_map]
  simp [Function.comp_def]

theorem isWritable_decodeName {n : DiskName} (h : 0 ∉ n) : Utf8.IsWritable (Utf8.decodeName n) :=
  ⟨n, Utf8.encodeName?_decodeName n, h⟩

theorem isWritable_pathOf (h : ∀ n ∈ p, IsName n) : Utf8.IsWritable (pathOf p) := by
  have hslash : Utf8.IsWritable "/" := ⟨[slashOctet], by decide, by decide⟩
  rw [Utf8.isWritable_iff] at hslash ⊢
  intro c hc
  rcases List.mem_append.mp hc with hc | hc
  · exact hslash c hc
  rcases Text.mem_joinWith hc with hc | ⟨t, ht, hc⟩
  · exact hslash c hc
  · obtain ⟨n, hn, rfl⟩ := List.mem_map.mp ht
    exact Utf8.isWritable_iff.mp (isWritable_decodeName (h n hn).no_null) c hc

theorem isAbsolute_of_notMem (h : slash ∉ name) : isAbsolute name = false := by
  cases name with
  | nil => rfl
  | cons c r => simpa [isAbsolute] using fun he : c = slash => h (he ▸ List.mem_cons_self)

/-- A name below a place spells the path of the place of that name. -/
theorem spell_join_pathOf (h : ∀ n ∈ p, IsName n) (hs : slash ∉ name) :
    spell (Path.join (pathOf p) name) = spell (pathOf (p ++ [spell name])) := by
  unfold Path.join
  rw [if_neg (by simp [isAbsolute_of_notMem hs])]
  by_cases hp : p = []
  · subst hp
    show spell ("/" ++ name) = spell ("/" ++ Text.joinWith "/" [Utf8.decodeName (spell name)])
    simp [Text.joinWith]
  · have hlast : (pathOf p).getLast? ≠ some slash := by
      rw [pathOf_eq_ofNames]
      exact Path.getLast?_ofNames (arePlain_decodeName h) (by simpa using hp) _
    have hpath : pathOf (p ++ [spell name]) =
        pathOf p ++ ("/" ++ Utf8.decodeName (spell name)) := by
      unfold pathOf
      rw [List.map_append, List.map_singleton, Text.joinWith_concat (by simpa using hp),
        List.append_assoc]
    have hnil : (pathOf p).isEmpty = false := rfl
    rw [if_neg (by simp [hnil, hlast]), hpath]
    simp

theorem isWritable_join (ht : Utf8.IsWritable t) (hu : Utf8.IsWritable u) :
    Utf8.IsWritable (Path.join t u) := by
  have hslash : Utf8.IsWritable "/" := ⟨[slashOctet], by decide, by decide⟩
  rw [Utf8.isWritable_iff] at ht hu hslash ⊢
  unfold Path.join
  split
  · exact hu
  · split
    · exact List.forall_mem_append.mpr ⟨ht, hu⟩
    · exact List.forall_mem_append.mpr ⟨List.forall_mem_append.mpr ⟨ht, hslash⟩, hu⟩

theorem fits_iff_of_isWritable (h : Utf8.IsWritable path) :
    Fits path ↔ (spell path).length ≤ Disk.maxPath := by
  unfold Fits Utf8.nameOctets
  rw [h.spell]
  rfl

/-- A name below a place can be looked at if the place of that name has a path that fits. -/
theorem fits_join_pathOf (h : ∀ n ∈ p ++ [spell name], IsName n) (hs : slash ∉ name)
    (hname : Utf8.IsWritable name) (hfits : Fits (pathOf (p ++ [spell name]))) :
    Fits (Path.join (pathOf p) name) := by
  have hp : ∀ n ∈ p, IsName n := fun n hn => h n (List.mem_append_left _ hn)
  rw [fits_iff_of_isWritable (isWritable_join (isWritable_pathOf hp) hname),
    spell_join_pathOf hp hs]
  exact (fits_iff_of_isWritable (isWritable_pathOf h)).mp hfits

end Machine

end ServiceWiring
