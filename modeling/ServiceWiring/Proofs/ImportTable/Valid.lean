import ServiceWiring.Proofs.ImportTable.Lookup

/-!
# Valid import tables

The two columns of `bound` and the cache of packages are three views of one table. `Valid` says that
they agree: no name and no path is bound twice, no path has two packages, and every package is
bound. `Faithful` says more, for tables that only `bind` has changed: nothing is bound that was not
asked for, and a package goes by exactly the name that its path is bound to.

The two differ because a package cannot say that it goes by the empty name: an absent local name
means the declared one. So a path that was reserved under the empty name gets a package that goes by
its declared name instead (`Valid.shortName_eq`).

Results:
* `Valid.reserve`, `Valid.bind`: both operations keep a valid table valid.
* `Valid.shortName_eq`: the name that a package goes by, from the name its path is bound to.
* `Faithful.bind`: binding keeps a faithful table faithful.
-/

namespace ServiceWiring.ImportTable

variable {t : ImportTable} {name path short : Text} {name? : Option Text} {p q : GoPackage}

/-- The columns of the table and its packages agree. -/
structure Valid (t : ImportTable) : Prop where
  /-- A name stands for one path. -/
  names : (t.bound.map (·.1)).Nodup
  /-- A path has one name. -/
  paths : (t.bound.map (·.2)).Nodup
  /-- A path has one package. -/
  packages : (t.packages.map (·.path)).Nodup
  /-- A package is the new package of its path under the name that the path is bound to. -/
  named : ∀ p ∈ t.packages, ∃ short, (short, p.path) ∈ t.bound ∧ p = newPackage p.path p.name short

/-- Nothing is bound that was not asked for, and each package goes by the name that is bound. -/
structure Faithful (t : ImportTable) : Prop extends Valid t where
  /-- A bound path has a package. -/
  asked : ∀ b ∈ t.bound, ∃ p ∈ t.packages, p.path = b.2
  /-- A package goes by the name that its path is bound to. -/
  short : ∀ p ∈ t.packages, (p.shortName, p.path) ∈ t.bound

/-! ## Lookups in a valid table -/

namespace Valid

theorem pathOf?_eq_some_iff (h : t.Valid) :
    t.pathOf? name = some path ↔ (name, path) ∈ t.bound := by
  simp only [pathOf?, Option.map_eq_some_iff, find?_key_eq_some_iff h.names]
  constructor
  · rintro ⟨b, ⟨hb, rfl⟩, rfl⟩
    exact hb
  · intro hb
    exact ⟨_, ⟨hb, rfl⟩, rfl⟩

theorem nameOf?_eq_some_iff (h : t.Valid) :
    t.nameOf? path = some name ↔ (name, path) ∈ t.bound := by
  simp only [nameOf?, Option.map_eq_some_iff, find?_key_eq_some_iff h.paths]
  constructor
  · rintro ⟨b, ⟨hb, rfl⟩, rfl⟩
    exact hb
  · intro hb
    exact ⟨_, ⟨hb, rfl⟩, rfl⟩

theorem package?_eq_some_iff (h : t.Valid) :
    t.package? path = some p ↔ p ∈ t.packages ∧ p.path = path :=
  find?_key_eq_some_iff h.packages

/-- **One path, one package.** -/
theorem package_unique (h : t.Valid) (hp : p ∈ t.packages) (hq : q ∈ t.packages)
    (hpath : p.path = q.path) : p = q :=
  List.inj_on_of_nodup_map h.packages hp hq hpath

/-- **One name, one path.** -/
theorem path_unique (h : t.Valid) {path' : Text} (hp : t.nameOf? path = some name)
    (hq : t.nameOf? path' = some name) : path = path' := by
  rw [h.nameOf?_eq_some_iff] at hp hq
  exact congrArg Prod.snd (List.inj_on_of_nodup_map h.names hp hq rfl)

end Valid

/-! ## The name that a package goes by -/

theorem shortName_newPackage (path name short : Text) :
    (newPackage path name short).shortName = if short = [] then name else short := by
  unfold newPackage localName? GoPackage.shortName
  by_cases hname : short = name
  · subst hname
    simp
  · by_cases hnil : short = []
    · simp [hnil]
    · simp [hname, hnil]

/-- The name that a package goes by is the one that its path is bound to, unless that is empty: then
it is the one that the package declares. -/
theorem Valid.shortName_eq (h : t.Valid) (hp : p ∈ t.packages) :
    ∃ short, t.nameOf? p.path = some short ∧
      p.shortName = if short = [] then p.name else short := by
  obtain ⟨short, hb, hnew⟩ := h.named p hp
  refine ⟨short, h.nameOf?_eq_some_iff.mpr hb, ?_⟩
  calc
    p.shortName = (newPackage p.path p.name short).shortName := by rw [← hnew]
    _ = if short = [] then p.name else short := shortName_newPackage _ _ _

namespace Faithful

theorem nameOf?_eq (h : t.Faithful) (hp : p ∈ t.packages) : t.nameOf? p.path = some p.shortName :=
  h.toValid.nameOf?_eq_some_iff.mpr (h.short p hp)

/-- **Two packages never go by one name.** -/
theorem shortName_injective (h : t.Faithful) (hp : p ∈ t.packages) (hq : q ∈ t.packages)
    (hs : p.shortName = q.shortName) : p = q :=
  h.package_unique hp hq (h.path_unique (h.nameOf?_eq hp) (hs ▸ h.nameOf?_eq hq))

end Faithful

/-! ## The operations keep a table valid -/

theorem valid_empty : Valid ∅ where
  names := List.nodup_nil
  paths := List.nodup_nil
  packages := List.nodup_nil
  named := by
    intro p hp
    cases hp

theorem faithful_empty : Faithful ∅ where
  toValid := valid_empty
  asked := by
    intro b hb
    cases hb
  short := by
    intro p hp
    cases hp

theorem Valid.reserve (h : t.Valid) (name path : Text) : (t.reserve name path).2.Valid := by
  rcases reserve_cases t name path with ht | ⟨hname, hpath, ht⟩
  · rwa [ht]
  · rw [ht]
    refine ⟨?_, ?_, h.packages, fun p hp => ?_⟩
    · exact List.nodup_cons.mpr ⟨pathOf?_eq_none_iff.mp hname, h.names⟩
    · exact List.nodup_cons.mpr ⟨nameOf?_eq_none_iff.mp hpath, h.paths⟩
    · obtain ⟨short, hb, hnew⟩ := h.named p hp
      exact ⟨short, List.mem_cons_of_mem _ hb, hnew⟩

theorem Valid.bind (h : t.Valid) (path : Text) (name? : Option Text) :
    (t.bind path name?).2.Valid := by
  rcases bind_cases t path name? with ⟨p, -, hb⟩ | ⟨hnone, short, hbound, hnew, hpk⟩
  · rwa [hb]
  · have hpackages : ((t.bind path name?).2.packages.map (·.path)).Nodup := by
      rw [hpk, List.map_cons, path_bind]
      exact List.nodup_cons.mpr ⟨package?_eq_none_iff.mp hnone, h.packages⟩
    -- The new package is named for the entry of its path, whether that is new too or not.
    have hnamed (hsub : t.bound ⊆ (t.bind path name?).2.bound)
        (hmem : (short, path) ∈ (t.bind path name?).2.bound) : ∀ p ∈ (t.bind path name?).2.packages,
          ∃ s, (s, p.path) ∈ (t.bind path name?).2.bound ∧ p = newPackage p.path p.name s := by
      intro p hp
      rw [hpk] at hp
      rcases List.mem_cons.mp hp with rfl | hp
      · exact ⟨short, by rwa [path_bind], by rw [hnew]; rfl⟩
      · obtain ⟨s, hb, hs⟩ := h.named p hp
        exact ⟨s, hsub hb, hs⟩
    rcases hbound with ⟨hn, hb⟩ | ⟨hn, hfree, hb⟩
    · refine ⟨by rw [hb]; exact h.names, by rw [hb]; exact h.paths, hpackages, hnamed ?_ ?_⟩
      · rw [hb]
        exact fun _ hx => hx
      · rw [hb]
        exact h.nameOf?_eq_some_iff.mp hn
    · have hname : short ∉ t.bound.map (·.1) := by
        rw [hfree]
        exact pathOf?_eq_none_iff.mp (pathOf?_freeName t _)
      refine ⟨?_, ?_, hpackages, hnamed ?_ ?_⟩
      · rw [hb]
        exact List.nodup_cons.mpr ⟨hname, h.names⟩
      · rw [hb]
        exact List.nodup_cons.mpr ⟨nameOf?_eq_none_iff.mp hn, h.paths⟩
      · rw [hb]
        exact List.subset_cons_self _ _
      · rw [hb]
        exact List.mem_cons_self

/-- A path of a faithful table that has no package has no name. -/
theorem Faithful.nameOf?_eq_none (h : t.Faithful) (hp : t.package? path = none) :
    t.nameOf? path = none := by
  rw [nameOf?_eq_none_iff]
  intro hmem
  obtain ⟨b, hb, rfl⟩ := List.mem_map.mp hmem
  obtain ⟨q, hq, hpath⟩ := h.asked b hb
  exact package?_eq_none_iff.mp hp (List.mem_map.mpr ⟨q, hq, hpath⟩)

theorem Faithful.bind (h : t.Faithful) (path : Text) (name? : Option Text) :
    (t.bind path name?).2.Faithful := by
  rcases bind_cases t path name? with ⟨p, -, hb⟩ | ⟨hnone, short, hbound, hnew, hpk⟩
  · rwa [hb]
  · rcases hbound with ⟨hn, -⟩ | ⟨-, hfree, hb⟩
    · exact absurd (h.nameOf?_eq_none hnone) (by rw [hn]; simp)
    · have hshort : (t.bind path name?).1.shortName = short := by
        rw [hnew, shortName_newPackage]
        split
        · rename_i hnil
          rw [hnil] at hfree ⊢
          exact eq_nil_of_freeName_eq_nil hfree.symm
        · rfl
      refine ⟨h.toValid.bind path name?, fun b hm => ?_, fun p hp => ?_⟩
      · rw [hb] at hm
        rw [hpk]
        rcases List.mem_cons.mp hm with rfl | hm
        · exact ⟨_, List.mem_cons_self, path_bind t path name?⟩
        · obtain ⟨q, hq, hpath⟩ := h.asked b hm
          exact ⟨q, List.mem_cons_of_mem _ hq, hpath⟩
      · rw [hpk] at hp
        rw [hb]
        rcases List.mem_cons.mp hp with rfl | hp
        · rw [hshort, path_bind]
          exact List.mem_cons_self
        · exact List.mem_cons_of_mem _ (h.short p hp)

end ServiceWiring.ImportTable
