import Mathlib.Data.List.Nodup
import ServiceWiring.Proofs.ImportTable.FreeName

/-!
# What reserving and binding do to a table

Each operation either leaves the table as it is or adds one entry in front. Everything that a table
answers therefore stays as it is: the name of a path, and the package of a path.

Results:
* `reserve_cases`, `bind_cases`: all that the operations can do.
* `nameOf?_reserve`, `nameOf?_bind`, `package?_bind`: nothing that is in the table changes.
* `package?_bind_self`: the package that is given is the one of the path from then on.
-/

namespace ServiceWiring.ImportTable

variable {t : ImportTable} {name path short : Text} {name? : Option Text} {p q : GoPackage}

/-! ## Looking things up -/

/-- In a list without repeated keys, the first entry with a key is the entry with it. -/
theorem find?_key_eq_some_iff {α : Type} {key : α → Text} {l : List α} (h : (l.map key).Nodup)
    {k : Text} {x : α} : l.find? (fun y => key y = k) = some x ↔ x ∈ l ∧ key x = k := by
  constructor
  · intro hf
    exact ⟨List.mem_of_find?_eq_some hf, by simpa using List.find?_some hf⟩
  · rintro ⟨hx, rfl⟩
    have hsome : (l.find? fun y => key y = key x).isSome := by
      rw [List.find?_isSome]
      exact ⟨x, hx, decide_eq_true rfl⟩
    obtain ⟨y, hy⟩ := Option.isSome_iff_exists.mp hsome
    have hkey : key y = key x := by simpa using List.find?_some hy
    have hyx : y = x := List.inj_on_of_nodup_map h (List.mem_of_find?_eq_some hy) hx hkey
    rwa [hyx] at hy

theorem nameOf?_eq_none_iff : t.nameOf? path = none ↔ path ∉ t.bound.map (·.2) := by
  simp only [nameOf?, Option.map_eq_none_iff, List.find?_eq_none, decide_eq_true_eq, List.mem_map,
    not_exists, not_and]

theorem package?_eq_none_iff : t.package? path = none ↔ path ∉ t.packages.map (·.path) := by
  simp only [package?, List.find?_eq_none, decide_eq_true_eq, List.mem_map, not_exists, not_and]

theorem package?_mem (h : t.package? path = some p) : p ∈ t.packages ∧ p.path = path :=
  ⟨List.mem_of_find?_eq_some h, by simpa using List.find?_some h⟩

/-! ## What the operations do -/

theorem localName?_eq_none_iff : localName? name short = none ↔ short = name ∨ short = [] := by
  unfold localName?
  by_cases hname : short = name <;> by_cases hnil : short = [] <;> simp [hname, hnil]

/-- The package that a path gets when it is first asked for. -/
def newPackage (path name short : Text) : GoPackage := ⟨path, name, localName? name short⟩

theorem bind_of_package (h : t.package? path = some p) : t.bind path name? = (p, t) := by
  simp [bind, h]

theorem bind_of_name (h : t.package? path = none) (hn : t.nameOf? path = some short) :
    t.bind path name? =
      (newPackage path (wantedName path name?) short,
        { t with packages := newPackage path (wantedName path name?) short :: t.packages }) := by
  simp [bind, h, hn, newPackage]

theorem bind_of_new (h : t.package? path = none) (hn : t.nameOf? path = none) :
    t.bind path name? =
      (newPackage path (wantedName path name?) (t.freeName (wantedName path name?)),
        ⟨(t.freeName (wantedName path name?), path) :: t.bound,
          newPackage path (wantedName path name?) (t.freeName (wantedName path name?)) ::
            t.packages⟩) := by
  simp [bind, h, hn, newPackage]

theorem reserve_of_taken {taken : Text} (h : t.pathOf? name = some taken) :
    t.reserve name path = (decide (taken = path), t) := by
  simp [reserve, h]

theorem reserve_of_bound (h : t.pathOf? name = none) (hp : t.nameOf? path = some short) :
    t.reserve name path = (false, t) := by
  simp [reserve, h, contains, hp]

theorem reserve_of_free (h : t.pathOf? name = none) (hp : t.nameOf? path = none) :
    t.reserve name path = (true, { t with bound := (name, path) :: t.bound }) := by
  simp [reserve, h, contains, hp]

/-- Reserving leaves the table as it is or binds a free name to a path without one. -/
theorem reserve_cases (t : ImportTable) (name path : Text) :
    (t.reserve name path).2 = t ∨
      t.pathOf? name = none ∧ t.nameOf? path = none ∧
        (t.reserve name path).2 = { t with bound := (name, path) :: t.bound } := by
  cases h : t.pathOf? name with
  | some taken => exact Or.inl (by rw [reserve_of_taken h])
  | none =>
    cases hp : t.nameOf? path with
    | some short => exact Or.inl (by rw [reserve_of_bound h hp])
    | none => exact Or.inr ⟨rfl, rfl, by rw [reserve_of_free h hp]⟩

/-- Binding leaves the table as it is, or adds the package of a path that has a name, or binds a
free name and adds the package. -/
theorem bind_cases (t : ImportTable) (path : Text) (name? : Option Text) :
    (∃ p, t.package? path = some p ∧ t.bind path name? = (p, t)) ∨
      t.package? path = none ∧ ∃ short,
        (t.nameOf? path = some short ∧ (t.bind path name?).2.bound = t.bound ∨
          t.nameOf? path = none ∧ short = t.freeName (wantedName path name?) ∧
            (t.bind path name?).2.bound = (short, path) :: t.bound) ∧
        (t.bind path name?).1 = newPackage path (wantedName path name?) short ∧
        (t.bind path name?).2.packages = (t.bind path name?).1 :: t.packages := by
  cases h : t.package? path with
  | some p => exact Or.inl ⟨p, rfl, bind_of_package h⟩
  | none =>
    refine Or.inr ⟨rfl, ?_⟩
    cases hn : t.nameOf? path with
    | some short =>
      rw [bind_of_name h hn]
      exact ⟨short, Or.inl ⟨rfl, rfl⟩, rfl, rfl⟩
    | none =>
      rw [bind_of_new h hn]
      exact ⟨_, Or.inr ⟨rfl, rfl, rfl⟩, rfl, rfl⟩

/-! ## Nothing that is in the table changes -/

theorem nameOf?_cons_of_ne {path' : Text} (h : path' ≠ path) (b : List (Text × Text))
    (packages : List GoPackage) :
    nameOf? ⟨(name, path') :: b, packages⟩ path = nameOf? ⟨b, packages⟩ path := by
  simp [nameOf?, h]

/-- Reserving keeps the name of every path that has one. -/
theorem nameOf?_reserve {n p : Text} (h : t.nameOf? path = some short) :
    (t.reserve n p).2.nameOf? path = some short := by
  rcases reserve_cases t n p with ht | ⟨-, hp, ht⟩
  · rw [ht, h]
  · have hne : p ≠ path := fun he => by rw [he, h] at hp; exact absurd hp (by simp)
    rw [ht, nameOf?_cons_of_ne hne]
    exact h

/-- Binding keeps the name of every path that has one. -/
theorem nameOf?_bind {p : Text} (h : t.nameOf? path = some short) :
    (t.bind p name?).2.nameOf? path = some short := by
  rcases bind_cases t p name? with ⟨q, -, hb⟩ | ⟨-, s, ⟨-, hb⟩ | ⟨hp, -, hb⟩, -⟩
  · rwa [hb]
  · unfold nameOf?
    rw [hb]
    exact h
  · have hne : p ≠ path := fun he => by rw [he, h] at hp; exact absurd hp (by simp)
    unfold nameOf?
    rw [hb, List.find?_cons_of_neg (by simpa using hne)]
    exact h

/-- Binding keeps the package of every path that was asked for. -/
theorem package?_bind {path' : Text} (h : t.package? path = some p) :
    (t.bind path' name?).2.package? path = some p := by
  rcases bind_cases t path' name? with ⟨q, -, hb⟩ | ⟨hnone, s, -, hnew, hpk⟩
  · rwa [hb]
  · have hne : path' ≠ path := fun he => by rw [he, h] at hnone; exact absurd hnone (by simp)
    unfold package?
    rw [hpk, hnew, List.find?_cons_of_neg (by simp [newPackage, hne])]
    exact h

theorem packages_reserve (t : ImportTable) (n p : Text) :
    (t.reserve n p).2.packages = t.packages := by
  rcases reserve_cases t n p with ht | ⟨-, -, ht⟩ <;> rw [ht]

theorem packages_subset_bind (t : ImportTable) (path : Text) (name? : Option Text) :
    t.packages ⊆ (t.bind path name?).2.packages := by
  rcases bind_cases t path name? with ⟨p, -, hb⟩ | ⟨-, s, -, -, hpk⟩
  · rw [hb]
    exact fun _ h => h
  · rw [hpk]
    exact List.subset_cons_self _ _

/-- The package that is given is the one of the path from then on. -/
theorem package?_bind_self (t : ImportTable) (path : Text) (name? : Option Text) :
    (t.bind path name?).2.package? path = some (t.bind path name?).1 := by
  rcases bind_cases t path name? with ⟨p, hp, hb⟩ | ⟨-, s, -, hnew, hpk⟩
  · rw [hb, hp]
  · unfold package?
    rw [hpk, hnew, List.find?_cons_of_pos (by simp [newPackage])]

theorem bind_mem (t : ImportTable) (path : Text) (name? : Option Text) :
    (t.bind path name?).1 ∈ (t.bind path name?).2.packages :=
  (package?_mem (package?_bind_self t path name?)).1

@[simp]
theorem path_bind (t : ImportTable) (path : Text) (name? : Option Text) :
    (t.bind path name?).1.path = path :=
  (package?_mem (package?_bind_self t path name?)).2

end ServiceWiring.ImportTable
