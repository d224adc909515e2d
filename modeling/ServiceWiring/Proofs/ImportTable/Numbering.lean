import Mathlib.Order.Bounds.Basic
import ServiceWiring.Proofs.ImportTable.Calls

/-!
# Numbers behind names

A new path gets the name that is wanted for it, or that name with a number. `Tries` is the search
for the number, try by try: a number is reserved in the table that the last try left, until a
reservation succeeds. A reservation that fails changes nothing, so the search ends at the least free
number. It does end: two numbers make two names, and a table can only hold as many as it has
entries.

What the search leaves is what binding leaves: one entry more, and everything else as it was.

Results:
* `tries_iff`: how many numbers are tried, and what the search leaves.
* `adds_bind`: what binding a new path adds.

Headline:
* **`bind_least_number`**: binding a new path, in every table that calls can make.
-/

namespace ServiceWiring.ImportTable

variable {t u u' : ImportTable} {name path : Text} {name? : Option Text} {i n n' : Nat}

/-! ## The search -/

/-- From the given number on, so many numbers are tried behind the name until one can be reserved
for the path, and the last table is left. -/
inductive Tries (name path : Text) : ImportTable → Nat → Nat → ImportTable → Prop where
  /-- The number is free. -/
  | free {t u : ImportTable} {i : Nat} (h : t.reserve (numbered name i) path = (true, u)) :
      Tries name path t i 1 u
  /-- The number is taken, and the next one is tried. -/
  | taken {t t' u : ImportTable} {i n : Nat}
      (h : t.reserve (numbered name i) path = (false, t')) (rest : Tries name path t' (i + 1) n u) :
      Tries name path t i (n + 1) u

/-- The search can go only one way. -/
theorem Tries.unique (h : Tries name path t i n u) (h' : Tries name path t i n' u') :
    n = n' ∧ u = u' := by
  induction h generalizing n' u' with
  | free h =>
    cases h' with
    | free h' =>
      rw [h] at h'
      exact ⟨rfl, (Prod.mk.inj h').2⟩
    | taken h' =>
      rw [h] at h'
      cases h'
  | taken h _ ih =>
    cases h' with
    | free h' =>
      rw [h] at h'
      cases h'
    | taken h' rest =>
      rw [h] at h'
      obtain rfl := (Prod.mk.inj h').2
      obtain ⟨rfl, rfl⟩ := ih rest
      exact ⟨rfl, rfl⟩

theorem mem_bound_of_pathOf? (h : t.pathOf? name = some path) : (name, path) ∈ t.bound := by
  obtain ⟨b, hb, rfl⟩ := Option.map_eq_some_iff.mp h
  obtain rfl : b.1 = name := by simpa using List.find?_some hb
  exact List.mem_of_find?_eq_some hb

/-- A name that is taken cannot be reserved for a new path. -/
theorem reserve_of_new (hpath : t.nameOf? path = none) (h : t.pathOf? name ≠ none) :
    t.reserve name path = (false, t) := by
  obtain ⟨taken, htaken⟩ := Option.ne_none_iff_exists'.mp h
  have hne : taken ≠ path := by
    rintro rfl
    exact nameOf?_eq_none_iff.mp hpath (List.mem_map_of_mem (mem_bound_of_pathOf? htaken))
  rw [reserve_of_taken htaken, decide_eq_false hne]

/-- The search passes over numbers that are taken, and ends at one that is free. -/
theorem tries_of_taken (hpath : t.nameOf? path = none) {k : Nat}
    (htaken : ∀ j < k, t.pathOf? (numbered name (i + j)) ≠ none)
    (hfree : t.pathOf? (numbered name (i + k)) = none) :
    Tries name path t i (k + 1) { t with bound := (numbered name (i + k), path) :: t.bound } := by
  induction k generalizing i with
  | zero => exact .free (reserve_of_free hfree hpath)
  | succ k ih =>
    have hshift (j : Nat) : i + (j + 1) = i + 1 + j := by omega
    refine .taken (reserve_of_new hpath (htaken 0 k.succ_pos)) ?_
    rw [hshift k] at hfree ⊢
    refine ih (fun j hj => ?_) hfree
    rw [← hshift j]
    exact htaken (j + 1) (Nat.succ_lt_succ hj)

/-- **The search ends at the least free number**, and changes nothing but to bind it. -/
theorem tries_iff (hpath : t.nameOf? path = none)
    (hi : IsLeast {j | t.pathOf? (numbered name j) = none} i) :
    Tries name path t 0 n u ↔
      n = i + 1 ∧ u = { t with bound := (numbered name i, path) :: t.bound } := by
  have hsearch : Tries name path t 0 (i + 1)
      { t with bound := (numbered name i, path) :: t.bound } := by
    have htaken : ∀ j < i, t.pathOf? (numbered name (0 + j)) ≠ none := by
      intro j hj hfree
      rw [Nat.zero_add] at hfree
      exact absurd (hi.2 hfree) (Nat.not_le_of_lt hj)
    have hfree : t.pathOf? (numbered name (0 + i)) = none := by
      rw [Nat.zero_add]
      exact hi.1
    simpa only [Nat.zero_add] using tries_of_taken hpath htaken hfree
  constructor
  · intro h
    exact h.unique hsearch
  · rintro ⟨rfl, rfl⟩
    exact hsearch

/-! ## What is added -/

/-- The table has one entry more, and the package of that path; whatever else is looked up is found
as before. -/
structure Adds (t u : ImportTable) (short : Text) (p : GoPackage) : Prop where
  /-- One entry more. -/
  bound : u.bound = (short, p.path) :: t.bound
  /-- One package more. -/
  packages : u.packages = p :: t.packages
  /-- The other paths keep their names, or the lack of one. -/
  names : ∀ path, path ≠ p.path → u.nameOf? path = t.nameOf? path
  /-- The other names keep their paths, or the lack of one. -/
  paths : ∀ name, name ≠ short → u.pathOf? name = t.pathOf? name
  /-- The other paths keep their packages, or the lack of one. -/
  asked : ∀ path, path ≠ p.path → u.package? path = t.package? path

/-- Binding a path that is new adds it, under a free name. -/
theorem adds_bind (h : t.package? path = none) (hn : t.nameOf? path = none) :
    Adds t (t.bind path name?).2 (t.freeName (wantedName path name?)) (t.bind path name?).1 := by
  rw [bind_of_new h hn]
  refine ⟨rfl, rfl, fun q hq => ?_, fun m hm => ?_, fun q hq => ?_⟩
  · exact nameOf?_cons_of_ne (Ne.symm hq) _ _
  · simp [pathOf?, Ne.symm hm]
  · exact List.find?_cons_of_neg (by simpa using Ne.symm hq)

/-- **Binding a new path finds the least free number.** In every table that calls can make, a path
without a name is given the package of the wanted name. If that name is free it is bound, and the
package has no other name. If it is taken, then the search for a number ends, after as many tries as
the table has names and one more at the most, and in no other way; the least free number is bound
behind the name, and the package is imported by that. One entry is added, and nothing else changes.
-/
theorem bind_least_number (calls : List Call) (name? : Option Text)
    (h : (after ∅ calls).contains path = false) :
    let t := after ∅ calls
    let name := wantedName path name?
    let p := (t.bind path name?).1
    let u := (t.bind path name?).2
    (t.pathOf? name = none → p = ⟨path, name, none⟩ ∧ Adds t u name p) ∧
      (t.pathOf? name ≠ none →
        ∃ i, IsLeast {j | t.pathOf? (numbered name j) = none} i ∧ i + 1 ≤ t.size + 1 ∧
          (∀ n u', Tries name path t 0 n u' ↔ n = i + 1 ∧ u' = { t with bound := u.bound }) ∧
          p = ⟨path, name, some (numbered name i)⟩ ∧ Adds t u (numbered name i) p) := by
  intro t name p u
  have hname : t.nameOf? path = none := by simpa [contains] using h
  have hpackage : t.package? path = none := by
    refine package?_eq_none_iff.mpr fun hmem => ?_
    obtain ⟨q, hq, rfl⟩ := List.mem_map.mp hmem
    obtain ⟨short, hbound, -⟩ := (valid_after calls).named q hq
    exact nameOf?_eq_none_iff.mp hname (List.mem_map_of_mem (f := Prod.snd) hbound)
  have hadds : Adds t u (t.freeName name) p := adds_bind hpackage hname
  have hnew : p = newPackage path name (t.freeName name) :=
    congrArg Prod.fst (bind_of_new hpackage hname)
  refine ⟨fun hfree => ?_, fun htaken => ?_⟩
  · rw [freeName_of_free hfree] at hadds hnew
    exact ⟨by rw [hnew, newPackage, localName?_eq_none_iff.mpr (Or.inl rfl)], hadds⟩
  · obtain ⟨i, hi, hleast, hnumber⟩ := freeName_of_taken htaken
    rw [hnumber] at hadds hnew
    have hlocal : localName? name (numbered name i) = some (numbered name i) := by
      simp [localName?, numbered_ne_self, numbered_ne_nil]
    refine ⟨i, hleast, Nat.succ_le_of_lt hi, fun n u' => ?_, by rw [hnew, newPackage, hlocal],
      hadds⟩
    rw [tries_iff hname hleast, hadds.bound, show p.path = path from path_bind t path name?]

/-- A run that binds `p`, `p_1`, `p_0` and `p_3`: a path that ends so, another one, a path that gets
a number, and a reservation. -/
def gapped : List Call :=
  [.bind "a/p" none, .bind "b/p_1" none, .bind "b/p" none, .reserve "p_3" "q"]

theorem bind_least_number_gapped :
    (after ∅ gapped).contains "c/p/" = false ∧
      ((after ∅ gapped).bind "c/p/").1 = ⟨"c/p/", "p", some (Text.ofString "p_2")⟩ ∧
      ∃ u, Tries "p" "c/p/" (after ∅ gapped) 0 3 u := by
  have hnew : (after ∅ gapped).contains "c/p/" = false := by decide
  have htwo : IsLeast {j | (after ∅ gapped).pathOf? (numbered "p" j) = none} 2 := by
    refine ⟨by decide, fun j (hj : (after ∅ gapped).pathOf? (numbered "p" j) = none) => ?_⟩
    by_contra hlt
    have hall : ∀ k < 2, (after ∅ gapped).pathOf? (numbered "p" k) ≠ none := by decide
    exact hall j (Nat.lt_of_not_le hlt) hj
  have hwanted : wantedName "c/p/" none = "p" := by decide
  have htaken : (after ∅ gapped).pathOf? "p" ≠ none := by decide
  have hbind := bind_least_number gapped none hnew
  simp only [hwanted] at hbind
  obtain ⟨i, hi, -, htries, hp, -⟩ := hbind.2 htaken
  obtain rfl := hi.unique htwo
  exact ⟨hnew, hp, _, (htries 3 _).mpr ⟨rfl, rfl⟩⟩

end ServiceWiring.ImportTable
