import Mathlib.Data.Finset.Card
import ServiceWiring.Proofs.ImportTable.Calls

/-!
# Import tables only grow

In every table that calls can make, the names and the paths are in one-to-one correspondence:
looking up the name of a path and looking up the path of a name are inverse to each other. Calls
only ever add a pair to that correspondence. So a pair that is bound is bound for good, a path that
was asked for gets the same package from then on, and a reservation that fails changes nothing.

Results:
* `Grows.bind_again`, `Grows.bindAll_again`: what paths were given they are given again, and nothing
  is bound for it.

Headline:
* **`append_only`**: the three properties, for every run of calls from the empty table.
-/

namespace ServiceWiring.ImportTable

variable {t t' : ImportTable} {kind : Call → Prop} {name path : Text} {p : GoPackage}

/-! ## What was given is given again -/

/-- The packages of some paths, bound in order, and the table in which they are. -/
def bindAll (t : ImportTable) : List Text → List GoPackage × ImportTable
  | [] => ([], t)
  | path :: paths =>
    (((t.bind path).1 :: ((t.bind path).2.bindAll paths).1), ((t.bind path).2.bindAll paths).2)

theorem bindAll_grows (t : ImportTable) (paths : List Text) :
    Grows (fun _ => True) t (t.bindAll paths).2 := by
  induction paths generalizing t with
  | nil => exact Grows.refl _ t
  | cons path paths ih => exact (Grows.single (c := .bind path none) trivial).trans (ih _)

namespace Grows

/-- A path that has a package is given the same again, and the table stays as it is. -/
theorem bind_of_package (h : Grows kind t t') (hp : t.package? path = some p)
    (name? : Option Text) : t'.bind path name? = (p, t') :=
  ImportTable.bind_of_package (h.package? hp)

/-- What a binding gave it gives again, whatever was called in between. -/
theorem bind_again {name? : Option Text} (h : Grows kind (t.bind path name?).2 t')
    (name'? : Option Text) : t'.bind path name'? = ((t.bind path name?).1, t') :=
  h.bind_of_package (package?_bind_self t path name?) name'?

/-- What a list of bindings gave it gives again, whatever was called in between. -/
theorem bindAll_again {paths : List Text} (h : Grows (fun _ => True) (t.bindAll paths).2 t') :
    t'.bindAll paths = ((t.bindAll paths).1, t') := by
  induction paths generalizing t with
  | nil => rfl
  | cons path paths ih =>
    have hpath := ((bindAll_grows (t.bind path).2 paths).trans h).bind_again none
    unfold bindAll
    rw [hpath, ih h]

end Grows

/-! ## The correspondence -/

/-- The two columns of the table are inverse to each other, and its size and its packages are those
of the bound paths. -/
structure Corresponds (t : ImportTable) : Prop where
  /-- A path has a name iff the name stands for the path. -/
  inverse : ∀ name path, t.nameOf? path = some name ↔ t.pathOf? name = some path
  /-- The size is the number of bound paths. -/
  size_eq : ∃ paths : Finset Text, (∀ path, path ∈ paths ↔ t.contains path) ∧ t.size = paths.card
  /-- Only a bound path has a package. -/
  asked_bound : ∀ path p, t.package? path = some p → p.path = path ∧ t.contains path

theorem contains_iff : t.contains path ↔ path ∈ t.bound.map (·.2) := by
  unfold contains
  rw [Option.isSome_iff_ne_none, ne_eq, nameOf?_eq_none_iff, not_not]

/-- A valid table is a one-to-one correspondence. -/
theorem Valid.corresponds (h : t.Valid) : t.Corresponds where
  inverse := by
    intro name path
    rw [h.nameOf?_eq_some_iff, h.pathOf?_eq_some_iff]
  size_eq := by
    refine ⟨(t.bound.map (·.2)).toFinset, fun path => ?_, ?_⟩
    · rw [contains_iff, List.mem_toFinset]
    · rw [List.toFinset_card_of_nodup h.paths, List.length_map]
      rfl
  asked_bound := by
    intro path p hp
    obtain ⟨hmem, rfl⟩ := package?_mem hp
    obtain ⟨short, hb, -⟩ := h.named p hmem
    exact ⟨rfl, contains_iff.mpr (List.mem_map_of_mem (f := Prod.snd) hb)⟩

/-- A growing table keeps the path of every name. -/
theorem Grows.pathOf? (h : Grows kind t t') (ht : t.Valid) (hn : t.pathOf? name = some path) :
    t'.pathOf? name = some path := by
  rw [← ht.corresponds.inverse] at hn
  rw [← (h.valid ht).corresponds.inverse]
  exact h.nameOf? hn

/-- A reservation succeeds iff the name stands for the path afterwards. -/
theorem reserve_iff (t : ImportTable) (name path : Text) :
    (t.reserve name path).1 = true ↔ (t.reserve name path).2.pathOf? name = some path := by
  cases h : t.pathOf? name with
  | some taken => simp [reserve_of_taken h, h]
  | none =>
    cases hp : t.nameOf? path with
    | some short => simp [reserve_of_bound h hp, h]
    | none => simp [reserve_of_free h hp, pathOf?]

/-- A reservation that fails changes nothing. -/
theorem reserve_of_false (h : (t.reserve name path).1 = false) : (t.reserve name path).2 = t := by
  rcases reserve_cases t name path with ht | ⟨hname, hpath, -⟩
  · exact ht
  · rw [reserve_of_free hname hpath] at h
    cases h

/-- **Names and paths correspond, and calls only add to the correspondence.** Take the table that
any list of calls leaves. Its columns are inverse to each other, its size is the number of bound
paths, and a path with a package is bound. After any later calls each of its pairs is still bound,
and each of its packages is what binding the path gives, under whatever name, without any change. A
reservation succeeds iff the name stands for the path afterwards, and changes nothing if it fails.
-/
theorem append_only (calls : List Call) :
    (after ∅ calls).Corresponds ∧
    (∀ later,
      (∀ name path, (after ∅ calls).nameOf? path = some name →
        ((after ∅ calls).after later).nameOf? path = some name ∧
        ((after ∅ calls).after later).pathOf? name = some path) ∧
      (∀ path p, (after ∅ calls).package? path = some p → ∀ name?,
        ((after ∅ calls).after later).bind path name? = (p, (after ∅ calls).after later))) ∧
    (∀ name path,
      (((after ∅ calls).reserve name path).1 = true ↔
        ((after ∅ calls).reserve name path).2.pathOf? name = some path) ∧
      (((after ∅ calls).reserve name path).1 = false →
        ((after ∅ calls).reserve name path).2 = after ∅ calls)) := by
  have hv := valid_after calls
  refine ⟨hv.corresponds, fun later => ⟨fun name path hn => ?_, fun path p hp name? => ?_⟩,
    fun name path => ⟨reserve_iff _ name path, reserve_of_false⟩⟩
  · have hgrows : Grows (fun _ => True) (after ∅ calls) ((after ∅ calls).after later) :=
      ⟨later, by simp, rfl⟩
    exact ⟨hgrows.nameOf? hn, hgrows.pathOf? hv ((hv.corresponds.inverse name path).mp hn)⟩
  · have hgrows : Grows (fun _ => True) (after ∅ calls) ((after ∅ calls).after later) :=
      ⟨later, by simp, rfl⟩
    exact hgrows.bind_of_package hp name?

/-- A run in which `p_0` is taken when a second path wants `p`. -/
def suffixed : List Call := [.reserve "p_0" "q", .bind "a/p" none, .bind "b/p" none]

theorem append_only_suffixed :
    (after ∅ suffixed).nameOf? "b/p" = some (Text.ofString "p_1") ∧
      ∀ later, ((after ∅ suffixed).after later).pathOf? "p_1" = some (Text.ofString "b/p") := by
  have hname : (after ∅ suffixed).nameOf? "b/p" = some (Text.ofString "p_1") := by decide
  exact ⟨hname, fun later => (((append_only suffixed).2.1 later).1 _ _ hname).2⟩

end ServiceWiring.ImportTable
