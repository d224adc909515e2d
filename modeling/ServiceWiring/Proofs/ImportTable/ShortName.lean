import ServiceWiring.Proofs.ImportTable.Calls

/-!
# The short names that a table hands out

A run of calls should give each path a package that goes by the name the path is bound to, and two
paths packages with two names. A package cannot go by the empty name, though, so both fail for a
path that was reserved under it and declares another: it goes by its declared name, which is not
bound to it and may be given to the next path.

Headline:
* **`shortName_law`**: for every run, both laws hold exactly where no package is `Misnamed`, and a
  package can only be misnamed after its path was reserved under the empty name.
-/

namespace ServiceWiring.ImportTable

variable {t : ImportTable} {p q : GoPackage}

/-- The path of the package is bound to the empty name, but the package declares another. -/
def Misnamed (t : ImportTable) (p : GoPackage) : Prop := t.nameOf? p.path = some [] ∧ p.name ≠ []

/-- A package goes by the name that its path is bound to, unless it is misnamed. -/
theorem nameOf?_eq_shortName_iff (h : t.Valid) (hp : p ∈ t.packages) :
    t.nameOf? p.path = some p.shortName ↔ ¬ Misnamed t p := by
  obtain ⟨short, hn, hs⟩ := h.shortName_eq hp
  unfold Misnamed
  rw [hn, hs]
  by_cases hnil : short = []
  · simp [hnil, eq_comm]
  · simp [hnil]

/-- Packages of two paths go by one name if one of them is misnamed and declares the name that the
other's path is bound to, and only then. -/
theorem shortName_eq_iff (h : t.Valid) (hp : p ∈ t.packages) (hq : q ∈ t.packages)
    (hne : p.path ≠ q.path) :
    p.shortName = q.shortName ↔
      Misnamed t p ∧ t.nameOf? q.path = some p.name ∨
        Misnamed t q ∧ t.nameOf? p.path = some q.name := by
  obtain ⟨sp, hnp, hsp⟩ := h.shortName_eq hp
  obtain ⟨sq, hnq, hsq⟩ := h.shortName_eq hq
  have hdiff : sp ≠ sq := fun he => hne (h.path_unique hnp (he ▸ hnq))
  unfold Misnamed
  rw [hnp, hnq, hsp, hsq]
  -- At most one of the two paths is bound to the empty name.
  by_cases hp0 : sp = []
  · subst hp0
    have hq0 : sq ≠ [] := fun he => hdiff he.symm
    simp only [if_true, if_neg hq0, Option.some.injEq]
    constructor
    · rintro rfl
      exact Or.inl ⟨⟨trivial, hq0⟩, rfl⟩
    · rintro (⟨-, he⟩ | ⟨⟨he, -⟩, -⟩)
      · exact he.symm
      · exact absurd he hq0
  · simp only [if_neg hp0, Option.some.injEq]
    by_cases hq0 : sq = []
    · subst hq0
      simp only [if_true]
      constructor
      · rintro rfl
        exact Or.inr ⟨⟨trivial, hp0⟩, rfl⟩
      · rintro (⟨⟨he, -⟩, -⟩ | ⟨-, he⟩)
        · exact absurd he hp0
        · exact he
    · simp only [if_neg hq0]
      constructor
      · intro he
        exact absurd he hdiff
      · rintro (⟨⟨he, -⟩, -⟩ | ⟨⟨he, -⟩, -⟩)
        · exact absurd he hp0
        · exact absurd he hq0

/-- Only a path that was reserved under the empty name gets a misnamed package. -/
theorem reserve_mem_of_misnamed {calls : List Call} (hp : p ∈ (after ∅ calls).packages)
    (h : Misnamed (after ∅ calls) p) : .reserve [] p.path ∈ calls := by
  have hv := valid_after calls
  rcases empty_name_cases (hv.nameOf?_eq_some_iff.mp h.1) with hb | hres | ⟨q, hq, hpath, hname⟩
  · cases hb
  · exact hres
  · exact absurd (hv.package_unique hp hq hpath.symm ▸ hname) h.2

/-- **The law of short names, with its exact condition.** In every run of calls, a package that was
given goes by the name its path is bound to iff it is not misnamed; packages of two paths share a
name iff one of them is misnamed and declares the name of the other; and a misnamed package needs a
call that reserved its path under the empty name. -/
theorem shortName_law (calls : List Call) :
    (∀ p ∈ returned ∅ calls,
      ((after ∅ calls).nameOf? p.path = some p.shortName ↔ ¬ Misnamed (after ∅ calls) p)) ∧
    (∀ p ∈ returned ∅ calls, ∀ q ∈ returned ∅ calls, p.path ≠ q.path →
      (p.shortName = q.shortName ↔
        Misnamed (after ∅ calls) p ∧ (after ∅ calls).nameOf? q.path = some p.name ∨
          Misnamed (after ∅ calls) q ∧ (after ∅ calls).nameOf? p.path = some q.name)) ∧
    (∀ p ∈ returned ∅ calls, Misnamed (after ∅ calls) p → .reserve [] p.path ∈ calls) := by
  have hv := valid_after calls
  refine ⟨fun p hp => ?_, fun p hp q hq hne => ?_, fun p hp h => ?_⟩
  · exact nameOf?_eq_shortName_iff hv (mem_packages_of_returned hp)
  · exact shortName_eq_iff hv (mem_packages_of_returned hp) (mem_packages_of_returned hq) hne
  · exact reserve_mem_of_misnamed (mem_packages_of_returned hp) h

/-- Both packages go by `p`, which is bound to the second path alone. -/
example :
    let calls : List Call := [.reserve [] "a/p", .bind "a/p" none, .bind "b/p" none]
    (returned ∅ calls).map (·.shortName) = ["p", "p"] ∧
      (after ∅ calls).nameOf? "a/p" = some [] ∧ (after ∅ calls).nameOf? "b/p" = some "p" := by
  decide

end ServiceWiring.ImportTable
