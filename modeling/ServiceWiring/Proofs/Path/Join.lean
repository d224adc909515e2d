import ServiceWiring.Proofs.Path.Normal

/-!
# Joined paths

A relative path that is joined to a directory is followed from where the directory leads, so the
normal form of both together does not depend on how the path is spelled. As a text, the joined path
starts with the directory.

The other way round, a path in normal form can be divided at any slash below its root: what comes
after the slash is a relative path again, and has no empty names.

Results:
* `normalize_join_congr`: a path that is seen from a directory depends on its normal form alone.
* `prefix_join`, `join_of_relative`: the text of a joined path.
* `arePlain_of_normal`: what follows a slash in a path in normal form.
* `relative_of_arePlain`: names that are divided by slashes make a relative path.
-/

namespace ServiceWiring.Path

variable {t u dir : Text} {ns : List Text} {c : CodePoint} {r : Root}

/-! ## The normal form of a joined path -/

theorem root_join (hdir : dir ≠ []) (h : isAbsolute t = false) : root (join dir t) = root dir := by
  unfold join
  rw [if_neg (by simp [h])]
  split
  · exact root_append (Or.inl h)
  · rename_i hends
    have hlast : dir.getLast hdir ≠ slash := by
      simpa [hdir, List.getLast?_eq_some_getLast hdir] using hends
    rw [List.append_assoc]
    exact root_append (Or.inr ⟨_, List.getLast_mem hdir, hlast⟩)

/-- A relative path is followed from where the directory leads. -/
theorem advance_join (hdir : dir ≠ []) (h : isAbsolute t = false) (r : Root) (way : List Text) :
    advance r way (join dir t) = advance r (advance r way dir) t := by
  unfold join
  rw [if_neg (by simp [h])]
  split
  · rename_i hends
    have hlast : dir.getLast? = some slash := by simpa [hdir] using hends
    obtain ⟨init, rfl⟩ := List.getLast?_eq_some_iff.mp hlast
    rw [List.append_assoc, List.singleton_append, advance_append, advance_concat_slash]
  · rw [List.append_assoc]
    exact advance_append r way dir t

/-- Relative paths with the same names lead to the same names from everywhere. -/
theorem advance_congr (ht : isAbsolute t = false) (hu : isAbsolute u = false)
    (h : names t = names u) (r : Root) (way : List Text) : advance r way t = advance r way u := by
  have hups : ups t = ups u := by unfold ups; rw [h]
  have hdowns : downs t = downs u := by unfold downs; rw [h]
  rw [(advance_eq (root_eq_none_iff.mpr ht)).1, (advance_eq (root_eq_none_iff.mpr hu)).1, hups,
    hdowns]

/-- **A path that is seen from a directory depends on its normal form alone.** -/
theorem normalize_join_congr (hdir : dir ≠ []) (h : normalize t = normalize u) :
    normalize (join dir t) = normalize (join dir u) := by
  obtain ⟨hroot, hnames⟩ := normalize_eq_iff.mp h
  have habs : isAbsolute t = false ↔ isAbsolute u = false := by
    rw [← root_eq_none_iff, ← root_eq_none_iff, hroot]
  by_cases ht : isAbsolute t = false
  · have hu := habs.mp ht
    refine normalize_eq_iff.mpr ⟨by rw [root_join hdir ht, root_join hdir hu], ?_⟩
    rw [names_eq_advance, names_eq_advance, root_join hdir ht, root_join hdir hu,
      advance_join hdir ht, advance_join hdir hu, advance_congr ht hu hnames]
  · have hu := mt habs.mpr ht
    unfold join
    rw [if_pos (by simpa using ht), if_pos (by simpa using hu), h]

/-! ## The text of a joined path -/

theorem prefix_join (h : isAbsolute t = false) (dir : Text) : dir <+: join dir t := by
  unfold join
  rw [if_neg (by simp [h]), List.append_assoc]
  split <;> exact List.prefix_append _ _

theorem join_of_relative (hdir : dir ≠ []) (hlast : dir.getLast? ≠ some slash)
    (h : isAbsolute t = false) : join dir t = dir ++ "/" ++ t := by
  unfold join
  rw [if_neg (by simp [h]), if_neg (by simp [hdir, hlast])]

theorem isAbsolute_of_starts (ht : t ≠ []) (h : t <+: u) : isAbsolute u = isAbsolute t := by
  obtain ⟨v, rfl⟩ := h
  obtain ⟨c, r, rfl⟩ := List.exists_cons_of_ne_nil ht
  rfl

/-! ## Dividing a path -/

theorem splitOn_joinWith (h : ArePlain ns) (hne : ns ≠ []) :
    Text.splitOn slash (Text.joinWith "/" ns) = ns := by
  induction ns with
  | nil => exact absurd rfl hne
  | cons n ns ih =>
    obtain ⟨⟨-, hs⟩, hns⟩ := List.forall_mem_cons.mp h
    cases ns with
    | nil => simpa [Text.joinWith] using Text.splitOn_of_notMem hs
    | cons n' ns =>
      rw [Text.joinWith_cons_cons]
      show Text.splitOn slash (n ++ slash :: Text.joinWith "/" (n' :: ns)) = _
      rw [Text.splitOn_append, Text.splitOn_of_notMem hs, ih hns (List.cons_ne_nil _ _)]
      rfl

theorem Root.eq_slash_of_mem (h : c ∈ r.toText) : c = slash := by
  cases r with
  | none => cases h
  | single => exact List.mem_singleton.mp h
  | double => exact (List.mem_cons.mp h).elim id List.mem_singleton.mp

/-- Names that are divided by slashes make a relative path, and it does not end with a slash. -/
theorem relative_of_arePlain (h : ArePlain (Text.splitOn slash t)) :
    t ≠ [] ∧ isAbsolute t = false ∧ t.getLast? ≠ some slash := by
  have hname {piece : Text} (hp : piece ∈ Text.splitOn slash t) : piece ≠ [] := (h piece hp).1
  refine ⟨?_, ?_, ?_⟩
  · rintro rfl
    exact hname List.mem_cons_self rfl
  · cases t with
    | nil => rfl
    | cons c t =>
      have hc : c ≠ slash := by
        rintro rfl
        have hsplit := Text.splitOn_append slash [] t
        exact hname (hsplit ▸ List.mem_append_left _ List.mem_cons_self) rfl
      simpa [isAbsolute] using hc
  · intro hlast
    obtain ⟨init, rfl⟩ := List.getLast?_eq_some_iff.mp hlast
    rw [Text.splitOn_append] at hname
    exact hname (List.mem_append_right _ List.mem_cons_self) rfl

/-- **What follows a slash in a path in normal form** has no empty names, unless the slash is one of
the root. -/
theorem arePlain_of_normal (h : normalize (t ++ slash :: u) = t ++ slash :: u)
    (ht : ∃ c ∈ t, c ≠ slash) : ArePlain (Text.splitOn slash u) := by
  have hplain := arePlain_names (t ++ slash :: u)
  unfold normalize ofNames at h
  simp only at h
  split at h
  · have hdot : slash ∈ (Text.ofString ".") := by
      rw [h]
      simp
    exact absurd hdot (by decide)
  · rcases List.append_eq_append_iff.mp h with ⟨t', -, hnames⟩ | ⟨rest, hroot, -⟩
    · have hne : names (t ++ slash :: u) ≠ [] := by
        intro hnil
        rw [hnil] at hnames
        simp [Text.joinWith] at hnames
      have hsplit := splitOn_joinWith hplain hne
      rw [hnames, Text.splitOn_append] at hsplit
      intro n hn
      exact hplain n (hsplit ▸ List.mem_append_right _ hn)
    · obtain ⟨c, hc, hne⟩ := ht
      exact absurd (Root.eq_slash_of_mem (hroot ▸ List.mem_append_left rest hc)) hne

end ServiceWiring.Path
