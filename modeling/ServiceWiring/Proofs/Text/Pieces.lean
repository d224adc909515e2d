import ServiceWiring.Text.Basic

/-!
# The pieces of a text

Dividing a text at a separator gives at least one piece, and no piece holds the separator. What is
divided after being put together falls into the pieces of its parts.

Results:
* `splitOn_append`: the pieces on both sides of a separator.
* `splitOn_append_of_notMem`: what holds no separator is added to the last piece.
-/

namespace ServiceWiring.Text

variable {sep : CodePoint} {t u : Text}

theorem splitOn_ne_nil (sep : CodePoint) (t : Text) : splitOn sep t ≠ [] := by
  cases t with
  | nil => exact List.cons_ne_nil _ _
  | cons c r =>
    unfold splitOn
    split
    · exact List.cons_ne_nil _ _
    · split <;> exact List.cons_ne_nil _ _

theorem splitOn_cons_of_ne {c : CodePoint} (h : c ≠ sep) (t : Text) :
    ∃ piece pieces, splitOn sep t = piece :: pieces ∧
      splitOn sep (c :: t) = (c :: piece) :: pieces := by
  obtain ⟨piece, pieces, ht⟩ := List.exists_cons_of_ne_nil (splitOn_ne_nil sep t)
  refine ⟨piece, pieces, ht, ?_⟩
  rw [splitOn, if_neg h, ht]

theorem splitOn_append (sep : CodePoint) (t u : Text) :
    splitOn sep (t ++ sep :: u) = splitOn sep t ++ splitOn sep u := by
  induction t with
  | nil => simp [splitOn]
  | cons c t ih =>
    by_cases hc : c = sep
    · rw [List.cons_append, splitOn, splitOn, if_pos hc, if_pos hc, ih, List.cons_append]
    · obtain ⟨piece, pieces, ht, hct⟩ := splitOn_cons_of_ne hc t
      obtain ⟨piece', pieces', htu, hctu⟩ := splitOn_cons_of_ne hc (t ++ sep :: u)
      rw [ih, ht, List.cons_append] at htu
      obtain ⟨rfl, rfl⟩ := List.cons.inj htu
      rw [List.cons_append, hctu, hct, List.cons_append]

theorem splitOn_of_notMem (h : sep ∉ t) : splitOn sep t = [t] := by
  induction t with
  | nil => rfl
  | cons c t ih =>
    obtain ⟨hc, ht⟩ := not_or.mp (mt List.mem_cons.mpr h)
    rw [splitOn, if_neg (Ne.symm hc), ih ht]

theorem notMem_of_mem_splitOn {piece : Text} (h : piece ∈ splitOn sep t) : sep ∉ piece := by
  induction t generalizing piece with
  | nil =>
    rw [List.mem_singleton.mp h]
    exact List.not_mem_nil
  | cons c t ih =>
    by_cases hc : c = sep
    · rw [splitOn, if_pos hc] at h
      rcases List.mem_cons.mp h with rfl | h
      · exact List.not_mem_nil
      · exact ih h
    · obtain ⟨first, pieces, ht, hct⟩ := splitOn_cons_of_ne hc t
      rw [hct] at h
      rcases List.mem_cons.mp h with rfl | h
      · exact List.not_mem_cons_of_ne_of_not_mem (Ne.symm hc) (ih (ht ▸ List.mem_cons_self))
      · exact ih (ht ▸ List.mem_cons_of_mem _ h)

/-- What is added to the end of a text is added to its last piece. -/
theorem splitOn_append_of_notMem (hu : sep ∉ u) (t : Text) :
    ∃ pieces last, splitOn sep (t ++ u) = pieces ++ [last ++ u] := by
  induction t with
  | nil => exact ⟨[], [], splitOn_of_notMem hu⟩
  | cons c t ih =>
    obtain ⟨pieces, last, ht⟩ := ih
    by_cases hc : c = sep
    · exact ⟨[] :: pieces, last, by rw [List.cons_append, splitOn, if_pos hc, ht]; rfl⟩
    · obtain ⟨piece, rest, htu, hctu⟩ := splitOn_cons_of_ne hc (t ++ u)
      rw [ht] at htu
      cases pieces with
      | nil =>
        obtain ⟨rfl, rfl⟩ := List.cons.inj htu
        exact ⟨[], c :: last, hctu⟩
      | cons first pieces =>
        obtain ⟨rfl, rfl⟩ := List.cons.inj htu
        exact ⟨(c :: first) :: pieces, last, hctu⟩

/-! ## Putting pieces together -/

theorem joinWith_cons_cons (sep a b : Text) (r : List Text) :
    joinWith sep (a :: b :: r) = a ++ (sep ++ joinWith sep (b :: r)) := by
  simp [joinWith, List.intercalate, List.intersperse]

theorem mem_joinWith {c : CodePoint} {sep : Text} {pieces : List Text}
    (h : c ∈ joinWith sep pieces) : c ∈ sep ∨ ∃ piece ∈ pieces, c ∈ piece := by
  induction pieces with
  | nil => cases h
  | cons a pieces ih =>
    cases pieces with
    | nil => exact Or.inr ⟨a, List.mem_cons_self, by simpa [joinWith] using h⟩
    | cons b pieces =>
      rw [joinWith_cons_cons, List.mem_append, List.mem_append] at h
      rcases h with h | h | h
      · exact Or.inr ⟨a, List.mem_cons_self, h⟩
      · exact Or.inl h
      · exact (ih h).imp_right fun ⟨piece, hp, hc⟩ => ⟨piece, List.mem_cons_of_mem a hp, hc⟩

theorem mem_joinWith_of_mem {c : CodePoint} {piece : Text} {pieces : List Text}
    (hp : piece ∈ pieces) (hc : c ∈ piece) (sep : Text) : c ∈ joinWith sep pieces := by
  induction pieces with
  | nil => cases hp
  | cons a pieces ih =>
    cases pieces with
    | nil => simpa [joinWith, List.mem_singleton.mp hp] using hc
    | cons b pieces =>
      rw [joinWith_cons_cons]
      rcases List.mem_cons.mp hp with rfl | hp
      · exact List.mem_append_left _ hc
      · exact List.mem_append_right _ (List.mem_append_right _ (ih hp))

/-- All pieces but the last one are followed by a separator. -/
theorem joinWith_concat_eq (sep last : Text) (pieces : List Text) :
    joinWith sep (pieces ++ [last]) = pieces.flatMap (· ++ sep) ++ last := by
  induction pieces with
  | nil => simp [joinWith]
  | cons a pieces ih =>
    obtain ⟨b, r, hr⟩ := List.exists_cons_of_ne_nil (List.append_ne_nil_of_right_ne_nil pieces
      (List.cons_ne_nil last []))
    rw [List.cons_append, hr, joinWith_cons_cons, ← hr, ih]
    simp

theorem joinWith_concat {pieces : List Text} (h : pieces ≠ []) (sep last : Text) :
    joinWith sep (pieces ++ [last]) = joinWith sep pieces ++ (sep ++ last) := by
  obtain ⟨init, piece, rfl⟩ : ∃ init piece, pieces = init ++ [piece] :=
    ⟨_, _, (List.dropLast_concat_getLast h).symm⟩
  rw [joinWith_concat_eq, joinWith_concat_eq]
  simp

end ServiceWiring.Text
