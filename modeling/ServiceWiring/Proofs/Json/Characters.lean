import ServiceWiring.Proofs.Json.Leaf
import ServiceWiring.Proofs.Json.Occurs

/-!
# The characters that a document is written with

A control character inside a text is escaped, whether the text is a value or a name, and outside of
texts a document holds no control characters but the line feeds of its layout. So the text of a
document is clean: it can be put wherever tabs, carriage returns or null characters would be changed
or lost.

All that is written outside of texts is ASCII, numbers included, and so is every escape. A character
beyond ASCII stands in the text of a document if and only if it stands in one of its texts.

Headlines:
* **`isClean_print`**: every document is written clean, at any depth and whatever its numbers are.
* **`mem_print_iff`**: which characters beyond ASCII a document is written with.
-/

namespace ServiceWiring

/-- Whether the text holds no control character besides line feeds. -/
def Text.IsClean (t : Text) : Prop := ∀ c ∈ t, c = 0x0A ∨ 0x20 ≤ c.val

namespace Text

variable {t u : Text} {c : CodePoint}

instance : Decidable t.IsClean :=
  decidable_of_iff (t.all fun c => c = 0x0A || 0x20 ≤ c.val) (by simp [IsClean])

theorem IsClean.append (ht : t.IsClean) (hu : u.IsClean) : (t ++ u).IsClean :=
  List.forall_mem_append.mpr ⟨ht, hu⟩

theorem IsClean.return_notMem (h : t.IsClean) : 0x0D ∉ t := by
  intro hc
  rcases h _ hc with hc | hc
  · exact absurd hc (by decide)
  · exact absurd hc (by decide)

end Text

/-- Whether the text holds blanks and visible characters of ASCII only. -/
def Text.IsPlainAscii (t : Text) : Prop := ∀ c ∈ t, 0x20 ≤ c.val ∧ c.val < 0x7F

namespace Text

variable {t u : Text} {c : CodePoint}

instance : Decidable t.IsPlainAscii :=
  decidable_of_iff (t.all fun c => 0x20 ≤ c.val && c.val < 0x7F) (by simp [IsPlainAscii])

theorem IsPlainAscii.append (ht : t.IsPlainAscii) (hu : u.IsPlainAscii) : (t ++ u).IsPlainAscii :=
  List.forall_mem_append.mpr ⟨ht, hu⟩

theorem IsPlainAscii.subset (hu : u.IsPlainAscii) (h : t ⊆ u) : t.IsPlainAscii :=
  fun c hc => hu c (h hc)

theorem IsPlainAscii.isClean (h : t.IsPlainAscii) : t.IsClean := fun c hc => Or.inr (h c hc).1

theorem IsPlainAscii.notMem (h : t.IsPlainAscii) (hc : 0x80 ≤ c.val) : c ∉ t := by
  intro hmem
  have hlt := (h c hmem).2
  omega

/-- Nothing beyond ASCII comes from a part that is plain. -/
theorem IsPlainAscii.mem_append_iff (ht : t.IsPlainAscii) (hc : 0x80 ≤ c.val) :
    c ∈ t ++ u ↔ c ∈ u := by
  rw [List.mem_append, or_iff_right (ht.notMem hc)]

theorem isPlainAscii_replicate (n : Nat) (h : 0x20 ≤ c.val ∧ c.val < 0x7F) :
    IsPlainAscii (List.replicate n c) := by
  intro d hd
  rwa [(List.mem_replicate.mp hd).2]

theorem isPlainAscii_ofNat (n : Nat) : (ofNat n).IsPlainAscii := by
  intro c hc
  have hdigit : 0x30 ≤ c.val ∧ c.val ≤ 0x39 := by
    simpa [CodePoint.isDigit] using isDigit_of_mem_ofNat hc
  exact ⟨by omega, by omega⟩

theorem isPlainAscii_ofInt (i : Int) : (ofInt i).IsPlainAscii := by
  cases i with
  | ofNat n => exact isPlainAscii_ofNat n
  | negSucc n => exact IsPlainAscii.append (t := ['-']) (by decide) (isPlainAscii_ofNat (n + 1))

end Text

namespace Binary64

open Text (IsPlainAscii)

variable {ds : Text}

theorem isPlainAscii_layout (h : ds.IsPlainAscii) (point : Int) :
    (layout ds point).IsPlainAscii := by
  have hzeros (n : Nat) : (zeros n).IsPlainAscii := Text.isPlainAscii_replicate n (by decide)
  have htake (n : Nat) : IsPlainAscii (ds.take n) := h.subset (List.take_subset n ds)
  have hdrop (n : Nat) : IsPlainAscii (ds.drop n) := h.subset (List.drop_subset n ds)
  unfold layout
  split
  · exact (IsPlainAscii.append (by decide) (hzeros _)).append h
  split
  · refine (((htake _).append (hzeros _)).append (by decide)).append ?_
    split
    · exact hzeros 1
    · exact hdrop _
  · have hfraction : IsPlainAscii (if ds.length ≤ 1 then [] else "." ++ ds.drop 1) := by
      split
      · decide
      · exact IsPlainAscii.append (by decide) (hdrop 1)
    have hsign : IsPlainAscii (if point - 1 < 0 then "-" else "+") := by split <;> decide
    have hexponent : IsPlainAscii (Text.padLeft 2 '0' (Text.ofNat (point - 1).natAbs)) :=
      (Text.isPlainAscii_replicate _ (by decide)).append (Text.isPlainAscii_ofNat _)
    exact (((htake 1).append hfraction).append (by decide) |>.append hsign).append hexponent

theorem isPlainAscii_toText (x : Binary64) : x.toText.IsPlainAscii := by
  cases x with
  | nan => decide
  | infinite negative => cases negative <;> decide
  | finite negative m e =>
    have hmagnitude : IsPlainAscii (if m = 0 then "0.0" else
        layout (trimmed (shortest m e).1 (shortest m e).2).1
          (trimmed (shortest m e).1 (shortest m e).2).2) := by
      split
      · decide
      · refine isPlainAscii_layout ((Text.isPlainAscii_ofNat (shortest m e).1).subset ?_) _
        intro c hc
        exact List.mem_reverse.mp ((List.dropWhile_sublist _).subset (List.mem_reverse.mp hc))
    unfold toText
    simp only
    split
    · exact IsPlainAscii.append (by decide) hmagnitude
    · exact hmagnitude

end Binary64

namespace Json

open Text (IsClean IsPlainAscii)

variable {x : CodePoint}

/-- A character is written as an escape, which is ASCII and so is the character, or as it is. -/
theorem escapeOne_plain_or (c : CodePoint) : (escapeOne c).IsPlainAscii ∧ c.val < 0x80 ∨
    escapeOne c = [c] ∧ 0x20 ≤ c.val := by
  rcases escapeOne_cases c with ⟨u, hu, hc⟩ | ⟨hlow, hhex⟩ | ⟨hc, -, -, hlow⟩
  · have hletter : ∀ u c : CodePoint, unescape? u = some c →
        IsPlainAscii [0x5C, u] ∧ c.val < 0x80 := by
      intro u c h
      unfold unescape? at h
      split at h <;> cases h <;> decide
    exact Or.inl (hu ▸ hletter u c hc)
  · have hdigits : ∀ n < 0x20, IsPlainAscii (Text.hex 4 n) := by decide +kernel
    have hplain := IsPlainAscii.append (t := [0x5C, 0x75]) (by decide) (hdigits c.val hlow)
    exact Or.inl ⟨hhex ▸ hplain, by omega⟩
  · exact Or.inr ⟨hc, hlow⟩

theorem isClean_escapeOne (c : CodePoint) : IsClean (escapeOne c) := by
  rcases escapeOne_plain_or c with ⟨h, -⟩ | ⟨hc, hlow⟩
  · exact h.isClean
  · rw [hc]
    exact List.forall_mem_singleton.mpr (Or.inr hlow)

theorem isClean_printText (t : Text) : (printText t).IsClean := by
  refine (IsClean.append (by decide) fun c hc => ?_).append (by decide)
  obtain ⟨d, -, hc⟩ := List.mem_flatMap.mp hc
  exact isClean_escapeOne d c hc

theorem isClean_newLine (level : Nat) : (newLine level).IsClean :=
  IsClean.append (by decide) (Text.isPlainAscii_replicate _ (by decide)).isClean

mutual

/-- Whatever stands clean after a value does so after the value is written. -/
theorem isClean_printBefore (level : Nat) {rest : Text} (hrest : rest.IsClean) :
    (j : Json) → (printBefore level rest j).IsClean
  | null => IsClean.append (by decide) hrest
  | bool b => IsClean.append (by cases b <;> decide) hrest
  | int i => (Text.isPlainAscii_ofInt i).isClean.append hrest
  | float x => (Binary64.isPlainAscii_toText x).isClean.append hrest
  | str t => (isClean_printText t).append hrest
  | arr items => by
    rw [printBefore]
    split
    · exact IsClean.append (by decide) hrest
    · exact isClean_printItems level (by decide) hrest items
  | obj fields => by
    rw [printBefore]
    split
    · exact IsClean.append (by decide) hrest
    · exact isClean_printFields level (by decide) hrest fields
termination_by structural j => j

theorem isClean_printItems (level : Nat) {mark rest : Text} (hmark : mark.IsClean)
    (hrest : rest.IsClean) : (items : List Json) → (printItems level mark rest items).IsClean
  | [] => (isClean_newLine level).append (IsClean.append (by decide) hrest)
  | item :: r =>
    have hr := isClean_printItems level (show Text.IsClean "," by decide) hrest r
    hmark.append ((isClean_newLine _).append (isClean_printBefore (level + 1) hr item))
termination_by structural items => items

theorem isClean_printFields (level : Nat) {mark rest : Text} (hmark : mark.IsClean)
    (hrest : rest.IsClean) :
    (fields : List (Text × Json)) → (printFields level mark rest fields).IsClean
  | [] => (isClean_newLine level).append (IsClean.append (by decide) hrest)
  | (name, value) :: r =>
    have hr := isClean_printFields level (show Text.IsClean "," by decide) hrest r
    hmark.append ((isClean_newLine _).append ((isClean_printText name).append
      (IsClean.append (by decide) (isClean_printBefore (level + 1) hr value))))
termination_by structural fields => fields

end

/-- **Every document is written clean.** -/
theorem isClean_print (j : Json) : j.print.IsClean := isClean_printBefore 0 (by decide) j

/-! ## Characters beyond ASCII -/

theorem mem_escapeOne_iff (hx : 0x80 ≤ x.val) {c : CodePoint} : x ∈ escapeOne c ↔ x = c := by
  rcases escapeOne_plain_or c with ⟨h, hc⟩ | ⟨hc, -⟩
  · have hne : x ≠ c := fun he => absurd (he ▸ hx) (Nat.not_le.mpr hc)
    exact iff_of_false (h.notMem hx) hne
  · rw [hc, List.mem_singleton]

theorem mem_printText_append_iff (hx : 0x80 ≤ x.val) {t rest : Text} :
    x ∈ printText t ++ rest ↔ x ∈ t ∨ x ∈ rest := by
  have hquote : IsPlainAscii "\"" := by decide
  have hbetween : x ∈ t.flatMap escapeOne ↔ x ∈ t := by
    simp only [List.mem_flatMap, mem_escapeOne_iff hx, exists_eq_right']
  unfold printText
  rw [List.append_assoc, List.append_assoc, hquote.mem_append_iff hx, List.mem_append, hbetween,
    hquote.mem_append_iff hx]

theorem mem_newLine_append_iff (hx : 0x80 ≤ x.val) {level : Nat} {rest : Text} :
    x ∈ newLine level ++ rest ↔ x ∈ rest := by
  have hne : x ≠ 0x0A := by
    rintro rfl
    exact absurd hx (by decide)
  have hblanks : IsPlainAscii (List.replicate (4 * level) 0x20) :=
    Text.isPlainAscii_replicate _ (by decide)
  change x ∈ 0x0A :: (List.replicate (4 * level) 0x20 ++ rest) ↔ x ∈ rest
  rw [List.mem_cons, or_iff_right hne, hblanks.mem_append_iff hx]

/-- Where a value is written that holds no texts, a character beyond ASCII comes from after it. -/
theorem mem_append_iff_of_bare {j : Json} {u rest : Text} (hx : 0x80 ≤ x.val)
    (hu : u.IsPlainAscii) (htexts : j.ownTexts = []) (hchildren : j.children = []) :
    x ∈ u ++ rest ↔ Spells x j ∨ x ∈ rest := by
  have hnone : ¬Spells x j := by
    rw [spells_iff, htexts, hchildren]
    simp
  rw [hu.mem_append_iff hx, or_iff_right hnone]

mutual

/-- Beyond ASCII, a value is written with the characters of its texts. -/
theorem mem_printBefore_iff (hx : 0x80 ≤ x.val) (level : Nat) {rest : Text} :
    (j : Json) → (x ∈ printBefore level rest j ↔ Spells x j ∨ x ∈ rest)
  | null => mem_append_iff_of_bare hx (by decide) rfl rfl
  | bool b => mem_append_iff_of_bare hx (by cases b <;> decide) rfl rfl
  | int i => mem_append_iff_of_bare hx (Text.isPlainAscii_ofInt i) rfl rfl
  | float y => mem_append_iff_of_bare hx y.isPlainAscii_toText rfl rfl
  | str t => by rw [printBefore, mem_printText_append_iff hx, spells_str]
  | arr [] => mem_append_iff_of_bare hx (by decide) rfl rfl
  | arr (item :: r) =>
    (mem_printItems_iff hx level (by decide) (item :: r)).trans (or_congr_left spells_arr.symm)
  | obj [] => mem_append_iff_of_bare hx (by decide) rfl rfl
  | obj (field :: r) =>
    (mem_printFields_iff hx level (by decide) (field :: r)).trans (or_congr_left spells_obj.symm)
termination_by structural j => j

theorem mem_printItems_iff (hx : 0x80 ≤ x.val) (level : Nat) {mark rest : Text}
    (hmark : mark.IsPlainAscii) : (items : List Json) →
      (x ∈ printItems level mark rest items ↔ (∃ item ∈ items, Spells x item) ∨ x ∈ rest)
  | [] => by
    have hend : IsPlainAscii "]" := by decide
    rw [printItems, mem_newLine_append_iff hx, hend.mem_append_iff hx]
    simp
  | item :: r => by
    have hcomma : IsPlainAscii "," := by decide
    rw [printItems, hmark.mem_append_iff hx, mem_newLine_append_iff hx,
      mem_printBefore_iff hx (level + 1) item, mem_printItems_iff hx level hcomma r]
    simp [or_assoc]
termination_by structural items => items

theorem mem_printFields_iff (hx : 0x80 ≤ x.val) (level : Nat) {mark rest : Text}
    (hmark : mark.IsPlainAscii) : (fields : List (Text × Json)) →
      (x ∈ printFields level mark rest fields ↔
        (∃ field ∈ fields, x ∈ field.1 ∨ Spells x field.2) ∨ x ∈ rest)
  | [] => by
    have hend : IsPlainAscii "\x7d" := by decide
    rw [printFields, mem_newLine_append_iff hx, hend.mem_append_iff hx]
    simp
  | (name, value) :: r => by
    have hcolon : IsPlainAscii ": " := by decide
    have hcomma : IsPlainAscii "," := by decide
    rw [printFields, hmark.mem_append_iff hx, mem_newLine_append_iff hx,
      mem_printText_append_iff hx, hcolon.mem_append_iff hx,
      mem_printBefore_iff hx (level + 1) value, mem_printFields_iff hx level hcomma r]
    simp [or_assoc]
termination_by structural fields => fields

end

/-- **Beyond ASCII, a document is written with the characters of its texts.** -/
theorem mem_print_iff (hx : 0x80 ≤ x.val) {j : Json} : x ∈ j.print ↔ Spells x j :=
  (mem_printBefore_iff hx 0 j).trans (or_iff_left List.not_mem_nil)

end Json

end ServiceWiring
