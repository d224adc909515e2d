import ServiceWiring.Proofs.ToolRoot.ImportPath

/-!
# Import paths that are seen as themselves

What comes out when an import path is seen from the tool may go in again. It is then seen as itself,
although another branch may see to that: a path that was put behind the path of the tool starts with
that path the next time, and so does the path of the tool itself.

The paths that are seen as themselves are known by their text. They start at the root of the disk,
and are put behind nothing, or they start with the path of the tool. Only the dot is not taken by
its text, since it stands for the place of the tool.

Results:
* `seenFrom_ownPath_eq_iff`: which paths are seen as themselves.

Headline:
* **`importPath_importPath`**: an import path as seen from the tool is seen from there as itself.
-/

namespace ServiceWiring.ToolRoot

open ServiceWiring.Path (isAbsolute)

variable {current path : Text}

/-! ## What is seen as itself -/

theorem ownPath_ne_dot (path : Text) : ownPath path ≠ "." := by
  unfold ownPath
  split
  · exact nofun
  · assumption

/-- The place of the tool is seen as the path of the tool. -/
theorem seenFrom_nil (current : Text) : seenFrom current [] = current := by
  by_cases h : current = []
  · rw [h]
    rfl
  · exact seenFrom_ownPath_dot h

theorem seenFrom_of_isAbsolute (h : isAbsolute path = true) (current : Text) :
    seenFrom current path = path := by
  have hne : path ≠ [] := by
    rintro rfl
    cases h
  unfold seenFrom
  split
  · rfl
  · rw [if_neg (mt List.isEmpty_iff.mp hne)]
    exact if_pos h

/-- **Which paths are seen as themselves**: those that start at the root of the disk, and those that
start with the path that they are seen from. The dot does so only where that path is the dot. -/
theorem seenFrom_ownPath_eq_iff : seenFrom current (ownPath path) = path ↔
    isAbsolute path = true ∨ current <+: path ∧ (path = "." → current = ".") := by
  by_cases hdot : path = "."
  · subst hdot
    have hrelative : isAbsolute "." = false := by decide
    show seenFrom current [] = _ ↔ _
    rw [seenFrom_nil, hrelative]
    constructor
    · rintro rfl
      exact Or.inr ⟨List.prefix_rfl, fun _ => rfl⟩
    · rintro (habsolute | ⟨-, hcurrent⟩)
      · cases habsolute
      · exact hcurrent rfl
  · rw [show ownPath path = path from if_neg hdot]
    cases habsolute : isAbsolute path with
    | true => exact iff_of_true (seenFrom_of_isAbsolute habsolute current) (Or.inl rfl)
    | false => simp [seenFrom_eq_iff habsolute, hdot]

/-- What is seen starts at the root of the disk, or with the path that it is seen from. -/
theorem seenFrom_starts (hdot : path ≠ ".") (current : Text) :
    isAbsolute (seenFrom current path) = true ∨
      current <+: seenFrom current path ∧ (seenFrom current path = "." → current = ".") := by
  cases habsolute : isAbsolute path with
  | true =>
    rw [seenFrom_of_isAbsolute habsolute]
    exact Or.inl habsolute
  | false =>
    have hstarts := prefix_seenFrom habsolute current
    refine Or.inr ⟨hstarts, fun hseen => ?_⟩
    -- From no path at all every path is seen as itself, and this one is not the dot.
    have hne : current ≠ [] := by
      rintro rfl
      rw [seenFrom_of_starts List.nil_prefix] at hseen
      exact hdot hseen
    rw [hseen] at hstarts
    exact hstarts.eq_of_length_le (List.length_pos_iff.mpr hne)

/-! ## Seen twice -/

/-- **An import path as seen from the tool is seen from there as itself**, whatever the path, the
directory of the tool and the roots are. -/
theorem importPath_importPath (path : Text) (toolDir? : Option Text) (roots : List Text) :
    importPath (importPath path toolDir? roots) toolDir? roots =
      importPath path toolDir? roots := by
  cases toolDir? with
  | none => rfl
  | some dir =>
    by_cases hdir : dir = []
    · rw [hdir]
      rfl
    · rw [importPath_eq hdir, importPath_eq hdir]
      cases heldBy? dir roots with
      | none => rfl
      | some root =>
        exact seenFrom_ownPath_eq_iff.mpr (seenFrom_starts (ownPath_ne_dot path) _)

/-- A directory that lies at a dot below the sources of its root. -/
example : importPath "." (some "/go/src/.") ["/go/"] = "." ∧
    importPath "a" (some "/go/src/.") ["/go/"] = "./a" := by decide

end ServiceWiring.ToolRoot
