import ServiceWiring.Proofs.Path.Join
import ServiceWiring.ToolRoot

/-!
# Import paths as seen from the tool

The import path of a package is seen from the tool, which lives below the sources of a root: a path
that starts as the path of the tool does stays as it is, and any other is put behind that path.

Both steps look at texts alone. The path of the tool is what follows `src` below the root, but a
tool that lives elsewhere below a root, such as among its binaries, keeps the path of its directory.
What comes out then is no import path but the path of a file. And a path need not lie below that of
the tool to start with its text: `tool` is taken to hold `toolbox`. Roots are told apart better,
since `holds` asks for a slash.

Results:
* `importPath_cases`: the three ways in which an import path comes about.
* `holds_seenFrom_iff`, `seenFrom_eq_iff`: when what is seen from a path lies below it, and when it
  is the path itself.

Headlines:
* **`importPath_isAbsolute_iff`**: when the path of a file comes out.
* **`importPath_held_iff`**: when the import path lies at or below the path of the tool.
-/

namespace ServiceWiring

/-- A text that does not end with a code point has none of them to drop. -/
theorem Text.dropRight_of_getLast? {c : CodePoint} {t : Text} (h : t.getLast? ≠ some c) :
    dropRight c t = t := by
  unfold dropRight
  rw [← List.head?_reverse] at h
  cases hr : t.reverse with
  | nil => rw [List.reverse_eq_nil_iff.mp hr]; rfl
  | cons d r =>
    rw [hr] at h
    rw [List.dropWhile_cons_of_neg (by simpa using h), ← hr, List.reverse_reverse]

namespace ToolRoot

open Path (ArePlain isAbsolute slash)

variable {root dir current path : Text} {roots : List Text}

/-! ## What an import path is made of -/

/-- The sources of a root, with a slash at the end. -/
def sources (root : Text) : Text := root ++ "/src/"

/-- The first of the roots, without slashes at its end, that is the directory or holds it. -/
def heldBy? (dir : Text) (roots : List Text) : Option Text :=
  (roots.map (Text.dropRight slash)).find? (holds · dir)

/-- The import path of a package without the dot that stands for the place of the tool. -/
def ownPath (path : Text) : Text := if path = "." then [] else path

/-- What a path is as seen from another. -/
def seenFrom (current path : Text) : Text :=
  if current.isPrefixOf path then path
  else if path.isEmpty then current
  else Path.join current path

theorem holds_iff : holds root dir = true ↔ dir = root ∨ root ++ Text.ofString "/" <+: dir := by
  simp [holds]

theorem isAbsolute_ownPath (h : isAbsolute path = false) : isAbsolute (ownPath path) = false := by
  unfold ownPath
  split
  · rfl
  · exact h

theorem belowSources_append (root current : Text) :
    belowSources root (sources root ++ current) = current := by
  simp [belowSources, sources]

theorem belowSources_of_elsewhere (h : ¬sources root <+: dir) : belowSources root dir = dir :=
  if_neg (mt List.isPrefixOf_iff_prefix.mp h)

theorem importPath_eq (h : dir ≠ []) (path : Text) (roots : List Text) :
    importPath path (some dir) roots =
      match heldBy? dir roots with
      | none => []
      | some root => seenFrom (belowSources root dir) (ownPath path) :=
  if_neg (mt List.isEmpty_iff.mp h)

/-- **How an import path comes about.** No root holds the directory, and there is none. Or a root
does: then the path is seen from what follows its sources, or, where the directory is not below
these, from the directory. -/
theorem importPath_cases (hdir : dir ≠ []) (hnormal : Path.normalize dir = dir) (path : Text)
    (roots : List Text) :
    (heldBy? dir roots = none ∧ importPath path (some dir) roots = []) ∨
      ∃ root, heldBy? dir roots = some root ∧
        ((∃ current, dir = sources root ++ current ∧ ArePlain (Text.splitOn slash current) ∧
            importPath path (some dir) roots = seenFrom current (ownPath path)) ∨
          ¬sources root <+: dir ∧
            importPath path (some dir) roots = seenFrom dir (ownPath path)) := by
  rw [importPath_eq hdir]
  cases hroot : heldBy? dir roots with
  | none => exact Or.inl ⟨rfl, rfl⟩
  | some root =>
    refine Or.inr ⟨root, rfl, ?_⟩
    by_cases hsources : sources root <+: dir
    · obtain ⟨current, rfl⟩ := hsources
      refine Or.inl ⟨current, rfl, ?_, by simp only [belowSources_append]⟩
      have hdivided : sources root ++ current = root ++ "/src" ++ slash :: current := by
        unfold sources
        rw [List.append_assoc, List.append_assoc]
        rfl
      rw [hdivided] at hnormal
      refine Path.arePlain_of_normal hnormal ⟨CodePoint.ofChar 's', ?_, by decide⟩
      exact List.mem_append_right root (by decide)
    · exact Or.inr ⟨hsources, by simp only [belowSources_of_elsewhere hsources]⟩

/-! ## What a path is as seen from another -/

theorem seenFrom_of_starts (h : current <+: path) : seenFrom current path = path :=
  if_pos (List.isPrefixOf_iff_prefix.mpr h)

/-- What is seen from a path starts as it does, as a text. -/
theorem prefix_seenFrom (h : isAbsolute path = false) (current : Text) :
    current <+: seenFrom current path := by
  unfold seenFrom
  split
  · exact List.isPrefixOf_iff_prefix.mp ‹_›
  · split
    · exact List.prefix_rfl
    · exact Path.prefix_join h current

theorem seenFrom_of_not_starts (hcurrent : ArePlain (Text.splitOn slash current))
    (h : isAbsolute path = false) (hstarts : ¬current <+: path) :
    seenFrom current path = current ∨ seenFrom current path = current ++ "/" ++ path := by
  obtain ⟨hne, -, hlast⟩ := Path.relative_of_arePlain hcurrent
  unfold seenFrom
  rw [if_neg (mt List.isPrefixOf_iff_prefix.mp hstarts)]
  split
  · exact Or.inl rfl
  · exact Or.inr (Path.join_of_relative hne hlast h)

/-- What is seen from a path lies at or below it, unless it only starts with its text. -/
theorem holds_seenFrom_iff (hcurrent : ArePlain (Text.splitOn slash current))
    (h : isAbsolute path = false) :
    holds current (seenFrom current path) = true ↔
      (current <+: path → holds current path = true) := by
  by_cases hstarts : current <+: path
  · rw [seenFrom_of_starts hstarts]
    exact ⟨fun hholds _ => hholds, fun hholds => hholds hstarts⟩
  · refine iff_of_true (holds_iff.mpr ?_) fun hp => absurd hp hstarts
    rcases seenFrom_of_not_starts hcurrent h hstarts with hself | hbehind
    · exact Or.inl hself
    · exact Or.inr (hbehind ▸ List.prefix_append _ _)

/-- What is seen from a path is the path itself iff that starts with its text. -/
theorem seenFrom_eq_iff (h : isAbsolute path = false) :
    seenFrom current path = path ↔ current <+: path := by
  refine ⟨fun heq => ?_, seenFrom_of_starts⟩
  have hstarts := prefix_seenFrom h current
  rwa [heq] at hstarts

/-! ## Paths of files -/

/-- **When the path of a file comes out.** The tool lives in a directory in normal form, and the
path of the package does not start at the root of the disk. What its import path is as seen from the
tool starts there iff a root holds the tool and the first that does holds it elsewhere than below
its sources. Then it is the path of the directory, or starts with that. Otherwise no root holds the
tool and it is empty, or it starts with the path of the directory below the sources of a root. -/
theorem importPath_isAbsolute_iff (hdir : isAbsolute dir = true)
    (hnormal : Path.normalize dir = dir) (hpath : isAbsolute path = false) (roots : List Text) :
    let seen := importPath path (some dir) roots
    (isAbsolute seen = true ↔ ∃ root, heldBy? dir roots = some root ∧ ¬sources root <+: dir) ∧
      (isAbsolute seen = true → dir <+: seen) ∧
      (isAbsolute seen = false →
        heldBy? dir roots = none ∧ seen = [] ∨
          ∃ root ∈ roots, ∃ current, dir = sources (Text.dropRight slash root) ++ current ∧
            current ≠ [] ∧ current <+: seen) := by
  have hne : dir ≠ [] := by
    rintro rfl
    cases hdir
  have hown := isAbsolute_ownPath hpath
  simp only
  rcases importPath_cases hne hnormal path roots with ⟨hnone, hseen⟩ |
    ⟨root, hroot, ⟨current, hcurrent, hplain, hseen⟩ | ⟨hbeside, hseen⟩⟩
  · rw [hseen, hnone]
    exact ⟨by simp [isAbsolute], by simp [isAbsolute], fun _ => Or.inl ⟨rfl, rfl⟩⟩
  · have hstarts := prefix_seenFrom hown current
    obtain ⟨hcurrentNe, hrelative, -⟩ := Path.relative_of_arePlain hplain
    have hsources : sources root <+: dir := ⟨current, hcurrent.symm⟩
    obtain ⟨given, hgiven, rfl⟩ := List.mem_map.mp (List.mem_of_find?_eq_some hroot)
    rw [hseen, hroot, Path.isAbsolute_of_starts hcurrentNe hstarts, hrelative]
    refine ⟨by simp [hsources], by simp, fun _ => Or.inr ?_⟩
    exact ⟨given, hgiven, current, hcurrent, hcurrentNe, hstarts⟩
  · have hstarts := prefix_seenFrom hown dir
    rw [hseen, hroot, Path.isAbsolute_of_starts hne hstarts, hdir]
    exact ⟨by simp [hbeside], fun _ => hstarts, by simp⟩

/-- A tool among the binaries of a root. -/
theorem importPath_isAbsolute_iff_binary :
    isAbsolute "/home/dev/go/bin" = true ∧
      Path.normalize "/home/dev/go/bin" = "/home/dev/go/bin" ∧ isAbsolute "api" = false ∧
      isAbsolute (importPath "api" (some "/home/dev/go/bin") ["/home/dev/go"]) = true := by
  have hdir : isAbsolute "/home/dev/go/bin" = true := by decide
  have hnormal : Path.normalize "/home/dev/go/bin" = "/home/dev/go/bin" := by decide
  have hpath : isAbsolute "api" = false := by decide
  refine ⟨hdir, hnormal, hpath, ?_⟩
  exact (importPath_isAbsolute_iff hdir hnormal hpath ["/home/dev/go"]).1.mpr
    ⟨"/home/dev/go", by decide, by decide⟩

/-! ## Paths below that of the tool -/

theorem seenFrom_ownPath_dot (h : current ≠ []) : seenFrom current (ownPath ".") = current := by
  show (if current.isPrefixOf [] then [] else current) = current
  rw [if_neg (by simpa using h)]

theorem holds_sources (root current : Text) : holds root (sources root ++ current) = true := by
  refine holds_iff.mpr (Or.inr ⟨Text.ofString "src/" ++ current, ?_⟩)
  unfold sources
  rw [List.append_assoc, List.append_assoc]
  rfl

/-- A tool below the sources of the only root sees a path from what follows these. -/
theorem importPath_sources (hroot : root.getLast? ≠ some slash) (h : current ≠ []) (path : Text) :
    importPath path (some (sources root ++ current)) [root] = seenFrom current (ownPath path) := by
  have hheld : heldBy? (sources root ++ current) [root] = some root := by
    unfold heldBy?
    rw [List.map_singleton, Text.dropRight_of_getLast? hroot, List.find?_cons_of_pos]
    exact holds_sources root current
  rw [importPath_eq (List.append_ne_nil_of_right_ne_nil _ h), hheld]
  simp only [belowSources_append]

/-- **When the import path lies at or below the path of the tool.** The tool lives below the sources
of the only root, and the import path of the package does not start at the root of the disk. What it
is as seen from the tool lies at or below the path of the tool, unless the import path starts with
the text of that and does not lie there. It is the import path itself iff that starts with the text
of the path of the tool. -/
theorem importPath_held_iff (hroot : root.getLast? ≠ some slash)
    (hcurrent : ∀ n ∈ Text.splitOn slash current, n ≠ []) (hpath : isAbsolute path = false) :
    let seen := importPath path (some (sources root ++ current)) [root]
    (holds current seen = true ↔ (current <+: path → holds current path = true)) ∧
      (seen = path ↔ current <+: path) := by
  have hplain : ArePlain (Text.splitOn slash current) :=
    fun n hn => ⟨hcurrent n hn, Text.notMem_of_mem_splitOn hn⟩
  have hne : current ≠ [] := (Path.relative_of_arePlain hplain).1
  simp only
  rw [importPath_sources hroot hne]
  by_cases hdot : path = "."
  · -- The place of the tool is seen as the path of the tool, and as itself only if that is a dot.
    subst hdot
    have hstarts : current <+: Text.ofString "." ↔ Text.ofString "." = current := by
      constructor
      · intro h
        exact (h.eq_of_length_le (List.length_pos_iff.mpr hne)).symm
      · rintro rfl
        exact List.prefix_rfl
    rw [seenFrom_ownPath_dot hne, hstarts, holds_iff, holds_iff]
    exact ⟨iff_of_true (Or.inl rfl) Or.inl, eq_comm⟩
  · rw [show ownPath path = path from if_neg hdot]
    exact ⟨holds_seenFrom_iff hplain hpath, seenFrom_eq_iff hpath⟩

/-- A package beside the tool whose path starts with the text of that of the tool. -/
theorem importPath_held_iff_toolbox :
    (Text.ofString "/home/dev/go").getLast? ≠ some slash ∧
      (∀ n ∈ Text.splitOn slash "github.com/acme/tool", n ≠ []) ∧
      isAbsolute "github.com/acme/toolbox" = false ∧
      let seen := importPath "github.com/acme/toolbox"
        (some (sources "/home/dev/go" ++ "github.com/acme/tool")) ["/home/dev/go"]
      ¬holds "github.com/acme/tool" seen = true ∧ seen = "github.com/acme/toolbox" := by
  have hroot : (Text.ofString "/home/dev/go").getLast? ≠ some slash := by decide
  have hcurrent : ∀ n ∈ Text.splitOn slash "github.com/acme/tool", n ≠ [] := by decide
  have hpath : isAbsolute "github.com/acme/toolbox" = false := by decide
  obtain ⟨hheld, hself⟩ := importPath_held_iff hroot hcurrent hpath
  have hstarts : Text.ofString "github.com/acme/tool" <+: "github.com/acme/toolbox" := by decide
  refine ⟨hroot, hcurrent, hpath, ?_, hself.mpr hstarts⟩
  rw [hheld]
  exact fun h => absurd (h hstarts) (by decide)

end ToolRoot

end ServiceWiring
