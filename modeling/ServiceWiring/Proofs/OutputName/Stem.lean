import ServiceWiring.Proofs.Path.Normal

/-!
# What an output name keeps of its file

The normal form of an output name is the directory of the file and one more name: the name of the
file without its extension, with the ending of the artifact. So it keeps of the file its `stem`, and
nothing else. Files with one stem have outputs of one name, and a wiring never has the name of a
stub.

Headline:
* **`OutputName.normalize_wiring_eq_iff`**, **`OutputName.stub_eq_iff`**: whose outputs have one
  name.
* **`OutputName.normalize_wiring_ne_stub`**: wirings and stubs have different names.
-/

namespace ServiceWiring

namespace Text

/-- What is taken off the end of a text are copies of one code point. -/
theorem dropRight_append_replicate (c : CodePoint) (t : Text) :
    ∃ k, dropRight c t ++ List.replicate k c = t := by
  have htaken : ∀ x ∈ t.reverse.takeWhile (· = c), x = c := fun x hx => by
    simpa using List.mem_takeWhile_imp hx
  refine ⟨(t.reverse.takeWhile (· = c)).length, ?_⟩
  calc
    dropRight c t ++ List.replicate (t.reverse.takeWhile (· = c)).length c
      = (t.reverse.takeWhile (· = c) ++ t.reverse.dropWhile (· = c)).reverse := by
        rw [List.reverse_append, ← List.reverse_replicate, ← List.eq_replicate_of_mem htaken]
        rfl
    _ = t := by rw [List.takeWhile_append_dropWhile, List.reverse_reverse]

end Text

namespace Path

variable {p n : Text}

/-! ## Directories -/

/-- What a path has up to its last slash, with it. -/
def folder (p : Text) : Text := (p.reverse.dropWhile (· ≠ slash)).reverse

theorem directory_eq (p : Text) : directory p =
    if (folder p).all (· = slash) then folder p else Text.dropRight slash (folder p) := rfl

theorem folder_cases (p : Text) : folder p = [] ∨ ∃ before, folder p = before ++ [slash] := by
  unfold folder
  cases h : p.reverse.dropWhile (· ≠ slash) with
  | nil => exact Or.inl rfl
  | cons c r =>
    have hne : p.reverse.dropWhile (· ≠ slash) ≠ [] := h ▸ List.cons_ne_nil c r
    have hc := List.head_dropWhile_not (· ≠ slash) hne
    simp only [h, List.head_cons] at hc
    obtain rfl : c = slash := by simpa using hc
    rw [List.reverse_cons]
    exact Or.inr ⟨r.reverse, rfl⟩

theorem advance_replicate_slash (r : Root) (way : List Text) (t : Text) (k : Nat) :
    advance r way (t ++ List.replicate k slash) = advance r way t := by
  induction k with
  | zero => rw [List.replicate_zero, List.append_nil]
  | succ k ih =>
    rw [List.replicate_succ', ← List.append_assoc, advance_concat_slash, ih]

theorem advance_directory (r : Root) (way : List Text) (p : Text) :
    advance r way (directory p) = advance r way (folder p) := by
  rw [directory_eq]
  split
  · rfl
  · obtain ⟨k, hk⟩ := Text.dropRight_append_replicate slash (folder p)
    conv_rhs => rw [← hk]
    exact (advance_replicate_slash r way _ k).symm

theorem advance_folder_append (h : slash ∉ n) (r : Root) (way : List Text) (p : Text) :
    advance r way (folder p ++ n) = step r (advance r way (directory p)) n := by
  rw [advance_directory]
  rcases folder_cases p with hnil | ⟨before, hbefore⟩
  · rw [hnil]
    exact advance_of_notMem h r way
  · rw [hbefore, advance_concat_slash, List.append_assoc, List.singleton_append, advance_append,
      advance_of_notMem h]

theorem root_folder_append (h : slash ∉ n) (p : Text) :
    root (folder p ++ n) = root (directory p) := by
  have hn : isAbsolute n = false := by
    cases n with
    | nil => rfl
    | cons c n =>
      have hc : c ≠ slash := fun hc => h (hc ▸ List.mem_cons_self)
      simpa [isAbsolute] using hc
  rw [directory_eq]
  split
  · exact root_append (Or.inl hn)
  · rename_i hall
    obtain ⟨k, hk⟩ := Text.dropRight_append_replicate slash (folder p)
    have hname : ∃ c ∈ Text.dropRight slash (folder p), c ≠ slash := by
      by_contra hnone
      have hslash : ∀ c ∈ Text.dropRight slash (folder p), c = slash := by
        simpa using hnone
      refine hall (List.all_eq_true.mpr fun c hc => decide_eq_true ?_)
      rw [← hk, List.mem_append] at hc
      exact hc.elim (hslash c) fun hc => (List.mem_replicate.mp hc).2
    conv_lhs => rw [← hk, List.append_assoc]
    exact root_append (Or.inr hname)

/-- A name in the folder of a path comes after the names of its directory. -/
theorem names_folder_append (h : IsDown n) (p : Text) :
    names (folder p ++ n) = names (directory p) ++ [n] := by
  rw [names_eq_advance, root_folder_append h.no_slash, advance_folder_append h.no_slash,
    step_of_isDown h, List.reverse_cons]
  rfl

theorem slash_notMem_base (p : Text) : slash ∉ base p := by
  unfold base
  rw [List.mem_reverse]
  intro h
  simpa using List.mem_takeWhile_imp h

theorem dropExtensionOfName_subset (name : Text) : dropExtensionOfName name ⊆ name := by
  unfold dropExtensionOfName
  simp only
  split
  · exact List.Subset.refl _
  · intro c hc
    exact List.mem_reverse.mp
      ((List.dropWhile_suffix _).subset (List.mem_of_mem_drop (List.mem_reverse.mp hc)))

end Path

/-! ## Stems -/

namespace OutputName

open ServiceWiring.Path (IsDown directory names root slash)

variable {file file' : Text}

/-- The name of a file without its extension. -/
def ownName (file : Text) : Text := Path.dropExtensionOfName (Path.base file)

/-- What an output name keeps of its file: the directory in normal form, and the name of the file
without its extension. -/
def stem (file : Text) : Text × Text := (Path.normalize (directory file), ownName file)

theorem slash_notMem_ownName (file : Text) : slash ∉ ownName file :=
  fun h => Path.slash_notMem_base file (Path.dropExtensionOfName_subset _ h)

theorem stem_eq_iff : stem file = stem file' ↔
    root (directory file) = root (directory file') ∧
      names (directory file) = names (directory file') ∧ ownName file = ownName file' := by
  unfold stem
  rw [Prod.mk.injEq, Path.normalize_eq_iff, and_assoc]

/-- The normal form of a file name with another ending. -/
theorem names_dropExtension_append {ending : Text} (hs : slash ∉ ending)
    (hlong : 2 < ending.length) (file : Text) :
    root (Path.dropExtension file ++ ending) = root (directory file) ∧
      names (Path.dropExtension file ++ ending) =
        names (directory file) ++ [ownName file ++ ending] := by
  have hdown : IsDown (ownName file ++ ending) := isDown_append hs hlong (slash_notMem_ownName file)
  have hfolder : Path.dropExtension file ++ ending = Path.folder file ++ (ownName file ++ ending) :=
    List.append_assoc _ _ _
  rw [hfolder]
  exact ⟨Path.root_folder_append hdown.no_slash file, Path.names_folder_append hdown file⟩

/-- **The normal form of a wiring's name.** -/
theorem names_wiring (file : Text) : root (wiring file) = root (directory file) ∧
    names (wiring file) = names (directory file) ++ [ownName file ++ wiringEnding] :=
  names_dropExtension_append (by decide) (by decide) file

/-- **The normal form of a stub's name.** -/
theorem names_stub (file : Text) : root (stub file) = root (directory file) ∧
    names (stub file) = names (directory file) ++ [ownName file ++ stubEnding] := by
  have hnames := names_dropExtension_append (show slash ∉ stubEnding by decide) (by decide) file
  unfold stub
  rw [Path.root_normalize, Path.names_normalize]
  exact hnames

theorem normalize_stub (file : Text) : Path.normalize (stub file) = stub file :=
  Path.normalize_normalize _

/-- Directories and names with an ending agree iff the directories and the names do. -/
theorem concat_ending_inj {dir dir' : List Text} {name name' ending : Text} :
    dir ++ [name ++ ending] = dir' ++ [name' ++ ending] ↔ dir = dir' ∧ name = name' := by
  simp

/-- **Two wirings have one name iff their files have one stem.** -/
theorem normalize_wiring_eq_iff :
    Path.normalize (wiring file) = Path.normalize (wiring file') ↔ stem file = stem file' := by
  rw [Path.normalize_eq_iff, stem_eq_iff, (names_wiring file).1, (names_wiring file').1,
    (names_wiring file).2, (names_wiring file').2, concat_ending_inj]

/-- **Two stubs have one name iff their files have one stem.** -/
theorem stub_eq_iff : stub file = stub file' ↔ stem file = stem file' := by
  rw [← normalize_stub file, ← normalize_stub file', Path.normalize_eq_iff, stem_eq_iff,
    (names_stub file).1, (names_stub file').1, (names_stub file).2, (names_stub file').2,
    concat_ending_inj]

/-- **A wiring never has the name of a stub.** -/
theorem normalize_wiring_ne_stub (file file' : Text) :
    Path.normalize (wiring file) ≠ stub file' := by
  rw [← normalize_stub file']
  intro h
  have hnames := (Path.normalize_eq_iff.mp h).2
  rw [(names_wiring file).2, (names_stub file').2] at hnames
  have hlast : ownName file ++ wiringEnding = ownName file' ++ stubEnding := by
    simpa using congrArg List.getLast? hnames
  -- The endings differ in the fourth character from the end.
  have hfourth := congrArg (fun t => t.reverse[3]?) hlast
  simp only [List.reverse_append] at hfourth
  rw [List.getElem?_append_left (by decide), List.getElem?_append_left (by decide)] at hfourth
  exact absurd hfourth (by decide)

end OutputName

end ServiceWiring
