import ServiceWiring.Proofs.OutputName.Stem

/-!
# Wirings and stubs beside each other

In normal form, the names of a wiring and of a stub are a root and some names, and the last of these
holds the ending of the artifact. What comes before the ending is the same for both artifacts of a
file. It consists of a directory, which is that of the file in normal form, and of the name of the
file without its extension. So the two artifacts lie in one directory and are told apart by their
endings alone.

Results:
* `ofNames_concat`: a path in normal form ends with the last of its names.
* `normalize_dropExtension_append`: a file name with another ending, in normal form.

Headline:
* **`OutputName.wiring_beside_stub`**: the names of a wiring and of a stub of one file differ in the
  ending alone, and no wiring has the name of a stub.
-/

namespace ServiceWiring

namespace Path

variable {lead n : Text}

/-! ## The last name -/

/-- What stands before the last name of a path: the root, and names with slashes after them. -/
def leading (r : Root) (ns : List Text) : Text := r.toText ++ ns.flatMap (· ++ [slash])

/-- A path in normal form ends with the last of its names. -/
theorem ofNames_concat (hn : n ≠ []) (r : Root) (ns : List Text) :
    ofNames r (ns ++ [n]) = leading r ns ++ n := by
  have htext : r.toText ++ Text.joinWith "/" (ns ++ [n]) = leading r ns ++ n := by
    rw [Text.joinWith_concat_eq, ← List.append_assoc]
    rfl
  unfold ofNames
  simp only
  rw [htext, if_neg (by simp [hn])]

/-- Before the last name stands nothing, or a slash. -/
theorem leading_cases (r : Root) (ns : List Text) :
    leading r ns = [] ∨ ∃ before, leading r ns = before ++ [slash] := by
  unfold leading
  rcases List.eq_nil_or_concat ns with rfl | ⟨ns, n, rfl⟩
  · cases r with
    | none => exact Or.inl rfl
    | single => exact Or.inr ⟨[], rfl⟩
    | double => exact Or.inr ⟨[slash], rfl⟩
  · refine Or.inr ⟨r.toText ++ (ns.flatMap (· ++ [slash]) ++ n), ?_⟩
    simp

/-- What stands before the last name of a path, and the name itself. -/
theorem folder_base_append (hlead : lead = [] ∨ ∃ before, lead = before ++ [slash])
    (hn : slash ∉ n) : folder (lead ++ n) = lead ∧ base (lead ++ n) = n := by
  have hname : ∀ c ∈ n.reverse, decide (c ≠ slash) = true := fun c hc =>
    decide_eq_true fun he => hn (he ▸ List.mem_reverse.mp hc)
  unfold folder base
  rw [List.reverse_append, List.dropWhile_append_of_pos hname, List.takeWhile_append_of_pos hname]
  rcases hlead with rfl | ⟨before, rfl⟩ <;> simp

end Path

namespace OutputName

open ServiceWiring.Path (IsDown base directory folder leading names root slash)

variable {ending : Text}

/-! ## Two endings -/

/-- What the outputs of a file have before their endings, in normal form. -/
def stemText (file : Text) : Text :=
  leading (root (directory file)) (names (directory file)) ++ ownName file

/-- A file name with another ending, in normal form. -/
theorem normalize_dropExtension_append (hs : slash ∉ ending) (hlong : 2 < ending.length)
    (file : Text) :
    Path.normalize (Path.dropExtension file ++ ending) = stemText file ++ ending := by
  have hdown : IsDown (ownName file ++ ending) := isDown_append hs hlong (slash_notMem_ownName file)
  obtain ⟨hroot, hnames⟩ := names_dropExtension_append hs hlong file
  unfold Path.normalize stemText
  rw [hroot, hnames, Path.ofNames_concat hdown.ne_nil, List.append_assoc]

theorem folder_base_stemText (file : Text) :
    Path.folder (stemText file) = leading (root (directory file)) (names (directory file)) ∧
      base (stemText file) = ownName file :=
  Path.folder_base_append (Path.leading_cases _ _) (slash_notMem_ownName file)

/-- It lies in the directory of the file. -/
theorem directory_stemText (file : Text) :
    Path.normalize (directory (stemText file)) = Path.normalize (directory file) := by
  have hdown : IsDown (ownName file ++ wiringEnding) :=
    isDown_append (by decide) (by decide) (slash_notMem_ownName file)
  -- The wiring tells the directory, which is what comes before its last name.
  have hwiring : Path.folder (stemText file) ++ (ownName file ++ wiringEnding) =
      Path.normalize (wiring file) := by
    rw [(folder_base_stemText file).1, ← List.append_assoc]
    exact (normalize_dropExtension_append (by decide) (by decide) file).symm
  have hroot := Path.root_folder_append hdown.no_slash (stemText file)
  have hnames := Path.names_folder_append hdown (stemText file)
  rw [hwiring, Path.root_normalize, (names_wiring file).1] at hroot
  rw [hwiring, Path.names_normalize, (names_wiring file).2, List.append_cancel_right_eq] at hnames
  exact Path.normalize_eq_iff.mpr ⟨hroot.symm, hnames.symm⟩

/-! ## The outputs of a file -/

/-- **The wiring and the stub of a file lie beside each other.** Take any file name. In normal form,
the names of the two artifacts are one path with two endings: a path in the directory of the file,
whose last name is that of the file without its extension. The name of the stub is in normal form as
it is. And no wiring, of this file or of any other, has the name of a stub. -/
theorem wiring_beside_stub (file : Text) :
    (∃ p, Path.normalize (wiring file) = p ++ ".pb.goclay.go" ∧ stub file = p ++ ".pb.impl.go" ∧
        Path.normalize (directory p) = Path.normalize (directory file) ∧
        base p = Path.dropExtensionOfName (base file)) ∧
      Path.normalize (stub file) = stub file ∧
      ∀ file', Path.normalize (wiring file) ≠ stub file' := by
  refine ⟨⟨stemText file, ?_, ?_, directory_stemText file, (folder_base_stemText file).2⟩,
    normalize_stub file, normalize_wiring_ne_stub file⟩
  · exact normalize_dropExtension_append (by decide) (by decide) file
  · exact normalize_dropExtension_append (by decide) (by decide) file

-- What has no name of its own gives artifacts that are endings only.
example : Path.normalize (wiring "b/../") = ".pb.goclay.go" ∧ stub "b/../" = ".pb.impl.go" := by
  decide

end OutputName

end ServiceWiring
