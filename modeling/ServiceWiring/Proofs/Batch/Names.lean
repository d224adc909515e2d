import ServiceWiring.Proofs.Batch.Outputs

/-!
# The names of the outputs of a batch

The outputs of a batch are named file by file: nothing for a file without services, and for any
other the name of its wiring and perhaps that of its stub. Neither the formatter nor the machine has
a say in it.

Headline:
* **`Generator.generate_names`**: the names of the outputs of a batch.
-/

namespace ServiceWiring

open SessionM (Guards Lasting)

variable {known : Machine → Prop} {g : Generator} {d : Descriptor} {files : List Descriptor}
  {s : Session} {names : List Text} {outputs : List Output}

/-- What the outputs of a file may be named. -/
def Descriptor.Yields (d : Descriptor) (names : List Text) : Prop :=
  d.services = [] ∧ names = [] ∨
    d.services ≠ [] ∧ ∃ file, d.name = .str file ∧
      (names = [OutputName.wiring file] ∨ names = [OutputName.wiring file, OutputName.stub file])

namespace Generator

theorem plan_yields (g : Generator) (d : Descriptor) :
    Guards known (g.plan d) fun plan => d.Yields (plan.wiring?.toList ++ plan.stub?.toList) := by
  have hlasting : Lasting Eq (g.plan d) := plan_lasting (by rintro m _ rfl stub -; rfl)
  refine Guards.of_still hlasting.still fun s plan _ hplan => ?_
  obtain ⟨present, -, hmake⟩ := plan_result hplan
  rcases make_cases hmake with ⟨hs, rfl⟩ | ⟨hs, file, hfile, ⟨kept?, rfl⟩ | ⟨-, -, rfl⟩⟩
  · exact Or.inl ⟨hs, rfl⟩
  · exact Or.inr ⟨hs, file, hfile, Or.inl rfl⟩
  · exact Or.inr ⟨hs, file, hfile, Or.inr rfl⟩

theorem generateFile_yields (h : ∀ m, known m → ∀ source, known (g.formatter m source).1)
    (d : Descriptor) :
    Guards known (g.generateFile d) fun part => d.Yields (part.map Output.name) := by
  refine (generateFile_artifacts (plan_yields g d) (emitArtifact_guards h)).mono ?_
  rintro part ⟨plan, hplan, hpart⟩
  have hnames : part.map Output.name = (artifactsOf d plan).map Artifact.output := by
    rw [← List.forall₂_eq_eq_eq, List.forall₂_map_left_iff, List.forall₂_map_right_iff]
    exact hpart.flip
  rwa [hnames, map_output_artifactsOf]

/-- **The names of the outputs of a batch**: file by file, those of a wiring and of a stub. -/
theorem generate_names (h : (g.generate files).result s = .ok outputs) :
    ∃ parts : List (List Output), outputs = parts.flatten ∧
      List.Forall₂ (fun d part => d.Yields (part.map Output.name)) files parts := by
  have hguards : Guards (fun _ => True) (g.generate files) fun outputs =>
      ∃ parts : List (List Output), outputs = parts.flatten ∧
        List.Forall₂ (fun d part => d.Yields (part.map Output.name)) files parts := by
    unfold generate
    refine (Guards.mapM_forall₂ fun d _ => generateFile_yields (fun _ _ _ => trivial) d).seq
      fun parts hparts => Guards.pure ⟨parts, rfl, hparts⟩
  exact hguards.gives s outputs trivial h

/-- Each output of a batch is a wiring or a stub of a file with services. -/
theorem name_of_mem_outputs (h : (g.generate files).result s = .ok outputs) {o : Output}
    (ho : o ∈ outputs) : ∃ d ∈ files, d.services ≠ [] ∧ ∃ file, d.name = .str file ∧
      (o.name = OutputName.wiring file ∨ o.name = OutputName.stub file) := by
  obtain ⟨parts, rfl, hparts⟩ := generate_names h
  obtain ⟨part, hpart, ho⟩ := List.mem_flatten.mp ho
  obtain ⟨d, hd, hyields⟩ := exists_of_forall₂ hparts.flip hpart
  have hname : o.name ∈ part.map Output.name := List.mem_map_of_mem ho
  rcases hyields with ⟨-, hnone⟩ | ⟨hs, file, hfile, hone | htwo⟩
  · rw [hnone] at hname
    cases hname
  · rw [hone] at hname
    exact ⟨d, hd, hs, file, hfile, Or.inl (List.mem_singleton.mp hname)⟩
  · rw [htwo] at hname
    exact ⟨d, hd, hs, file, hfile, by simpa using hname⟩

end Generator

end ServiceWiring
