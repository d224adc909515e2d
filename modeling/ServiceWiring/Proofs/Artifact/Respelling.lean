import ServiceWiring.Proofs.Artifact.StubImports
import ServiceWiring.Proofs.Path.Join

/-!
# Where stubs and wirings go, spelled in another way

The segments of stubs and wirings are used three times when a stub is assembled: they are compared,
the one of the wirings is joined to the root of the tool, and the one of the stubs names their
package. Every time only the normal form counts. Which root there is does not depend on them, and
what is joined to a root has a normal form that depends on the normal form alone.

As it is spelled a segment only gets into the log, where a wiring that cannot be found is reported.
`SameButReports` says of two steps that nothing else tells them apart.

Results:
* `Stub.Site.Respells.wiringImport?_eq`: the import path of a wiring is the same.
* `Stub.Site.Respells.parameters_same`: so is all that is assembled.

Headline:
* **`stub_of_normal_site`**: the segments may be put in normal form.
-/

namespace ServiceWiring

open Path (normalize)

/-! ## Steps that differ in what they report -/

namespace SessionM

variable {α β : Type} {x y : SessionM α} {f g : α → SessionM β}

/-- The steps give the same and leave the same table and the same machine in every session. -/
structure SameButReports (x y : SessionM α) : Prop where
  /-- They give the same. -/
  result : ∀ s, x.result s = y.result s
  /-- They leave the same table. -/
  imports : ∀ s, (x.final s).imports = (y.final s).imports
  /-- They leave the same machine. -/
  machine : ∀ s, (x.final s).machine = (y.final s).machine

namespace SameButReports

theorem refl (x : SessionM α) : SameButReports x x :=
  ⟨fun _ => rfl, fun _ => rfl, fun _ => rfl⟩

theorem report (e e' : Event) : SameButReports (SessionM.report e) (SessionM.report e') :=
  ⟨fun _ => rfl, fun _ => rfl, fun _ => rfl⟩

/-- What follows the same step may differ in what it reports. -/
theorem after (x : SessionM α) (h : ∀ a, SameButReports (f a) (g a)) :
    SameButReports (x >>= f) (x >>= g) := by
  refine ⟨fun s => ?_, fun s => ?_, fun s => ?_⟩
  · rw [result_seq, result_seq]
    cases x.result s with
    | ok a => exact (h a).result _
    | error e => rfl
  · rw [final_seq, final_seq]
    cases x.result s with
    | ok a => exact (h a).imports _
    | error e => rfl
  · rw [final_seq, final_seq]
    cases x.result s with
    | ok a => exact (h a).machine _
    | error e => rfl

/-- Steps that differ in what they report may be followed by what does not ask for it. -/
theorem then_pure (h : SameButReports x y) (f : α → β) :
    SameButReports (x >>= fun a => pure (f a)) (y >>= fun a => pure (f a)) := by
  refine ⟨fun s => ?_, fun s => ?_, fun s => ?_⟩
  · rw [result_seq, result_seq, h.result]
    cases y.result s <;> rfl
  · rw [final_seq, final_seq, h.result]
    cases y.result s <;> exact h.imports s
  · rw [final_seq, final_seq, h.result]
    cases y.result s <;> exact h.machine s

end SameButReports

end SessionM

open SessionM (SameButReports result final)

/-! ## Sites that differ in spelling -/

variable {site site' : Stub.Site} {d : Descriptor}

namespace Stub

/-- The tool is the same, and the segments of the sites have the same normal forms. -/
structure Site.Respells (site' site : Site) : Prop where
  /-- The segments of the stubs. -/
  stubPath : normalize site'.stubPath = normalize site.stubPath
  /-- The segments of the wirings, if they were given a value. -/
  wiringPath : site'.wiringPath?.map normalize = site.wiringPath?.map normalize
  /-- The directory of the tool. -/
  toolDir : site'.toolDir? = site.toolDir?
  /-- The roots. -/
  roots : site'.roots = site.roots

namespace Site.Respells

theorem wiringPath_cases (h : site'.Respells site) :
    site'.wiringPath? = none ∧ site.wiringPath? = none ∨
      ∃ p' p, site'.wiringPath? = some p' ∧ site.wiringPath? = some p ∧
        normalize p' = normalize p := by
  have hmap := h.wiringPath
  cases hp' : site'.wiringPath? with
  | none =>
    rw [hp', Option.map_none, eq_comm, Option.map_eq_none_iff] at hmap
    exact Or.inl ⟨rfl, hmap⟩
  | some p' =>
    rw [hp', Option.map_some, eq_comm] at hmap
    obtain ⟨p, hp, heq⟩ := Option.map_eq_some_iff.mp hmap
    exact Or.inr ⟨p', p, rfl, hp, heq.symm⟩

theorem isSeparate_eq (h : site'.Respells site) : site'.isSeparate = site.isSeparate := by
  unfold isSeparate
  rcases h.wiringPath_cases with ⟨hp', hp⟩ | ⟨p', p, hp', hp, heq⟩
  · rw [hp', hp, h.stubPath]
  · rw [hp', hp, h.stubPath]
    simp only [Option.getD_some, heq]

theorem stubPackage?_eq (h : site'.Respells site) : site'.stubPackage? = site.stubPackage? := by
  unfold stubPackage?
  rw [h.stubPath]

/-- **The import path of a wiring is the same**: a root is not empty, so what is joined to it has a
normal form that depends on the normal form of the segment alone. -/
theorem wiringImport?_eq (h : site'.Respells site) (d : Descriptor) :
    site'.wiringImport? d = site.wiringImport? d := by
  unfold wiringImport?
  rw [h.toolDir, h.roots]
  simp only
  split
  · rfl
  · rename_i hroot
    rcases h.wiringPath_cases with ⟨hp', hp⟩ | ⟨p', p, hp', hp, heq⟩
    · rw [hp', hp]
    · rw [hp', hp]
      simp only
      rw [Path.normalize_join_congr (mt List.isEmpty_iff.mpr hroot) heq]

theorem addWiring_same (h : site'.Respells site) (imports : List GoPackage) (d : Descriptor) :
    SameButReports (addWiring imports d site') (addWiring imports d site) := by
  unfold addWiring
  rw [h.wiringImport?_eq]
  refine .after _ fun path? => ?_
  cases path? with
  | some path => exact .refl _
  | none => exact (SameButReports.report _ _).then_pure fun _ => (imports, [])

/-- **What is assembled is the same.** -/
theorem parameters_same (h : site'.Respells site) (d : Descriptor) (common : List GoPackage) :
    SameButReports (parameters d common site') (parameters d common site) := by
  unfold parameters
  rw [h.isSeparate_eq, h.stubPackage?_eq]
  refine .after _ fun imports => ?_
  split
  · exact (h.addWiring_same imports d).then_pure fun added =>
      ({ file := d, imports := addRequestPackages added.1 d, wiringQualifier := added.2,
         stubPackage? := site.stubPackage? } : Parameters)
  · exact .refl _

end Site.Respells

end Stub

/-- **The segments may be put in normal form.** Whatever file a stub is for, whatever packages all
artifacts share and whatever is bound: the stub can be assembled. It is assembled from the same
where the segments of stubs and wirings are put in normal form first, and the same is bound. -/
theorem stub_of_normal_site (d : Descriptor) (common : List GoPackage) (s : Session)
    (stubPath wiringPath : Text) (toolDir? : Option Text) (roots : List Text) :
    let site : Stub.Site := { stubPath, wiringPath? := some wiringPath, toolDir?, roots }
    let normal : Stub.Site :=
      { stubPath := normalize stubPath, wiringPath? := some (normalize wiringPath), toolDir?,
        roots }
    ∃ r, (Stub.parameters d common site).result s = .ok r ∧
      (Stub.parameters d common normal).result s = .ok r ∧
      ((Stub.parameters d common normal).final s).imports =
        ((Stub.parameters d common site).final s).imports := by
  intro site normal
  have hrespells : normal.Respells site :=
    ⟨Path.normalize_normalize _, congrArg some (Path.normalize_normalize _), rfl, rfl⟩
  have hsame := hrespells.parameters_same d common
  have hwiring : site.wiringPath? = some wiringPath := rfl
  obtain ⟨r, hr⟩ := stub_parameters_total hwiring d common s
  exact ⟨r, hr, (hsame.result s).trans hr, hsame.imports s⟩

example : normalize "./impl//x/../" = "impl" ∧ normalize "" = "." ∧ normalize "." = "." := by
  decide

end ServiceWiring
