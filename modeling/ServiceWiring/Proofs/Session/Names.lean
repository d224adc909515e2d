import ServiceWiring.Proofs.Session.Desk

/-!
# One path, one package, one name

In a session that reserves no names, every import path has one package in all that was read, bound
or assembled, and no two paths go by one name. So an artifact may import a package that was bound
long before for another file, and still calls it what every other artifact calls it.

Headline:
* **`names_consistent`**: in every import list the paths and the names differ from one another, each
  name is the one that the table has for the path from then on, and packages of one path are equal.
-/

namespace ServiceWiring.Desk

open ImportTable (Grows Call)

/-- The packages that occur in the files and in the import lists. -/
def packages (desk : Desk) : List GoPackage :=
  desk.files.flatMap Descriptor.packages ++ desk.assembled.flatMap (·.parameters.imports)

variable {kind : Call → Prop} {desk : Desk} {a : Assembly} {p q : GoPackage}

theorem makes_isBind {step : Step} (h : step.isReserve = false) : step.Makes (·.isBind) := by
  cases step with
  | reserve name path => cases h
  | bindCommon paths => exact fun path _ => rfl
  | bind | read | readSet | wiring | stub | create | generate | outside => first | rfl | trivial

/-- What occurs anywhere on a sound desk is in the table. -/
theorem Sound.mem_packages (h : desk.Sound kind) (hp : p ∈ desk.packages) :
    p ∈ desk.session.imports.packages := by
  rcases List.mem_append.mp hp with hp | hp
  · obtain ⟨d, hd, hp⟩ := List.mem_flatMap.mp hp
    exact h.files d hd p hp
  · obtain ⟨a, ha, hp⟩ := List.mem_flatMap.mp hp
    obtain ⟨⟨paths, hi⟩, -, hafter⟩ := h.assembled a ha
    exact hafter.packages (hi.packages p hp)

/-- **One path, one package**, whatever calls the session makes. -/
theorem Sound.package_unique (h : desk.Sound kind) (hp : p ∈ desk.packages) (hq : q ∈ desk.packages)
    (hpath : p.path = q.path) : p = q :=
  (h.grown.valid ImportTable.valid_empty).package_unique (h.mem_packages hp) (h.mem_packages hq)
    hpath

/-- An import goes by the name that the table has for its path, then and after any further calls. -/
theorem Sound.nameOf?_after (h : desk.Sound (·.isBind)) (ha : a ∈ desk.assembled)
    (hp : p ∈ a.parameters.imports) (calls : List Call) :
    (a.table.after calls).nameOf? p.path = some p.shortName := by
  obtain ⟨⟨paths, hi⟩, hbefore, -⟩ := h.assembled a ha
  have hfaithful := hbefore.faithful ImportTable.faithful_empty
  have hgrows : Grows (fun _ => True) a.table (a.table.after calls) := ⟨calls, by simp, rfl⟩
  exact hgrows.nameOf? (hfaithful.nameOf?_eq (hi.packages p hp))

/-- The table of every later desk is made by calls from that of an assembly. -/
theorem Sound.exists_calls (h : desk.Sound kind) (ha : a ∈ desk.assembled) (later : List Step) :
    ∃ calls, (desk.run later).session.imports = a.table.after calls := by
  have hlater : (desk.run later).Sound fun _ => True :=
    run_sound (fun _ _ => trivial) (fun step _ => makes_any step) (h.kind_mono fun _ _ => trivial)
  obtain ⟨-, -, calls, -, hcalls⟩ := hlater.assembled a (assembled_subset_run desk later ha)
  exact ⟨calls, hcalls⟩

/-- **One path, one package, one name.** Take any session without reservations, whether its steps
fail or not. In all that it assembles, the imported paths differ from one another and so do their
names; a template looks up each path under the name of its package; and the table has that name for
the path as soon as the parameters are assembled, after any further calls and so after any later
steps. Packages of one path are equal wherever they occur. -/
theorem names_consistent (machine : Machine) (steps later : List Step)
    (h : ∀ step ∈ steps, step.isReserve = false) :
    (∀ a ∈ ((start machine).run steps).assembled,
      (a.parameters.imports.map (·.path)).Nodup ∧
      (a.parameters.imports.map GoPackage.shortName).Nodup ∧
      a.parameters.shortNames = a.parameters.imports.map (fun p => (p.path, p.shortName)) ∧
      ∀ p ∈ a.parameters.imports,
        (∀ calls, (a.table.after calls).nameOf? p.path = some p.shortName) ∧
        (((start machine).run steps).run later).session.imports.nameOf? p.path =
          some p.shortName) ∧
    ∀ p ∈ ((start machine).run steps).packages, ∀ q ∈ ((start machine).run steps).packages,
      p.path = q.path → p = q := by
  have hsound : ((start machine).run steps).Sound (·.isBind) :=
    run_start_sound machine (fun _ => Call.isBind_of_isProper) fun step hs =>
      makes_isBind (h step hs)
  refine ⟨fun a ha => ?_, fun p hp q hq => hsound.package_unique hp hq⟩
  obtain ⟨⟨paths, hi⟩, hbefore, -⟩ := hsound.assembled a ha
  have hfaithful := hbefore.faithful ImportTable.faithful_empty
  refine ⟨hi.paths_nodup, hi.shortNames_nodup hfaithful, hi.shortNames_eq, fun p hp => ?_⟩
  obtain ⟨calls, hcalls⟩ := hsound.exists_calls ha later
  refine ⟨hsound.nameOf?_after ha hp, ?_⟩
  rw [hcalls]
  exact hsound.nameOf?_after ha hp calls

/-- A session in which four packages want to be called `errors`, one of them for a message that the
wiring and the stub of one file share. -/
def crowded : List Step :=
  let request : Json := .obj [("name", .str "Req"), ("go_package", .str "z/errors")]
  [.bind "errors" none, .bindCommon commonPaths,
    .read (oneMethod "x/errors" request (.obj [("name", .str "Res")])), .wiring 0 0 .null,
    .stub 0 0 {}]

theorem names_consistent_crowded :
    ((start {}).run crowded).assembled.map (·.parameters.shortNameOf? "z/errors") =
        [some (Text.ofString "errors_2"), some (Text.ofString "errors_2")] ∧
      ∀ a ∈ ((start {}).run crowded).assembled,
        (a.parameters.imports.map GoPackage.shortName).Nodup :=
  ⟨by decide +kernel, fun a ha => ((names_consistent {} crowded [] (by decide)).1 a ha).2.1⟩

end ServiceWiring.Desk
