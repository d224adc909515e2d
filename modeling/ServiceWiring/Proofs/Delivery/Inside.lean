import ServiceWiring.Delivery
import ServiceWiring.Proofs.Batch.Names
import ServiceWiring.Proofs.OutputName.Stem

/-!
# Outputs below the output directory

Outputs are written below a directory as far as their files allow. Nothing holds back a file whose
name starts at a root, or goes back further than it goes down. So whether an output lies inside the
directory is decided by the directory of its file: from the output directory it has to lead there,
or into it.

Results:
* `Path.isInside_append_iff`: when a file lies inside a directory that it is seen from.
* `Path.landsIn_of_down`: a path that never goes back leads into every directory.

Headline:
* **`Generator.delivered_inside_iff`**: which outputs of a batch lie inside the output directory.
-/

namespace ServiceWiring

namespace Path

variable {dir p t last : Text} {ns ns' : List Text}

/-- The path lies inside the directory: in normal form it has the names of the directory and goes
down from there. -/
structure IsInside (dir p : Text) : Prop where
  /-- Both start at one root. -/
  root : root p = root dir
  /-- The path goes down from the directory. -/
  below : ∃ rest, rest ≠ [] ∧ (".." : Text) ∉ rest ∧ names p = names dir ++ rest

/-- Seen from the directory, the path leads there or into it. One with a root has the names of the
directory first. Any other goes down again the names of the directory that it took back, and goes
back no further than the directory goes down, unless the directory has a root. -/
def LandsIn (dir p : Text) : Prop :=
  if root p = .none then
    (root dir ≠ .none ∨ ups p ≤ (downs dir).length) ∧
      (downs dir).drop ((downs dir).length - ups p) <+: downs p
  else root p = root dir ∧ names dir <+: names p

instance (dir p : Text) : Decidable (LandsIn dir p) :=
  inferInstanceAs (Decidable (if root p = .none then _ else _))

/-- **A path that never goes back leads into every directory.** -/
theorem landsIn_of_down (hroot : root p = .none) (hups : ups p = 0) (dir : Text) :
    LandsIn dir p := by
  unfold LandsIn
  rw [if_pos hroot, hups, Nat.sub_zero, List.drop_length]
  exact ⟨Or.inr (Nat.zero_le _), List.nil_prefix⟩

/-- With one more name, names go on from others iff they do without it. -/
theorem exists_rest_iff (h : (".." : Text) ∉ ns ++ [last]) :
    (∃ rest, rest ≠ [] ∧ (".." : Text) ∉ rest ∧ ns ++ [last] = ns' ++ rest) ↔ ns' <+: ns := by
  constructor
  · rintro ⟨rest, hne, -, heq⟩
    obtain ⟨rest, x, rfl⟩ := (List.eq_nil_or_concat rest).resolve_left hne
    rw [List.concat_eq_append, ← List.append_assoc] at heq
    exact ⟨rest, (List.append_inj' heq rfl).1.symm⟩
  · rintro ⟨rest, rfl⟩
    refine ⟨rest ++ [last], by simp, fun hup => h ?_, List.append_assoc _ _ _⟩
    rw [List.append_assoc]
    exact List.mem_append_right _ hup

theorem up_notMem (h : ∀ n ∈ ns, IsDown n) : (".." : Text) ∉ ns := fun hup => (h _ hup).ne_up rfl

/-- More steps back are not passed by going down first. -/
theorem replicate_up_ne {k : Nat} {rest : List Text} (hk : k ≠ 0) (hns : ∀ n ∈ ns, IsDown n)
    (hrest : (".." : Text) ∉ rest) (ns' : List Text) :
    List.replicate k (".." : Text) ++ ns' ≠ ns ++ rest := by
  obtain ⟨k, rfl⟩ := Nat.exists_eq_succ_of_ne_zero hk
  rw [List.replicate_succ, List.cons_append]
  intro heq
  have hmem : (".." : Text) ∈ ns ++ rest := heq ▸ List.mem_cons_self
  exact (List.mem_append.mp hmem).elim (up_notMem hns) hrest

/-- **When a file lies inside a directory that it is seen from**: iff its own directory leads there.
-/
theorem isInside_append_iff (hroot : root t = root p) (hnames : names t = names p ++ [last])
    (hlast : IsDown last) (dir : Text) :
    IsInside dir (Location.ofText dir ++ Location.ofText t).toText ↔ LandsIn dir p := by
  have hdowns : ∀ n ∈ downs p ++ [last], IsDown n := List.forall_mem_append.mpr
    ⟨fun n => isDown_of_mem_downs, List.forall_mem_singleton.mpr hlast⟩
  obtain ⟨hups, hdown⟩ : ups t = ups p ∧ downs t = downs p ++ [last] :=
    ups_downs_of_names (by rw [hnames, names_eq p, List.append_assoc]) hdowns
  have hnot : (".." : Text) ∉ downs p ++ [last] := up_notMem hdowns
  unfold LandsIn
  split
  · rename_i hnone
    have hseen := Location.names_append (hroot.trans hnone) dir
    have hkept := Location.root_append (hroot.trans hnone) dir
    rw [hups, hdown] at hseen
    have hback (h : root dir ≠ .none ∨ ups p ≤ (downs dir).length) :
        (if root dir = .none then ups dir + (ups p - (downs dir).length) else 0) = ups dir := by
      by_cases hdir : root dir = .none
      · rw [if_pos hdir, Nat.sub_eq_zero_of_le (h.resolve_left (not_not_intro hdir)), Nat.add_zero]
      · rw [if_neg hdir, ups_of_root hdir]
    by_cases hfar : root dir ≠ .none ∨ ups p ≤ (downs dir).length
    · -- What is taken back are names of the directory, and those before them agree.
      rw [hback hfar] at hseen
      have hcut (rest : List Text) :
          names (Location.ofText dir ++ Location.ofText t).toText = names dir ++ rest ↔
            downs p ++ [last] = (downs dir).drop ((downs dir).length - ups p) ++ rest := by
        rw [hseen, names_eq dir, List.append_assoc, List.append_cancel_left_eq]
        conv_lhs =>
          rhs
          rw [← List.take_append_drop ((downs dir).length - ups p) (downs dir)]
        rw [List.append_assoc, List.append_cancel_left_eq]
      rw [← exists_rest_iff hnot]
      refine ⟨fun h => ⟨hfar, ?_⟩, fun h => ⟨hkept, ?_⟩⟩
      · obtain ⟨rest, hne, hup, heq⟩ := h.below
        exact ⟨rest, hne, hup, (hcut rest).mp heq⟩
      · obtain ⟨rest, hne, hup, heq⟩ := h.2
        exact ⟨rest, hne, hup, (hcut rest).mpr heq⟩
    · -- The path goes back further than the directory goes down, so it leaves it for good.
      refine ⟨fun h => ?_, fun h => absurd h.1 hfar⟩
      obtain ⟨hdir, hless⟩ := not_or.mp hfar
      obtain ⟨rest, -, hup, heq⟩ := h.below
      rw [hseen, if_pos (not_not.mp hdir), List.replicate_add, names_eq dir, List.append_assoc,
        List.append_assoc, List.append_cancel_left_eq] at heq
      exact absurd heq
        (replicate_up_ne (by omega) (fun n => isDown_of_mem_downs) hup _)
  · rename_i hsome
    have hsome' : root t ≠ .none := hroot ▸ hsome
    have hall : names p ++ [last] = downs p ++ [last] := by
      rw [← hnames, names_eq, hdown, ups_of_root hsome']
      rfl
    rw [Location.append_of_root hsome', ← exists_rest_iff (hall ▸ hnot)]
    constructor
    · intro h
      have hrootEq := h.root
      obtain ⟨rest, hne, hup, heq⟩ := h.below
      rw [Location.names_toText_ofText, hnames] at heq
      rw [Location.root_toText (Location.arePlain_ofText t)] at hrootEq
      exact ⟨hroot.symm.trans hrootEq, rest, hne, hup, heq⟩
    · rintro ⟨hrootEq, rest, hne, hup, heq⟩
      refine ⟨?_, rest, hne, hup, ?_⟩
      · rw [Location.root_toText (Location.arePlain_ofText t)]
        exact hroot.trans hrootEq
      · rw [Location.names_toText_ofText, hnames, heq]

-- A path may leave a directory and come back into it, if it knows the directory's name.
example : LandsIn "out" "../out/a" ∧ ¬LandsIn "out" "../a" ∧ LandsIn "/srv/out" "/srv/out" := by
  decide

end Path

/-! ## Deliveries -/

/-- Where an output belongs, as seen from a directory. -/
def Output.placeIn (o : Output) (dir : Location) : Location := dir ++ Location.ofText o.name

namespace Delivery

section

variable {m m' : Machine} {dir : Location} {o : Output} {fault : Fault}

/-- A delivery ends with the first output that fails. -/
theorem write_of_failed (h : writeOne m (o.placeIn dir) o.content = (m', some fault))
    (outputs : List Output) : write m dir (o :: outputs) = ⟨m', [], some fault⟩ := by
  unfold Output.placeIn at h
  rw [write, h]

/-- A delivery goes on after an output that was written. -/
theorem write_of_written (h : writeOne m (o.placeIn dir) o.content = (m', none))
    (outputs : List Output) : write m dir (o :: outputs) =
      { write m' dir outputs with written := o.placeIn dir :: (write m' dir outputs).written } := by
  unfold Output.placeIn at h ⊢
  rw [write, h]

end

/-- What is written goes, in order, where the outputs belong. It is all of them unless the delivery
ends early. -/
theorem written_prefix (m : Machine) (dir : Location) (outputs : List Output) :
    (write m dir outputs).written <+: outputs.map (·.placeIn dir) ∧
      ((write m dir outputs).fault? = none →
        (write m dir outputs).written = outputs.map (·.placeIn dir)) := by
  induction outputs generalizing m with
  | nil => exact ⟨List.prefix_refl _, fun _ => rfl⟩
  | cons output outputs ih =>
    rcases hone : writeOne m (output.placeIn dir) output.content with ⟨m₁, _ | fault⟩
    · rw [write_of_written hone]
      obtain ⟨hwritten, hall⟩ := ih m₁
      exact ⟨List.cons_prefix_cons.mpr ⟨rfl, hwritten⟩, fun h => congrArg _ (hall h)⟩
    · rw [write_of_failed hone]
      exact ⟨List.nil_prefix, fun h => nomatch h⟩

end Delivery

namespace Generator

variable {g : Generator} {s : Session} {files : List Descriptor} {outputs : List Output}

/-- The wiring or the stub of a file lies inside the output directory iff the directory of the file
leads there, or into it. -/
theorem inside_of_name {o : Output} {file : Text}
    (hname : o.name = OutputName.wiring file ∨ o.name = OutputName.stub file) (out : Text) :
    Path.IsInside out (o.placeIn (Location.ofText out)).toText ↔
      Path.LandsIn out (Path.directory file) := by
  have hown := OutputName.slash_notMem_ownName file
  unfold Output.placeIn
  rcases hname with hname | hname
  · obtain ⟨hroot, hnames⟩ := OutputName.names_wiring file
    rw [hname]
    exact Path.isInside_append_iff hroot hnames
      (OutputName.isDown_append (by decide) (by decide) hown) out
  · obtain ⟨hroot, hnames⟩ := OutputName.names_stub file
    rw [hname]
    exact Path.isInside_append_iff hroot hnames
      (OutputName.isDown_append (by decide) (by decide) hown) out

/-- **Which outputs of a batch lie inside the output directory.** A delivery writes the outputs of a
batch where they belong as seen from the directory, in order, and all of them unless it ends early.
Each output is the wiring or the stub of a file with services, and its place lies inside the
directory iff the directory of the file leads there, or into it. A file that never goes back has its
outputs inside, whatever the directory is. -/
theorem delivered_inside_iff (h : (g.generate files).result s = .ok outputs) (m : Machine)
    (out : Text) :
    let d := Delivery.write m (Location.ofText out) outputs
    d.written <+: outputs.map (·.placeIn (Location.ofText out)) ∧
      (d.fault? = none → d.written = outputs.map (·.placeIn (Location.ofText out))) ∧
      ∀ o ∈ outputs, ∃ f ∈ files, f.services ≠ [] ∧ ∃ file, f.name = .str file ∧
        (o.name = OutputName.wiring file ∨ o.name = OutputName.stub file) ∧
        (Path.IsInside out (o.placeIn (Location.ofText out)).toText ↔
          Path.LandsIn out (Path.directory file)) ∧
        (Path.root (Path.directory file) = .none → Path.ups (Path.directory file) = 0 →
          Path.IsInside out (o.placeIn (Location.ofText out)).toText) := by
  obtain ⟨hwritten, hall⟩ := Delivery.written_prefix m (Location.ofText out) outputs
  refine ⟨hwritten, hall, fun o ho => ?_⟩
  obtain ⟨f, hf, hs, file, hfile, hname⟩ := name_of_mem_outputs h ho
  have hinside : Path.IsInside out (o.placeIn (Location.ofText out)).toText ↔
      Path.LandsIn out (Path.directory file) := inside_of_name hname out
  exact ⟨f, hf, hs, file, hfile, hname, hinside,
    fun hroot hups => hinside.mpr (Path.landsIn_of_down hroot hups out)⟩

/-- A generator of wirings for files that need nothing else. -/
def bare : Generator where
  renderer := .brief
  toolDir? := none
  roots := []
  common := []

/-- A file with a service that has no methods. -/
def bareFile (name : Text) : Descriptor where
  name := .str name
  package := { path := "p", name := "p" }
  services := [⟨.str "S", []⟩]

/-- The wiring of a file that goes back one name is written beside `out`, not inside it. -/
theorem delivered_inside_iff_stray : ∃ outputs,
    (bare.generate [bareFile "../x.proto"]).result {} = .ok outputs ∧ outputs.length = 1 ∧
      ∀ o ∈ outputs, ¬Path.IsInside "out" (o.placeIn (Location.ofText "out")).toText := by
  have hmade : ((bare.generate [bareFile "../x.proto"]).result {}).toOption.map List.length =
      some 1 := by decide +kernel
  obtain ⟨outputs, hrun, hlength⟩ := exists_ok_of_map hmade
  refine ⟨outputs, hrun, hlength, fun o ho hin => ?_⟩
  obtain ⟨-, -, hinside⟩ := delivered_inside_iff hrun {} "out"
  obtain ⟨f, hf, -, file, hfile, -, hiff, -⟩ := hinside o ho
  obtain rfl := List.mem_singleton.mp hf
  obtain rfl := Json.str.inj hfile
  exact absurd (hiff.mp hin) (by decide)

end Generator

end ServiceWiring
