import Mathlib
import ServiceWiring.Proofs.Delivery.Contents

/-!
# Outputs that clash

An output keeps of its file the stem alone, so two files of one stem have outputs of one name, and
the output that is written last is the one that stays. Files of different stems have outputs of
different names. These go to different places if the files lead down from wherever they are seen:
then each output that was written is still there in the end.

Results:
* `Generator.names_nodup_iff`: when the outputs of a batch have different names.
* `Generator.places_nodup`: when they go to different places.

Headline:
* **`Generator.delivered_intact`**: what a delivery leaves of the outputs of a batch.
-/

namespace ServiceWiring

open ServiceWiring.Path (IsDown directory downs names root slash ups)
open OutputName (ownName stem)
open Utf8 (spell)

/-! ## Characters -/

namespace Text

variable {sep : CodePoint} {t piece : Text}

theorem subset_of_mem_splitOn (h : piece ∈ splitOn sep t) : piece ⊆ t := by
  induction t generalizing piece with
  | nil =>
    rw [List.mem_singleton.mp h]
    exact List.Subset.refl _
  | cons c t ih =>
    by_cases hc : c = sep
    · rw [splitOn, if_pos hc] at h
      rcases List.mem_cons.mp h with rfl | h
      · exact List.nil_subset _
      · exact List.subset_cons_of_subset c (ih h)
    · obtain ⟨first, pieces, ht, hct⟩ := splitOn_cons_of_ne hc t
      rw [hct] at h
      rcases List.mem_cons.mp h with rfl | h
      · exact List.cons_subset_cons c (ih (ht ▸ List.mem_cons_self))
      · exact List.subset_cons_of_subset c (ih (ht ▸ List.mem_cons_of_mem _ h))

end Text

namespace Utf8

variable {t u : Text} {ts us : List Text}

/-- The text has no lone surrogates. -/
def IsScalar (t : Text) : Prop := t.any CodePoint.isSurrogate = false

instance : DecidablePred IsScalar := fun t =>
  inferInstanceAs (Decidable (t.any CodePoint.isSurrogate = false))

theorem IsScalar.mono (h : IsScalar t) (hsub : u ⊆ t) : IsScalar u := by
  unfold IsScalar at h ⊢
  rw [List.any_eq_false] at h ⊢
  exact fun c hc => h c (hsub hc)

theorem IsScalar.append (ht : IsScalar t) (hu : IsScalar u) : IsScalar (t ++ u) := by
  unfold IsScalar at ht hu ⊢
  rw [List.any_append, ht, hu]
  rfl

/-- A text without lone surrogates is read back from what it spells. -/
theorem decode_spell (h : IsScalar t) : decode (spell t) = .ok t := by
  refine decode_of_encode? ?_
  have hspell : spell t = t.flatMap encodeOne := by
    refine List.flatMap_congr fun c hc => ?_
    have hs : c.isSurrogate = false := by simpa using List.any_eq_false.mp h c hc
    simpa [spell] using spell_of_encodeName? (encodeName?_plain hs)
  unfold encode?
  rw [hspell, if_neg (by rw [h]; exact Bool.false_ne_true)]

theorem map_spell_inj (ht : ∀ t ∈ ts, IsScalar t) (hu : ∀ u ∈ us, IsScalar u)
    (h : ts.map spell = us.map spell) : ts = us := by
  have hback {ts : List Text} (ht : ∀ t ∈ ts, IsScalar t) :
      (ts.map spell).map (fun o => (decode o).toOption) = ts.map some := by
    rw [List.map_map]
    exact List.map_congr_left fun t hmem => congrArg Except.toOption (decode_spell (ht t hmem))
  have hsome : ts.map some = us.map some := by rw [← hback ht, ← hback hu, h]
  exact List.map_injective_iff.mpr (Option.some_injective _) hsome

end Utf8

open Utf8 (IsScalar)

namespace Path

variable {t n : Text}

/-- A step puts at most its own name on the way. -/
theorem step_subset (r : Root) (way : List Text) (name : Text) : step r way name ⊆ name :: way := by
  unfold step
  split
  · exact List.subset_cons_self name way
  · split
    · split
      · split
        · exact List.Subset.refl _
        · exact List.nil_subset _
      · rename_i last before
        split
        · exact List.Subset.refl _
        · exact List.Subset.trans (List.subset_cons_self last before) (List.subset_cons_self name _)
    · exact List.Subset.refl _

/-- The names of a path are names between its slashes. -/
theorem mem_splitOn_of_mem_names (h : n ∈ names t) : n ∈ Text.splitOn slash t := by
  have hfold : ∀ (pieces way : List Text),
      n ∈ pieces.foldl (step (root t)) way → n ∈ way ∨ n ∈ pieces := by
    intro pieces
    induction pieces with
    | nil => exact fun way hn => Or.inl hn
    | cons name pieces ih =>
      intro way hn
      rcases ih _ hn with hn | hn
      · rcases List.mem_cons.mp (step_subset _ way name hn) with rfl | hn
        · exact Or.inr List.mem_cons_self
        · exact Or.inl hn
      · exact Or.inr (List.mem_cons_of_mem _ hn)
  exact (hfold _ [] (List.mem_reverse.mp h)).resolve_left List.not_mem_nil

theorem folder_subset (p : Text) : folder p ⊆ p := by
  intro c hc
  exact List.mem_reverse.mp ((List.dropWhile_suffix _).subset (List.mem_reverse.mp hc))

theorem directory_subset (p : Text) : directory p ⊆ p := by
  rw [directory_eq]
  split
  · exact folder_subset p
  · intro c hc
    exact folder_subset p
      (List.mem_reverse.mp ((List.dropWhile_suffix _).subset (List.mem_reverse.mp hc)))

theorem base_subset (p : Text) : base p ⊆ p := by
  intro c hc
  exact List.mem_reverse.mp ((List.takeWhile_prefix _).subset (List.mem_reverse.mp hc))

end Path

/-! ## Names that differ -/

/-- The stem of a file with services. -/
def Descriptor.stem? (d : Descriptor) : Option (Text × Text) :=
  match d.name with
  | .str file => if d.services.isEmpty then none else some (stem file)
  | _ => none

/-- What a file yields goes by its stem. -/
theorem Descriptor.Yields.cases {d : Descriptor} {named : List Text} (h : d.Yields named) :
    d.stem? = none ∧ named = [] ∨ ∃ file, d.stem? = some (stem file) ∧
      (named = [OutputName.wiring file] ∨
        named = [OutputName.wiring file, OutputName.stub file]) := by
  unfold stem?
  rcases h with ⟨hs, rfl⟩ | ⟨hs, file, hfile, hnamed⟩
  · refine Or.inl ⟨?_, rfl⟩
    split
    · simp [hs]
    · rfl
  · exact Or.inr ⟨file, by simp [hfile, hs], hnamed⟩

namespace Generator

variable {g : Generator} {s : Session} {files : List Descriptor} {outputs : List Output}
  {named : List (List Text)} {file : Text} {m : Machine} {o : Output}

/-- The name of a wiring comes up iff the stem of its file does. -/
theorem wiring_mem_iff (h : List.Forall₂ Descriptor.Yields files named) (file : Text) :
    Path.normalize (OutputName.wiring file) ∈ named.flatten.map Path.normalize ↔
      stem file ∈ files.filterMap Descriptor.stem? := by
  induction h with
  | nil => simp
  | @cons d part files named hd _ ih =>
    rw [List.flatten_cons, List.map_append, List.mem_append, ih]
    rcases hd.cases with ⟨hnone, rfl⟩ | ⟨file', hsome, hpart⟩
    · simp [hnone]
    · have hwiring : Path.normalize (OutputName.wiring file) =
          Path.normalize (OutputName.wiring file') ↔ stem file = stem file' :=
        OutputName.normalize_wiring_eq_iff
      rw [List.filterMap_cons_some hsome, List.mem_cons, ← hwiring]
      rcases hpart with rfl | rfl
      · simp
      · simp [OutputName.normalize_stub, OutputName.normalize_wiring_ne_stub]

/-- If the name of a stub comes up then so does the stem of its file. -/
theorem stem_of_stub_mem (h : List.Forall₂ Descriptor.Yields files named)
    (hmem : OutputName.stub file ∈ named.flatten.map Path.normalize) :
    stem file ∈ files.filterMap Descriptor.stem? := by
  induction h with
  | nil => cases hmem
  | @cons d part files named hd _ ih =>
    rw [List.flatten_cons, List.map_append, List.mem_append] at hmem
    have hrest (hmem : stem file ∈ files.filterMap Descriptor.stem?) :
        stem file ∈ (d :: files).filterMap Descriptor.stem? := by
      rw [List.filterMap_cons]
      split
      · exact hmem
      · exact List.mem_cons_of_mem _ hmem
    refine hmem.elim (fun hmem => ?_) fun hmem => hrest (ih hmem)
    have hne (file' : Text) : OutputName.stub file ≠ Path.normalize (OutputName.wiring file') :=
      (OutputName.normalize_wiring_ne_stub file' file).symm
    rcases hd.cases with ⟨-, rfl⟩ | ⟨file', hsome, hpart⟩
    · cases hmem
    · rw [List.filterMap_cons_some hsome]
      refine List.mem_cons.mpr (Or.inl (OutputName.stub_eq_iff.mp ?_))
      rcases hpart with rfl | rfl
      · exact absurd (List.mem_singleton.mp hmem) (hne file')
      · simpa [hne file', OutputName.normalize_stub] using hmem

/-- **When the names of what is yielded differ**: iff the stems do. -/
theorem flatten_nodup_iff (h : List.Forall₂ Descriptor.Yields files named) :
    (named.flatten.map Path.normalize).Nodup ↔ (files.filterMap Descriptor.stem?).Nodup := by
  induction h with
  | nil => simp
  | @cons d part files named hd hrest ih =>
    rw [List.flatten_cons, List.map_append]
    rcases hd.cases with ⟨hnone, rfl⟩ | ⟨file, hsome, hpart⟩
    · rw [List.filterMap_cons_none hnone]
      exact ih
    · rw [List.filterMap_cons_some hsome, List.nodup_cons, ← ih, ← wiring_mem_iff hrest]
      rcases hpart with rfl | rfl
      · simp only [List.map_cons, List.map_nil, List.singleton_append, List.nodup_cons]
      · -- A stub adds nothing: it clashes with what the wiring of its file clashes with.
        simp only [List.map_cons, List.map_nil, List.cons_append, List.nil_append, List.nodup_cons,
          List.mem_cons, not_or, OutputName.normalize_stub]
        constructor
        · exact fun ⟨⟨_, hwiring⟩, _, hnodup⟩ => ⟨hwiring, hnodup⟩
        · rintro ⟨hwiring, hnodup⟩
          refine ⟨⟨OutputName.normalize_wiring_ne_stub file file, hwiring⟩, fun hstub => ?_, hnodup⟩
          exact hwiring ((wiring_mem_iff hrest file).mpr (stem_of_stub_mem hrest hstub))

/-- **When the outputs of a batch have different names**: iff its files with services have different
stems. -/
theorem names_nodup_iff (h : (g.generate files).result s = .ok outputs) :
    (outputs.map fun o => Path.normalize o.name).Nodup ↔
      (files.filterMap Descriptor.stem?).Nodup := by
  obtain ⟨parts, rfl, hparts⟩ := generate_names h
  rw [← flatten_nodup_iff (List.forall₂_map_right_iff.mpr hparts), List.map_flatten]
  simp [List.map_flatten, Function.comp_def]

/-! ## Places that differ -/

/-- A file name that leads down from wherever it is seen, and is spelled like no other name. -/
structure LeadsDown (file : Text) : Prop where
  /-- It does not start at a root. -/
  relative : root (directory file) = .none
  /-- It does not lead back. -/
  down : ups (directory file) = 0
  /-- It has no lone surrogates, which stand for octets of other characters. -/
  scalar : IsScalar file

instance : DecidablePred LeadsDown := fun file => decidable_of_iff
  (root (directory file) = .none ∧ ups (directory file) = 0 ∧ IsScalar file)
  ⟨fun ⟨h₁, h₂, h₃⟩ => ⟨h₁, h₂, h₃⟩, fun h => ⟨h.relative, h.down, h.scalar⟩⟩

/-- Where an output goes whose file leads down. -/
theorem destination_of_leadsDown (h : LeadsDown file)
    (hname : o.name = OutputName.wiring file ∨ o.name = OutputName.stub file) (m : Machine)
    (out : Text) :
    m.destination (o.placeIn (Location.ofText out)).toText =
        m.destination (Location.ofText out).toText ++ (names o.name).map spell ∧
      root o.name = .none ∧ ∀ n ∈ names o.name, IsScalar n := by
  obtain ⟨ending, hscalar, hlong, hslash, hroot, hnames⟩ : ∃ ending : Text, IsScalar ending ∧
      2 < ending.length ∧ slash ∉ ending ∧ root o.name = root (directory file) ∧
        names o.name = names (directory file) ++ [ownName file ++ ending] := by
    rcases hname with hname | hname
    · rw [hname]
      exact ⟨OutputName.wiringEnding, by decide, by decide, by decide, OutputName.names_wiring file⟩
    · rw [hname]
      exact ⟨OutputName.stubEnding, by decide, by decide, by decide, OutputName.names_stub file⟩
  have hrelative : root o.name = .none := hroot.trans h.relative
  have hdowns : names (directory file) = downs (directory file) := by
    rw [Path.names_eq, h.down]
    rfl
  obtain ⟨hups, hdown⟩ : ups o.name = 0 ∧ downs o.name = names o.name := by
    refine Path.ups_downs_of_names (k := 0) rfl ?_
    rw [hnames, hdowns]
    exact List.forall_mem_append.mpr ⟨fun n => Path.isDown_of_mem_downs,
      List.forall_mem_singleton.mpr
        (OutputName.isDown_append hslash hlong (OutputName.slash_notMem_ownName file))⟩
  refine ⟨?_, hrelative, ?_⟩
  · unfold Output.placeIn
    rw [Machine.destination_append, Path.root_eq_none_iff.mp hrelative, if_neg (by simp),
      (Path.advance_eq hrelative).2, hups, hdown]
    rfl
  · rw [hnames]
    refine List.forall_mem_append.mpr ⟨fun n hn => ?_, List.forall_mem_singleton.mpr ?_⟩
    · have hsub : n ⊆ directory file :=
        Text.subset_of_mem_splitOn (Path.mem_splitOn_of_mem_names hn)
      exact h.scalar.mono (List.Subset.trans hsub (Path.directory_subset file))
    · have hown : ownName file ⊆ file :=
        List.Subset.trans (Path.dropExtensionOfName_subset _) (Path.base_subset file)
      exact (h.scalar.mono hown).append hscalar

/-- **Outputs of different names go to different places** if their files lead down. -/
theorem places_nodup (h : (g.generate files).result s = .ok outputs)
    (hdown : ∀ f ∈ files, f.services ≠ [] → ∀ file, f.name = .str file → LeadsDown file)
    (hapart : (files.filterMap Descriptor.stem?).Nodup) (m : Machine) (out : Text) :
    (outputs.map fun o => m.destination (o.placeIn (Location.ofText out)).toText).Nodup := by
  have hplace : ∀ o ∈ outputs,
      m.destination (o.placeIn (Location.ofText out)).toText =
          m.destination (Location.ofText out).toText ++ (names o.name).map spell ∧
        root o.name = .none ∧ ∀ n ∈ names o.name, IsScalar n := by
    intro o ho
    obtain ⟨f, hf, hs, file, hfile, hname⟩ := name_of_mem_outputs h ho
    exact destination_of_leadsDown (hdown f hf hs file hfile) hname m out
  rw [← names_nodup_iff h, List.Nodup, List.pairwise_map] at hapart
  rw [List.Nodup, List.pairwise_map]
  refine hapart.imp_of_mem fun {o o'} ho ho' hne heq => hne ?_
  obtain ⟨hdest, hroot, hscalar⟩ := hplace o ho
  obtain ⟨hdest', hroot', hscalar'⟩ := hplace o' ho'
  rw [hdest, hdest', List.append_cancel_left_eq] at heq
  exact Path.normalize_eq_iff.mpr
    ⟨hroot.trans hroot'.symm, Utf8.map_spell_inj hscalar hscalar' heq⟩

/-- Outputs that go to different places go to different files, if no two of their places are of one
file. -/
theorem owners_nodup {place : Output → Place} {d : Disk} (h : (outputs.map place).Nodup)
    (hshared : ∀ o ∈ outputs, ∀ o' ∈ outputs, d.SameFile (place o) (place o') →
      place o = place o') : (outputs.map fun o => d.owner (place o)).Nodup := by
  show (outputs.map (d.owner ∘ place)).Nodup
  rw [← List.map_map]
  refine h.map_on fun p hp q hq heq => ?_
  obtain ⟨o, ho, rfl⟩ := List.mem_map.mp hp
  obtain ⟨o', ho', rfl⟩ := List.mem_map.mp hq
  exact hshared o ho o' ho' heq

/-- **What a delivery leaves of the outputs of a batch.** The outputs have different names in normal
form iff the files with services have different stems. If they have, and the files lead down, then
on a disk without links, on which no two outputs go to places of one file, a delivery that does not
end early leaves each output where it belongs, unless something stood there that swallows what is
written. -/
theorem delivered_intact (h : (g.generate files).result s = .ok outputs) :
    ((outputs.map fun o => Path.normalize o.name).Nodup ↔
      (files.filterMap Descriptor.stem?).Nodup) ∧
    ((files.filterMap Descriptor.stem?).Nodup →
      (∀ f ∈ files, f.services ≠ [] → ∀ file, f.name = .str file → LeadsDown file) →
      ∀ (m : Machine) (out : Text), m.IsSound →
        (∀ o ∈ outputs, m.HasPlain (m.destination (o.placeIn (Location.ofText out)).toText)) →
        (∀ o ∈ outputs, ∀ o' ∈ outputs,
          m.disk.SameFile (m.destination (o.placeIn (Location.ofText out)).toText)
              (m.destination (o'.placeIn (Location.ofText out)).toText) →
            m.destination (o.placeIn (Location.ofText out)).toText =
              m.destination (o'.placeIn (Location.ofText out)).toText) →
        let d := Delivery.write m (Location.ofText out) outputs
        d.fault? = none → ∀ o ∈ outputs,
          d.machine.Holds (m.destination (o.placeIn (Location.ofText out)).toText) o.content) :=
  ⟨names_nodup_iff h, fun hapart hdown m out hsound hplain hshared hwritten =>
    Delivery.write_holds_all hsound hwritten hplain
      (owners_nodup (places_nodup h hdown hapart m out) hshared)⟩

/-- Two files that lead down have their wirings on an empty disk in the end. -/
theorem delivered_intact_twice : ∃ outputs,
    (bare.generate [bareFile "a/b.proto", bareFile "c.proto"]).result {} = .ok outputs ∧
      outputs.length = 2 ∧
      (Delivery.write {} (Location.ofText "out") outputs).fault? = none ∧
      ∀ o ∈ outputs, (Delivery.write {} (Location.ofText "out") outputs).machine.Holds
        (Machine.destination {} (o.placeIn (Location.ofText "out")).toText) o.content := by
  have hmade : ((bare.generate [bareFile "a/b.proto", bareFile "c.proto"]).result {}).toOption.map
      (fun outputs => (outputs.length,
        (Delivery.write {} (Location.ofText "out") outputs).fault?.isNone)) = some (2, true) := by
    cbv
  obtain ⟨outputs, hrun, hall⟩ := exists_ok_of_map hmade
  obtain ⟨hlength, hwritten⟩ := Prod.mk.inj hall
  have hwritten : (Delivery.write {} (Location.ofText "out") outputs).fault? = none :=
    Option.isNone_iff_eq_none.mp hwritten
  refine ⟨outputs, hrun, hlength, hwritten, ?_⟩
  refine (delivered_intact hrun).2 (by decide) ?_ {} "out" ⟨Disk.IsTree.empty, rfl⟩ ?_
    (fun _ _ _ _ hs => hs) hwritten
  · intro f hf _ file hfile
    simp only [List.mem_cons, List.not_mem_nil, or_false] at hf
    rcases hf with rfl | rfl
    · obtain rfl := Json.str.inj hfile
      decide
    · obtain rfl := Json.str.inj hfile
      decide
  · intro o _ n hn
    have hroot := Disk.eq_nil_of_node?_empty hn
    rw [hroot] at hn
    exact Or.inl (Option.some.inj hn).symm

/-- A generator of wirings that show which file they are for. -/
def titled : Generator where
  renderer := { wiring := fun p => .ok p.file.name.display, stub := fun p => .ok p.wiringQualifier }
  toolDir? := none
  roots := []
  common := []

/-- A machine on which two wirings in the root directory are one file. -/
def crossed : Machine := .twice (spell "a.pb.goclay.go") (spell "b.pb.goclay.go") [0]

/-- A machine with a device where a wiring in the root directory goes. -/
def blocked : Machine where
  disk := Disk.put ∅ [spell "a.pb.goclay.go"] .device

theorem blocked_isSound : blocked.IsSound where
  tree := Disk.IsTree.empty.put_new (Disk.node?_root _)
    (show IsName (spell "a.pb.goclay.go") by decide) (by decide) (by simp)
  home := rfl

/-- The wirings of files are written into the root directory and not all of them stand there. -/
def Lost (m : Machine) (files : List Descriptor) : Prop :=
  ∃ outputs, (titled.generate files).result {} = .ok outputs ∧
    (outputs.map fun o => Path.normalize o.name).Nodup ∧
    (Delivery.write m (Location.ofText "/") outputs).fault? = none ∧
    ¬∀ o ∈ outputs, (Delivery.write m (Location.ofText "/") outputs).machine.Holds
      (m.destination (o.placeIn (Location.ofText "/")).toText) o.content

/-- Whether the wirings of files are lost is seen by writing them. -/
theorem lost_of_eq {m : Machine}
    (h : ((titled.generate files).result {}).toOption.map (fun outputs =>
      (decide (outputs.map fun o => Path.normalize o.name).Nodup,
        (Delivery.write m (Location.ofText "/") outputs).fault?.isNone,
        outputs.all fun o => decide ((Delivery.write m (Location.ofText "/")
          outputs).machine.Holds (m.destination (o.placeIn (Location.ofText "/")).toText)
            o.content))) = some (true, true, false)) : Lost m files := by
  obtain ⟨outputs, hrun, hvalues⟩ := exists_ok_of_map h
  obtain ⟨hnames, hvalues⟩ := Prod.mk.inj hvalues
  obtain ⟨hwritten, hholds⟩ := Prod.mk.inj hvalues
  refine ⟨outputs, hrun, of_decide_eq_true hnames, Option.isNone_iff_eq_none.mp hwritten, ?_⟩
  intro hall
  rw [List.all_eq_false] at hholds
  obtain ⟨o, ho, hnot⟩ := hholds
  exact hnot (decide_eq_true (hall o ho))

/-- Different files may have one stem, outputs of different names may go to one place, and outputs of
different places to one file or to a device. -/
theorem outputs_clash :
    (∃ outputs, (bare.generate [bareFile "a.proto", bareFile "a.txt"]).result {} = .ok outputs ∧
      ¬(outputs.map fun o => Path.normalize o.name).Nodup) ∧
    (∃ outputs,
      (bare.generate [bareFile "a.proto", bareFile "../out/a.proto"]).result {} = .ok outputs ∧
      (outputs.map fun o => Path.normalize o.name).Nodup ∧
      ¬(outputs.map fun o =>
        Machine.destination {} (o.placeIn (Location.ofText "out")).toText).Nodup) ∧
    (crossed.IsSound ∧ Lost crossed [bareFile "a.proto", bareFile "b.proto"]) ∧
    blocked.IsSound ∧ Lost blocked [bareFile "a.proto"] := by
  refine ⟨?_, ?_, ⟨Machine.twice_isSound (by decide) (by decide) (by decide) _, lost_of_eq ?_⟩,
    blocked_isSound, lost_of_eq ?_⟩
  · have hmade : ((bare.generate [bareFile "a.proto", bareFile "a.txt"]).result {}).toOption.map
        (fun outputs => decide (outputs.map fun o => Path.normalize o.name).Nodup) =
          some false := by decide +kernel
    obtain ⟨outputs, hrun, hclash⟩ := exists_ok_of_map hmade
    exact ⟨outputs, hrun, of_decide_eq_false hclash⟩
  · have hmade : ((bare.generate [bareFile "a.proto",
        bareFile "../out/a.proto"]).result {}).toOption.map (fun outputs =>
          (decide (outputs.map fun o => Path.normalize o.name).Nodup,
            decide (outputs.map fun o => Machine.destination {}
              (o.placeIn (Location.ofText "out")).toText).Nodup)) = some (true, false) := by
      decide +kernel
    obtain ⟨outputs, hrun, hall⟩ := exists_ok_of_map hmade
    obtain ⟨hnames, hplaces⟩ := Prod.mk.inj hall
    exact ⟨outputs, hrun, of_decide_eq_true hnames, of_decide_eq_false hplaces⟩
  · cbv
  · cbv

end Generator

end ServiceWiring
