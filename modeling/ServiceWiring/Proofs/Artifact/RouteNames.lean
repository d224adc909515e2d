import Mathlib.Data.List.Nodup
import ServiceWiring.Proofs.Artifact.WiringImports
import ServiceWiring.Proofs.ImportTable.FreeName
import ServiceWiring.Proofs.Text.Number
import ServiceWiring.Proofs.Text.Pieces

/-!
# The names of routes

A route declares two names, for its pattern and for its unmarshaler. Both end in service, method and
number, with an underscore in between. Names of services and methods may hold underscores of their
own, and nothing marks the one that divides them: the service `A` with the method `B_C` spells the
same as `A_B` with `C`. The number always can be told from what stands before it, since digits are
no underscores; but it starts from zero in each service.

So the names of one service are all different, and those of two services are, if and only if no
routes with one number are spelled alike.

Results:
* `declared_pieces`: what the pieces of a wiring declare.
* `Route.stem_eq_iff`: the stem of a route tells its spelling and its number.

Headline:
* **`route_names_nodup_iff`**: the names of routes are pairwise different exactly if the services
  are pairwise apart.
-/

namespace ServiceWiring

/-! ## Declarations -/

namespace Piece

/-- The name that a piece declares. -/
def declaredName? : Piece → Option Text
  | .declares name => some name
  | _ => none

/-- The names that pieces declare. -/
def declared (pieces : List Piece) : List Text := pieces.filterMap declaredName?

/-- The names that pieces declare and that start in the given way. -/
def declaredFrom (start : Text) (pieces : List Piece) : List Text :=
  (declared pieces).filter start.isPrefixOf

variable {pieces : List Piece} {t path name : Text}

@[simp]
theorem declared_nil : declared [] = [] := rfl

@[simp]
theorem declared_append (xs ys : List Piece) : declared (xs ++ ys) = declared xs ++ declared ys :=
  List.filterMap_append

@[simp]
theorem declared_text : declared (.text t :: pieces) = declared pieces := rfl

@[simp]
theorem declared_qualifier : declared (.qualifier path name :: pieces) = declared pieces := rfl

@[simp]
theorem declared_refers : declared (.refers name :: pieces) = declared pieces := rfl

@[simp]
theorem declared_literal : declared (.literal t :: pieces) = declared pieces := rfl

@[simp]
theorem declared_declares : declared (.declares name :: pieces) = name :: declared pieces := rfl

theorem declared_flatMap {α : Type} (f : α → List Piece) (l : List α) :
    declared (l.flatMap f) = l.flatMap fun a => declared (f a) := List.filterMap_flatMap

@[simp]
theorem declared_lines (ls : List (List Piece)) : declared (lines ls) = ls.flatMap declared := by
  unfold lines
  rw [declared_flatMap]
  simp

@[simp]
theorem declared_join (parts : List (List Piece)) :
    declared (join parts) = parts.flatMap declared := by
  unfold join
  rw [← List.flatMap_id, declared_flatMap]
  rfl

end Piece

open Piece (declared declaredFrom)

@[simp]
theorem Parameters.declared_use (p : Parameters) (path : Text) (pieces : List Piece) :
    declared (p.use path :: pieces) = declared pieces := rfl

theorem Message.declared_typeFrom (m : Message) (path qualifier : Text) :
    declared (m.typeFrom path qualifier) = [] := by
  unfold typeFrom
  split <;> rfl

namespace Wiring

variable {p : Parameters} {r r' : Route} {v : Service} {ps : List Piece}

theorem declared_header (p : Parameters) : declared (header p) = [] := by
  simp [header, Parameters.importLines]

theorem declared_handlerBlock : declared (handlerBlock p.use r) = [] := by
  simp [handlerBlock, openingLines, callLines, answerLines, routerLines]

theorem declared_serviceBlock (embedded? : Option Text) :
    declared (serviceBlock p.use embedded? v) = [] := by
  unfold serviceBlock
  simp only [Piece.declared_append, Piece.declared_flatMap, declared_handlerBlock]
  cases embedded? with
  | none => simp [serviceHead, registerLines, swaggerBody]
  | some embedded => simp [serviceHead, registerLines, swaggerBody]

theorem declared_bodyBlock (rule : HttpRule) : declared (bodyBlock p.use rule) = [] := by
  have htarget : declared (bodyTarget rule.body) = [] := by
    unfold bodyTarget
    split <;> rfl
  unfold bodyBlock
  simp only
  split
  · simp [htarget]
  · rfl

theorem declared_declarationBlock {requestType : List Piece} (h : declared requestType = []) :
    declared (declarationBlock p.use requestType r) = [r.pattern, r.unmarshaler] := by
  simp [declarationBlock, patternLines, unmarshalerBlock, signatureLines, queryLines,
    declared_bodyBlock, h]

/-- An embedded document has the variable of its file, which is all that its declaration declares.
-/
theorem declared_embedding {file : Text} {embedded? : Option Text} {declaration : List Piece}
    (h : embedding p file = .ok (embedded?, declaration)) :
    declared declaration = embedded?.toList ∧
      ∀ embedded ∈ embedded?, embedded = swaggerVariable file := by
  unfold embedding at h
  split at h
  · cases h
    exact ⟨rfl, by simp⟩
  · simp only at h
    split at h
    · cases h
    · cases h
      exact ⟨rfl, by simp⟩

/-- The routes of all services of a file. -/
def routesOf (d : Descriptor) : List Route := d.services.flatMap routes

/-- A wiring declares the variable of its document, if it embeds one, and then two names for each
route. -/
theorem declared_pieces (h : pieces p = .ok ps) :
    ∃ file embedded? declaration, p.file.name = .str file ∧
      embedding p file = .ok (embedded?, declaration) ∧
        declared ps = embedded?.toList ++
          (routesOf p.file).flatMap fun r => [r.pattern, r.unmarshaler] := by
  obtain ⟨file, embedded?, declaration, hname, hembedding, rfl⟩ := exists_embedded h
  refine ⟨file, embedded?, declaration, hname, hembedding, ?_⟩
  have hservices : declared (p.file.services.flatMap (serviceBlock p.use embedded?)) = [] := by
    rw [Piece.declared_flatMap, List.flatMap_eq_nil_iff]
    exact fun v _ => declared_serviceBlock embedded?
  have hdeclarations : declared (declarations p) =
      (routesOf p.file).flatMap fun r => [r.pattern, r.unmarshaler] := by
    unfold declarations routesOf
    rw [Piece.declared_flatMap, List.flatMap_assoc]
    refine List.flatMap_congr fun v _ => ?_
    rw [Piece.declared_flatMap]
    exact List.flatMap_congr fun r _ => declared_declarationBlock (Message.declared_typeFrom ..)
  simp only [Piece.declared_append, declared_header, hservices, hdeclarations, List.nil_append,
    List.append_nil, (declared_embedding hembedding).1]

/-- Of the declared names, those that start in one way are all names of routes, one of each. -/
theorem declaredFrom_eq (h : pieces p = .ok ps) {start : Text} {name : Route → Text}
    (hvariable : ∀ file, start.isPrefixOf (swaggerVariable file) = false)
    (hroute : ∀ r : Route, [r.pattern, r.unmarshaler].filter start.isPrefixOf = [name r]) :
    declaredFrom start ps = (routesOf p.file).map name := by
  obtain ⟨file, embedded?, declaration, -, hembedding, hdeclared⟩ := declared_pieces h
  have hfilter : embedded?.toList.filter start.isPrefixOf = [] := by
    refine List.filter_eq_nil_iff.mpr fun name hname => ?_
    rw [(declared_embedding hembedding).2 name (Option.mem_toList.mp hname), hvariable]
    exact Bool.false_ne_true
  unfold declaredFrom
  rw [hdeclared, List.filter_append, hfilter, List.filter_flatMap, List.map_eq_flatMap]
  exact List.flatMap_congr fun r _ => hroute r

theorem declaredFrom_pattern (h : pieces p = .ok ps) :
    declaredFrom "pattern_goclay_" ps = (routesOf p.file).map Route.pattern := by
  refine declaredFrom_eq h (fun _ => rfl) fun r => ?_
  have hpattern : (Text.ofString "pattern_goclay_").isPrefixOf r.pattern :=
    List.isPrefixOf_iff_prefix.mpr (List.prefix_append _ _)
  rw [List.filter_cons_of_pos hpattern]
  rfl

theorem declaredFrom_unmarshaler (h : pieces p = .ok ps) :
    declaredFrom "unmarshaler_goclay_" ps = (routesOf p.file).map Route.unmarshaler := by
  refine declaredFrom_eq h (fun _ => rfl) fun r => ?_
  have hunmarshaler : (Text.ofString "unmarshaler_goclay_").isPrefixOf r.unmarshaler :=
    List.isPrefixOf_iff_prefix.mpr (List.prefix_append _ _)
  have hpattern : (Text.ofString "unmarshaler_goclay_").isPrefixOf r.pattern = false := rfl
  rw [List.filter_cons_of_neg (by simp [hpattern]), List.filter_cons_of_pos hunmarshaler]
  rfl

end Wiring

/-! ## Spelling -/

namespace Text

variable {sep : CodePoint} {t t' u u' : Text}

/-- The part after the last separator is known, and so is the one before it. -/
theorem append_sep_inj (hu : sep ∉ u) (hu' : sep ∉ u') :
    t ++ sep :: u = t' ++ sep :: u' ↔ t = t' ∧ u = u' := by
  refine ⟨fun h => ?_, fun ⟨ht, hu⟩ => by rw [ht, hu]⟩
  have hsplit := congrArg (splitOn sep) h
  rw [splitOn_append, splitOn_append, splitOn_of_notMem hu, splitOn_of_notMem hu'] at hsplit
  obtain ⟨-, hlast⟩ := List.append_inj' hsplit rfl
  obtain rfl := List.singleton_inj.mp hlast
  exact ⟨List.append_cancel_right h, rfl⟩

/-- The part before the first separator is known. -/
theorem eq_of_append_sep (ht : sep ∉ t) (ht' : sep ∉ t') (h : t ++ sep :: u = t' ++ sep :: u') :
    t = t' := by
  have hsplit := congrArg (splitOn sep) h
  rw [splitOn_append, splitOn_append, splitOn_of_notMem ht, splitOn_of_notMem ht'] at hsplit
  exact (List.cons.inj hsplit).1

end Text

namespace Wiring

variable {r r' : Route} {s s' : Service}

/-- How a route is spelled: service and method, with an underscore in between. -/
def Route.spelled (r : Route) : Text := r.service.name.display ++ "_" ++ r.name.display

theorem Route.stem_eq (r : Route) : r.stem = r.spelled ++ 0x5F :: Text.ofNat r.index :=
  List.append_assoc r.spelled "_" (Text.ofNat r.index)

/-- The stem of a route tells its spelling and its number. -/
theorem Route.stem_eq_iff : r.stem = r'.stem ↔ r.spelled = r'.spelled ∧ r.index = r'.index := by
  have hdigits (n : Nat) : 0x5F ∉ Text.ofNat n := fun h =>
    absurd (Text.isDigit_of_mem_ofNat h) (by decide)
  rw [r.stem_eq, r'.stem_eq, Text.append_sep_inj (hdigits _) (hdigits _),
    Text.ofNat_injective.eq_iff]

/-- No routes of the two services with one number are spelled alike. -/
def Apart (s s' : Service) : Prop :=
  ∀ r ∈ routes s, ∀ r' ∈ routes s', r.index = r'.index → r.spelled ≠ r'.spelled

instance : DecidableRel Apart := fun _ _ => List.decidableBAll _ _

theorem service_of_mem_routes (h : r ∈ routes s) : r.service = s := by
  obtain ⟨mi, -, rfl⟩ := List.mem_map.mp h
  rfl

theorem bound_mem_of_mem_routes (h : r ∈ routes s) : r.bound ∈ s.boundMethods :=
  bound_routes s ▸ List.mem_map_of_mem h

/-- The routes of one service differ in their numbers. -/
theorem nodup_stems (s : Service) : ((routes s).map Route.stem).Nodup := by
  have hindex : ((routes s).map Route.index).Nodup := by
    have hmap : (routes s).map Route.index = List.range' 0 s.boundMethods.length := by
      unfold routes
      rw [List.map_map]
      exact List.zipIdx_map_snd 0 _
    exact hmap ▸ List.nodup_range'
  refine List.pairwise_map.mpr ((List.pairwise_map.mp hindex).imp fun hne hstem => ?_)
  exact hne (Route.stem_eq_iff.mp hstem).2

theorem disjoint_stems_iff :
    ((routes s).map Route.stem).Disjoint ((routes s').map Route.stem) ↔ Apart s s' := by
  constructor
  · intro h r hr r' hr' hindex hspelled
    have hstem := Route.stem_eq_iff.mpr ⟨hspelled, hindex⟩
    exact h (List.mem_map_of_mem hr) (hstem ▸ List.mem_map_of_mem hr')
  · intro h t ht ht'
    obtain ⟨r, hr, rfl⟩ := List.mem_map.mp ht
    obtain ⟨r', hr', hstem⟩ := List.mem_map.mp ht'
    obtain ⟨hspelled, hindex⟩ := Route.stem_eq_iff.mp hstem
    exact h r hr r' hr' hindex.symm hspelled.symm

theorem nodup_stems_iff (d : Descriptor) :
    ((routesOf d).map Route.stem).Nodup ↔ d.services.Pairwise Apart := by
  unfold routesOf
  rw [List.map_flatMap, List.nodup_flatMap]
  exact ⟨fun h => h.2.imp disjoint_stems_iff.mp,
    fun h => ⟨fun s _ => nodup_stems s, h.imp disjoint_stems_iff.mpr⟩⟩

/-- What stands before the stem leaves it known. -/
theorem nodup_names_iff {start : Text} (name : Route → Text) (h : ∀ r, name r = start ++ r.stem)
    (routes : List Route) : (routes.map name).Nodup ↔ (routes.map Route.stem).Nodup := by
  have hmap : routes.map name = (routes.map Route.stem).map (start ++ ·) := by
    rw [List.map_map]
    exact List.map_congr_left fun r _ => h r
  rw [hmap, List.nodup_map_iff (List.append_right_injective start)]

/-- Services with different names are apart if neither name, or the name of none of their bound
methods, holds an underscore. -/
theorem apart_of_ne (hne : s.name.display ≠ s'.name.display)
    (h : (0x5F ∉ s.name.display ∧ 0x5F ∉ s'.name.display) ∨
      (∀ m ∈ s.boundMethods, 0x5F ∉ m.method.name.display) ∧
        ∀ m ∈ s'.boundMethods, 0x5F ∉ m.method.name.display) : Apart s s' := by
  intro r hr r' hr' _ hspelled
  have hsep : s.name.display ++ 0x5F :: r.name.display =
      s'.name.display ++ 0x5F :: r'.name.display := by
    rw [← service_of_mem_routes hr, ← service_of_mem_routes hr']
    unfold Route.spelled at hspelled
    rw [List.append_assoc, List.append_assoc] at hspelled
    exact hspelled
  rcases h with ⟨hs, hs'⟩ | ⟨hm, hm'⟩
  · exact hne (Text.eq_of_append_sep hs hs' hsep)
  · have hr := hm _ (bound_mem_of_mem_routes hr)
    have hr' := hm' _ (bound_mem_of_mem_routes hr')
    exact hne ((Text.append_sep_inj hr hr').mp hsep).1

theorem pairwise_apart {d : Descriptor} (hnames : (d.services.map (·.name.display)).Nodup)
    (h : (∀ s ∈ d.services, 0x5F ∉ s.name.display) ∨
      ∀ s ∈ d.services, ∀ m ∈ s.boundMethods, 0x5F ∉ m.method.name.display) :
    d.services.Pairwise Apart := by
  refine (List.pairwise_map.mp hnames).imp_of_mem fun hs hs' hne => apart_of_ne hne ?_
  exact h.imp (fun h => ⟨h _ hs, h _ hs'⟩) fun h => ⟨h _ hs, h _ hs'⟩

/-- **The names of routes are pairwise different if and only if the services are pairwise apart.**
What a wiring declares for patterns, and what it declares for unmarshalers, are the names of the
routes of all services. Those of one service are always different. All of them are different
exactly if no two services have routes with one number that are spelled alike; with different names
of services, that cannot be where the names of services, or the names of bound methods, hold no
underscore. -/
theorem route_names_nodup_iff (h : pieces p = .ok ps) :
    (declaredFrom "pattern_goclay_" ps = (routesOf p.file).map Route.pattern ∧
        declaredFrom "unmarshaler_goclay_" ps = (routesOf p.file).map Route.unmarshaler) ∧
      (∀ s, ((routes s).map Route.pattern).Nodup ∧ ((routes s).map Route.unmarshaler).Nodup) ∧
      ((declaredFrom "pattern_goclay_" ps).Nodup ↔ p.file.services.Pairwise Apart) ∧
      ((declaredFrom "unmarshaler_goclay_" ps).Nodup ↔ p.file.services.Pairwise Apart) ∧
      ((p.file.services.map (·.name.display)).Nodup →
        ((∀ s ∈ p.file.services, 0x5F ∉ s.name.display) ∨
          ∀ s ∈ p.file.services, ∀ m ∈ s.boundMethods, 0x5F ∉ m.method.name.display) →
        p.file.services.Pairwise Apart) := by
  have hpattern := nodup_names_iff Route.pattern fun _ => rfl
  have hunmarshaler := nodup_names_iff Route.unmarshaler fun _ => rfl
  have hpatterns := declaredFrom_pattern h
  have hunmarshalers := declaredFrom_unmarshaler h
  refine ⟨⟨hpatterns, hunmarshalers⟩, fun s => ⟨?_, ?_⟩, ?_, ?_, pairwise_apart⟩
  · exact (hpattern _).mpr (nodup_stems s)
  · exact (hunmarshaler _).mpr (nodup_stems s)
  · rw [hpatterns, hpattern, nodup_stems_iff]
  · rw [hunmarshalers, hunmarshaler, nodup_stems_iff]

/-! ## Underscores -/

/-- A method with a binding. -/
def boundMethod (name : Text) : Method where
  name := .str name
  request := ⟨.str "Req", { path := "x/y", name := "y" }⟩
  response := ⟨.str "Res", { path := "x/y", name := "y" }⟩
  http? := some ⟨.get, .str "/a", .str []⟩

/-- A file with the services `A_B` and `A`, all of whose methods have bindings. -/
def underscored (first second : List Text) : Descriptor where
  name := .str "a/b.proto"
  package := { path := "x/y", name := "y" }
  services := [⟨.str "A_B", first.map boundMethod⟩, ⟨.str "A", second.map boundMethod⟩]

/-- Routes that are spelled alike have different names if their numbers differ. -/
theorem route_names_nodup_iff_numbers :
    ∃ ps, pieces { file := underscored ["C"] ["D", "B_C"] } = .ok ps ∧
      (declaredFrom "pattern_goclay_" ps).Nodup ∧
        (declaredFrom "unmarshaler_goclay_" ps).Nodup := by
  have hps : pieces { file := underscored ["C"] ["D", "B_C"] } = .ok _ := rfl
  obtain ⟨-, -, hpattern, hunmarshaler, -⟩ := route_names_nodup_iff hps
  have hapart : (underscored ["C"] ["D", "B_C"]).services.Pairwise Apart := by decide +kernel
  exact ⟨_, hps, hpattern.mpr hapart, hunmarshaler.mpr hapart⟩

/-- A name of letters, digits and underscores. -/
def IsWord (name : Json) : Prop := ∃ t : Text, name = .str t ∧ t ≠ [] ∧ t.all CodePoint.isWord

/-- The services have different names, and each of them methods with different names, all of letters
and underscores. The method `C` of `A_B` and the method `B_C` of `A` get the same names. -/
theorem underscored_names_clash :
    let d := underscored ["C"] ["B_C"]
    (d.services.map (·.name)).Nodup ∧
      (∀ s ∈ d.services, IsWord s.name ∧ (s.methods.map (·.name)).Nodup ∧
        ∀ m ∈ s.methods, IsWord m.name) ∧
      ∃ p ps, (parameters d [] .null).result {} = .ok p ∧ pieces p = .ok ps ∧
        ¬ (declaredFrom "pattern_goclay_" ps).Nodup ∧
        ¬ (declaredFrom "unmarshaler_goclay_" ps).Nodup := by
  have hword (t : Text) (h : t ≠ [] ∧ t.all CodePoint.isWord) : IsWord (.str t) := ⟨t, rfl, h⟩
  have hnames : ("A_B" : Text) ≠ "A" := by decide
  refine ⟨by simpa [underscored] using hnames, fun s hs => ?_, ?_⟩
  · rcases List.mem_pair.mp hs with rfl | rfl
    · refine ⟨hword "A_B" (by decide), List.nodup_singleton _, fun m hm => ?_⟩
      obtain rfl := List.mem_singleton.mp hm
      exact hword "C" (by decide)
    · refine ⟨hword "A" (by decide), List.nodup_singleton _, fun m hm => ?_⟩
      obtain rfl := List.mem_singleton.mp hm
      exact hword "B_C" (by decide)
  · have hmade : (((parameters (underscored ["C"] ["B_C"]) [] .null).result {}).toOption.bind
        fun p => (pieces p).toOption).any fun ps =>
          ¬ (declaredFrom "pattern_goclay_" ps).Nodup ∧
            ¬ (declaredFrom "unmarshaler_goclay_" ps).Nodup := by decide +kernel
    obtain ⟨p, hp, ps, hps, hclash⟩ := exists_of_any hmade
    exact ⟨p, ps, hp, hps, of_decide_eq_true hclash⟩

end Wiring

end ServiceWiring
