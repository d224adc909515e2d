import ServiceWiring.Proofs.Artifact.Handlers
import ServiceWiring.Proofs.Go.InterpretedLiteral

/-!
# What a pattern stands for

The pattern of a route is written as its path between quotes. A path is any text: what a descriptor
gives is taken as it is, and nothing in it is escaped. So the pattern is the path only if a Go
compiler takes every character of it for itself. A route with a regular expression such as `\d+`
has a pattern that is no literal at all; one with `\t` has another pattern than its path.

Results:
* `exists_pattern`: where a wiring declares the pattern of a route.

Headline:
* **`pattern_denotes_path_iff`**: a pattern is a literal that stands for the path exactly if all
  characters of the path are plain.
-/

namespace ServiceWiring

open Piece (declaredFrom lines)

namespace Wiring

variable {p : Parameters} {r : Route} {ps above : List Piece} {head : Service → List Piece}
  {handler declaration : Route → List Piece} {start : Text}

theorem declaredFrom_append (start : Text) (xs ys : List Piece) :
    declaredFrom start (xs ++ ys) = declaredFrom start xs ++ declaredFrom start ys := by
  unfold declaredFrom
  rw [Piece.declared_append, List.filter_append]

theorem declaredFrom_flatMap {α : Type} (start : Text) (f : α → List Piece) (l : List α) :
    declaredFrom start (l.flatMap f) = l.flatMap fun a => declaredFrom start (f a) := by
  unfold declaredFrom
  rw [Piece.declared_flatMap, List.filter_flatMap]

/-- No service declares a name of a route. -/
theorem Laid.declaredFrom_services (h : Laid p ps above head handler declaration)
    (hstart : start ∈ starts) (services : List Service) :
    declaredFrom start (services.flatMap fun s =>
      head s ++ (routes s).flatMap handler ++ lines [["\x7d"]]) = [] := by
  rw [declaredFrom_flatMap, List.flatMap_eq_nil_iff]
  intro s _
  have hhandlers : declaredFrom start ((routes s).flatMap handler) = [] := by
    rw [declaredFrom_flatMap, List.flatMap_eq_nil_iff]
    intro r _
    unfold declaredFrom
    rw [(h.handles r).declared, List.filter_nil]
  rw [declaredFrom_append, declaredFrom_append, (h.headFree s start hstart).1, hhandlers]
  rfl

theorem Declares.declaredFrom_pattern {block : List Piece} (h : Declares p r block) :
    declaredFrom "pattern_goclay_" block = [r.pattern] := by
  unfold declaredFrom
  rw [h.declared, List.filter_cons_of_pos r.pattern_starts]
  rfl

/-- The path of a route stands behind its pattern, and no other pattern is declared before. -/
theorem Declares.exists_path {block : List Piece} (h : Declares p r block) :
    ∃ above below, block = above ++ .declares r.pattern :: .text " = " :: .literal
        ("\"" ++ r.bound.rule.path.display ++ "\"") :: .text "\n" :: below ∧
      declaredFrom "pattern_goclay_" above = [] := by
  obtain ⟨above, below, hblock⟩ := h.path
  have hpath : declaredFrom "pattern_goclay_" (lines [
      ["var ("],
      ["\t", .declares r.pattern, " = ", .literal ("\"" ++ r.bound.rule.path.display ++ "\"")],
      [")"]]) = [r.pattern] := List.filter_cons_of_pos r.pattern_starts
  have hpattern := h.declaredFrom_pattern
  rw [← hblock, declaredFrom_append, declaredFrom_append, hpath] at hpattern
  refine ⟨above ++ ([.text "var (", .text "\n", .text "\t"] : List Piece),
    .text ")" :: .text "\n" :: below, ?_, ?_⟩
  · rw [← hblock, List.append_assoc above, List.append_assoc above]
    rfl
  · -- The only pattern of the block is the one in these lines.
    have hlength := congrArg List.length hpattern
    simp only [List.length_append, List.length_singleton] at hlength
    have habove : declaredFrom "pattern_goclay_" above = [] :=
      List.length_eq_zero_iff.mp (by omega)
    rw [declaredFrom_append, habove]
    rfl

/-- Where a wiring declares the pattern of its route with a given number: the path stands there, and
exactly the patterns of the routes before it are declared before. -/
theorem Laid.exists_pattern (h : Laid p ps above head handler declaration) {k : Nat}
    (hr : (routesOf p.file)[k]? = some r) :
    ∃ before after, ps = before ++ .declares r.pattern :: .text " = " :: .literal
        ("\"" ++ r.bound.rule.path.display ++ "\"") :: .text "\n" :: after ∧
      declaredFrom "pattern_goclay_" before = ((routesOf p.file).take k).map Route.pattern := by
  obtain ⟨before, after, hblock, hbefore⟩ := (h.declares r).exists_path
  have hroutes : routesOf p.file =
      (routesOf p.file).take k ++ r :: (routesOf p.file).drop (k + 1) := by
    obtain ⟨hk, rfl⟩ := List.getElem?_eq_some_iff.mp hr
    rw [← List.drop_eq_getElem_cons hk, List.take_append_drop]
  refine ⟨above ++ p.file.services.flatMap
      (fun s => head s ++ (routes s).flatMap handler ++ lines [["\x7d"]]) ++
      ((routesOf p.file).take k).flatMap declaration ++ before,
    after ++ ((routesOf p.file).drop (k + 1)).flatMap declaration, ?_, ?_⟩
  · rw [h.pieces]
    conv_lhs => rw [hroutes]
    rw [List.flatMap_append, List.flatMap_cons, hblock]
    simp only [List.append_assoc, List.cons_append]
  · rw [declaredFrom_append, declaredFrom_append, declaredFrom_append, hbefore,
      (h.aboveFree _ List.mem_cons_self).1, h.declaredFrom_services List.mem_cons_self,
      declaredFrom_flatMap, List.map_eq_flatMap]
    simp only [(h.declares _).declaredFrom_pattern, List.nil_append, List.append_nil]

/-- **A pattern is a literal that stands for the path of its route if and only if all characters of
the path are plain**: no quotes, no backslashes, no line breaks, and no lone surrogates. The pattern
stands in a wiring where the routes before it have declared theirs. -/
theorem pattern_denotes_path_iff {file t path : Text} {k : Nat} (hname : p.file.name = .str file)
    (hdecode : Utf8.decode (p.swagger?.getD []) = .ok t) (hr : (routesOf p.file)[k]? = some r)
    (hpath : r.bound.rule.path = .str path) :
    ∃ before after, source p = .ok (Piece.render before ++ r.pattern ++ " = " ++
        Piece.render after) ∧
      pieces p = .ok (before ++ .declares r.pattern :: .text " = " :: after) ∧
      declaredFrom "pattern_goclay_" before = ((routesOf p.file).take k).map Route.pattern ∧
      (Go.Denotes (Piece.render after) path ↔ ∀ c ∈ path, Go.IsPlain c) := by
  obtain ⟨ps, hps⟩ := exists_pieces_iff.mpr ⟨⟨file, hname⟩, ⟨t, hdecode⟩⟩
  obtain ⟨above, head, handler, declaration, hlaid⟩ := exists_laid hps
  obtain ⟨before, after, rfl, hbefore⟩ := hlaid.exists_pattern hr
  refine ⟨before, _, source_eq_ok_iff.mpr ⟨_, hps, ?_⟩, hps, hbefore, ?_⟩
  · simp [Piece.render, Piece.toText]
  · have hafter : Piece.render (.literal ("\"" ++ path ++ "\"") :: .text "\n" :: after) =
        "\"" ++ path ++ "\"" ++ "\n" ++ Piece.render after := (List.append_assoc _ _ _).symm
    rw [hpath]
    exact hafter ▸ Go.denotes_quoted_iff path (Piece.render after)

/-- A file with one method whose binding has the given path. -/
def oneRoute (path : Text) : Descriptor where
  name := .str "a/b.proto"
  package := { path := "x/y", name := "y" }
  services := [⟨.str "A", [{ boundMethod "B" with http? := some ⟨.get, .str path, .str []⟩ }]⟩]

/-- A path with a regular expression has a pattern that does not stand for it; a path without has
one that does. -/
theorem pattern_denotes_path_iff_expression :
    (∃ r ∈ routesOf (oneRoute "/a/\x7bid:\\d+\x7d"), ∃ before after,
        source { file := oneRoute "/a/\x7bid:\\d+\x7d" } =
          .ok (before ++ r.pattern ++ " = " ++ after) ∧
        ¬ Go.Denotes after "/a/\x7bid:\\d+\x7d") ∧
      ∃ r ∈ routesOf (oneRoute "/a/\x7bid\x7d"), ∃ before after,
        source { file := oneRoute "/a/\x7bid\x7d" } =
          .ok (before ++ r.pattern ++ " = " ++ after) ∧
        Go.Denotes after "/a/\x7bid\x7d" := by
  constructor
  · obtain ⟨before, after, hsource, -, -, hiff⟩ := pattern_denotes_path_iff
      (p := { file := oneRoute "/a/\x7bid:\\d+\x7d" }) (k := 0) (t := []) rfl rfl rfl rfl
    have hbackslash : (0x5C : CodePoint) ∈ Text.ofString "/a/\x7bid:\\d+\x7d" := by decide +kernel
    exact ⟨_, List.mem_cons_self, _, _, hsource, fun h => (hiff.mp h _ hbackslash).2.1 rfl⟩
  · obtain ⟨before, after, hsource, -, -, hiff⟩ := pattern_denotes_path_iff
      (p := { file := oneRoute "/a/\x7bid\x7d" }) (k := 0) (t := []) rfl rfl rfl rfl
    have hplain : (Text.ofString "/a/\x7bid\x7d").all fun c => Go.IsPlain c := by decide +kernel
    exact ⟨_, List.mem_cons_self, _, _, hsource,
      hiff.mpr fun c hc => of_decide_eq_true (List.all_eq_true.mp hplain c hc)⟩

end Wiring

end ServiceWiring
