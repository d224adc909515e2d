import Mathlib.Data.List.Basic
import ServiceWiring.Artifact.Piece

/-!
# The packages that source names

Go wants every package that source names imported, and every package that it imports named. Both are
about the qualifiers among the pieces, which `Piece.qualifiers` lists: each path with the name that
stands for it. Plain text has none, so the list is found by going through the blocks.

Results:
* `qualifiers_lines`, `qualifiers_join`: the qualifiers of what blocks are made of.
* `qualifiers_importLines`: an import block names nothing.
* `typeFrom_foreign`, `qualifiers_typeFrom`: what the type of a message looks like.
-/

namespace ServiceWiring

namespace Piece

/-- The paths of the packages that pieces name, with the names that stand for them. -/
def qualifiers (pieces : List Piece) : List (Text × Text) :=
  pieces.filterMap fun
    | .qualifier path name => some (path, name)
    | _ => none

variable {pieces : List Piece} {t path name : Text}

@[simp]
theorem qualifiers_nil : qualifiers [] = [] := rfl

@[simp]
theorem qualifiers_append (xs ys : List Piece) :
    qualifiers (xs ++ ys) = qualifiers xs ++ qualifiers ys := List.filterMap_append

@[simp]
theorem qualifiers_text : qualifiers (.text t :: pieces) = qualifiers pieces := rfl

@[simp]
theorem qualifiers_declares : qualifiers (.declares name :: pieces) = qualifiers pieces := rfl

@[simp]
theorem qualifiers_refers : qualifiers (.refers name :: pieces) = qualifiers pieces := rfl

@[simp]
theorem qualifiers_literal : qualifiers (.literal t :: pieces) = qualifiers pieces := rfl

@[simp]
theorem qualifiers_qualifier :
    qualifiers (.qualifier path name :: pieces) = (path, name) :: qualifiers pieces := rfl

theorem qualifiers_flatMap {α : Type} (f : α → List Piece) (l : List α) :
    qualifiers (l.flatMap f) = l.flatMap fun a => qualifiers (f a) := by
  induction l with
  | nil => rfl
  | cons a l ih => rw [List.flatMap_cons, List.flatMap_cons, qualifiers_append, ih]

@[simp]
theorem qualifiers_lines (ls : List (List Piece)) :
    qualifiers (lines ls) = ls.flatMap qualifiers := by
  unfold lines
  rw [qualifiers_flatMap]
  simp

@[simp]
theorem qualifiers_join (parts : List (List Piece)) :
    qualifiers (join parts) = parts.flatMap qualifiers := by
  unfold join
  rw [← List.flatMap_id, qualifiers_flatMap]
  rfl

theorem infix_flatMap {α : Type} (f : α → List Piece) {a : α} {l : List α} (h : a ∈ l) :
    f a <:+: l.flatMap f := by
  rw [List.flatMap_def]
  exact List.infix_of_mem_flatten (List.mem_map_of_mem h)

theorem infix_line {l : List Piece} {ls : List (List Piece)} (h : l ∈ ls) :
    l ++ [.text "\n"] <:+: lines ls := infix_flatMap (fun l => l ++ [.text "\n"]) h

theorem infix_lines {l : List Piece} {ls : List (List Piece)} (h : l ∈ ls) : l <:+: lines ls :=
  (List.prefix_append l [.text "\n"]).isInfix.trans (infix_line h)

theorem infix_join {part : List Piece} {parts : List (List Piece)} (h : part ∈ parts) :
    part <:+: join parts := List.infix_of_mem_flatten h

end Piece

variable {p : Parameters} {m : Message} {path qualifier : Text}

/-- A path with what source writes for its package. -/
def Parameters.lookup (p : Parameters) (path : Text) : Text × Text :=
  (path, (p.shortNameOf? path).getD [])

@[simp]
theorem Parameters.qualifiers_use (path : Text) (pieces : List Piece) :
    Piece.qualifiers (p.use path :: pieces) = p.lookup path :: Piece.qualifiers pieces := rfl

/-- An import block names no package. -/
@[simp]
theorem Parameters.qualifiers_importLines (p : Parameters) :
    Piece.qualifiers p.importLines = [] := by
  unfold Parameters.importLines
  simp

/-- The type of a message from elsewhere is named for its package. -/
theorem Message.typeFrom_foreign (h : m.package.path ≠ path) (qualifier : Text) :
    m.typeFrom path qualifier =
      ([.qualifier m.package.path m.package.shortName, ".", m.name] : List Piece) := by
  unfold Message.typeFrom
  rw [if_neg h]

/-- Only the type of a message from elsewhere names a package. -/
theorem Message.qualifiers_typeFrom (m : Message) (path qualifier : Text) :
    Piece.qualifiers (m.typeFrom path qualifier) =
      if m.package.path = path then [] else [(m.package.path, m.package.shortName)] := by
  by_cases h : m.package.path = path
  · unfold Message.typeFrom
    rw [if_pos h, if_pos h]
    rfl
  · rw [Message.typeFrom_foreign h, if_neg h]
    rfl

end ServiceWiring
