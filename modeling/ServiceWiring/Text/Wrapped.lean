import ServiceWiring.Text.Basic

/-!
# Text in lines

Words go one after another into lines that are no longer than a width. A word that is longer than
that is cut, and its first part fills the line before it.
-/

namespace ServiceWiring.Text

/-- The lines of words, of which the first one has begun. The fuel is more than the length of the
words and their number. -/
def wrapFrom (width : Nat) (line : Text) (words : List Text) : Nat → List Text
  | 0 => [line]
  | fuel + 1 =>
    match words with
    | [] => if line.isEmpty then [] else [line]
    | w :: ws =>
      let start : Text := if line.isEmpty then [] else line ++ [0x20]
      if start.length + w.length ≤ width then wrapFrom width (start ++ w) ws fuel
      else if w.length ≤ width || width < start.length then
        line :: wrapFrom width [] (w :: ws) fuel
      else
        let room := width - start.length
        (start ++ w.take room) :: wrapFrom width [] (w.drop room :: ws) fuel

/-- The lines of a text whose words have blanks between them. -/
def wrap (width : Nat) (t : Text) : List Text :=
  wrapFrom width [] ((splitOn 0x20 t).filter (!·.isEmpty)) (2 * t.length + 2)

example :
    let lines : List Text := ["one two imp", "lementation", "s"]
    wrap 11 "one two implementations" = lines :=
  by decide

end ServiceWiring.Text
