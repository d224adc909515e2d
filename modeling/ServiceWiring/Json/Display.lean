import ServiceWiring.Binary64.Shortest
import ServiceWiring.Json.Basic
import ServiceWiring.Text.Quoted

/-!
# Values in messages and in generated source

A text stands for itself; any other value is spelled out, with the texts inside it quoted.
-/

namespace ServiceWiring.Json

mutual

/-- The value spelled out, a text between quotes. -/
def spelled : Json → Text
  | null => "None"
  | bool b => if b then "True" else "False"
  | int n => Text.ofInt n
  | float x => x.toText
  | str t => t.quoted
  | arr items => "[" ++ Text.joinWith ", " (spelledItems items) ++ "]"
  | obj fields => "\x7b" ++ Text.joinWith ", " (spelledFields fields) ++ "\x7d"
termination_by structural j => j

/-- The items spelled out. -/
def spelledItems : List Json → List Text
  | [] => []
  | item :: r => spelled item :: spelledItems r
termination_by structural l => l

/-- The fields spelled out, each as a quoted name, a colon and a value. -/
def spelledFields : List (Text × Json) → List Text
  | [] => []
  | (name, value) :: r => (name.quoted ++ ": " ++ spelled value) :: spelledFields r
termination_by structural l => l

end

/-- The value as text: a text as it is, any other value spelled out. -/
def display : Json → Text
  | str t => t
  | j => j.spelled

example : display (.arr [.str "it's", .null, .obj [("k", .bool true)]]) =
    "[\"it's\", None, \x7b'k': True\x7d]" := by decide

end ServiceWiring.Json
