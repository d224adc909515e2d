import ServiceWiring.Binary64.Basic
import ServiceWiring.Text.Basic

/-!
# JSON documents

A document is a tree of values. An object keeps its fields in the order in which their names first
occurred, and a name that occurs again replaces the value and keeps the place.
-/

namespace ServiceWiring

/-- A JSON value. Numbers written with a point or an exponent are binary64, all others integers. -/
inductive Json where
  /-- The null value. -/
  | null
  /-- A truth value. -/
  | bool (b : Bool)
  /-- An integer of any size. -/
  | int (n : Int)
  /-- A number with a point or an exponent. -/
  | float (x : Binary64)
  /-- A text. -/
  | str (t : Text)
  /-- A list of values. -/
  | arr (items : List Json)
  /-- An object: names with their values. -/
  | obj (fields : List (Text × Json))
deriving Repr, Inhabited

namespace Json

instance : Coe Text Json where
  coe := .str

/-- The fields with the value under the name, in its old place or at the end. -/
def setField (name : Text) (value : Json) : List (Text × Json) → List (Text × Json)
  | [] => [(name, value)]
  | (n, v) :: r => if n = name then (n, value) :: r else (n, v) :: setField name value r

/-- The object of a sequence of fields, in which a name may be repeated. -/
def ofFields (fields : List (Text × Json)) : Json :=
  .obj (fields.foldl (fun fs (n, v) => setField n v fs) [])

/-- The value under a name, if the value is an object that has it. -/
def field? (name : Text) : Json → Option Json
  | obj fields => fields.lookup name
  | _ => none

/-- A value that is not null, false, zero or empty. -/
def isTruthy : Json → Bool
  | null => false
  | bool b => b
  | int n => n != 0
  | float x => !x.isZero
  | str t => !t.isEmpty
  | arr items => !items.isEmpty
  | obj fields => !fields.isEmpty

end Json

end ServiceWiring
