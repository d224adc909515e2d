import ServiceWiring.Batch

/-!
# Delivery

Outputs are written below a directory, one after another, and the directories on the way are made.
The first failure ends the delivery; what was written before it stays.
-/

namespace ServiceWiring

/-- What a delivery leaves behind. -/
structure Delivery where
  /-- The machine with what was written. -/
  machine : Machine
  /-- Where outputs were written, in order. -/
  written : List Location
  /-- Why the delivery ended early, if it did. -/
  fault? : Option Fault

namespace Delivery

/-- Writes one output to a location. -/
def writeOne (m : Machine) (l : Location) (content : Octets) : Machine × Option Fault :=
  match m.makeDirectories l.parent with
  | (m, some fault) => (m, some (.ofPathFault fault))
  | (m, none) =>
    match m.writeFile l.toText content with
    | .ok m => (m, none)
    | .error fault => (m, some (.ofPathFault fault))

/-- Writes outputs below a directory. -/
def write (m : Machine) (dir : Location) : List Output → Delivery
  | [] => ⟨m, [], none⟩
  | output :: r =>
    let l := dir ++ Location.ofText output.name
    match writeOne m l output.content with
    | (m, some fault) => ⟨m, [], some fault⟩
    | (m, none) =>
      let d := write m dir r
      { d with written := l :: d.written }

/-- What a delivery reports. -/
def events (d : Delivery) : List Event := d.written.map fun l => .written l.toText

end Delivery

end ServiceWiring
