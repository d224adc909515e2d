import ServiceWiring.Text.Utf8

/-!
# Disks

A disk maps places to what stands there. A place is the list of names on the way from the root, and
none of them is a link, `.` or `..`; the root itself is always a directory.

A file may stand at more than one place. It goes by one of them, its owner, and the other ones are
aliases of that; whatever is read or written at a place is read or written at the owner.
-/

namespace ServiceWiring

/-- A name in a directory. -/
abbrev DiskName := Octets

/-- The names on the way from the root to a place. -/
abbrev Place := List DiskName

/-- What stands at a place. -/
inductive Node where
  /-- A file, and whether it may be run. -/
  | file (content : Octets) (executable : Bool)
  /-- A directory. -/
  | directory
  /-- A link to the path that it holds. -/
  | link (target : Octets)
  /-- A device that swallows what is written and has nothing to read. -/
  | device
  /-- The stream of a number, of whoever opens it. -/
  | stream (number : Nat)
deriving DecidableEq, Repr

/-- The places that exist, apart from the root, each once. -/
structure Disk where
  /-- Each place with what stands there. -/
  nodes : List (Place × Node) := []
  /-- The other places of files, each with the owner. -/
  aliases : List (Place × Place) := []
deriving DecidableEq, Repr

namespace Disk

instance : EmptyCollection Disk where
  emptyCollection := {}

/-- The place that a file goes by. Where no alias is, a place is its own owner. -/
def owner (d : Disk) (p : Place) : Place := (d.aliases.lookup p).getD p

/-- The two are one place, or places of one file. -/
def SameFile (d : Disk) (p q : Place) : Prop := d.owner p = d.owner q

instance (d : Disk) (p q : Place) : Decidable (d.SameFile p q) :=
  inferInstanceAs (Decidable (d.owner p = d.owner q))

/-- What stands at a place. -/
def node? (d : Disk) (p : Place) : Option Node :=
  if p.isEmpty then some .directory else (d.nodes.find? (·.1 = d.owner p)).map (·.2)

/-- The disk with something else at one place, and at all places of the file there. -/
def put (d : Disk) (p : Place) (n : Node) : Disk :=
  { d with nodes := (d.owner p, n) :: d.nodes.filter (·.1 ≠ d.owner p) }

/-- The disk with one more place for the file at a place. -/
def addName (d : Disk) (p q : Place) : Disk := { d with aliases := (q, d.owner p) :: d.aliases }

/-- The disk without what stands at a place. If a file has other places then one of these becomes
the owner. -/
def remove (d : Disk) (p : Place) : Disk :=
  if (d.aliases.lookup p).isSome then { d with aliases := d.aliases.filter (·.1 ≠ p) }
  else
    match d.aliases.find? (·.2 = p) with
    | none => { d with nodes := d.nodes.filter (·.1 ≠ p) }
    | some (heir, _) =>
      { nodes := d.nodes.map fun (q, n) => (if q = p then heir else q, n)
        aliases := (d.aliases.filter (·.1 ≠ heir)).map fun (q, owner) =>
          (q, if owner = p then heir else owner) }

/-- The places that exist, with what stands there. -/
def entries (d : Disk) : List (Place × Node) :=
  d.nodes ++ d.aliases.filterMap fun (p, owner) => (d.nodes.lookup owner).map (p, ·)

/-- The names in a directory, in order. -/
def namesIn (d : Disk) (p : Place) : List DiskName :=
  (d.entries.filterMap fun (q, _) =>
    if q.dropLast = p then q.getLast? else none).mergeSort fun a b => decide (a ≤ b)

/-- The disk with the directories that lead to a place, where nothing stood before. -/
def putDirectories (d : Disk) (p : Place) : Disk :=
  (List.range (p.length + 1)).foldl (fun d k =>
    let q := p.take k
    if (d.node? q).isSome then d else d.put q .directory) d

/-- The files of the disk: their places and what they hold. -/
def files (d : Disk) : List (Place × Octets) :=
  d.entries.filterMap fun (p, n) =>
    match n with
    | .file content _ => some (p, content)
    | _ => none

end Disk

end ServiceWiring
