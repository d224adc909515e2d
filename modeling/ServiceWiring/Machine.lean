import ServiceWiring.Disk.Walk
import ServiceWiring.Path.Location
import ServiceWiring.Text.Quoted

/-!
# The machine

What a run finds around itself: a disk, the directory it works in, the environment, and the name it
was started by. The operations take a path as a text, as a user names it; an error names that path.
-/

namespace ServiceWiring

/-- The surroundings of a run. -/
structure Machine where
  /-- The disk. -/
  disk : Disk := ∅
  /-- The directory that relative paths start from. -/
  directory : Place := []
  /-- The variables of the environment. -/
  environment : List (Text × Text) := []
  /-- The path that the tool was started by. -/
  toolPath : Text := []
deriving Repr

/-- Why an operation on a path fails. -/
inductive PathFault where
  /-- The disk refuses. -/
  | refused (r : Refusal) (path : Text)
  /-- The path holds a null character. -/
  | nullCharacter
  /-- The path holds a surrogate that stands for no octet. -/
  | unencodable
deriving DecidableEq, Repr

namespace PathFault

/-- The refusal that an error comes down to. -/
def refusal : PathFault → Refusal
  | .refused r _ => r
  | .nullCharacter | .unencodable => .noEntry

/-- Whether an error only says that there is nothing of the kind asked for. -/
def meansAbsent : PathFault → Bool
  | .refused .noEntry _ | .refused .notDirectory _ | .refused .linkLoop _ => true
  | .refused _ _ => false
  | .nullCharacter | .unencodable => true

end PathFault

namespace Machine

/-- The value of a variable of the environment. -/
def environmentValue? (m : Machine) (name : Text) : Option Text := m.environment.lookup name

/-- The path of a place, from the root. -/
def pathOf (p : Place) : Text := "/" ++ Text.joinWith "/" (p.map Utf8.decodeName)

/-- The place that a path leads to. -/
def locate (m : Machine) (errand : Errand) (path : Text) : Except PathFault Place :=
  match Utf8.encodeName? path with
  | none => .error .unencodable
  | some octets =>
    if octets.contains 0 then .error .nullCharacter
    else (m.disk.locate errand m.directory octets).mapError (.refused · path)

/-- The place that a path leads to, and what stands there. -/
def find (m : Machine) (errand : Errand) (path : Text) : Except PathFault (Place × Node) := do
  let place ← m.locate errand path
  match m.disk.node? place with
  | some node => return (place, node)
  | none => throw (.refused .noEntry path)

/-- What the file at a path holds. -/
def readFile (m : Machine) (path : Text) : Except PathFault Octets := do
  match (← m.find .look path).2 with
  | .file content _ => return content
  | .directory => throw (.refused .isDirectory path)
  | _ => return []

/-- Whether a path leads to something that the test accepts. -/
def test (m : Machine) (accept : Node → Bool) (path : Text) : Except PathFault Bool :=
  match m.find .look path with
  | .ok (_, node) => .ok (accept node)
  | .error fault => if fault.meansAbsent then .ok false else .error fault

/-- Whether a path leads to a file. -/
def isFile (m : Machine) (path : Text) : Except PathFault Bool :=
  m.test (fun n => n matches .file ..) path

/-- Whether a path leads to a directory. -/
def isDirectory (m : Machine) (path : Text) : Except PathFault Bool :=
  m.test (fun n => n matches .directory) path

/-- The machine with something else at one place, and at all places of the file there. -/
def put (m : Machine) (p : Place) (n : Node) : Machine := { m with disk := m.disk.put p n }

/-- Makes a directory where nothing stands. -/
def makeDirectory (m : Machine) (path : Text) : Except PathFault Machine := do
  let place ← m.locate .make path
  match m.disk.node? place with
  | some _ => throw (.refused .occupied path)
  | none => return m.put place .directory

/-- Writes a file, new or in the place of another. A file that may be run stays so. A file that has
more than one place is written at all of them. -/
def writeFile (m : Machine) (path : Text) (content : Octets) : Except PathFault Machine := do
  let place ← m.locate .write path
  match m.disk.node? place with
  | none => return m.put place (.file content false)
  | some (.file _ executable) => return m.put place (.file content executable)
  | some .directory => throw (.refused .isDirectory path)
  | some _ => return m

/-- Forgives the failure to make a directory where one stands already. -/
def acceptDirectory (m : Machine) (l : Location) (fault : PathFault) : Option PathFault :=
  match fault with
  | .refused .. =>
    match m.isDirectory l.toText with
    | .ok true => none
    | .ok false => some fault
    | .error other => some other
  | _ => some fault

/-- Makes a directory and the directories that lead to it, unless they stand there already. What was
made before a failure stays. -/
def makeDirectories (m : Machine) (l : Location) : Machine × Option PathFault :=
  match m.makeDirectory l.toText with
  | .ok m => (m, none)
  | .error (.refused .noEntry path) =>
    if _h : l.names = [] then (m, some (.refused .noEntry path))
    else
      match makeDirectories m l.parent with
      | (m, some fault) => (m, some fault)
      | (m, none) =>
        match m.makeDirectory l.toText with
        | .ok m => (m, none)
        | .error (.refused .noEntry path) => (m, some (.refused .noEntry path))
        | .error fault => (m, m.acceptDirectory l fault)
  | .error fault => (m, m.acceptDirectory l fault)
termination_by l.names.length
decreasing_by
  have := List.length_pos_iff.mpr _h
  simp [Location.parent]
  omega

end Machine

end ServiceWiring
