import ServiceWiring.Session

/-!
# The root of the tool

The tool lives in a directory below one of the configured roots, as Go packages do below the
directories of a search path. From the two the import path of a package follows:
`ToolRoot.importPath`, which only looks at texts. Finding the directory and the roots asks the disk.
-/

namespace ServiceWiring.ToolRoot

/-! ## Import paths -/

/-- Whether a root, written without a slash at its end, is the directory or holds it. -/
def holds (root dir : Text) : Bool := dir = root || (root ++ "/").isPrefixOf dir

/-- The path of the directory below the sources of a root; a directory that is elsewhere keeps its
path. -/
def belowSources (root dir : Text) : Text :=
  let sources := root ++ "/src/"
  if sources.isPrefixOf dir then dir.drop sources.length else dir

/-- The import path of a package as seen from the root that holds the tool, or nothing if no root
does. -/
def importPath (path : Text) (toolDir? : Option Text) (roots : List Text) : Text :=
  let path := if path = "." then [] else path
  let dir := toolDir?.getD []
  if dir.isEmpty then []
  else
    match (roots.map (Text.dropRight Path.slash)).find? (holds · dir) with
    | none => []
    | some root =>
      let current := belowSources root dir
      if current.isPrefixOf path then path
      else if path.isEmpty then current
      else Path.join current path

/-! ## Places without links -/

/-- Why the real place of a path is not known. -/
inductive Unresolved where
  /-- A path on the way cannot be looked at. -/
  | fault (f : PathFault)
  /-- A link leads back to itself. -/
  | loop (path : Text)
deriving DecidableEq, Repr

/-- The real place that names lead to from a real one. Links in `open` are being followed already;
`depth` bounds how many more may be opened inside one another. -/
def resolveFrom (m : Machine) (opened : List Place) (depth : Nat) (place : Place) :
    List Text → Except Unresolved Place
  | [] => .ok place
  | name :: rest =>
    if name = "" || name = "." then resolveFrom m opened depth place rest
    else if name = ".." then resolveFrom m opened depth place.dropLast rest
    else
      let path := Path.join (Machine.pathOf place) name
      match m.find .lookAtName path with
      | .error f => .error (.fault f)
      | .ok (next, .link target) =>
        match depth with
        | 0 => .error (.loop path)
        | depth + 1 =>
          if next ∈ opened then .error (.loop path)
          else
            let target := Utf8.decodeName target
            let start := if Path.isAbsolute target then [] else place
            match resolveFrom m (next :: opened) depth start (Text.splitOn Path.slash target) with
            | .error f => .error f
            | .ok place => resolveFrom m opened (depth + 1) place rest
      | .ok (next, _) => resolveFrom m opened depth next rest
termination_by names => (depth, names.length)

/-- How many links the disk has. -/
def linkCount (d : Disk) : Nat := d.nodes.countP fun (_, n) => n matches .link _

/-- The real path of a location. -/
def resolve (m : Machine) (l : Location) : Except Unresolved Text :=
  let start := if l.root = .none then m.directory else []
  -- The working directory is real already.
  (resolveFrom m [] (linkCount m.disk + 1) start l.names).map Machine.pathOf

/-- What is reported of an unresolved path, or the fault that cannot be reported. -/
def Unresolved.reason : Unresolved → Except Fault Text
  | .loop path => .ok ("Symlink loop from " ++ path.quoted)
  | .fault (.refused r path) => .ok (Fault.refusedMessage r path)
  | .fault f => .error (.ofPathFault f)

/-! ## The directory and the roots -/

/-- The real directory that holds the tool, if it can be found. -/
def directory? (toolPath : Text) : SessionM (Option Text) := do
  match resolve (← SessionM.machine) (Location.ofText toolPath).parent with
  | .ok path => return some path
  | .error u =>
    let reason ← u.reason
    SessionM.report (.toolUnresolved toolPath reason)
    return none

/-- The home directory of the user. A path that starts with a tilde leads nowhere. -/
def home (m : Machine) : Except Fault Text :=
  let path := Text.dropRight Path.slash ((m.environmentValue? "HOME").getD [])
  if path.head? = some 0x7E then .error .homeUnknown
  else if path.isEmpty then .ok "/"
  else .ok path

/-- The real path of one configured root. One that cannot be found keeps its path, made absolute. -/
def resolveRoot (root : Text) : SessionM Text := do
  let m ← SessionM.machine
  match resolve m (Location.ofText root) with
  | .ok path => return path
  | .error u =>
    let reason ← u.reason
    SessionM.report (.rootUnresolved root reason)
    return Path.normalize (Path.join (Machine.pathOf m.directory) root)

/-- The paths of the configured roots: a list divided by colons, or the Go directory in the user's
home. -/
def rootPaths (m : Machine) (configured? : Option Text) : Except Fault (List Text) := do
  let configured := configured?.getD []
  let list ←
    if configured.isEmpty then
      pure (Location.ofText (← home m) ++ Location.ofText "go").toText
    else pure configured
  return (Text.splitOn ':' list).filter (!·.isEmpty)

/-- The configured roots. -/
def roots (configured? : Option Text) : SessionM (List Text) := do
  let paths ← rootPaths (← SessionM.machine) configured?
  paths.mapM resolveRoot

/-- Whether something stands at a path as seen from the directory of the tool. -/
def isPresent (toolDir? : Option Text) (path : Text) : SessionM Bool := do
  match toolDir? with
  | none => return false
  | some dir =>
    match (← SessionM.machine).find .look (Path.join dir path) with
    | .ok _ => return true
    | .error (.refused .noEntry _) => return false
    | .error (.refused r full) => do
      SessionM.report (.presenceUnknown path (Fault.refusedMessage r full))
      return false
    | .error f => throw (.ofPathFault f)

end ServiceWiring.ToolRoot
