import ServiceWiring.CommandLine.Run
import ServiceWiring.Host.Program.Launch

/-!
# The command line

`main` looks at the directories that a run may touch, runs on what it found there, and writes the
files that the run left changed. All that a run does happens in `CommandLine.run`.

The formatters that are run are the programs of `Tool.names` and scripts made of them. A file that
starts with `#!` counts as a script that may be run. The content of a large file is not read. A file
with several paths is taken for several files.
-/

namespace ServiceWiring.Main

/-- How deep directories are looked at. -/
def maxDepth : Nat := 64

/-- The size from which on a file is not read. -/
def maxSize : UInt64 := 4194304

/-- What stands for a content that is not read: no artifact is written so. -/
def unread : Octets := [0]

/-- A file with the given content; one that starts with `#!` may be run. -/
def fileNode (content : Octets) : Node := .file content ([0x23, 0x21].isPrefixOf content)

/-- The place of a real path. -/
def placeOf (path : String) : Place := (Steps.ofOctets path.toUTF8.toList).names

/-- What stands at the real paths below a directory. A link leads to the real path that it stands
for. -/
def nodesBelow : Nat → String → IO (List (Place × Node))
  | 0, _ => return []
  | depth + 1, directory => do
    let mut nodes := []
    for entry in ← (← IO.FS.realPath directory).readDir do
      let path := entry.path.toString
      try
        let data ← entry.path.symlinkMetadata
        match data.type with
        | .dir => nodes := (placeOf path, Node.directory) :: (← nodesBelow depth path) ++ nodes
        | .file =>
          let content ←
            if data.byteSize < maxSize then ByteArray.toList <$> IO.FS.readBinFile path
            else pure unread
          nodes := (placeOf path, fileNode content) :: nodes
        | .symlink =>
          let target := (← IO.FS.realPath path).toString
          nodes := (placeOf path, Node.link target.toUTF8.toList) :: nodes
        | .other => nodes := (placeOf path, Node.device) :: nodes
      catch _ => pure ()
    return nodes

/-- The disk with a directory and what is below it, if the directory exists. -/
def addTree (depth : Nat) (d : Disk) (directory : String) : IO Disk := do
  try
    let path := (← IO.FS.realPath directory).toString
    let d := d.putDirectories (placeOf path)
    let nodes ← nodesBelow depth path
    return { d with nodes := nodes.filter (fun (p, _) => (d.node? p).isNone) ++ d.nodes }
  catch _ => return d

/-- The disk with the directories on the way to a path, as far as they exist. -/
def addWay (d : Disk) (l : Location) : IO Disk :=
  (List.range (l.names.length + 1)).foldlM (fun d k =>
    addTree 0 d { l with names := l.names.take k : Location }.toText.toDisplayString) d

/-- The disk with the file at a path, if it exists. -/
def addFile (d : Disk) (path : String) : IO Disk := do
  try
    let real := (← IO.FS.realPath path).toString
    let content ← IO.FS.readBinFile path
    let d := d.putDirectories (placeOf real).dropLast
    return d.put (placeOf real) (fileNode content.toList)
  catch _ => return d

/-- The variables of the environment that a run may look at. -/
def environment : IO (List (Text × Text)) := do
  let values ← ["HOME", "GOPATH", "PATH", "COLUMNS"].mapM fun name => do
    return (← IO.getEnv name).map fun value => (Text.ofString name, Text.ofString value)
  return values.reduceOption

/-- The disk with only the programs that are run here, in one directory. -/
def programs : Disk :=
  let bin := placeOf "/usr/bin"
  Tool.installAll (Disk.putDirectories ∅ bin) bin

/-- The machine as far as a run with the given settings may look at it. -/
def machine (s? : Option CommandLine.Settings) : IO Machine := do
  let directory := (← IO.currentDir).toString
  let toolPath := (← IO.appPath).toString
  let environment ← environment
  let m : Machine :=
    { disk := ∅, directory := placeOf directory, environment, toolPath := Text.ofString toolPath }
  let mut d ← addTree maxDepth programs directory
  let toolDirectory := (Location.ofText m.toolPath).parent
  for l in toolDirectory :: (s?.bind (·.swaggerDir?)).toList do
    d ← addTree maxDepth d l.toText.toDisplayString
  let roots := (ToolRoot.rootPaths m (m.environmentValue? "GOPATH")).toOption.getD []
  for l in roots.map Location.ofText ++ (s?.bind (·.out?)).toList do
    d ← addWay d l
  if let some s := s? then
    d ← addFile d s.descriptors.toText.toDisplayString
    if let some command := s.gofmt? then
      d ← addFile d command.toDisplayString
  return { m with disk := d }

/-- Removes the files that are gone, and writes those that are new or changed. -/
def store (before after : Disk) : IO Unit := do
  for (place, _) in before.files do
    if (after.node? place).isNone then
      IO.FS.removeFile (Machine.pathOf place).toDisplayString
  for (place, content) in after.files do
    unless before.files.contains (place, content) do
      let path := (Machine.pathOf place).toDisplayString
      IO.FS.createDirAll (Machine.pathOf place.dropLast).toDisplayString
      IO.FS.writeBinFile path (ByteArray.mk content.toArray)

/-- Runs the command line on the machine as it is. -/
def run (args : List String) : IO UInt32 := do
  let args := args.map Text.ofString
  let settings? := match CommandLine.parse args with
    | .ok (.run s) => some s
    | _ => none
  let m ← machine settings?
  let r := CommandLine.run Launch.launcher m args
  store m.disk r.machine.disk
  IO.print r.stdout.toDisplayString
  IO.eprint r.stderr.toDisplayString
  match r.exit with
  | .ok code => return code.toUInt32
  | .error _ => return 1

end ServiceWiring.Main

/-- The command line: the exit code of a run with the given arguments. -/
def main (args : List String) : IO UInt32 := ServiceWiring.Main.run args
