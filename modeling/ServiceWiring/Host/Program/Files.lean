import ServiceWiring.Host.Program.Lines
import ServiceWiring.Path.Basic

/-!
# Programs for paths and files

Programs that look at paths, and programs that make, copy, move and remove what stands at them.
-/

namespace ServiceWiring.Program

open ProcessM

/-- Complains that operands are missing. -/
def missing (name : Text) (what : Text) : ProcessM Nat := do
  misuse name ("missing " ++ what)
  return 1

/-! ## Paths -/

/-- The last name of a path. -/
def lastName (path : Text) : Text :=
  let trimmed := Text.dropRight Path.slash path
  if trimmed.isEmpty then if path.isEmpty then [] else "/" else Path.base trimmed

/-- The path without its last name. -/
def dropLastName (path : Text) : Text :=
  let trimmed := Text.dropRight Path.slash path
  if trimmed.isEmpty then if path.isEmpty then "." else "/"
  else if !trimmed.contains Path.slash then "."
  else
    let before := Text.dropRight Path.slash (Path.directory trimmed)
    if before.isEmpty then "/" else before

/-- Writes the last name of a path. -/
def basename (name : Text) (args : List Text) : ProcessM Nat := do
  let flags : List Flag := [⟨'a', .nothing, "multiple"⟩, ⟨'s', .value, "suffix"⟩]
  match Arguments.read flags false args with
  | .error e =>
    misuse name e.message
    return 1
  | .ok a =>
    let strip := fun (t ending : Text) =>
      if t.length ≤ ending.length || !ending.isSuffixOf t then t
      else t.take (t.length - ending.length)
    match a.operands, a.has 'a' || a.has 's' with
    | [], _ => missing name "operand"
    | paths, true =>
      let ending := (a.value? 's').getD []
      say (paths.flatMap fun path => strip (lastName path) ending ++ [0x0A])
      return 0
    | [path], _ =>
      say (lastName path ++ [0x0A])
      return 0
    | [path, ending], _ =>
      say (strip (lastName path) ending ++ [0x0A])
      return 0
    | _ :: _ :: extra :: _, _ =>
      misuse name ("extra operand " ++ extra.curly)
      return 1

/-- Writes the directory of a path. -/
def dirname (name : Text) (args : List Text) : ProcessM Nat :=
  withArguments name [] args 1 fun a => do
    if a.operands.isEmpty then missing name "operand"
    else
      say (a.operands.flatMap fun path => dropLastName path ++ [0x0A])
      return 0

/-- Writes the working directory. -/
def pwd : ProcessM Nat := do
  say (Machine.pathOf (← machine).directory ++ [0x0A])
  return 0

/-- Writes what links hold, or with an option the real path of what they lead to. -/
def readlink (name : Text) (args : List Text) : ProcessM Nat :=
  withArguments name (Flag.ofLetters "nfemqs") args 1 fun a => do
    if a.operands.isEmpty then missing name "operand"
    else
      let m ← machine
      let ending : Text := if a.has 'n' then [] else [0x0A]
      a.operands.foldlM (fun (status : Nat) path => do
        if a.has 'f' || a.has 'e' || a.has 'm' then
          match m.locate .make path, m.locate .look path with
          | _, .ok place | .ok place, _ =>
            say (Machine.pathOf place ++ ending)
            return status
          | _, _ => return 1
        else
          match m.find .lookAtName path with
          | .ok (_, .link target) =>
            say (Utf8.decodeName target ++ ending)
            return status
          | _ => return 1) 0

/-! ## Making -/

/-- Makes directories. -/
def mkdir (name : Text) (args : List Text) : ProcessM Nat :=
  withArguments name [⟨'p', .nothing, "parents"⟩, ⟨'m', .value, "mode"⟩, ⟨'v', .nothing, []⟩] args 1
    fun a => do
      if a.operands.isEmpty then return ← missing name "operand"
      a.operands.foldlM (fun (status : Nat) (path : Text) => do
        let m ← machine
        let (m, fault?) := if a.has 'p' then m.makeDirectories (Location.ofText path)
          else match m.makeDirectory path with
            | .ok m => (m, none)
            | .error fault => (m, some fault)
        setMachine m
        match fault? with
        | none => return status
        | some fault =>
          let l := Location.ofText path
          -- The first part of the path that is no directory is what is in the way.
          let parts := (List.range l.names.length).map fun k =>
            ({ l with names := l.names.take (k + 1) } : Location).toText
          let inTheWay? := if fault.refusal = .notDirectory then
              parts.find? fun part => (m.isDirectory part).toOption ≠ some true else none
          warn name ("cannot create directory " ++ (inTheWay?.getD path).curly ++ ": " ++
            fault.refusal.reason)
          return 1) 0

/-- Makes files that do not exist. -/
def touch (name : Text) (args : List Text) : ProcessM Nat :=
  withArguments name (Flag.ofLetters "acmr:d:t:") args 1 fun a => do
    if a.operands.isEmpty then return ← missing name "file operand"
    a.operands.foldlM (fun (status : Nat) (path : Text) => do
      match (← machine).find .look path with
      | .ok _ => return status
      | .error _ =>
        if a.has 'c' then return status
        match ← openPath .extend path with
        | .ok _ => return status
        | .error r =>
          warn name ("cannot touch " ++ path.shellQuoted ++ ": " ++ r.reason)
          return 1) 0

/-- The template with the last letters `X` replaced by a number; nothing, if there are fewer than
three. -/
def numbered? (template : Text) (n : Nat) : Option Text :=
  let after := (template.reverse.takeWhile (· ≠ 0x58)).reverse
  let before := template.take (template.length - after.length)
  let width := (before.reverse.takeWhile (· = 0x58)).length
  let digits := Text.ofNat n
  if width < 3 || after.contains Path.slash then none
  else
    some (before.take (before.length - width) ++ List.replicate (width - digits.length) 0x30 ++
      digits ++ after)

/-- Makes a file or a directory that has a name of its own. -/
def mktemp (name : Text) (args : List Text) : ProcessM Nat :=
  withArguments name
    [⟨'d', .nothing, "directory"⟩, ⟨'u', .nothing, "dry-run"⟩, ⟨'q', .nothing, "quiet"⟩,
      ⟨'p', .value, []⟩, ⟨'t', .nothing, []⟩] args 1 fun a => do
      let m ← machine
      let directory : Text := (a.value? 'p').getD ((m.environmentValue? "TMPDIR").getD "/tmp")
      let isElsewhere := a.operands.isEmpty || a.has 'p' || a.has 't'
      let template : Text := a.operands.headD "tmp.XXXXXXXXXX"
      let path := if isElsewhere then Path.join directory template else template
      let isFree := fun (p : Text) => (m.find .lookAtName p).toOption.isNone
      let free? := ((List.range (m.disk.nodes.length + 1)).filterMap (numbered? path)).find? isFree
      match free?, a.operands with
      | _, _ :: _ :: _ =>
        misuse name "too many templates"
        return 1
      | none, _ =>
        warn name ("too few X's in template " ++ template.curly)
        return 1
      | some p, _ =>
        let made := if a.has 'd' then m.makeDirectory p else m.writeFile p []
        match a.has 'u', made with
        | true, _ => say (p ++ [0x0A])
        | false, .ok m => do
          setMachine m
          say (p ++ [0x0A])
        | false, .error fault =>
          let kind : Text := if a.has 'd' then "directory" else "file"
          unless a.has 'q' do
            warn name ("failed to create " ++ kind ++ " via template " ++ path.curly ++ ": " ++
              fault.refusal.reason)
          return 1
        return 0

/-- Where something goes that is put at a path: into it, if it is a directory. -/
def destination (m : Machine) (source target : Text) : Text :=
  match m.isDirectory target with
  | .ok true => Path.join target (lastName source)
  | _ => target

/-- The disk with what stands at a place at another one as well. -/
def addPlace (d : Disk) (p q : Place) (n : Node) : Disk :=
  match n with
  | .file .. => d.addName p q
  | _ => d.put q n

/-- Makes links. -/
def ln (name : Text) (args : List Text) : ProcessM Nat :=
  withArguments name (Flag.ofLetters "sfnvrT") args 1 fun a => do
    let (source, target) ← match a.operands with
      | [] => return ← missing name "file operand"
      | [source] => pure (source, Path.join "." (lastName source))
      | source :: target :: _ => pure (source, destination (← machine) source target)
    let m ← machine
    let kind : Text := if a.has 's' then "symbolic" else "hard"
    match m.locate .make target with
    | .error fault =>
      warn name ("failed to create " ++ kind ++ " link " ++ target.shellQuoted ++ ": " ++
        fault.refusal.reason)
      return 1
    | .ok place =>
      if (m.disk.node? place).isSome && !a.has 'f' then
        warn name ("failed to create " ++ kind ++ " link " ++ target.shellQuoted ++ ": File exists")
        return 1
      if a.has 's' then
        replaceAt place (.link (Utf8.nameOctets source))
        return 0
      else
        match m.find .lookAtName source with
        | .ok (_, .directory) =>
          warn name (source ++ ": hard link not allowed for directory")
          return 1
        | .ok (old, node) =>
          if old = place then
            warn name (source.shellQuoted ++ " and " ++ target.shellQuoted ++ " are the same file")
            return 1
          unless m.disk.SameFile old place do
            setMachine { m with disk := addPlace (m.disk.remove place) old place node }
          return 0
        | .error fault =>
          warn name ("failed to access " ++ source.shellQuoted ++ ": " ++ fault.refusal.reason)
          return 1

/-- Whether a mode lets a file be run, if it is one: a number, or changes by letters. -/
def modeRuns? (before : Bool) (t : Text) : Option Bool :=
  if !t.isEmpty && t.all fun c => 0x30 ≤ c && c ≤ 0x37 then
    let n := t.foldl (fun n d => 8 * n + (d.val - 0x30)) 0
    some (n % 2 = 1 || n / 8 % 2 = 1 || n / 64 % 2 = 1)
  else
    (Text.splitOn ',' t).foldl (fun (runs? : Option Bool) clause =>
      let who := clause.takeWhile fun c => c = 0x75 || c = 0x67 || c = 0x6F || c = 0x61
      match runs?, clause.drop who.length with
      | some runs, operator :: what =>
        let isRight := fun (c : CodePoint) =>
          c = 0x72 || c = 0x77 || c = 0x78 || c = 0x58 || c = 0x73 || c = 0x74
        if !what.all isRight then none
        else if operator = 0x2B then some (runs || what.contains 0x78)
        else if operator = 0x2D then some (runs && !what.contains 0x78)
        else if operator = 0x3D then some (what.contains 0x78)
        else none
      | _, _ => none) (some before)

/-- Changes who may run a file. -/
def chmod (name : Text) (args : List Text) : ProcessM Nat := do
  -- A mode that takes rights away looks like an option.
  let isOption := fun (arg : Text) =>
    (["-R", "-v", "-f", "-c", "--"] : List Text).contains arg
  match args.filter fun arg => !isOption arg with
  | [] => missing name "operand"
  | [mode] =>
    misuse name ("missing operand after " ++ mode.curly)
    return 1
  | mode :: files =>
    if (modeRuns? false mode).isNone then
      misuse name ("invalid mode: " ++ mode.curly)
      return 1
    files.foldlM (fun (status : Nat) (file : Text) => do
      let m ← machine
      match m.find .look file with
      | .ok (place, .file content runs) =>
        setMachine (m.put place (.file content ((modeRuns? runs mode).getD runs)))
        return status
      | .ok _ => return status
      | .error fault =>
        warn name ("cannot access " ++ file.shellQuoted ++ ": " ++ fault.refusal.reason)
        return 1) 0

/-! ## Copying, moving and removing -/

/-- What stands at a place and below it. -/
def nodesBelow (d : Disk) (p : Place) : List (Place × Node) :=
  d.entries.filter fun (q, _) => p.isPrefixOf q

/-- The disk without a place and what is below it. -/
def removeBelow (d : Disk) (p : Place) : Disk :=
  (nodesBelow d p).foldl (fun d (q, _) => d.remove q) d

/-- The disk with all that is at a place and below it at another one instead. -/
def moveBelow (d : Disk) (p q : Place) : Disk :=
  let moved := fun (r : Place) => if p.isPrefixOf r then q ++ r.drop p.length else r
  { nodes := d.nodes.map fun (r, node) => (moved r, node)
    aliases := d.aliases.map fun (r, owner) => (moved r, moved owner) }

/-- The disk with a copy of what is at a place and below it at another one. -/
def copyBelow (d : Disk) (p q : Place) : Disk :=
  (nodesBelow d p).foldr (fun (r, node) d => d.put (q ++ r.drop p.length) node) d

/-- The sources and the target of a copy or a move. -/
def sourcesAndTarget (name : Text) (operands : List Text) :
    ProcessM (Option (List Text × Text)) := do
  match operands with
  | [] =>
    misuse name "missing file operand"
    return none
  | [file] =>
    misuse name ("missing destination file operand after " ++ file.shellQuoted)
    return none
  | operands =>
    let target := operands.getLast?.getD []
    let sources := operands.dropLast
    if 1 < sources.length && ((← machine).isDirectory target).toOption != some true then
      let r := match (← machine).find .look target with
        | .ok _ => Refusal.notDirectory
        | .error fault => fault.refusal
      warn name ("target " ++ target.shellQuoted ++ ": " ++ r.reason)
      return none
    return some (sources, target)

/-- Copies files. -/
def cp (name : Text) (args : List Text) : ProcessM Nat :=
  withArguments name (Flag.ofLetters "rRafpvnLPiuT") args 1 fun a => do
    match ← sourcesAndTarget name a.operands with
    | none => return 1
    | some (sources, target) =>
      let whole := a.has 'r' || a.has 'R' || a.has 'a'
      sources.foldlM (fun (status : Nat) (source : Text) => do
        let m ← machine
        let path := destination m source target
        match m.find .look source, m.locate .write path with
        | .error fault, _ =>
          warn name ("cannot stat " ++ source.shellQuoted ++ ": " ++ fault.refusal.reason)
          return 1
        | .ok (place, .directory), _ =>
          if !whole then
            warn name ("-r not specified; omitting directory " ++ source.shellQuoted)
            return 1
          match m.locate .make path with
          | .ok new =>
            setMachine { m with disk := copyBelow m.disk place new }
            return status
          | .error fault =>
            warn name ("cannot create directory " ++ path.shellQuoted ++ ": " ++
              fault.refusal.reason)
            return 1
        | _, .error fault =>
          let failure : Text :=
            if fault.refusal = .noEntry then "cannot create regular file " else "cannot stat "
          warn name (failure ++ path.shellQuoted ++ ": " ++ fault.refusal.reason)
          return 1
        | .ok (place, node), .ok new =>
          if m.disk.SameFile place new then
            warn name (source.shellQuoted ++ " and " ++ path.shellQuoted ++ " are the same file")
            return 1
          if a.has 'n' && (m.disk.node? new).isSome then return status
          let content ← readAt source
          match m.disk.node? new with
          | none => setMachine (m.put new (.file [] (node matches .file _ true)))
          | some _ => pure ()
          match content, ← openPath .replace path with
          | .ok o, .ok i =>
            writeTo i o
            return status
          | .error r, _ | _, .error r =>
            warn name ("cannot open " ++ source.shellQuoted ++ " for reading: " ++ r.reason)
            return 1) 0

/-- Moves files. -/
def mv (name : Text) (args : List Text) : ProcessM Nat :=
  withArguments name (Flag.ofLetters "fnviuT") args 1 fun a => do
    match ← sourcesAndTarget name a.operands with
    | none => return 1
    | some (sources, target) =>
      sources.foldlM (fun (status : Nat) (source : Text) => do
        let m ← machine
        let path := destination m source target
        match m.find .lookAtName source, m.locate .make path with
        | .error fault, _ =>
          warn name ("cannot stat " ++ source.shellQuoted ++ ": " ++ fault.refusal.reason)
          return 1
        | _, .error fault =>
          warn name ("cannot move " ++ source.shellQuoted ++ " to " ++ path.shellQuoted ++ ": " ++
            fault.refusal.reason)
          return 1
        | .ok (place, _), .ok new =>
          if place = new then
            warn name (source.shellQuoted ++ " and " ++ path.shellQuoted ++ " are the same file")
            return 1
          if a.has 'n' && (m.disk.node? new).isSome then return status
          setMachine { m with disk := moveBelow (removeBelow m.disk new) place new }
          return status) 0

/-- Removes files, and directories if that is asked for. -/
def rm (name : Text) (args : List Text) : ProcessM Nat :=
  withArguments name
    (Flag.ofLetters "ivId" ++ [⟨'f', .nothing, "force"⟩, ⟨'r', .nothing, "recursive"⟩,
      ⟨'R', .nothing, []⟩]) args 1 fun a => do
    if a.operands.isEmpty then
      if a.has 'f' then return 0 else return ← missing name "operand"
    a.operands.foldlM (fun (status : Nat) (path : Text) => do
      let m ← machine
      match m.find .lookAtName path with
      | .error fault =>
        if a.has 'f' && fault.meansAbsent then return status
        warn name ("cannot remove " ++ path.shellQuoted ++ ": " ++ fault.refusal.reason)
        return 1
      | .ok (place, .directory) =>
        if a.has 'r' || a.has 'R' then
          setMachine { m with disk := removeBelow m.disk place }
          return status
        else if a.has 'd' && (m.disk.namesIn place).isEmpty then
          setMachine { m with disk := m.disk.remove place }
          return status
        else
          warn name ("cannot remove " ++ path.shellQuoted ++ ": Is a directory")
          return 1
      | .ok (place, _) =>
        setMachine { m with disk := m.disk.remove place }
        return status) 0

/-- Removes directories that hold nothing. -/
def rmdir (name : Text) (args : List Text) : ProcessM Nat :=
  withArguments name (Flag.ofLetters "pv") args 1 fun a => do
    if a.operands.isEmpty then return ← missing name "operand"
    a.operands.foldlM (fun (status : Nat) (path : Text) => do
      let m ← machine
      let refusal? ← match m.find .lookAtName path with
        | .error fault => pure (some fault.refusal)
        | .ok (place, .directory) =>
          if (m.disk.namesIn place).isEmpty then
            setMachine { m with disk := m.disk.remove place }
            pure none
          else pure (some .notEmpty)
        | .ok _ => pure (some .notDirectory)
      match refusal? with
      | none => return status
      | some r =>
        warn name ("failed to remove " ++ path.shellQuoted ++ ": " ++ r.reason)
        return 1) 0

/-! ## Looking -/

/-- Writes the names in directories, one a line. -/
def ls (name : Text) (args : List Text) : ProcessM Nat :=
  withArguments name (Flag.ofLetters "1aAdFpRrtSUl") args 2 fun a => do
    let m ← machine
    let paths := if a.operands.isEmpty then [("." : Text)] else a.operands
    let visible := fun (t : Text) => a.has 'a' || a.has 'A' || t.head? ≠ some 0x2E
    let names := fun (place : Place) => (m.disk.namesIn place).map Utf8.decodeName
    let inOrder := fun (ts : List Text) => if a.has 'r' then ts.reverse else ts
    let missing := paths.filter fun path => (m.find .look path).toOption.isNone
    for path in missing do
      let reason := match m.find .look path with
        | .error fault => fault.refusal.reason
        | .ok _ => []
      warn name ("cannot access " ++ path.shellQuoted ++ ": " ++ reason)
    let found := paths.filter fun path => (m.find .look path).toOption.isSome
    let isDirectory := fun path => !a.has 'd' && (m.isDirectory path).toOption = some true
    let isFirst := fun (s t : Text) => decide (Utf8.nameOctets s ≤ Utf8.nameOctets t)
    let files := (found.filter fun path => !isDirectory path).mergeSort isFirst
    say ((inOrder files).flatMap (· ++ [0x0A]))
    let directories := (found.filter isDirectory).mergeSort isFirst
    for (path, i) in (inOrder directories).zipIdx do
      if 1 < paths.length then
        let gap : Text := if i = 0 && files.isEmpty then [] else [0x0A]
        say (gap ++ path ++ ":\n")
      if let .ok (place, _) := m.find .look path then
        let dots : List Text := if a.has 'a' then [".", ".."] else []
        say ((inOrder (dots ++ (names place).filter visible)).flatMap (· ++ [0x0A]))
    return if missing.isEmpty then 0 else 2

/-- The first place where octets differ: how many come before, and how many line breaks. -/
def firstDifference (n lines : Nat) : Octets → Octets → Option (Nat × Nat × Bool)
  | [], [] => none
  | [], _ => some (n, lines, true)
  | _, [] => some (n, lines, false)
  | a :: r, b :: s =>
    if a = b then firstDifference (n + 1) (if a = 0x0A then lines + 1 else lines) r s
    else some (n, lines, false)

/-- Compares two files. -/
def cmp (name : Text) (args : List Text) : ProcessM Nat :=
  withArguments name [⟨'s', .nothing, "silent"⟩, ⟨'s', .nothing, "quiet"⟩, ⟨'l', .nothing, []⟩]
    args 2 fun a => do
      let lacking : Text → ProcessM Nat := fun last => do
        warn name ("missing operand after '" ++ last ++ "'")
        warn name ("Try '" ++ name ++ " --help' for more information.")
        return 2
      match a.operands with
      | [] => lacking name
      | first :: more =>
        let second := more.headD "-"
        let readOne : Text → ProcessM (Option Octets) := fun file => do
          match ← readPath file with
          | .ok o => return some o
          | .error r =>
            unless a.has 's' do warn name (file ++ ": " ++ r.reason)
            return none
        match ← readOne first, ← readOne second with
        | some o, some q =>
          match firstDifference 0 0 o q with
          | none => return 0
          | some (n, lines, _) =>
            unless a.has 's' do
              if n = o.length || n = q.length then
                let short : Text := if n = o.length then first else second
                warn name ("EOF on " ++ short ++ " after byte " ++ Text.ofNat n ++ ", line " ++
                  Text.ofNat lines)
              else
                let files : Text := first ++ " " ++ second
                say (files ++ " differ: byte " ++ Text.ofNat (n + 1) ++ ", line " ++
                  Text.ofNat (lines + 1) ++ "\n")
            return 1
        | _, _ => return 2

end ServiceWiring.Program
