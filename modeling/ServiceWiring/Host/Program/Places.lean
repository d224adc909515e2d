import ServiceWiring.Host.Program.Files

/-!
# Programs for single files

Programs that make a file longer or shorter, give it another name or another owner, put a copy of it
in its place, or tell where and what it is.
-/

namespace ServiceWiring.Program

open ProcessM

/-- Does something with two operands, or complains that there are fewer or more. -/
def withTwo (name : Text) (operands : List Text) (action : Text → Text → ProcessM Nat) :
    ProcessM Nat :=
  match operands with
  | [] => missing name "operand"
  | [a] => missing name ("operand after " ++ a.curly)
  | [a, b] => action a b
  | _ :: _ :: extra :: _ => do
    misuse name ("extra operand " ++ extra.curly)
    return 1

/-- Gives a file another name. -/
def link (name : Text) (args : List Text) : ProcessM Nat :=
  withArguments name [] args 1 fun a => withTwo name a.operands fun source target => do
    let m ← machine
    let refuse : Refusal → ProcessM Nat := fun r => do
      warn name ("cannot create link " ++ target.shellQuoted ++ " to " ++ source.shellQuoted ++
        ": " ++ r.reason)
      return 1
    match m.find .lookAtName source, m.locate .make target with
    | .error fault, _ | _, .error fault => refuse fault.refusal
    | .ok (_, .directory), _ =>
      warn name ("cannot create link " ++ target.shellQuoted ++ " to " ++ source.shellQuoted ++
        ": Operation not permitted")
      return 1
    | .ok (old, node), .ok place =>
      if (m.disk.node? place).isSome then refuse .occupied
      else
        setMachine { m with disk := addPlace m.disk old place node }
        return 0

/-- Removes one file. -/
def unlink (name : Text) (args : List Text) : ProcessM Nat :=
  withArguments name [] args 1 fun a => do
    let m ← machine
    let refuse : Text → Refusal → ProcessM Nat := fun path r => do
      warn name ("cannot unlink " ++ path.shellQuoted ++ ": " ++ r.reason)
      return 1
    match a.operands with
    | [] => missing name "operand"
    | [path] =>
      match m.find .lookAtName path with
      | .error fault => refuse path fault.refusal
      | .ok (_, .directory) => refuse path .isDirectory
      | .ok (place, _) =>
        setMachine { m with disk := m.disk.remove place }
        return 0
    | _ :: extra :: _ =>
      misuse name ("extra operand " ++ extra.curly)
      return 1

/-- How long a file is to be, from how long it is. -/
def newLength? (t : Text) : Option (Nat → Nat) :=
  let (sign, r) : CodePoint × Text := match t with
    | c :: r => if (Text.ofString "+-<>/%").contains c then (c, r) else (0, t)
    | [] => (0, [])
  let ds := r.takeWhile CodePoint.isDigit
  if ds.isEmpty then none
  else
    (multiplier? (r.drop ds.length)).map fun k =>
      let n := Text.natOfDigits ds * k
      fun before =>
        if sign = 0x2B then before + n
        else if sign = 0x2D then before - n
        else if sign = 0x3C then min before n
        else if sign = 0x3E then max before n
        else if sign = 0x2F then before / max 1 n * n
        else if sign = 0x25 then (before + n - 1) / max 1 n * n
        else n

/-- Makes files longer or shorter. -/
def truncate (name : Text) (args : List Text) : ProcessM Nat :=
  let flags : List Flag :=
    [⟨'s', .value, "size"⟩, ⟨'r', .value, "reference"⟩, ⟨'c', .nothing, "no-create"⟩,
      ⟨'o', .nothing, "io-blocks"⟩]
  withArguments name flags args 1 fun a => do
    match a.value? 's', a.value? 'r' with
    | none, none =>
      misuse name ("you must specify either " ++ Text.curly "--size" ++ " or " ++
        Text.curly "--reference")
      return 1
    | size?, reference? =>
      match size?.map newLength? with
      | some none =>
        warn name ("Invalid number: " ++ Text.curly (size?.getD []))
        return 1
      | change? =>
        if a.operands.isEmpty then return ← missing name "file operand"
        let fixed ← match reference? with
          | none => pure (some none)
          | some path =>
            match (← machine).find .look path with
            | .ok (_, .file content _) => pure (some (some content.length))
            | .ok _ => pure (some (some 0))
            | .error fault =>
              warn name ("cannot stat " ++ path.shellQuoted ++ ": " ++ fault.refusal.reason)
              pure none
        match fixed with
        | none => return 1
        | some fixed =>
          a.operands.foldlM (fun (status : Nat) (path : Text) => do
            if a.has 'c' && ((← machine).find .look path).toOption.isNone then return status
            match ← openPath .change path with
            | .error r =>
              warn name ("cannot open " ++ path.shellQuoted ++ " for writing: " ++ r.reason)
              return 1
            | .ok _ =>
              let m ← machine
              if let .ok (place, .file content runs) := m.find .look path then
                let before := fixed.getD content.length
                let length := match change? with
                  | some (some f) => f before
                  | _ => before
                let content := content.take length ++
                  List.replicate (length - content.length) 0
                setMachine (m.put place (.file content runs))
              return status) 0

/-- The parts of a path that lead from one place to another. -/
def relativePath (start place : Place) : Text :=
  let shared := ((start.zip place).takeWhile fun (a, b) => a = b).length
  let up : List Text := List.replicate (start.length - shared) ".."
  let parts := up ++ (place.drop shared).map Utf8.decodeName
  if parts.isEmpty then "." else Text.joinWith "/" parts

/-- The place that a path names, whatever is there. -/
def nominalPlace (m : Machine) (path : Text) : Place :=
  let start := if Path.isAbsolute path then [] else m.directory
  (Text.splitOn Path.slash path).foldl (fun (p : Place) (name : Text) =>
    if name.isEmpty || name = "." then p
    else if name = ".." then p.dropLast
    else p ++ [Utf8.nameOctets name]) start

/-- Writes the real paths of files. -/
def realpath (name : Text) (args : List Text) : ProcessM Nat :=
  let flags : List Flag :=
    [⟨'e', .nothing, "canonicalize-existing"⟩, ⟨'m', .nothing, "canonicalize-missing"⟩,
      ⟨'L', .nothing, "logical"⟩, ⟨'P', .nothing, "physical"⟩, ⟨'q', .nothing, "quiet"⟩,
      ⟨'s', .nothing, "strip"⟩, ⟨'s', .nothing, "no-symlinks"⟩, ⟨'z', .nothing, "zero"⟩,
      ⟨'R', .value, "relative-to"⟩, ⟨'B', .value, "relative-base"⟩]
  withArguments name flags args 1 fun a => do
    if a.operands.isEmpty then return ← missing name "operand"
    let m ← machine
    let ending : CodePoint := if a.has 'z' then 0 else 0x0A
    let placeOf : Text → Except PathFault Place := fun path =>
      if a.has 's' then .ok (nominalPlace m path)
      else
        match (m.find .look path).map (·.1) with
        | .ok place => .ok place
        | .error fault =>
          if a.has 'm' then .ok ((m.locate .make path).toOption.getD (nominalPlace m path))
          else if a.has 'e' || fault.refusal ≠ .noEntry then .error fault
          else m.locate .make path
    a.operands.foldlM (fun (status : Nat) (path : Text) => do
      match if path.isEmpty then .error (PathFault.refused .noEntry path) else placeOf path with
      | .error fault =>
        unless a.has 'q' do
          warn name ((if path.isEmpty then Text.shellQuoted [] else path.shellWord) ++ ": " ++
            fault.refusal.reason)
        return 1
      | .ok place =>
        let start? := (a.value? 'R').bind fun t => (placeOf t).toOption
        say ((match start? with
          | some start => relativePath start place
          | none => Machine.pathOf place) ++ [ending])
        return status) 0

/-- Puts copies of files in their places, or makes directories. -/
def install (name : Text) (args : List Text) : ProcessM Nat :=
  let flags := Flag.ofLetters "bcCpsv" ++
    [⟨'d', .nothing, "directory"⟩, ⟨'D', .nothing, []⟩, ⟨'g', .value, "group"⟩,
      ⟨'m', .value, "mode"⟩, ⟨'o', .value, "owner"⟩, ⟨'t', .value, "target-directory"⟩,
      ⟨'T', .nothing, "no-target-directory"⟩, ⟨'v', .nothing, "verbose"⟩]
  withArguments name flags args 1 fun a => do
    let runs := ((a.value? 'm').bind (modeRuns? false)).getD true
    if a.has 'd' then
      if a.operands.isEmpty then return ← missing name "file operand"
      return ← a.operands.foldlM (fun (status : Nat) (path : Text) => do
        let (m, fault?) := (← machine).makeDirectories (Location.ofText path)
        setMachine m
        match fault? with
        | none => return status
        | some fault =>
          warn name ("cannot create directory " ++ path.curly ++ ": " ++ fault.refusal.reason)
          return 1) 0
    let (sources, target?) := match a.value? 't' with
      | some t => (a.operands, some t)
      | none => (a.operands.dropLast, a.operands.getLast?)
    match sources, target? with
    | [], none => missing name "file operand"
    | [], some t => missing name ("destination file operand after " ++ t.shellQuoted)
    | _, none => missing name "file operand"
    | sources, some target =>
      if a.has 'D' then
        let directory := if a.has 't' then target else dropLastName target
        setMachine ((← machine).makeDirectories (Location.ofText directory)).1
      let isInto := a.has 't' || 1 < sources.length
      if isInto && ((← machine).isDirectory target).toOption ≠ some true then
        let r := match (← machine).find .look target with
          | .ok _ => Refusal.notDirectory
          | .error fault => fault.refusal
        let said : Text := if a.has 't' then "failed to access " else "target "
        warn name (said ++ target.shellQuoted ++ ": " ++ r.reason)
        return 1
      sources.foldlM (fun (status : Nat) (source : Text) => do
        let m ← machine
        let path := if a.has 'T' then target else destination m source target
        match m.find .look source, m.locate .make path with
        | .error fault, _ =>
          warn name ("cannot stat " ++ source.shellQuoted ++ ": " ++ fault.refusal.reason)
          return 1
        | .ok (_, .directory), _ =>
          warn name ("omitting directory " ++ source.shellQuoted)
          return 1
        | _, .error fault =>
          warn name ("cannot create regular file " ++ path.shellQuoted ++ ": " ++
            fault.refusal.reason)
          return 1
        | .ok _, .ok place =>
          match ← readAt source with
          | .ok o =>
            replaceAt place (.file o runs)
            if a.has 'v' then say (source.shellQuoted ++ " -> " ++ path.shellQuoted ++ "\n")
            return status
          | .error r =>
            warn name ("cannot open " ++ source.shellQuoted ++ " for reading: " ++ r.reason)
            return 1) 0

/-- Gives files to a user or a group, all of which belong to one here. -/
def chown (name : Text) (args : List Text) : ProcessM Nat :=
  withArguments name (Flag.ofLetters "cfvhHLPR" ++ [⟨'R', .nothing, "recursive"⟩]) args 1
    fun a => do
      match a.operands with
      | [] => missing name "operand"
      | [owner] => missing name ("operand after " ++ owner.curly)
      | owner :: files =>
        let byGroup := Path.base name = "chgrp"
        let (user, group) := if byGroup then ([], owner) else
          let (u, g?) := Text.cut 0x3A owner
          (u, g?.getD [])
        let known : List Text := ["root", "nogroup", "daemon", "bin", "sys"]
        let isGroup := fun (t : Text) => t.all CodePoint.isDigit || known.contains t
        if !(user.isEmpty || user.all CodePoint.isDigit || user = "root" || user = "nobody") then
          warn name ("invalid user: " ++ owner.curly)
          return 1
        if !isGroup group then
          warn name ("invalid group: " ++ owner.curly)
          return 1
        files.foldlM (fun (status : Nat) (file : Text) => do
          match (← machine).find .look file with
          | .ok _ => return status
          | .error fault =>
            warn name ("cannot access " ++ file.shellQuoted ++ ": " ++ fault.refusal.reason)
            return 1) 0

/-- Makes sure that files are on the disk, where they are already. -/
def sync (name : Text) (args : List Text) : ProcessM Nat :=
  withArguments name [⟨'d', .nothing, "data"⟩, ⟨'f', .nothing, "file-system"⟩] args 1 fun a =>
    a.operands.foldlM (fun (status : Nat) (file : Text) => do
      match (← machine).find .look file with
      | .ok _ => return status
      | .error fault =>
        warn name ("error opening " ++ file.shellQuoted ++ ": " ++ fault.refusal.reason)
        return 1) 0

/-! ## Copying blocks -/

/-- Copies blocks of octets from one file to another. -/
def dd (name : Text) (args : List Text) : ProcessM Nat := do
  let args := if args.head? = some ("--" : Text) then args.drop 1 else args
  let settings := args.map (Text.cut 0x3D)
  let known : List Text :=
    ["if", "of", "bs", "ibs", "obs", "cbs", "count", "skip", "seek", "iseek", "oseek", "conv",
      "iflag", "oflag", "status"]
  match settings.find? fun (key, value?) => value?.isNone || !known.contains key with
  | some (key, value?) =>
    let shown := match value? with
      | some value => key ++ 0x3D :: value
      | none => key
    misuse name ("unrecognized operand '" ++ shown ++ "'")
    return 1
  | none =>
    let value? := fun (key : Text) => (settings.reverse.lookup key).join
    let number := fun (key : Text) (usual : Nat) => match value? key with
      | none => some usual
      | some t => amount? t
    let list := fun (key : Text) => Text.splitOn 0x2C ((value? key).getD [])
    let numbers : List Text := ["bs", "ibs", "count", "skip", "seek", "iseek", "oseek"]
    match numbers.find? fun key => (number key 1).isNone with
    | some key =>
      warn name ("invalid number: '" ++ (value? key).getD [] ++ "'")
      return 1
    | none =>
      let get := fun (key : Text) (usual : Nat) => (number key usual).getD usual
      let size := get "bs" (get "ibs" 512)
      let written := get "bs" (get "obs" 512)
      if size = 0 || written = 0 then
        warn name "invalid number: '0'"
        return 1
      let input ← match value? "if" with
        | none => readAll 0
        | some path => readAt path
      match input with
      | .error r =>
        let path := (value? "if").getD "standard input"
        warn name (if r = .isDirectory then "error reading " ++ path.shellQuoted ++ ": " ++ r.reason
          else "failed to open " ++ path.shellQuoted ++ ": " ++ r.reason)
        return 1
      | .ok o =>
        let start := size * get "skip" (get "iseek" 0)
        let length := match value? "count" with
          | some _ => size * get "count" 0
          | none => o.length
        let part := (o.drop start).take length
        if (value? "if").isNone then giveBack 0 false (o.drop (start + part.length))
        let conversions := list "conv"
        let changed := part.map fun b =>
          if conversions.contains "ucase" && 0x61 ≤ b && b ≤ 0x7A then b - 0x20
          else if conversions.contains "lcase" && 0x41 ≤ b && b ≤ 0x5A then b + 0x20
          else b
        let changed := if conversions.contains "swab" then swapped changed else changed
        let changed := if conversions.contains "sync" then
            changed ++ List.replicate ((size - changed.length % size) % size) 0 else changed
        let offset := written * get "seek" (get "oseek" 0)
        match value? "of" with
        | none => put changed
        | some path =>
          let m ← machine
          let before := match m.find .look path with
            | .ok (_, .file content _) => content
            | _ => []
          match ← openPath .change path with
          | .error r =>
            warn name ("failed to open " ++ path.shellQuoted ++ ": " ++ r.reason)
            return 1
          | .ok _ =>
            let m ← machine
            if let .ok (place, .file _ runs) := m.find .look path then
              let kept := if conversions.contains "notrunc" then before else before.take offset
              setMachine (m.put place (.file (overwrite kept offset changed) runs))
        let records := fun (size n : Nat) =>
          Text.ofNat (n / size) ++ "+" ++ (if n % size = 0 then "0" else "1")
        let status := (value? "status").getD []
        unless status = "none" do
          complain (records size part.length ++ " records in")
          complain (records written changed.length ++ " records out")
          unless status = "noxfer" do
            complain (Text.ofNat changed.length ++ " bytes copied, 0 s, 0 B/s")
        return 0
where
  /-- A number with a unit. -/
  amount? (t : Text) : Option Nat :=
    let ds := t.takeWhile CodePoint.isDigit
    if ds.isEmpty then none
    else
      let unit := t.drop ds.length
      let n := Text.natOfDigits ds
      if unit = "c" || unit = "B" then some n
      else if unit = "w" then some (2 * n)
      else (multiplier? unit).map (n * ·)
  /-- The octets with each two of them swapped. -/
  swapped : Octets → Octets
    | a :: b :: r => b :: a :: swapped r
    | r => r

/-! ## What files are -/

/-- What is known of a file: what kind it is, its mode and its size. -/
def described (n : Node) : Text × Text × Text × Nat :=
  match n with
  | .file content runs =>
    (if content.isEmpty then "regular empty file" else "regular file",
      if runs then "-rwxr-xr-x" else "-rw-r--r--", if runs then "755" else "644", content.length)
  | .directory => ("directory", "drwxr-xr-x", "755", 4096)
  | .link target => ("symbolic link", "lrwxrwxrwx", "777", target.length)
  | .device | .stream _ => ("character special file", "crw-rw-rw-", "666", 0)

/-- A format with what is known of a file in the place of its marks. The fuel is more than its
length. -/
def statText (escapes : Bool) (path : Text) (n : Node) : Nat → Text → Text
  | 0, _ | _, [] => []
  | fuel + 1, c :: r =>
    let (kind, mode, digits, size) := described n
    if c = 0x25 then
      let marked : List (CodePoint × Text) :=
        [(0x6E, path), (0x73, Text.ofNat size), (0x46, kind), (0x41, mode), (0x61, digits),
          (0x55, "root"), (0x47, "root"), (0x75, "0"), (0x67, "0"), (0x68, "1"), (0x25, "%"),
          (0x4E, match n with
            | .link target => path.shellQuoted ++ " -> " ++ (Utf8.decodeName target).shellQuoted
            | _ => path.shellQuoted)]
      match r with
      | d :: r => (marked.lookup d).getD "?" ++ statText escapes path n fuel r
      | [] => "%"
    else if escapes && c = 0x5C then
      match r with
      | 0x6E :: r => 0x0A :: statText escapes path n fuel r
      | 0x74 :: r => 0x09 :: statText escapes path n fuel r
      | 0x5C :: r => 0x5C :: statText escapes path n fuel r
      | r => 0x5C :: statText escapes path n fuel r
    else c :: statText escapes path n fuel r

/-- Writes what is known of files in a format. -/
def stat (name : Text) (args : List Text) : ProcessM Nat :=
  let flags : List Flag :=
    [⟨'L', .nothing, "dereference"⟩, ⟨'c', .value, "format"⟩, ⟨'p', .value, "printf"⟩,
      ⟨'t', .nothing, "terse"⟩, ⟨'f', .nothing, "file-system"⟩]
  withArguments name flags args 1 fun a => do
    if a.operands.isEmpty then return ← missing name "operand"
    a.operands.foldlM (fun (status : Nat) (path : Text) => do
      let m ← machine
      match m.find (if a.has 'L' then .look else .lookAtName) path with
      | .error fault =>
        warn name ("cannot statx " ++ path.shellQuoted ++ ": " ++ fault.refusal.reason)
        return 1
      | .ok (_, n) =>
        match a.value? 'p', a.value? 'c' with
        | some f, _ => say (statText true path n (f.length + 1) f)
        | none, some f => say (statText false path n (f.length + 1) f ++ [0x0A])
        | none, none => say ("  File: " ++ path ++ "\n")
        return status) 0

end ServiceWiring.Program
