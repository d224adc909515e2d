import ServiceWiring.Path.Basic
import ServiceWiring.Host.Program.Options
import ServiceWiring.Host.Program.World

/-!
# Programs about the user and the system

Programs that tell who runs them, on what, and where programs are. The user is the one with the
number zero.
-/

namespace ServiceWiring.Program

open ProcessM

/-- A user: the number, the name, and the number and the name of the group. -/
structure User where
  /-- The number. -/
  number : Nat
  /-- The name. -/
  name : Text
  /-- The number of the group. -/
  groupNumber : Nat
  /-- The name of the group. -/
  groupName : Text
deriving DecidableEq, Repr

/-- The user who runs programs. -/
def self : User := ⟨0, "root", 0, "root"⟩

/-- The users that are known. -/
def users : List User :=
  [self, ⟨1, "daemon", 1, "daemon"⟩, ⟨2, "bin", 2, "bin"⟩, ⟨3, "sys", 3, "sys"⟩,
    ⟨8, "mail", 8, "mail"⟩, ⟨33, "www-data", 33, "www-data"⟩, ⟨65534, "nobody", 65534, "nogroup"⟩]

/-- The user of a name or a number. -/
def userOf? (t : Text) : Option User :=
  users.find? fun u => u.name = t || u.number = Text.natOfDigits t && t.all CodePoint.isDigit &&
    !t.isEmpty

/-- Does something unless there are operands, which are refused with a status. -/
def withoutOperands (name : Text) (a : Arguments) (status : Nat) (action : ProcessM Nat) :
    ProcessM Nat :=
  match a.operands with
  | [] => action
  | extra :: _ => do
    misuse name ("extra operand " ++ extra.curly)
    return status

/-- Writes the name of the user. -/
def whoami (name : Text) (args : List Text) : ProcessM Nat :=
  withArguments name [] args 1 fun a => withoutOperands name a 1 do
    say (self.name ++ [0x0A])
    return 0

/-- Writes the name that the user logged in by, which there is none of. -/
def logname (name : Text) (args : List Text) : ProcessM Nat :=
  withArguments name [] args 1 fun a => withoutOperands name a 1 do
    warn name "no login name"
    return 1

/-- Writes the names of the users who are logged in, of whom there are none. -/
def listUsers (name : Text) (args : List Text) : ProcessM Nat :=
  withArguments name [] args 1 fun _ => return 0

/-- Writes the name of the terminal, which the input is none. -/
def tty (name : Text) (args : List Text) : ProcessM Nat :=
  withArguments name [⟨'s', .nothing, "silent"⟩, ⟨'s', .nothing, "quiet"⟩] args 2 fun a =>
    withoutOperands name a 2 do
      unless a.has 's' do say "not a tty\n"
      return 1

/-- Writes the kind of the machine. -/
def arch (name : Text) (args : List Text) : ProcessM Nat :=
  withArguments name [] args 1 fun a => withoutOperands name a 1 do
    say "x86_64\n"
    return 0

/-- Writes what the system is called. -/
def uname (name : Text) (args : List Text) : ProcessM Nat :=
  let flags : List Flag :=
    [⟨'a', .nothing, "all"⟩, ⟨'s', .nothing, "kernel-name"⟩, ⟨'n', .nothing, "nodename"⟩,
      ⟨'r', .nothing, "kernel-release"⟩, ⟨'v', .nothing, "kernel-version"⟩,
      ⟨'m', .nothing, "machine"⟩, ⟨'p', .nothing, "processor"⟩,
      ⟨'i', .nothing, "hardware-platform"⟩, ⟨'o', .nothing, "operating-system"⟩]
  withArguments name flags args 1 fun a => withoutOperands name a 1 do
    let all := a.has 'a'
    let parts : List (Char × Text) :=
      [('s', "Linux"), ('n', "localhost"), ('r', "6.1.0"), ('v', "#1 SMP"), ('m', "x86_64")]
    let unknown : List (Char × Text) := [('p', "unknown"), ('i', "unknown")]
    let known := parts.filter fun (c, _) => all || a.has c || c = 's' && a.options.isEmpty
    let others := unknown.filter fun (c, _) => a.has c
    let system : List Text := if all || a.has 'o' then ["GNU/Linux"] else []
    say (Text.joinWith " " (known.map (·.2) ++ others.map (·.2) ++ system) ++ [0x0A])
    return 0

/-- Writes numbers and names of users and groups. -/
def id (name : Text) (args : List Text) : ProcessM Nat :=
  let flags : List Flag :=
    [⟨'u', .nothing, "user"⟩, ⟨'g', .nothing, "group"⟩, ⟨'G', .nothing, "groups"⟩,
      ⟨'n', .nothing, "name"⟩, ⟨'r', .nothing, "real"⟩, ⟨'z', .nothing, "zero"⟩,
      ⟨'a', .nothing, []⟩]
  withArguments name flags args 1 fun a => do
    let kinds := [a.has 'u', a.has 'g', a.has 'G'].count true
    if 1 < kinds then
      warn name "cannot print \"only\" of more than one choice"
      return 1
    if kinds = 0 && (a.has 'n' || a.has 'r') then
      warn name "cannot print only names or real IDs in default format"
      return 1
    let shown := fun (u : User) =>
      if a.has 'u' then if a.has 'n' then u.name else Text.ofNat u.number
      else if a.has 'g' || a.has 'G' then
        if a.has 'n' then u.groupName else Text.ofNat u.groupNumber
      else
        let group := Text.ofNat u.groupNumber ++ "(" ++ u.groupName ++ ")"
        "uid=" ++ Text.ofNat u.number ++ "(" ++ u.name ++ ") gid=" ++ group ++ " groups=" ++ group
    if a.operands.isEmpty then
      say (shown self ++ [0x0A])
      return 0
    a.operands.foldlM (fun (status : Nat) (t : Text) => do
      match userOf? t with
      | some u =>
        say (shown u ++ [0x0A])
        return status
      | none =>
        warn name (t.curly ++ ": no such user")
        return 1) 0

/-- Writes the names of the groups of users. -/
def groups (name : Text) (args : List Text) : ProcessM Nat :=
  withArguments name [] args 1 fun a => do
    if a.operands.isEmpty then
      say (self.groupName ++ [0x0A])
      return 0
    a.operands.foldlM (fun (status : Nat) (t : Text) => do
      match userOf? t with
      | some u =>
        say (u.name ++ " : " ++ u.groupName ++ "\n")
        return status
      | none =>
        warn name (t.curly ++ ": no such user")
        return 1) 0

/-- Writes values of variables of the environment, or all of it. -/
def printenv (name : Text) (args : List Text) : ProcessM Nat := do
  match Arguments.read [⟨'0', .nothing, "null"⟩] false args with
  | .error e =>
    misuse name e.message
    return 2
  | .ok a =>
    let m ← machine
    let ending : CodePoint := if a.has '0' then 0 else 0x0A
    if a.operands.isEmpty then
      say (m.environment.flatMap fun (name, value) => name ++ 0x3D :: value ++ [ending])
      return 0
    a.operands.foldlM (fun (status : Nat) (t : Text) => do
      match m.environmentValue? t with
      | some value =>
        say (value ++ [ending])
        return status
      | none => return 1) 0

/-- Whether what is at a path may be run. -/
def mayRun (m : Machine) (path : Text) : Bool :=
  match m.find .look path with
  | .ok (_, .file _ runs) => runs
  | _ => false

/-- Writes the paths at which programs are found. -/
def which (name : Text) (args : List Text) : ProcessM Nat := do
  match Arguments.read (Flag.ofLetters "as") false args with
  | .error e =>
    let letter : Text := match e with
      | .unknownLetter c => [c]
      | _ => "-"
    complain ("Illegal option -" ++ letter)
    say ("Usage: " ++ name ++ " [-as] args\n")
    return 2
  | .ok a =>
    let m ← machine
    let directories := Text.splitOn 0x3A ((m.environmentValue? "PATH").getD [])
    a.operands.foldlM (fun (status : Nat) (program : Text) => do
      let paths := if program.contains Path.slash then [program]
        else directories.map fun d => (if d.isEmpty then "." else d) ++ "/" ++ program
      let found := paths.filter (mayRun m)
      unless a.has 's' do
        say ((if a.has 'a' then found else found.take 1).flatMap (· ++ [0x0A]))
      return if found.isEmpty then 1 else status) (if a.operands.isEmpty then 1 else 0)

end ServiceWiring.Program
