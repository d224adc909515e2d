import ServiceWiring.Disk.Basic

/-!
# Walking a disk

`Disk.walk` follows a path step by step: a link is replaced by the steps of the path that it holds,
a `..` goes back to the directory before, and only the last step may lead to nothing. At most forty
links are followed on one walk. What is done with the last step hangs on the errand.
-/

namespace ServiceWiring

/-- Why a disk refuses an operation. -/
inductive Refusal where
  /-- A name on the way does not exist. -/
  | noEntry
  /-- The file cannot be run as a program. -/
  | notProgram
  /-- The stream is not open. -/
  | badStream
  /-- The operation is not allowed. -/
  | denied
  /-- Something stands there already. -/
  | occupied
  /-- A name that is not the last one is no directory. -/
  | notDirectory
  /-- A directory cannot be read or written as a file. -/
  | isDirectory
  /-- A name or a path is too long. -/
  | tooLong
  /-- A directory that holds something cannot be removed. -/
  | notEmpty
  /-- There are too many links on the way. -/
  | linkLoop
deriving DecidableEq, Repr

/-- The number of a refusal. -/
def Refusal.number : Refusal → Nat
  | .noEntry => 2
  | .notProgram => 8
  | .badStream => 9
  | .denied => 13
  | .occupied => 17
  | .notDirectory => 20
  | .isDirectory => 21
  | .tooLong => 36
  | .notEmpty => 39
  | .linkLoop => 40

/-- The wording of a refusal. -/
def Refusal.reason : Refusal → Text
  | .noEntry => "No such file or directory"
  | .notProgram => "Exec format error"
  | .badStream => "Bad file descriptor"
  | .denied => "Permission denied"
  | .occupied => "File exists"
  | .notDirectory => "Not a directory"
  | .isDirectory => "Is a directory"
  | .tooLong => "File name too long"
  | .notEmpty => "Directory not empty"
  | .linkLoop => "Too many levels of symbolic links"

/-- The number and the wording of a refusal. -/
def Refusal.message (r : Refusal) : Text :=
  "[Errno " ++ Text.ofNat r.number ++ "] " ++ r.reason

/-- The slash among octets. -/
abbrev slashOctet : UInt8 := 0x2F

/-- The name of the directory itself. -/
abbrev hereName : DiskName := [0x2E]

/-- The name of the directory before. -/
abbrev upName : DiskName := [0x2E, 0x2E]

/-- The steps of a path, and whether the first one is taken from the root. -/
structure Steps where
  /-- Whether the path starts with a slash. -/
  fromRoot : Bool
  /-- The names between the slashes. An empty name at the end stands for a slash there. -/
  names : List DiskName
deriving DecidableEq, Repr

/-- The runs of octets between slashes. -/
def splitSlash : Octets → List Octets
  | [] => [[]]
  | b :: r =>
    if b = slashOctet then [] :: splitSlash r
    else
      match splitSlash r with
      | [] => [[b]]
      | piece :: pieces => (b :: piece) :: pieces

/-- The steps that a path spells. -/
def Steps.ofOctets (p : Octets) : Steps where
  fromRoot := p.head? = some slashOctet
  names :=
    let named := (splitSlash p).filter (!·.isEmpty)
    if p.getLast? = some slashOctet then named ++ [[]] else named

/-- What a path is followed for. -/
inductive Errand where
  /-- To look at what it leads to. A slash at its end asks for a directory. -/
  | look
  /-- To look at the last name itself, even if it is a link. -/
  | lookAtName
  /-- To write a file, which may be new. There may be no slash at the end. -/
  | write
  /-- To make something under the last name, with or without a slash after it. -/
  | make
deriving DecidableEq, Repr

/-- Whether the last name is taken as it is, even if it is a link. -/
def Errand.keepsLink (e : Errand) : Bool := e = .lookAtName || e = .make

namespace Disk

/-- The greatest length of a name. -/
def maxName : Nat := 255

/-- The greatest length of a path, one less than 4096. -/
def maxPath : Nat := 4095

/-- The greatest number of links on one walk. -/
def maxLinks : Nat := 40

/-- The place that the names lead to from a directory. The last one may name nothing, and it may be
a link if the errand is about the name itself. -/
def walk (d : Disk) (errand : Errand) (links : Nat) (dir : Place) :
    List DiskName → Except Refusal Place
  | [] => .ok dir
  | name :: rest =>
    if name.isEmpty || name = hereName then walk d errand links dir rest
    else if name = upName then walk d errand links dir.dropLast rest
    else if maxName < name.length then .error .tooLong
    else if errand = .write && rest = [[]] then .error .isDirectory
    else
      let next := dir ++ [name]
      let last := rest.isEmpty || errand = .make && rest = [[]]
      match d.node? next with
      | none => if last then .ok next else .error .noEntry
      | some .directory => walk d errand links next rest
      | some (.link target) =>
        if last && errand.keepsLink then .ok next
        else
          match links with
          | 0 => .error .linkLoop
          | links + 1 =>
            let steps := Steps.ofOctets target
            walk d errand links (if steps.fromRoot then [] else dir) (steps.names ++ rest)
      | some _ => if last then .ok next else .error .notDirectory
termination_by names => (links, names.length)

/-- The place that a path leads to from a directory. -/
def locate (d : Disk) (errand : Errand) (dir : Place) (path : Octets) : Except Refusal Place :=
  if path.isEmpty then .error .noEntry
  else if maxPath < path.length then .error .tooLong
  else
    let steps := Steps.ofOctets path
    walk d errand maxLinks (if steps.fromRoot then [] else dir) steps.names

end Disk

end ServiceWiring
