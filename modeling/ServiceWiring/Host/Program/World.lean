import ServiceWiring.Host.Program.Basic

/-!
# What programs work on

Programs that run together share a `World`: the machine, and the channels that their streams lead
to. Each program has its own streams; two streams that lead to one channel share its place in a
file. A pipe is written as a whole before it is read.

`ProcessM` is what a program does to its world. The machine in it has the working directory and the
environment of the program that is running.
-/

namespace ServiceWiring

/-- Where a stream leads. -/
inductive Channel where
  /-- From a run of octets, of which some is unread. -/
  | source (unread : Octets)
  /-- Into a run of octets; the pieces written come from the last to the first. -/
  | sink (pieces : List Octets)
  /-- To a file, and to a place in it, or always to its end. -/
  | file (place : Place) (offset : Nat) (toEnd : Bool)
  /-- To a directory, which cannot be read. -/
  | directory
  /-- Nowhere. -/
  | nothing
deriving DecidableEq, Repr

/-- What programs that run together share. -/
structure World where
  /-- The machine. -/
  machine : Machine
  /-- The channels. -/
  channels : Array Channel := #[]
  /-- The streams that are open, by their numbers, and the channel of each. -/
  streams : List (Nat × Nat) := []
  /-- The numbers of the programs that are running, the last one started first. -/
  running : List Nat := []
  /-- How many programs have been started. -/
  started : Nat := 0
  /-- The signals that programs sent to others which wait for them: to which one, and which. -/
  signals : List (Nat × Nat) := []
deriving Repr

/-- What a program does to its world. -/
abbrev ProcessM := StateM World

namespace ProcessM

/-- The machine. -/
def machine : ProcessM Machine := return (← get).machine

/-- Changes the machine. -/
def setMachine (m : Machine) : ProcessM Unit := modify fun w => { w with machine := m }

/-- A new channel. -/
def addChannel (c : Channel) : ProcessM Nat :=
  modifyGet fun w => (w.channels.size, { w with channels := w.channels.push c })

/-- The channel that a stream leads to, if it is open. -/
def channelOf? (stream : Nat) : ProcessM (Option Nat) := return (← get).streams.lookup stream

/-- What a channel is. -/
def channel (i : Nat) : ProcessM Channel := return (← get).channels[i]?.getD .nothing

/-- Changes what a channel is. -/
def setChannel (i : Nat) (c : Channel) : ProcessM Unit :=
  modify fun w => { w with channels := w.channels.setIfInBounds i c }

/-- Leads a stream to a channel. -/
def lead (stream i : Nat) : ProcessM Unit :=
  modify fun w => { w with streams := (stream, i) :: w.streams.filter (·.1 ≠ stream) }

/-- Closes a stream. -/
def close (stream : Nat) : ProcessM Unit :=
  modify fun w => { w with streams := w.streams.filter (·.1 ≠ stream) }

/-- Does something as a program of its own: its streams, its working directory and its environment
are no longer there afterwards. -/
def apart {α : Type} (action : ProcessM α) : ProcessM α := do
  let before ← get
  let result ← action
  modify fun w =>
    { w with
      streams := before.streams
      machine := { w.machine with
        directory := before.machine.directory, environment := before.machine.environment } }
  return result

/-! ## Reading and writing -/

/-- What is left to read of a channel. -/
def unread (i : Nat) : ProcessM Octets := do
  match ← channel i with
  | .source unread => return unread
  | .file place offset _ =>
    match (← get).machine.disk.node? place with
    | some (.file content _) => return content.drop offset
    | _ => return []
  | _ => return []

/-- Passes the first octets that are left to read of a channel. -/
def pass (i n : Nat) : ProcessM Unit := do
  match ← channel i with
  | .source unread => setChannel i (.source (unread.drop n))
  | .file place offset toEnd => setChannel i (.file place (offset + n) toEnd)
  | _ => return

/-- Reads all that is left of a stream. -/
def readAll (stream : Nat) : ProcessM (Except Refusal Octets) := do
  match ← channelOf? stream with
  | none => return .error .badStream
  | some i =>
    if let .directory ← channel i then return .error .isDirectory
    let o ← unread i
    pass i o.length
    return .ok o

/-- Leaves the last octets unread that were read of a stream. Only a file takes them back; those
that were not `touched`, any stream does. -/
def giveBack (stream : Nat) (touched : Bool) (o : Octets) : ProcessM Unit := do
  if let some i ← channelOf? stream then
    match ← channel i with
    | .file place offset toEnd => setChannel i (.file place (offset - o.length) toEnd)
    | .source unread => unless touched do setChannel i (.source (o ++ unread))
    | _ => return

/-- The octets up to and with the first line break. -/
def firstLine (o : Octets) : Octets :=
  match o with
  | [] => []
  | b :: r => if b = 0x0A then [b] else b :: firstLine r

/-- Reads one line of a stream. -/
def readLine (stream : Nat) : ProcessM Octets := do
  match ← channelOf? stream with
  | none => return []
  | some i =>
    let line := firstLine (← unread i)
    pass i line.length
    return line

/-- The octets with others from a place on; what lies before that place is filled up with zeros. -/
def overwrite (content : Octets) (offset : Nat) (o : Octets) : Octets :=
  content.take offset ++ List.replicate (offset - content.length) 0 ++ o ++
    content.drop (offset + o.length)

/-- Writes to a channel. -/
def writeTo (i : Nat) (o : Octets) : ProcessM Unit := do
  match ← channel i with
  | .sink pieces => setChannel i (.sink (o :: pieces))
  | .file place offset toEnd =>
    let w ← get
    match w.machine.disk.node? place with
    | some (.file content executable) =>
      let offset := if toEnd then content.length else offset
      setMachine (w.machine.put place (.file (overwrite content offset o) executable))
      setChannel i (.file place (offset + o.length) toEnd)
    | _ => return
  | _ => return

/-- Writes to a stream; one that is closed takes nothing. -/
def write (stream : Nat) (o : Octets) : ProcessM Bool := do
  if o.isEmpty then return true
  match ← channelOf? stream with
  | some i =>
    writeTo i o
    return true
  | none => return false

/-- Writes octets to the output. -/
def put (o : Octets) : ProcessM Unit := discard (write 1 o)

/-- Writes a text to the output. -/
def say (t : Text) : ProcessM Unit := put (Utf8.nameOctets t)

/-- Writes a text and a line break to the errors. -/
def complain (t : Text) : ProcessM Unit := discard (write 2 (Utf8.nameOctets (t ++ [0x0A])))

/-! ## Files -/

/-- What is opened a file for. -/
inductive Access where
  /-- To read it. -/
  | read
  /-- To write it anew. -/
  | replace
  /-- To write at its end. -/
  | extend
  /-- To read and to write it. -/
  | change
deriving DecidableEq, Repr

/-- The channel to what is at a path. A file that is to be written is made if it is not there. -/
def openPath (access : Access) (path : Text) : ProcessM (Except Refusal Nat) := do
  let m ← machine
  let errand : Errand := if access = .read then .look else .write
  match m.locate errand path with
  | .error fault => return .error fault.refusal
  | .ok place =>
    match m.disk.node? place with
    | some (.file _ executable) =>
      if access = .replace then setMachine (m.put place (.file [] executable))
      return .ok (← addChannel (.file place 0 (access = .extend)))
    | some (.stream n) =>
      match ← channelOf? n with
      | some i => return .ok i
      | none => return .error .noEntry
    | some .directory =>
      if access = .read then return .ok (← addChannel .directory) else return .error .isDirectory
    | some _ => return .ok (← addChannel .nothing)
    | none =>
      if access = .read then return .error .noEntry
      setMachine (m.put place (.file [] false))
      return .ok (← addChannel (.file place 0 (access = .extend)))

/-- Puts something else at one place alone. Other places of the file that stood there keep it. -/
def replaceAt (place : Place) (n : Node) : ProcessM Unit := do
  let m ← machine
  setMachine { m with disk := (m.disk.remove place).put place n }

/-- What the file at a path holds. -/
def readAt (path : Text) : ProcessM (Except Refusal Octets) := do
  match ← openPath .read path with
  | .error r => return .error r
  | .ok i =>
    if let .directory ← channel i then return .error .isDirectory
    let o ← unread i
    pass i o.length
    return .ok o

/-- What the file at a path holds; a single dash stands for the input. -/
def readPath (path : Text) : ProcessM (Except Refusal Octets) :=
  if path = "-" then readAll 0 else readAt path

end ProcessM

end ServiceWiring
