import ServiceWiring.Host.Shell.Expansion

/-!
# Redirections

Streams are led elsewhere for one command. All targets are expanded before the first stream changes;
if a target cannot be opened the streams before it have changed already.
-/

namespace ServiceWiring.ShellM

open Script (Direction Redirect Command)

/-- A redirection whose target is expanded. -/
structure Target where
  /-- The stream. -/
  stream : Nat
  /-- Where it leads. -/
  direction : Direction
  /-- The path, the number or the text. -/
  text : Text

/-- The redirections with their targets expanded. -/
def targetsOf (run : Command → ShellM Text) (rs : List Redirect) : ShellM (List Target) :=
  rs.mapM fun (.lead stream direction w) => do
    match direction with
    | .text => return ⟨stream, direction, ← Expansion.heldText run w⟩
    | _ =>
      let text ← Expansion.wordText run false w
      let isNumber := text = "-" || (text.length = 1 && text.all CodePoint.isDigit)
      if direction = .copy && !isNumber then
        modify fun s => { s with line := s.readLine }
        fail "Syntax error: Bad fd number"
      return ⟨stream, direction, text⟩

/-- Leads a stream to its target. -/
def leadTo (t : Target) : ShellM Unit := do
  let opened := fun (access : ProcessM.Access) (failure missing : Text) => do
    match ← lift (ProcessM.openPath access t.text) with
    | .ok i => lift (ProcessM.lead t.stream i)
    | .error r =>
      let reason := if r = .noEntry || r = .notDirectory then missing else r.reason
      fail (failure ++ t.text ++ ": " ++ reason)
  let created := fun access => opened access "cannot create " "Directory nonexistent"
  match t.direction with
  | .input => opened .read "cannot open " "No such file"
  | .output => created .replace
  | .append => created .extend
  | .both => created .change
  | .text =>
    let i ← lift (ProcessM.addChannel (.source (Utf8.nameOctets t.text)))
    lift (ProcessM.lead t.stream i)
  | .copy =>
    if t.text = "-" then lift (ProcessM.close t.stream)
    else
      match ← lift (ProcessM.channelOf? (Text.natOfDigits t.text)) with
      | some i => lift (ProcessM.lead t.stream i)
      | none => fail (t.text ++ ": " ++ Refusal.badStream.reason)

/-- Whether all streams could be led to their targets; if not, that has been reported. -/
def redirect (ts : List Target) : ShellM Bool := do
  match ← attempt (ts.forM leadTo) with
  | .ok () => return true
  | .error .failed => return false
  | .error jump => throw jump

end ServiceWiring.ShellM
