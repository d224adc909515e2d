import ServiceWiring.Command
import ServiceWiring.Fault
import ServiceWiring.Text.Blank
import ServiceWiring.Text.Lines

/-!
# Formatters

A formatter takes a source and gives it back in another layout, or rejects it. It may run a command
of the machine, which reads the source and writes the result, and may change the disk besides.
-/

namespace ServiceWiring

/-- What is done to a source before it is kept. The machine is what is left of it afterwards. -/
abbrev Formatter := Machine → Text → Machine × Except Fault Text

namespace Formatter

/-- Leaves every source as it is. -/
def keep : Formatter := fun m source => (m, .ok source)

/-- How a command ended, if it did not succeed. -/
def failure? (command : Text) : Ending → Option Text
  | .exited 0 => none
  | .exited status =>
    some ("Command '[" ++ command.quoted ++ "]' returned non-zero exit status " ++
      Text.ofNat status ++ ".")
  | .killed n =>
    let ending : Text :=
      match signals.find? (·.2 = n) with
      | some (name, _) => "<Signals.SIG" ++ name ++ ": " ++ Text.ofNat n ++ ">"
      | none => "unknown signal " ++ Text.ofNat n
    some ("Command '[" ++ command.quoted ++ "]' died with " ++ ending ++ ".")

/-- The text that a command wrote, with its line breaks made uniform. -/
def textOf (o : Octets) : Except Fault Text :=
  match Utf8.decode o with
  | .ok t => .ok t.unifyLines
  | .error e => .error (.undecodable e)

/-- The text of an outcome, or what the command complained about if it failed. -/
def resultOf (command : Text) (outcome : Outcome) : Except Fault Text := do
  let output ← textOf outcome.output
  let errors ← textOf outcome.errors
  match failure? command outcome.ending with
  | none => return output
  | some failure =>
    let complaint := errors.strip
    throw (.format (if complaint.isEmpty then failure else complaint))

/-- Runs a command over the source. -/
def command (start : Launcher) (name : Text) : Formatter := fun m source =>
  let input? := Utf8.encode? source
  match start m name input? with
  | .error (.refused .noEntry _) => (m, .error (.format (name ++ ": not found")))
  | .error fault => (m, .error (.ofPathFault fault))
  | .ok (disk, outcome) =>
    match input? with
    -- A source that cannot be encoded is only noticed once the command has started.
    | none => ({ m with disk }, .error .unencodable)
    | some _ => ({ m with disk }, resultOf name outcome)

/-- Rejects every source, for want of a command. -/
def absent : Formatter := fun m _ => (m, .error .valueMissing)

end Formatter

end ServiceWiring
