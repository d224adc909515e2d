import ServiceWiring.Path.Basic
import ServiceWiring.Host.Program.Rules.Run

/-!
# The command for rules

Rules are given as an argument or in files. Other arguments are the files of the input, or assign
variables when it is their turn.
-/

namespace ServiceWiring.Program

open ProcessM

/-- The variables that are set when rules begin. -/
def variablesAtStart : List (Text × Rules.Value) :=
  let texts : List (Text × Text) :=
    [("FS", " "), ("OFS", " "), ("RS", "\n"), ("ORS", "\n"), ("OFMT", "%.6g"),
      ("CONVFMT", "%.6g"), ("SUBSEP", "\x1c"), ("FILENAME", [])]
  let numbers : List (Text × Int) := [("NR", 0), ("FNR", 0), ("RSTART", 0), ("RLENGTH", -1)]
  (texts.map fun (n, t) => (n, .text t)) ++
    numbers.map fun (n, x) => (n, .number (Binary64.ofInt x))

/-- The rules that the arguments of `awk` give, and the other arguments; or the status, if there are
no rules. -/
def rulesText (name : Text) (a : Arguments) : ProcessM (Except Nat (Text × List Text)) := do
  match a.values 'f', a.operands with
  | [], text :: operands => return .ok (text, operands)
  | [], [] =>
    complain "Usage: mawk [Options] [Program] [file ...]"
    return .error 0
  | files, operands =>
    let pieces ← files.mapM fun file => do
      match ← readPath file with
      | .ok o => return some (Utf8.decodeName o)
      | .error r =>
        warn name ("cannot open \"" ++ file ++ "\" (" ++ r.reason ++ ")")
        return none
    if pieces.any (·.isNone) then return .error 2
    return .ok (Text.joinWith "\n" pieces.reduceOption, operands)

/-- Runs rules over records. -/
def awk (runCommand : Text → ProcessM Nat) (name : Text) (args : List Text) : ProcessM Nat := do
  let name := Path.base name
  let octets := fun (t : Text) => Rules.ofOctets (Utf8.nameOctets t)
  match Arguments.read (Flag.ofLetters "F:v:f:W:") false args with
  | .error (.unknownLetter c) =>
    warn name ("not an option: -" ++ [c])
    return 2
  | .error e =>
    warn name e.message
    return 2
  | .ok a =>
    match ← rulesText name a with
    | .error status => return status
    | .ok (text, operands) =>
      match Rules.readBook (octets text) with
      | .error e =>
        warn name ("line " ++ Text.ofNat e.line ++ ": " ++ e.mistake.message)
        return 2
      | .ok book =>
        let m ← machine
        let environment := m.environment.map fun (n, v) => (octets n, Rules.Value.input (octets v))
        let arguments := (name :: operands).zipIdx.map fun (t, i) =>
          (Text.ofNat i, Rules.Value.input (octets t))
        let state : Rules.State :=
          { values := ("ARGC", .ofNat arguments.length) :: variablesAtStart
            arrays := [("ENVIRON", environment), ("ARGV", arguments)]
            operands := operands.map octets
            routines := book.routines
            runCommand }
        let run : Rules.RunM Unit := do
          for t in a.values 'F' do
            Rules.Run.setVariable "FS" (.text (Rules.unescape (octets t)))
          for t in a.values 'v' do Rules.Run.assignText (octets t)
          (Rules.Run.Engine.ofFuel (16 * text.length + 1000)).run book.rules
        match ← run.run.run state with
        | (.error (.fail reason), _) =>
          discard (write 2 (Utf8.nameOctets (name ++ ": ") ++ Rules.octetsOf (reason ++ "\n")))
          return 2
        | (_, state) => return state.status

end ServiceWiring.Program
