import ServiceWiring.Machine

/-!
# Commands

A run may start a command of the machine that it finds itself on. What commands there are, and what
they do, is no part of the tool: a `Launcher` stands for it, and whatever depends on it takes one.
-/

namespace ServiceWiring

/-- How a command ended. -/
inductive Ending where
  /-- By itself, with a status. -/
  | exited (status : Nat)
  /-- By a signal. -/
  | killed (signal : Nat)
deriving DecidableEq, Repr

/-- The names of the signals from one on, without the three letters that all of them start with. -/
def signalNames : List Text :=
  ["HUP", "INT", "QUIT", "ILL", "TRAP", "ABRT", "BUS", "FPE", "KILL", "USR1", "SEGV", "USR2",
    "PIPE", "ALRM", "TERM", "STKFLT", "CHLD", "CONT", "STOP", "TSTP", "TTIN", "TTOU", "URG",
    "XCPU", "XFSZ", "VTALRM", "PROF", "WINCH", "IO", "PWR", "SYS"]

/-- The signals by their names. The first and the last of those for own use have names too. -/
def signals : List (Text × Nat) :=
  let own : List (Text × Nat) := [("RTMIN", 34), ("RTMAX", 64)]
  (signalNames.zipIdx.map fun (name, i) => (name, i + 1)) ++ own

/-- What a command wrote, what it complained about, and how it ended. -/
structure Outcome where
  /-- What it wrote. -/
  output : Octets
  /-- What it complained about. -/
  errors : Octets
  /-- How it ended. -/
  ending : Ending
deriving DecidableEq, Repr

/-- What starts a command, by its name or its path, and gives it an input. A command without an
input is one whose input turns out not to be writable, which stops it. The command may change the
disk, but not where the run works, nor its environment. -/
abbrev Launcher := Machine → Text → Option Octets → Except PathFault (Disk × Outcome)

end ServiceWiring
