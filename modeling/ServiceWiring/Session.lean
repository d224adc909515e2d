import ServiceWiring.ImportTable
import ServiceWiring.Report

/-!
# Sessions

A session is what the steps of a run share: the machine they run on, the import table, which only
grows, and the log. A step that fails keeps what it bound and reported before, and what the programs
that it started did to the machine.
-/

namespace ServiceWiring

/-- What the steps of a run share. -/
structure Session where
  /-- The machine. -/
  machine : Machine := {}
  /-- The import table. -/
  imports : ImportTable := ∅
  /-- The events so far, in order. -/
  log : List Event := []
deriving Repr

/-- A step of a run: it may fail, and it changes the session in either case. -/
abbrev SessionM := ExceptT Fault (StateM Session)

namespace SessionM

/-- The machine as it is now. -/
def machine : SessionM Machine := return (← get).machine

/-- What an operation on the machine gives; the machine is what it leaves behind. -/
def onMachine {α : Type} (operation : Machine → Machine × α) : SessionM α :=
  modifyGet fun s =>
    let (machine, result) := operation s.machine
    (result, { s with machine })

/-- Adds an event to the log. -/
def report (e : Event) : SessionM Unit := modify fun s => { s with log := s.log ++ [e] }

/-- The package of a path, bound if it is not yet. -/
def bind (path : Text) (name? : Option Text := none) : SessionM GoPackage :=
  modifyGet fun s =>
    let (package, imports) := s.imports.bind path name?
    (package, { s with imports })

/-- A step that fails as an operation on a path does. -/
def ofPath {α : Type} : Except PathFault α → SessionM α
  | .ok a => pure a
  | .error fault => throw (.ofPathFault fault)

end SessionM

end ServiceWiring
