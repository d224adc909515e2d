import ServiceWiring.Descriptor.Basic
import ServiceWiring.OutputName
import ServiceWiring.Report

/-!
# Plans

A plan says which artifacts a file gets. A file without services gets none; any other gets a wiring.
It gets a stub too if stubs are wanted, unless a stub exists already and is not to be overwritten.
So the plan of a file hangs on one question to the disk at most: `Plan.question?`.
-/

namespace ServiceWiring

/-- Which artifacts a file gets. -/
inductive Plan where
  /-- None. -/
  | nothing
  /-- The wiring alone; `kept?` is the stub that exists already, if that is why. -/
  | wiring (output : Text) (kept? : Option Text)
  /-- The wiring and the stub. -/
  | both (output stub : Text)
deriving DecidableEq, Repr

namespace Plan

/-- The stub that a plan has to look for. -/
def question? (d : Descriptor) (stubs force : Bool) : Option Text :=
  match d.name with
  | .str name => if d.services.isEmpty || !stubs || force then none else some (OutputName.stub name)
  | _ => none

/-- The plan of a file; `present` tells whether its stub exists. -/
def make (d : Descriptor) (stubs force present : Bool) : Except Fault Plan :=
  if d.services.isEmpty then .ok .nothing
  else
    match d.name with
    | .str name =>
      let output := OutputName.wiring name
      let stub := OutputName.stub name
      if !stubs then .ok (.wiring output none)
      else if !force && present then .ok (.wiring output (some stub))
      else .ok (.both output stub)
    | _ => .error .nameNotText

/-- The output name of the wiring. -/
def wiring? : Plan → Option Text
  | nothing => none
  | wiring output _ | both output _ => some output

/-- The output name of the stub. -/
def stub? : Plan → Option Text
  | both _ stub => some stub
  | _ => none

/-- Why something is left out; empty if nothing is, or only because it is not wanted. -/
def reason : Plan → Text
  | nothing => "no target service defined in the file"
  | wiring _ (some stub) => "file '" ++ stub ++ "' already exists"
  | _ => []

/-- What a plan reports. -/
def events (d : Descriptor) : Plan → List Event
  | nothing => [.noServices d.name]
  | p@(wiring _ (some _)) => [.stubKept p.reason]
  | _ => []

end Plan

end ServiceWiring
