import ServiceWiring.CommandLine.Arguments
import ServiceWiring.CommandLine.Usage
import ServiceWiring.Delivery
import ServiceWiring.Inputs

/-!
# Runs of the command line

A run loads its inputs, generates all outputs and only then writes them. So a run that fails before
has changed nothing on the disk, unless its formatter did. What it reports goes to the error stream,
line by line.
-/

namespace ServiceWiring.CommandLine

/-- How a run ends and what it leaves behind. -/
structure Result where
  /-- The exit code, or the fault of a run that breaks off without one. -/
  exit : Except Fault Nat
  /-- What goes to the output stream. -/
  stdout : Text := []
  /-- What goes to the error stream. -/
  stderr : Text := []
  /-- The machine afterwards. -/
  machine : Machine

/-- What a batch is asked to do by the settings. -/
def Settings.options (s : Settings) (swagger : List (Text × Json)) : Options where
  stubs := s.impl
  force := s.force
  stubPath := s.implPath
  wiringPath? := s.descPath?
  swagger := swagger

/-- The formatter that the settings name. -/
def Settings.formatter (start : Launcher) (s : Settings) : Formatter :=
  if s.noGofmt then .keep
  else
    match s.gofmt? with
    | some name => .command start name
    | none => .absent

/-- The outputs of a run. Nothing is written yet, except by a formatter. -/
def prepare (start : Launcher) (s : Settings) : SessionM (List Output) := do
  let files ← Inputs.loadDescriptors s.descriptors
  let swagger ← match s.swaggerDir? with
    | some dir => Inputs.loadSwagger dir files
    | none => pure []
  let g ← Generator.create (s.options swagger) .standard (s.formatter start) none none
  g.generate files

/-- Writes the outputs of a run below its output directory. Without outputs none is needed. -/
def deliver (m : Machine) (s : Settings) (outputs : List Output) : Delivery :=
  match s.out? with
  | some dir => Delivery.write m dir outputs
  | none => ⟨m, [], if outputs.isEmpty then none else some .valueMissing⟩

/-- The lines that a run shows of its log. -/
def shown (s : Settings) (log : List Event) : Text :=
  let least := if s.verbose then Level.debug else Level.info
  (log.filter fun e => least.rank ≤ e.level.rank).flatMap fun e => e.line ++ "\n"

/-- The result of a run with the given log. A fault that has a message is reported; any other one
breaks the run off. -/
def finish (m : Machine) (s : Settings) (log : List Event) (outcome : Except Fault Nat) : Result :=
  match outcome with
  | .ok count => { exit := .ok 0, stderr := shown s (log ++ [.done count]), machine := m }
  | .error fault =>
    match fault.message? with
    | some message => { exit := .ok 1, stderr := shown s (log ++ [.failed message]), machine := m }
    | none => { exit := .error fault, stderr := shown s log, machine := m }

/-- A run with the given settings. -/
def runSettings (start : Launcher) (m : Machine) (s : Settings) : Result :=
  match (prepare start s).run.run { machine := m } with
  | (.error fault, session) => finish session.machine s session.log (.error fault)
  | (.ok outputs, session) =>
    let d := deliver session.machine s outputs
    let outcome := match d.fault? with
      | some fault => .error fault
      | none => .ok outputs.length
    finish d.machine s (session.log ++ d.events) outcome

/-- A run with the given arguments. -/
def run (start : Launcher) (m : Machine) (args : List Text) : Result :=
  match parse args with
  | .ok .help => { exit := .ok 0, stdout := helpText (columns m), machine := m }
  | .ok (.run settings) => runSettings start m settings
  | .error misuse =>
    let complaint := toolName ++ ": error: " ++ misuse.message ++ "\n"
    { exit := .ok 2, stderr := usage (columns m) ++ complaint, machine := m }

end ServiceWiring.CommandLine
