import ServiceWiring.Host.Pattern.Glob
import ServiceWiring.Host.Program.Files
import ServiceWiring.Text.Lowercase

/-!
# Looking for files

A search visits what is at a path and below it, and does to each file what a condition says. A
condition is true or false of a file; some conditions do something on the way, such as writing its
path. `Condition.ofArguments` reads one from arguments; one that does nothing of its own writes the
paths of the files of which it is true.
-/

namespace ServiceWiring

/-- What is asked of a file, or done to it. -/
inductive Sought where
  /-- Nothing is asked; the answer is this one. -/
  | answer (b : Bool)
  /-- Whether the last name of the path is of a pattern. -/
  | name (anyCase : Bool) (pattern : Text)
  /-- Whether the path is of a pattern. -/
  | path (anyCase : Bool) (pattern : Text)
  /-- Whether it is of a kind. -/
  | kind (letter : CodePoint)
  /-- Whether nothing is in it. -/
  | empty
  /-- Whether it may be run. -/
  | runs
  /-- Writes the path and an ending. -/
  | write (ending : CodePoint)
  /-- Removes it. -/
  | delete
  /-- Goes no further below it. -/
  | prune
  /-- Ends the search. -/
  | quit
  /-- Starts a program; two braces in its arguments stand for the path. -/
  | start (argv : List Text)
  /-- The contrary. -/
  | not (s : Sought)
  /-- The second one if the first one holds. -/
  | both (s t : Sought)
  /-- The second one if the first one does not hold. -/
  | either (s t : Sought)
  /-- The second one, whatever the first one is. -/
  | after (s t : Sought)
deriving Repr

namespace Sought

/-- Whether something is done on the way. -/
def acts : Sought → Bool
  | write _ | delete | start _ => true
  | not s => s.acts
  | both s t | either s t | after s t => s.acts || t.acts
  | _ => false

/-- Why arguments are no condition. -/
inductive Mistake where
  /-- There is no such word. -/
  | unknown (word : Text)
  /-- A word lacks what is to follow it. -/
  | noArgument (word : Text)
  /-- There is no such kind. -/
  | unknownKind (letters : Text)
  /-- A bracket is not closed. -/
  | unclosed
  /-- A bracket closes none. -/
  | unopened
  /-- A path comes after the condition began. -/
  | latePath (word : Text)
  /-- A condition is to follow. -/
  | cutOff (word : Text)
  /-- A condition is to come before. -/
  | nothingBefore (word : Text)

/-- What is said of a mistake. -/
def Mistake.message : Mistake → Text
  | .unknown word => "unknown predicate \x60" ++ word ++ "'"
  | .noArgument word => "missing argument to \x60" ++ word ++ "'"
  | .unknownKind letters =>
    if letters.length = 1 then "Unknown argument to -type: " ++ letters
    else "Must separate multiple arguments to -type using: ','"
  | .unclosed =>
    "invalid expression; expected to find a ')' but didn't see one. Perhaps you need an extra " ++
      ("predicate after '('" : Text)
  | .unopened => "you have too many ')'"
  | .latePath word => "paths must precede expression: \x60" ++ word ++ "'"
  | .cutOff word => "expected an expression after '" ++ word ++ "'"
  | .nothingBefore word =>
    "invalid expression; you have used a binary operator '" ++ word ++ "' with nothing before it."

/-- Whether a word stands between conditions of which one or the other is to hold. -/
def isOr (t : Text) : Bool := t = "-o" || t = "-or"

/-- Whether a word stands between conditions that are both to hold. -/
def isAnd (t : Text) : Bool := t = "-a" || t = "-and"

/-- Whether a word stands between conditions. -/
def isBinary (t : Text) : Bool := isOr t || isAnd t || t = ","

/-- Reads one condition that comes after a word; `again` reads what stands between brackets. -/
def readOne (again : List Text → Except Mistake (Sought × List Text)) (before : Text) :
    List Text → Except Mistake (Sought × List Text)
  | [] => .error (if before = "(" then .unclosed else .cutOff before)
  | word :: r =>
    let plain : List (Text × Sought) :=
      [("-true", answer true), ("-false", answer false), ("-empty", empty),
        ("-executable", runs), ("-print", write 0x0A), ("-print0", write 0), ("-delete", delete),
        ("-prune", prune), ("-quit", quit), ("-depth", answer true), ("-xdev", answer true),
        ("-mount", answer true), ("-follow", answer true), ("-noleaf", answer true)]
    match plain.lookup word with
    | some s => .ok (s, r)
    | none =>
      let withValue : (Text → Except Mistake Sought) → Except Mistake (Sought × List Text) :=
        fun make =>
          match r with
          | [] => .error (.noArgument word)
          | value :: r => (make value).map (·, r)
      if word = "-name" then withValue fun v => .ok (name false v)
      else if word = "-iname" then withValue fun v => .ok (name true v)
      else if word = "-path" || word = "-wholename" then withValue fun v => .ok (path false v)
      else if word = "-ipath" then withValue fun v => .ok (path true v)
      else if word = "-maxdepth" || word = "-mindepth" then withValue fun _ => .ok (answer true)
      else if word = "-type" then
        withValue fun v =>
          match v with
          | [c] =>
            if (Text.ofString "fdlcbps").contains c then .ok (kind c) else .error (.unknownKind v)
          | _ => .error (.unknownKind v)
      else if word = "-exec" then
        let argv := r.takeWhile fun (t : Text) => t ≠ ";"
        if argv.isEmpty || argv.length = r.length then .error (.noArgument word)
        else .ok (start argv, r.drop (argv.length + 1))
      else if word = "(" then do
        match ← again r with
        | (s, close :: r) => if close = ")" then return (s, r) else throw .unclosed
        | _ => throw .unclosed
      else if word = ")" then .error .unopened
      else if isBinary word then .error (.nothingBefore word)
      else if word.head? = some 0x2D then .error (.unknown word)
      else .error (.latePath word)

/-- Reads one condition that may be turned into its contrary. -/
def readTurned (again : List Text → Except Mistake (Sought × List Text)) (before : Text) :
    List Text → Except Mistake (Sought × List Text)
  | [] => readOne again before []
  | word :: r =>
    if word = "!" || word = "-not" then do
      let (s, r) ← readTurned again word r
      return (not s, r)
    else readOne again before (word :: r)

/-- Reads conditions that are all to hold. The fuel is more than the number of words. -/
def readAll (again : List Text → Except Mistake (Sought × List Text)) (s : Sought) :
    Nat → List Text → Except Mistake (Sought × List Text)
  | 0, r => .ok (s, r)
  | _, [] => .ok (s, [])
  | fuel + 1, word :: r => do
    if word = ")" || isOr word || word = "," then return (s, word :: r)
    let (t, r) ← if isAnd word then readTurned again word r else readTurned again [] (word :: r)
    readAll again (both s t) fuel r

/-- Reads conditions of which one is to hold, after a word. The fuel is more than the number of
words. -/
def read : Nat → Text → List Text → Except Mistake (Sought × List Text)
  | 0, _, r => .ok (answer true, r)
  | fuel + 1, before, r => do
    let inBrackets := read fuel "("
    let (first, r) ← readTurned inBrackets before r
    let (s, r) ← readAll inBrackets first fuel r
    match r with
    | word :: r =>
      if isOr word then
        let (t, r) ← read fuel word r
        return (either s t, r)
      else if word = "," then
        let (t, r) ← read fuel word r
        return (Sought.after s t, r)
      else return (s, word :: r)
    | [] => return (s, [])

/-- The condition that arguments spell. It writes the paths if it does nothing else. -/
def ofArguments (args : List Text) : Except Mistake Sought := do
  if args.isEmpty then return write 0x0A
  match ← read (args.length + 1) [] args with
  | (s, []) => return if s.acts then s else both s (write 0x0A)
  | _ => throw .unopened

end Sought

namespace Program

open ProcessM

/-- Where a search is. -/
structure Visit where
  /-- The path, as it was come to. -/
  path : Text
  /-- The place. -/
  place : Place
  /-- What is there. -/
  node : Node

/-- What came of a visit. -/
structure Findings where
  /-- Whether the search goes on below the file. -/
  below : Bool := true
  /-- Whether the search goes on. -/
  goesOn : Bool := true
  /-- Whether something could not be done. -/
  failed : Bool := false

/-- Whether a text is of a pattern of the shell. -/
def ofPattern (anyCase : Bool) (pattern t : Text) : Bool :=
  let lower := fun (t : Text) => if anyCase then Text.lower t else t
  Glob.accepts (marks (lower pattern)) (lower t)
where
  /-- A pattern in which a backslash quotes what follows. -/
  marks : Text → List Glob.Mark
    | 0x5C :: c :: r => (c, true) :: marks r
    | c :: r => (c, false) :: marks r
    | [] => []

/-- The letter of the kind of file. -/
def kindOf : Node → CodePoint
  | .file _ _ => 0x66
  | .directory => 0x64
  | .link _ => 0x6C
  | .device | .stream _ => 0x63

/-- A text with a path in the place of each two braces that belong together. -/
def withPath (path : Text) : Text → Text
  | 0x7B :: 0x7D :: r => path ++ withPath path r
  | c :: r => c :: withPath path r
  | [] => []

/-- Asks a condition of a file, and does what it says. -/
def ask (name : Text) (start : List Text → ProcessM Nat) (v : Visit) :
    Sought → Findings → ProcessM (Bool × Findings)
  | .answer b, f => return (b, f)
  | .name anyCase p, f => return (ofPattern anyCase p (lastName v.path), f)
  | .path anyCase p, f => return (ofPattern anyCase p v.path, f)
  | .kind c, f => return (kindOf v.node = c, f)
  | .empty, f => do
    match v.node with
    | .file content _ => return (content.isEmpty, f)
    | .directory => return (((← machine).disk.namesIn v.place).isEmpty, f)
    | _ => return (false, f)
  | .runs, f =>
    match v.node with
    | .file _ runs => return (runs, f)
    | .directory => return (true, f)
    | _ => return (false, f)
  | .write ending, f => do
    say (v.path ++ [ending])
    return (true, f)
  | .delete, f => do
    let m ← machine
    if (m.disk.namesIn v.place).isEmpty then
      setMachine { m with disk := m.disk.remove v.place }
      return (true, f)
    else
      warn name ("cannot delete " ++ v.path.curly ++ ": " ++ Refusal.notEmpty.reason)
      return (false, { f with failed := true })
  | .prune, f => return (true, { f with below := false })
  | .quit, f => return (true, { f with goesOn := false })
  | .start argv, f => do
    let argv := argv.map fun (t : Text) => withPath v.path t
    return ((← start argv) = 0, f)
  | .not s, f => do
    let (b, f) ← ask name start v s f
    return (!b, f)
  | .both s t, f => do
    let (b, f) ← ask name start v s f
    if b && f.goesOn then ask name start v t f else return (b, f)
  | .either s t, f => do
    let (b, f) ← ask name start v s f
    if b || !f.goesOn then return (b, f) else ask name start v t f
  | .after s t, f => do
    let (b, f) ← ask name start v s f
    if f.goesOn then ask name start v t f else return (b, f)

/-- The range of depths at which files are asked for. -/
structure Depths where
  /-- The least. -/
  least : Nat := 0
  /-- The greatest, if there is one. -/
  greatest? : Option Nat := none
  /-- Whether a directory comes after what is in it. -/
  inner : Bool := false

/-- Visits a file and what is below it. The fuel is more than the number of names that a path below
it can have. -/
def visit (name : Text) (start : List Text → ProcessM Nat) (s : Sought) (d : Depths) (depth : Nat)
    (v : Visit) : Nat → ProcessM Findings
  | 0 => return {}
  | fuel + 1 => do
    let here : ProcessM Findings := do
      if d.least ≤ depth then return (← ask name start v s {}).2 else return {}
    let below : ProcessM Findings := do
      if v.node ≠ .directory || d.greatest? = some depth then return {}
      ((← machine).disk.namesIn v.place).foldlM (fun (f : Findings) entry => do
        let place := v.place ++ [entry]
        match f.goesOn, (← machine).disk.node? place with
        | true, some node =>
          let path := Path.join v.path (Utf8.decodeName entry)
          let g ← visit name start s d (depth + 1) ⟨path, place, node⟩ fuel
          return { g with failed := f.failed || g.failed }
        | _, _ => return f) {}
    let (first, second) := if d.inner then (below, here) else (here, below)
    let f ← first
    if !f.goesOn || !d.inner && !f.below then return f
    let g ← second
    return { g with failed := f.failed || g.failed }

/-- The depth that the last option of a name asks for; a text that is no number is refused. -/
def depth? (option : Text) : List Text → Except Text (Option Nat)
  | word :: value :: r => do
    let later? ← depth? option (value :: r)
    if word ≠ option then return later?
    if value.isEmpty || !value.all CodePoint.isDigit then throw value
    return some (later?.getD (Text.natOfDigits value))
  | _ => .ok none

/-- Looks for files below paths. -/
def find (start : List Text → ProcessM Nat) (name : Text) (args : List Text) : ProcessM Nat := do
  let args := args.dropWhile fun (t : Text) => t = "-L" || t = "-H" || t = "-P"
  let isPath := fun (t : Text) => t.head? ≠ some 0x2D && t ≠ "(" && t ≠ "!"
  let paths := args.takeWhile isPath
  let words := args.drop paths.length
  match Sought.ofArguments words with
  | .error e =>
    warn name e.message
    return 1
  | .ok s =>
    let refuse : Text → Text → ProcessM Nat := fun option value => do
      warn name ("Expected a positive decimal integer argument to " ++ option ++ ", but got " ++
        value.curly)
      return 1
    match depth? "-maxdepth" words, depth? "-mindepth" words with
    | .error value, _ => refuse "-maxdepth" value
    | _, .error value => refuse "-mindepth" value
    | .ok greatest?, .ok least? =>
      let inner := words.contains "-depth" || words.contains "-delete"
      let depths : Depths := { least := least?.getD 0, greatest?, inner }
      let (status, _) ← (if paths.isEmpty then [("." : Text)] else paths).foldlM
        (fun (state : Nat × Bool) (path : Text) => do
          let (status, goesOn) := state
          let m ← machine
          match goesOn, m.find .lookAtName path with
          | false, _ => return state
          | true, .error fault =>
            warn name (path.curly ++ ": " ++ fault.refusal.reason)
            return (1, true)
          | true, .ok (place, node) =>
            let f ← visit name start s depths 0 ⟨path, place, node⟩ (Disk.maxPath + 1)
            return (if f.failed then 1 else status, f.goesOn)) (0, true)
      return status

end Program

end ServiceWiring
