import ServiceWiring.Host.Script.Scanner

/-!
# Reading scripts

A script is read one complete command at a time, so that a mistake only shows after what comes
before it has run. `nextCommand` is that reading; the functions before it each read one form of
command and are given the readers of what it holds.
-/

namespace ServiceWiring.Script

/-- What a token is, where another one is wanted or none of its kind is. -/
def unexpected {α : Type} (found : Token) (wanted? : Option Token := none) : ReadM α :=
  ReadM.fail (.unexpected found.name (wanted?.map Token.name))

/-- Reads a keyword. -/
def expect (again : Readers) (wanted : Text) : ReadM Unit := do
  match ← next again true false with
  | .keyword t => unless t = wanted do unexpected (.keyword t) (some (.keyword wanted))
  | t => unexpected t (some (.keyword wanted))

/-- Reads what a redirection leads to. -/
def readTarget (again : Readers) (stream : Nat) (direction : Direction) (strip : Bool) :
    ReadM Redirect := do
  match ← next again false false with
  | .word w =>
    match direction with
    | .text => return .lead stream .text (← takeText again strip w)
    | _ => return .lead stream direction w
  | t => unexpected t

/-- Reads the redirections after a compound command. -/
def readRedirects (again : Readers) : Nat → ReadM (List Redirect)
  | 0 => return []
  | fuel + 1 => do
    match ← next again true false with
    | .redirect stream direction strip =>
      let r ← readTarget again stream direction strip
      return r :: (← readRedirects again fuel)
    | t =>
      ReadM.push t
      return []

/-- The name and the value of an assignment, if a word is one. -/
def assignment? : Word → Option (Text × Word)
  | .plain t :: parts =>
    match Text.cut 0x3D t with
    | (name, some value) =>
      if isName name then some (name, if value.isEmpty then parts else .plain value :: parts)
      else none
    | _ => none
  | _ => none

/-- What a call is made of so far, each list from the last to the first. -/
structure Call where
  /-- The assignments. -/
  assignments : List (Text × Word) := []
  /-- The words. -/
  words : List Word := []
  /-- The redirections. -/
  redirects : List Redirect := []

/-- The command of a call. -/
def Call.command (c : Call) (line : Nat) : Command :=
  .call line c.assignments.reverse c.words.reverse c.redirects.reverse

/-- The names that no function may have. -/
def takenNames : List Text :=
  [".", ":", "break", "continue", "eval", "exec", "exit", "export", "local", "readonly", "return",
    "set", "shift", "times", "trap", "unset"]

/-- The name of a function, if a word is one that a function may have. -/
def functionName? : Word → Option Text
  | [.plain t] => if isName t && !takenNames.contains t then some t else none
  | _ => none

/-- Reads a call from its assignments on, or the definition of a function. -/
def readCall (again : Readers) (line : Nat) (c : Call) : Nat → ReadM Command
  | 0 => return c.command line
  | fuel + 1 => do
    match ← next again false false with
    | .word w =>
      match c.words, assignment? w with
      | [], some a => readCall again line { c with assignments := a :: c.assignments } fuel
      | _, _ => readCall again line { c with words := w :: c.words } fuel
    | .redirect stream direction strip =>
      let r ← readTarget again stream direction strip
      readCall again line { c with redirects := r :: c.redirects } fuel
    | .opening =>
      match c.words, c.assignments, c.redirects with
      | [w], [], [] =>
        match ← next again false false with
        | .closing =>
          match functionName? w with
          | none => ReadM.fail .badFunctionName
          | some name =>
            ReadM.push (← next again true true)
            return .define name (← again.command)
        | t => unexpected t (some .closing)
      | _, _, _ =>
        ReadM.push .opening
        return c.command line
    | t =>
      ReadM.push t
      return c.command line

/-- Reads the rest of a conditional after its first keyword. -/
def readChoice (again : Readers) : Nat → ReadM Command
  | 0 => return .nothing
  | fuel + 1 => do
    let test ← again.compound
    expect again "then"
    let yes ← again.compound
    match ← next again true false with
    | .keyword t =>
      if t = "elif" then return .choice test yes (some (← readChoice again fuel))
      else if t = "else" then
        let no ← again.compound
        expect again "fi"
        return .choice test yes (some no)
      else if t = "fi" then return .choice test yes none
      else unexpected (.keyword t) (some (.keyword "fi"))
    | t => unexpected t (some (.keyword "fi"))

/-- Reads the rest of a loop after its first keyword. -/
def readLoop (again : Readers) (untilSuccess : Bool) : ReadM Command := do
  let test ← again.compound
  expect again "do"
  let body ← again.compound
  expect again "done"
  return .loop untilSuccess test body

/-- Reads words up to a token that is none; that one comes back too. -/
def readWords (again : Readers) : Nat → ReadM (List Word × Token)
  | 0 => return ([], .stop)
  | fuel + 1 => do
    match ← next again false false with
    | .word w =>
      let (ws, t) ← readWords again fuel
      return (w :: ws, t)
    | t => return ([], t)

/-- Reads the rest of a loop over words after its first keyword. -/
def readEach (again : Readers) (line : Nat) : ReadM Command := do
  let name ← match ← next again false false with
    | .word [.plain t] => if isName t then pure t else ReadM.fail .badLoopName
    | _ => ReadM.fail .badLoopName
  let words? ← match ← next again true true with
    | .keyword t =>
      if t = "in" then
        match ← readWords again ((← get).rest.length + 1) with
        | (ws, .newline) | (ws, .semicolon) => pure (some ws)
        | (_, t) => unexpected t
      else
        ReadM.push (.keyword t)
        pure none
    | .semicolon => pure none
    | t =>
      ReadM.push t
      pure none
  match ← next again true true with
  | .keyword t => unless t = "do" do unexpected (.keyword t) (some (.keyword "do"))
  | t => unexpected t (some (.keyword "do"))
  let body ← again.compound
  expect again "done"
  return .each line name words? body

/-- The word that a token is spelled as. -/
def Token.spelling : Token → Word
  | .word w => w
  | .keyword t => [.plain t]
  | _ => []

/-- Reads the patterns of a case after its first one. -/
def readPatterns (again : Readers) : Nat → ReadM (List Word)
  | 0 => return []
  | fuel + 1 => do
    match ← next again false false with
    | .pipe =>
      let t ← next again false false
      return t.spelling :: (← readPatterns again fuel)
    | .closing => return []
    | t => unexpected t (some .closing)

/-- Reads the cases of a selection up to its last keyword. -/
def readCases (again : Readers) : Nat → ReadM (List (List Word × Command))
  | 0 => return []
  | fuel + 1 => do
    match ← next again true true with
    | .keyword t =>
      if t = "esac" then return []
      else one (.keyword t) fuel
    | .opening => one (← next again false false) fuel
    | t => one t fuel
where
  /-- Reads one case from its first pattern on, and the cases after it. -/
  one (first : Token) (fuel : Nat) : ReadM (List (List Word × Command)) := do
    let patterns ← readPatterns again ((← get).rest.length + 1)
    let body ← again.list
    let case := (first.spelling :: patterns, body)
    match ← next again true true with
    | .caseEnd => return case :: (← readCases again fuel)
    | .keyword t =>
      if t = "esac" then return [case] else unexpected (.keyword t) (some .caseEnd)
    | t => unexpected t (some .caseEnd)

/-- Reads the rest of a selection after its first keyword. -/
def readSelect (again : Readers) (line : Nat) : ReadM Command := do
  match ← next again false false with
  | .word w =>
    match ← next again true true with
    | .keyword t => unless t = "in" do unexpected (.keyword t) (some (.keyword "in"))
    | t => unexpected t (some (.keyword "in"))
    return .select line w (← readCases again ((← get).rest.length + 1))
  | t => unexpected t (some (.word []))

/-- Reads one command. -/
def readCommand (again : Readers) : ReadM Command := do
  let t ← next again true false
  let line := (← get).line
  let finish : Command → ReadM Command := fun c => do
    match ← readRedirects again ((← get).rest.length + 1) with
    | [] => return c
    | rs => return .redirected line c rs
  match t with
  | .word _ | .redirect .. =>
    ReadM.push t
    readCall again line {} ((← get).rest.length + 2)
  | .opening =>
    let c ← again.compound
    match ← next again true false with
    | .closing => finish (.subshell c)
    | t => unexpected t (some .closing)
  | .keyword k =>
    if k = "if" then finish (← readChoice again ((← get).rest.length + 1))
    else if k = "while" then finish (← readLoop again false)
    else if k = "until" then finish (← readLoop again true)
    else if k = "for" then finish (← readEach again line)
    else if k = "case" then finish (← readSelect again line)
    else if k = "\x7b" then
      let c ← again.compound
      expect again "\x7d"
      finish c
    else unexpected t
  | t => unexpected t

/-- Reads the commands of a pipe after the first one. -/
def readPipe (again : Readers) : Nat → ReadM (List Command)
  | 0 => return []
  | fuel + 1 => do
    match ← next again false false with
    | .pipe =>
      ReadM.push (← next again true true)
      let c ← readCommand again
      return c :: (← readPipe again fuel)
    | t =>
      ReadM.push t
      return []

/-- Reads a pipe. -/
def readPipeline (again : Readers) : ReadM Command := do
  let t ← next again true false
  let negated : Bool := match t with
    | .keyword t => t = "!"
    | _ => false
  unless negated do ReadM.push t
  let c ← readCommand again
  let all := c :: (← readPipe again ((← get).rest.length + 1))
  let pipe := match all with
    | [c] => c
    | cs => .pipe cs
  return if negated then .negate pipe else pipe

/-- Reads what follows a pipe after success or failure. -/
def readChain (again : Readers) (c : Command) : Nat → ReadM Command
  | 0 => return c
  | fuel + 1 => do
    match ← next again false false with
    | .andThen =>
      ReadM.push (← next again true true)
      readChain again (.andThen c (← readPipeline again)) fuel
    | .orElse =>
      ReadM.push (← next again true true)
      readChain again (.orElse c (← readPipeline again)) fuel
    | t =>
      ReadM.push t
      return c

/-- What is read of a list of commands. -/
inductive Extent where
  /-- One line. -/
  | line
  /-- At least one command, over as many lines as there are. -/
  | compound
  /-- The same, but there may be none. -/
  | substitution
deriving DecidableEq, Repr

/-- Reads a list of commands; `before?` are those that were read already. -/
def readList (again : Readers) (extent : Extent) (mayEnd : Bool) (before? : Option Command) :
    Nat → ReadM (Option Command)
  | 0 => return before?
  | fuel + 1 => do
    let t ← next again true (extent != .line)
    match t with
    | .newline => return before?
    | .stop =>
      ReadM.push .stop
      return before?
    | _ =>
      ReadM.push t
      if mayEnd && t.endsList then return before?
      let first ← readPipeline again
      let c ← readChain again first ((← get).rest.length + 1)
      let t ← next again false false
      let c := match t with
        | .ampersand => .background c
        | _ => c
      let all := match before? with
        | some before => .sequence before c
        | none => c
      match t with
      | .stop =>
        ReadM.push .stop
        return some all
      | .newline =>
        ReadM.push .newline
        readList again extent (extent != .line) (some all) fuel
      | .ampersand | .semicolon => readList again extent (extent != .line) (some all) fuel
      | t =>
        if extent = .line then unexpected t
        else
          ReadM.push t
          return some all

/-- Reads a list of commands inside another command. -/
def readInside (again : Readers) (extent : Extent) : ReadM Command := do
  let c? ← readList again extent (extent = .substitution) none ((← get).rest.length + 2)
  return c?.getD .nothing

/-- The readers of what words and commands hold. The fuel bounds how deep they hold one another. -/
def readers : Nat → Readers
  | 0 =>
    { list := return .nothing, compound := return .nothing, command := return .nothing,
      word := fun _ => return [] }
  | fuel + 1 =>
    { list := fun s => readInside (readers fuel) .substitution s
      compound := fun s => readInside (readers fuel) .compound s
      command := fun s => readCommand (readers fuel) s
      word := fun ending s => readWord (readers fuel) ending s }

/-- Whether nothing more of a script is left. -/
def Scan.isDone (s : Scan) : Bool :=
  match s.pushed? with
  | some .stop => true
  | some _ => false
  | none => s.rest.isEmpty

/-- The next complete command of a script, if it is not at its end, and the place after it. -/
def nextCommand (s : Scan) : Except MistakeAt (Option Command) × Scan :=
  let again := readers (s.rest.length + 2)
  (readList again .line false none (s.rest.length + 2)).run.run s

end ServiceWiring.Script
