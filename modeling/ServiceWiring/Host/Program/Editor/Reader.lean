import ServiceWiring.Host.Program.Editor.Basic

/-!
# Reading scripts of the line editor

The reader keeps what is left of a script, so that a mistake can tell how far it had come.
-/

namespace ServiceWiring.Editor

/-- A mistake, and what was left of the script. -/
structure MistakeAt where
  /-- The mistake. -/
  mistake : Mistake
  /-- How much was left of the script. -/
  left : Nat
deriving DecidableEq, Repr

/-- Reading a script, of which the state is left. -/
abbrev ReadM := ExceptT MistakeAt (StateM Text)

/-- Gives up. -/
def fail {α : Type} (mistake : Mistake) : ReadM α := do throw ⟨mistake, (← get).length⟩

/-- The blanks between the parts of a command. -/
def isBlank (c : CodePoint) : Bool := c = 0x20 || 0x09 ≤ c && c ≤ 0x0D && c ≠ 0x0A

/-- Passes blanks. -/
def skipBlanks : ReadM Unit := modify (·.dropWhile isBlank)

/-- Reads one code point. -/
def read? : ReadM (Option CodePoint) :=
  modifyGet fun
    | c :: r => (some c, r)
    | [] => (none, [])

/-- Reads a number, if there is one. -/
def readNumber? : ReadM (Option Nat) :=
  modifyGet fun t =>
    let ds := t.takeWhile CodePoint.isDigit
    (if ds.isEmpty then none else some (Text.natOfDigits ds), t.drop ds.length)

/-- The text up to a mark that no backslash comes before, and what follows it. A backslash before
the mark or a line break is dropped, and with `breaks` a backslash and an `n` stand for a line
break. Any other line break comes too early. -/
def cutAt (mark : CodePoint) (breaks : Bool) : Text → Option (Text × Text)
  | 0x5C :: c :: r =>
    (cutAt mark breaks r).map fun (t, r) =>
      (if c = mark || c = 0x0A then c :: t
        else if c = 0x6E && breaks then 0x0A :: t
        else 0x5C :: c :: t, r)
  | c :: r =>
    if c = mark then some ([], r)
    else if c = 0x0A then none
    else (cutAt mark breaks r).map fun (t, r) => (c :: t, r)
  | [] => none

/-- Where a regular expression has come to, as far as its sets are concerned. -/
inductive SetPlace where
  /-- Outside sets. -/
  | outside
  /-- Where a set has just begun; with `negated` its first mark has come. -/
  | start (negated : Bool)
  /-- In a set. -/
  | inside
  /-- In a class of a set, up to a mark and a bracket. -/
  | named (mark : CodePoint)
deriving DecidableEq, Repr

/-- The regular expression up to a mark that no backslash comes before and that is in no set, and
what follows it. -/
def cutExpression (mark : CodePoint) (place : SetPlace) : Text → Option (Text × Text)
  | [] => none
  | c :: r =>
    let next := fun (place : SetPlace) (t : Text) =>
      (cutExpression mark place r).map fun (u, r) => (t ++ u, r)
    match place with
    | .outside =>
      if c = mark then some ([], r)
      else if c = 0x0A then none
      else if c = 0x5B then next (.start false) [c]
      else if c = 0x5C then
        match r with
        | [] => none
        | d :: r =>
          let t : Text := if d = mark || d = 0x0A then [d] else if d = 0x6E then [0x0A] else [c, d]
          (cutExpression mark .outside r).map fun (u, r) => (t ++ u, r)
      else next .outside [c]
    | .start negated =>
      if c = 0x5E && !negated then next (.start true) [c]
      else if c = 0x5B && opensClass r then next (.named (r.headD 0)) [c]
      else next .inside [c]
    | .inside =>
      if c = 0x5D then next .outside [c]
      else if c = 0x5B && opensClass r then next (.named (r.headD 0)) [c]
      else next .inside [c]
    | .named m =>
      if c = m && r.head? = some 0x5D then
        match r with
        | d :: r => (cutExpression mark .inside r).map fun (u, r) => (c :: d :: u, r)
        | [] => none
      else next (.named m) [c]
where
  /-- Whether a class is named after an opening bracket. -/
  opensClass (r : Text) : Bool :=
    r.head? = some 0x3A || r.head? = some 0x2E || r.head? = some 0x3D

/-- The character that a letter stands for after a backslash. -/
def letterOf? (c : CodePoint) : Option CodePoint :=
  match c with
  | 0x61 => some 0x07
  | 0x66 => some 0x0C
  | 0x6E => some 0x0A
  | 0x72 => some 0x0D
  | 0x74 => some 0x09
  | 0x76 => some 0x0B
  | _ => none

/-- A regular expression with its escapes for single characters replaced. -/
def replaceEscapes : Text → Text
  | 0x5C :: c :: r =>
    match letterOf? c with
    | some d => d :: replaceEscapes r
    | none => 0x5C :: c :: replaceEscapes r
  | c :: r => c :: replaceEscapes r
  | [] => []

/-- The pattern of a regular expression; an empty one stands for the pattern used last. -/
def readPattern (extended : Bool) (t flags : Text) : ReadM (Option Pattern) := do
  if t.isEmpty then return none
  let form : Regex.Form := { extended, lines := flags.contains 0x4D || flags.contains 0x6D }
  match Regex.read form (replaceEscapes t) with
  | .error f => fail (.flawed f)
  | .ok p => return some (if flags.contains 0x49 || flags.contains 0x69 then p.foldCase else p)

/-- Reads an address, if there is one. -/
def readAddress? (extended : Bool) : ReadM (Option Address) := do
  match ← get with
  | 0x24 :: r =>
    set r
    return some .last
  | 0x2F :: r => some <$> expression 0x2F r
  | 0x5C :: mark :: r => some <$> expression mark r
  | t =>
    match ← readNumber? with
    | none => return none
    | some n =>
      match ← get with
      | 0x7E :: r =>
        set r
        return some (.step n ((← readNumber?).getD 0))
      | _ => return if t.isEmpty then none else some (.line n)
where
  /-- Reads an address that is a regular expression up to a mark. -/
  expression (mark : CodePoint) (r : Text) : ReadM Address := do
    match cutExpression mark .outside r with
    | none =>
      set ([] : Text)
      fail .openAddress
    | some (t, r) =>
      let flags := r.takeWhile fun c => c = 0x49 || c = 0x4D
      set (r.drop flags.length)
      return .pattern (← readPattern extended t flags)

/-- Reads the end of a range. -/
def readUntil (extended : Bool) : ReadM Until := do
  match ← get with
  | 0x2B :: r =>
    set r
    return .after ((← readNumber?).getD 0)
  | 0x7E :: r =>
    set r
    return .multiple ((← readNumber?).getD 0)
  | _ =>
    match ← readAddress? extended with
    | some a => return .address a
    | none => fail .unexpectedComma

/-- Reads the lines that a command is for. -/
def readLines (extended : Bool) : ReadM Lines := do
  let start? ← readAddress? extended
  skipBlanks
  let stop? ← match start?, ← get with
    | some _, 0x2C :: r => do
      set r
      skipBlanks
      some <$> readUntil extended
    | _, _ => pure none
  skipBlanks
  let t ← get
  let marks := t.takeWhile fun c => c = 0x21 || isBlank c
  set (t.drop marks.length)
  return { start?, stop?, negated := marks.contains 0x21 }

/-- The parts of what comes in for a match. -/
def parts : Text → List Part
  | 0x5C :: c :: r =>
    if c.isDigit then .group (c.val - 0x30) :: parts r
    else if c = 0x4C then .letters (some false) :: parts r
    else if c = 0x55 then .letters (some true) :: parts r
    else if c = 0x45 then .letters none :: parts r
    else if c = 0x6C then .letter false :: parts r
    else if c = 0x75 then .letter true :: parts r
    else .text [(letterOf? c).getD c] :: parts r
  | 0x26 :: r => .group 0 :: parts r
  | c :: r => .text [c] :: parts r
  | [] => []

/-- How many groups a pattern has. -/
def groupCount : Pattern → Nat
  | .group n p => max n (groupCount p)
  | .both p q | .either p q => max (groupCount p) (groupCount q)
  | .times p .. => groupCount p
  | _ => 0

/-- Reads the name of a file up to the end of the line. -/
def readFileName : ReadM Text := do
  skipBlanks
  let t ← get
  let name := t.takeWhile (· ≠ 0x0A)
  set (t.drop name.length)
  if name.isEmpty then fail .noFile else return name

/-- Reads the letters after a replacement. -/
def readFlags (s : Substitution) (letters : Text) : Nat → ReadM (Substitution × Text)
  | 0 => return (s, letters)
  | fuel + 1 => do
    match ← get with
    | 0x67 :: r =>
      set r
      readFlags { s with everywhere := true } letters fuel
    | 0x70 :: r =>
      set r
      readFlags { s with prints := true } letters fuel
    | 0x77 :: r =>
      set r
      return ({ s with file? := some (← readFileName) }, letters)
    | c :: r =>
      if c = 0x49 || c = 0x69 || c = 0x4D || c = 0x6D then
        set r
        readFlags s (c :: letters) fuel
      else if c.isDigit then
        match (← readNumber?).getD 0 with
        | 0 => fail .zero
        | n => readFlags { s with first := n } letters fuel
      else return (s, letters)
    | [] => return (s, letters)

/-- Passes the end of a command. A closing brace is left. -/
def readEnd : ReadM Unit := do
  skipBlanks
  match ← get with
  | [] | 0x7D :: _ | 0x23 :: _ => return
  | c :: r =>
    set r
    unless c = 0x3B || c = 0x0A do fail .extra

/-- Reads a replacement after its letter. -/
def readSubstitution (extended : Bool) : ReadM Action := do
  match ← read? with
  | none => fail .openReplacement
  | some mark =>
    match cutExpression mark .outside (← get) with
    | none =>
      set ([] : Text)
      fail .openReplacement
    | some (old, r) =>
      match cutAt mark false r with
      | none =>
        set ([] : Text)
        fail .openReplacement
      | some (new, r) =>
        set r
        let parts := parts new
        let (s, flags) ← readFlags { pattern? := none, parts } [] (r.length + 1)
        let pattern? ← readPattern extended old flags
        skipBlanks
        match ← get with
        | [] | 0x7D :: _ | 0x23 :: _ | 0x3B :: _ | 0x0A :: _ => pure ()
        | _ :: r =>
          set r
          fail .unknownOption
        if let some p := pattern? then
          for part in parts do
            if let .group n := part then
              if groupCount p < n then fail (.noGroup n)
        return .substitute { s with pattern? }

/-- A side of a transliteration with its escapes replaced. -/
def unescapeSide : Text → Text
  | 0x5C :: c :: r =>
    if c = 0x5C then 0x5C :: unescapeSide r
    else
      match letterOf? c with
      | some d => d :: unescapeSide r
      | none => 0x5C :: c :: unescapeSide r
  | c :: r => c :: unescapeSide r
  | [] => []

/-- Reads a transliteration after its letter. -/
def readTransliteration : ReadM Action := do
  match ← read? with
  | none => fail .openTransliteration
  | some mark =>
    match (cutAt mark true (← get)).bind fun (source, r) =>
        (cutAt mark true r).map fun (target, r) => (source, target, r) with
    | none =>
      set ([] : Text)
      fail .openTransliteration
    | some (source, target, r) =>
      set r
      let (source, target) := (unescapeSide source, unescapeSide target)
      if source.length ≠ target.length then fail .uneven
      return .translate (source.zip target)

/-- A text to be written up to the end of its line; a backslash keeps what follows it, also a line
break. -/
def cutText : Text → Text × Text
  | 0x5C :: c :: r =>
    let (t, r) := cutText r
    (c :: t, r)
  | 0x0A :: r => ([], r)
  | c :: r =>
    let (t, r) := cutText r
    (c :: t, r)
  | [] => ([], [])

/-- Reads a text to be written. -/
def readText : ReadM Text := do
  skipBlanks
  let t ← get
  if t.isEmpty then fail .noText
  let t := match t with
    | 0x5C :: r =>
      match r.dropWhile isBlank with
      | 0x0A :: r => r
      | _ => r
    | t => t
  let (text, r) := cutText t
  set r
  return text ++ [0x0A]

/-- Reads the name of a place. -/
def readLabel (stops : CodePoint → Bool) : ReadM Text := do
  skipBlanks
  let t ← get
  let name := t.takeWhile fun c => !stops c
  set (t.drop name.length)
  return name

/-- Reads what a command does from its letter on, if it is no block. -/
def readAction (extended : Bool) (c : CodePoint) : ReadM Action := do
  let isStop := fun (c : CodePoint) => c = 0x3B || c = 0x0A
  let isBranchStop := fun (c : CodePoint) => isStop c || isBlank c || c = 0x7D
  let simple := fun (a : Action) => do
    readEnd
    return a
  let branch := fun (a : Text → Action) => do
    let name ← readLabel isBranchStop
    readEnd
    return a name
  match c with
  | 0x3A =>
    let name ← readLabel isStop
    if name.isEmpty then fail .noLabel
    return .label name
  | 0x62 => branch .branch
  | 0x74 => branch (.branchIf true)
  | 0x54 => branch (.branchIf false)
  | 0x73 =>
    let a ← readSubstitution extended
    simple a
  | 0x79 =>
    let a ← readTransliteration
    simple a
  | 0x64 => simple .delete
  | 0x44 => simple .deleteLine
  | 0x70 => simple .print
  | 0x50 => simple .printLine
  | 0x6C => simple .list
  | 0x6E => simple .next
  | 0x4E => simple .appendNext
  | 0x71 | 0x51 =>
    skipBlanks
    let status := (← readNumber?).getD 0
    simple (.quit (c = 0x51) status)
  | 0x3D => simple .number
  | 0x68 => simple (.hold false)
  | 0x48 => simple (.hold true)
  | 0x67 => simple (.get false)
  | 0x47 => simple (.get true)
  | 0x78 => simple .exchange
  | 0x7A => simple .clear
  | 0x61 => .append <$> readText
  | 0x69 => .insert <$> readText
  | 0x63 => .change <$> readText
  | 0x72 => .read <$> readFileName
  | 0x77 => .write <$> readFileName
  | c => fail (.unknown c)

/-- A list of commands with the end of an open block filled in. -/
def closeBlock (commands : Array Command) (opened : Nat) : Array Command :=
  match commands[opened]? with
  | some c => commands.setIfInBounds opened { c with action := .opening commands.size }
  | none => commands

/-- Reads the commands of a script after those that were read already; `opened` are the blocks that
are open. -/
def readCommands (extended : Bool) (commands : Array Command) (opened : List Nat) :
    Nat → ReadM (Array Command)
  | 0 => return commands
  | fuel + 1 => do
    modify (·.dropWhile fun c => isBlank c || c = 0x3B || c = 0x0A)
    match ← get with
    | [] => if opened.isEmpty then return commands else throw ⟨.openBlock, 0⟩
    | 0x23 :: r =>
      set (r.dropWhile (· ≠ 0x0A))
      readCommands extended commands opened fuel
    | _ =>
      let lines ← readLines extended
      match ← read? with
      | none => fail .missing
      | some 0x7B =>
        let c : Command := ⟨lines, .opening 0⟩
        readCommands extended (commands.push c) (commands.size :: opened) fuel
      | some 0x7D =>
        match opened with
        | [] => fail .closedBlock
        | o :: opened =>
          if lines.start?.isSome then fail (.noAddress 0x7D)
          readEnd
          let commands := commands.push ⟨{}, .closing⟩
          readCommands extended (closeBlock commands o) opened fuel
      | some c =>
        if c = 0x3A && lines.start?.isSome then fail (.noAddress c)
        if c = 0x0A then fail .missing
        let action ← readAction extended c
        let single := match action with
          | .number | .append _ | .insert _ | .read _ => false
          | .quit .. => lines.stop?.isSome
          | _ => false
        if single then fail .oneAddress
        readCommands extended (commands.push ⟨lines, action⟩) opened fuel

/-- The name of the place that an action goes to. -/
def Action.target? : Action → Option Text
  | branch name | branchIf _ name => if name.isEmpty then none else some name
  | _ => none

/-- The commands of a script. -/
def readScript (extended : Bool) (t : Text) : Except MistakeAt (Array Command) := do
  let commands ← ((readCommands extended #[] [] (t.length + 1)).run.run t).1
  let labels := commands.toList.filterMap fun c =>
    match c.action with
    | .label name => some name
    | _ => none
  match (commands.toList.filterMap (·.action.target?)).find? fun name => !labels.contains name with
  | some name => throw ⟨.unknownLabel name, t.length⟩
  | none => return commands

end ServiceWiring.Editor
