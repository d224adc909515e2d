import ServiceWiring.CommandLine.Arguments
import ServiceWiring.Machine
import ServiceWiring.Text.Blank
import ServiceWiring.Text.Digits
import ServiceWiring.Text.Wrapped

/-!
# Usage

The texts that explain the command line. They are laid out for a number of columns, the last two of
which stay empty.
-/

namespace ServiceWiring.CommandLine

namespace Switch

/-- All switches, in the order in which they are explained. -/
def all : List Switch :=
  [help, out, impl, force, implPath, descPath, swaggerDir, gofmt, noGofmt, verbose]

/-- What the value of a switch is called. -/
def valueName? : Switch → Option Text
  | out => some "OUT"
  | implPath => some "IMPL_PATH"
  | descPath => some "DESC_PATH"
  | swaggerDir => some "SWAGGER_DIR"
  | gofmt => some "GOFMT"
  | help | impl | force | noGofmt | verbose => none

/-- What a switch is for. -/
def purpose : Switch → Text
  | help => "show this help message and exit"
  | out => "output directory"
  | impl =>
    "also generate implementation stubs; existing stubs are looked up next to the claygen " ++
      "executable, not in --out"
  | force => "overwrite existing implementation stubs"
  | implPath => "import path segment of the stubs"
  | descPath => "import path segment of the wiring"
  | swaggerDir => "directory holding <file>.swagger.json documents"
  | gofmt => "gofmt command"
  | noGofmt => "emit rendered source unformatted"
  | verbose => []

/-- The names of a switch, each with its value. -/
def spellings (s : Switch) : List Text :=
  let value : Text := match s.valueName? with
    | some name => 0x20 :: name
    | none => []
  (names.filter (·.2 = s)).map fun (name, _) => name ++ value

/-- The switch in brackets, as one that may be left out. Two of which only one may be given share
them. -/
def optional? (s : Switch) : Option Text :=
  let first := fun (s : Switch) => s.spellings.headD []
  match s.rival? with
  | none => some ("[" ++ first s ++ "]")
  | some rival =>
    if all.idxOf s < all.idxOf rival then some ("[" ++ first s ++ " | " ++ first rival ++ "]")
    else none

end Switch

/-- The name of the tool. -/
def toolName : Text := "claygen"

/-- What the argument that is no switch is called. -/
def operandName : Text := "descriptors"

/-- Parts in lines that start with an indent and are no longer than a width, as far as the parts
are; `length` is that of the line that has begun, and `line` holds its parts. -/
def partLines (width : Int) (indent : Nat) (line : List Text) (length : Nat) :
    List Text → List Text
  | [] => if line.isEmpty then [] else [ending line]
  | part :: r =>
    if width < (length + 1 + part.length : Int) && !line.isEmpty then
      ending line :: partLines width indent [part] (indent + part.length) r
    else partLines width indent (line ++ [part]) (length + 1 + part.length) r
where
  /-- A line of parts. -/
  ending (line : List Text) : Text := List.replicate indent 0x20 ++ Text.joinWith " " line

/-- The width that texts have in a number of columns. -/
def textWidth (columns : Nat) : Int := columns - 2

/-- How the tool is called. -/
def usage (columns : Nat) : Text :=
  let width := textWidth columns
  let lead : Text := "usage: "
  let optional := Switch.all.filterMap Switch.optional?
  let whole := Text.joinWith " " (toolName :: optional ++ [operandName])
  let lines :=
    if (lead.length + whole.length : Int) ≤ width then [whole]
    else if (4 * (lead.length + toolName.length) : Int) ≤ 3 * width then
      let indent := lead.length + toolName.length + 1
      let first := partLines width indent [] (lead.length - 1) (toolName :: optional)
      -- The first line follows what comes before it.
      (first.head?.map (·.drop indent)).toList ++ first.drop 1 ++
        partLines width indent [] (indent - 1) [operandName]
    else
      let indent := lead.length
      let lines := fun (parts : List Text) => partLines width indent [] (indent - 1) parts
      let all := lines (optional ++ [operandName])
      toolName :: if 1 < all.length then lines optional ++ lines [operandName] else all
  lead ++ Text.joinWith "\n" lines ++ "\n"

/-- The greatest column at which purposes start. -/
def maxPurposeColumn (columns : Nat) : Nat := min 24 (max (textWidth columns - 20) 4).toNat

/-- An argument and its purpose, which starts at a column. -/
def explained (columns : Nat) (name purpose : Text) : Text :=
  let names := (Switch.all.map fun s => (Text.joinWith ", " s.spellings).length)
  let column := min ((names.foldl max operandName.length) + 4) (maxPurposeColumn columns)
  let lines := Text.wrap (max (textWidth columns - column) 11).toNat purpose
  let head : Text := "  " ++ name
  let below := fun (lines : List Text) =>
    lines.flatMap fun line => List.replicate column 0x20 ++ line ++ [0x0A]
  if head.length + 2 ≤ column && !lines.isEmpty then
    head ++ List.replicate (column - head.length) 0x20 ++ lines.headD [] ++
      (0x0A :: below (lines.drop 1))
  else head ++ (0x0A :: below lines)

/-- What the tool does, and what each argument means. -/
def helpText (columns : Nat) : Text :=
  let about : Text :=
    (Text.wrap (max (textWidth columns) 11).toNat
      "Generate clay HTTP transport wiring for gRPC services").flatMap (· ++ [0x0A])
  let options : Text := Switch.all.flatMap fun s =>
    explained columns (Text.joinWith ", " s.spellings) s.purpose
  usage columns ++ "\n" ++ about ++
    "\npositional arguments:\n" ++ explained columns operandName "descriptor set (JSON)" ++
    "\noptions:\n" ++ options

/-- A code point as the number of columns is read from it: digits of all scripts are alike, and so
are blanks. The information separators and the marks beyond the lines of ASCII are no blanks here.
-/
def plain (c : CodePoint) : CodePoint :=
  if c.val < 0x7F then c
  else
    match c.decimal? with
    | some d => Fin.ofNat _ (0x30 + d)
    | none => if c.isBlank then 0x20 else c

/-- The number that a text with blanks around it gives in digits, between which an underscore may
stand. -/
def count? (t : Text) : Option Nat :=
  let isGap := fun (c : CodePoint) => c = 0x20 || 0x09 ≤ c.val && c.val ≤ 0x0D
  let t := (((t.map plain).dropWhile isGap).reverse.dropWhile isGap).reverse
  let groups := Text.splitOn 0x5F (if t.head? = some 0x2B then t.drop 1 else t)
  let ds := groups.flatten
  if groups.all fun ds => !ds.isEmpty && ds.all CodePoint.isDigit then
    if ds.length ≤ 4300 then some (Text.natOfDigits ds) else none
  else none

/-- The number of columns that the environment asks for; eighty, if it asks for none. -/
def columns (m : Machine) : Nat :=
  match (m.environmentValue? "COLUMNS").bind count? with
  | some (n + 1) => n + 1
  | _ => 80

end ServiceWiring.CommandLine
