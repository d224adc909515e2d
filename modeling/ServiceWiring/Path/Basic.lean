import ServiceWiring.Text.Basic

/-!
# Paths as text

A path is a text whose names are divided by slashes. These operations only look at the text: none of
them asks a disk.
-/

namespace ServiceWiring.Path

/-- The code point that divides names. -/
abbrev slash : CodePoint := 0x2F

/-- The code point that starts an extension. -/
abbrev dot : CodePoint := 0x2E

/-- Whether the path starts at the root. -/
def isAbsolute (p : Text) : Bool := p.head? = some slash

/-- What follows the last slash. -/
def base (p : Text) : Text := (p.reverse.takeWhile (· ≠ slash)).reverse

/-- What comes up to the last slash, without the slashes at its end unless it has nothing else. -/
def directory (p : Text) : Text :=
  let head := (p.reverse.dropWhile (· ≠ slash)).reverse
  if head.all (· = slash) then head else Text.dropRight slash head

/-- A name without its extension, which starts at the last dot. Dots at the start of a name belong
to it: if nothing else comes before the last dot there is no extension. -/
def dropExtensionOfName (name : Text) : Text :=
  let beforeDot := (name.reverse.dropWhile (· ≠ dot)).drop 1 |>.reverse
  if beforeDot.all (· = dot) then name else beforeDot

/-- The path with the extension of its last name dropped. -/
def dropExtension (p : Text) : Text :=
  (p.reverse.dropWhile (· ≠ slash)).reverse ++ dropExtensionOfName (base p)

/-- The second path as seen from the first; an absolute one stands for itself. -/
def join (p q : Text) : Text :=
  if isAbsolute q then q
  else if p.isEmpty || p.getLast? = some slash then p ++ q
  else p ++ "/" ++ q

example : dropExtension "api/v1/users.proto" = "api/v1/users" ∧
    dropExtension "a.b/.hidden" = "a.b/.hidden" := by decide

end ServiceWiring.Path
