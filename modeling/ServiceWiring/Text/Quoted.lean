import ServiceWiring.Text.Number
import ServiceWiring.Text.Printable

/-!
# Quoted text

A text between quotes, as messages name it. The quotes are single unless the text holds a single
quote and no double one. Code points that do not print are written as escapes.
-/

namespace ServiceWiring.Text

/-- One code point between the given quotes. -/
def quoteOne (mark c : CodePoint) : Text :=
  if c = mark || c = '\\' then ['\\', c]
  else if c = '\n' then "\\n"
  else if c = '\r' then "\\r"
  else if c = '\t' then "\\t"
  else if c.isPrintable then [c]
  else if c.val < 0x100 then "\\x" ++ hex 2 c.val
  else if c.val < 0x10000 then "\\u" ++ hex 4 c.val
  else "\\U" ++ hex 8 c.val

/-- The quotes for a text: double ones where that saves an escape. -/
def quoteMark (t : Text) : CodePoint :=
  if t.contains '\'' && !t.contains '"' then '"' else '\''

/-- The text between quotes. -/
def quoted (t : Text) : Text :=
  let mark := quoteMark t
  mark :: t.flatMap (quoteOne mark) ++ [mark]

example : quoted "it's\n" = "\"it's\\n\"" ∧ quoted "'\"" = "'\\'\"'" := by decide

end ServiceWiring.Text
