import ServiceWiring.Text.Utf8

/-!
# Go literals

A text as a Go expression that is readable as it stands: raw literals between backquotes. A
backquote itself cannot stand in a raw literal, so it is added as an interpreted one.
-/

namespace ServiceWiring.Go

/-- One code point inside a raw literal; a backquote closes the literal and opens the next one. -/
def rawOne (c : CodePoint) : Text := if c.val = 0x60 then "` + \"`\" + `" else [c]

/-- A text as a sum of raw literals. -/
def rawLiteral (t : Text) : Text := "`" ++ t.flatMap rawOne ++ "`"

/-- The octets of a text as a sum of raw literals. -/
def rawLiteralOfOctets (o : Octets) : Except Utf8.DecodeError Text := (Utf8.decode o).map rawLiteral

end ServiceWiring.Go
