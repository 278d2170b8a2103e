import HouseStyle.Text.Blank

/-!
# The lines of a source file

A line ends at a newline, and a carriage return before the newline belongs to the terminator. A final terminator opens
no further line, so an empty file has no lines.
-/

namespace HouseStyle

/-- The lines of a file, without their terminators. -/
def splitLines (content : Text) : List Text :=
  if content.isEmpty then []
  else
    let lines := content.pieces '\n'
    let lines := if lines.getLast? = some [] then lines.dropLast else lines
    lines.map (·.trimSuffix "\r")

/-- A file to check: its name and its lines. -/
structure Source where
  name : Text
  lines : List Text

/-- The file with this name and content. -/
def Source.ofContent (name content : Text) : Source := ⟨name, splitLines content⟩

end HouseStyle
