import HouseStyle.Rule.Basic
import HouseStyle.Text.Case

/-!
# Structures and enumerations

The layout of the fields of a structure and of the members of an enumeration.
-/

namespace HouseStyle.Rule

/-- Where a scan stands with respect to a structure: the brace depth, whether a structure is open and is a type
definition, and the column its names start on (0 before the first). -/
structure FieldState where
  depth : Nat := 0
  inside : Bool := false
  isTypedef : Bool := false
  column : Nat := 0

/-- The line begins a structure: it names one outside all braces and is neither a signature nor a whole declaration. -/
def beginsStructure (line : Text) : Bool :=
  (line.includes "struct" || line.includes "union") &&
    !(line.has '(' || line.has ',' || line.has ')') && !line.trim.endsWith ";"

/-- Reads a line: the last word of a field line, and of the line that names the structure, starts on one column. -/
def FieldState.next (s : FieldState) (line : Text) : FieldState × List Text :=
  let depth := if line.has '{' then s.depth + 1 else s.depth
  let depth := if line.has '}' then depth - 1 else depth
  let s := { s with depth }
  let s := if depth = 0 && beginsStructure line then
      { s with inside := true, isTypedef := line.includes "typedef" }
    else s
  if !s.inside then (s, [])
  else
    let words := line.words
    let closes := line.has '}'
    let current := line.length - (words.getLast?.getD []).length
    let checked := !line.has '{' && !words.isEmpty && !(!s.isTypedef && closes) &&
      (!line.includes "typedef" || words.length > 2)
    let messages := messagesWhere [(checked && s.column != 0 && current != s.column,
      "Wrong field indentation. Expected " ++ Text.ofNat s.column ++ " got " ++ Text.ofNat current)]
    let column := if checked && s.column = 0 then current else s.column
    (if closes then { s with inside := false, column := 0 } else { s with column }, messages)

/-- The names of a structure and of its fields are aligned. -/
def structureFields : Rule where
  name := "structure-fields"
  doc := "Check that structure field names are aligned.\n\n" ++
    "The column of the structure name (or of the first field when the structure is anonymous) fixes the column " ++
    "every field name must start on. For a typedef the alias after the closing brace is aligned too."
  severity := .warning
  run := LineScan.run { start := {}, step := FieldState.next }

/-- What is wrong with a line of an enumeration, before the line with the closing brace or on it. -/
def enumeratorMessages (last : Bool) (line : Text) : List Text :=
  let upper := line.upper
  messagesWhere
    [(!last && upper != line,
      "Enum values must be entirely capitalized. Expected '" ++ upper ++ "' got '" ++ line ++ "'"),
     (line.has ',' && line.trim.length > 1 && !((line.pieces ',').getLast?.getD []).isBlank,
      "Enum values must be on their own line")]

/-- The members of an enumeration are capitalized and stand on lines of their own. -/
def enum : Rule where
  name := "enum"
  doc := "Check enumeration bodies.\n\n" ++
    "Every line between the enum keyword and the closing brace must be entirely\n" ++
    "upper case, and each enumerator sits on its own line: a comma is the last\n" ++
    "token of its line."
  severity := .warning
  run := LineScan.run
    { start := false
      step := fun inside line =>
        let last := line.has '}'
        let messages := if inside then enumeratorMessages last line else []
        let text := line.trimLeft
        let begins := line.includes "enum" && !text.startsWith "//" && !text.startsWith "**"
        ((inside && !last) || begins, messages) }

end HouseStyle.Rule
