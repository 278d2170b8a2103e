import HouseStyle.Rule.Basic
import HouseStyle.Source.Line

/-!
# Spacing

The rules about the length of a line and the white space in it: no tabs, nothing after the last visible character, one
space after a comma and none before, semicolons at the end of the line only.
-/

namespace HouseStyle.Rule

/-- Lines are shorter than `max` bytes. -/
def lineSize (max : Int) : Rule where
  name := "line-size"
  doc := "Check that lines stay below the configured length.\n\n" ++
    "Length is measured in bytes, so a line must be strictly shorter than max-line-length."
  severity := .error
  run := (LineScan.perLine fun line => messagesWhere [((line.length : Int) ≥ max, "Line size exceeded")]).run

/-- No line holds a tab. -/
def spaceIndentation : Rule where
  name := "space-indentation"
  doc := "Report tab characters.\n\n" ++
    "The convention indents with spaces only; a tab anywhere on a line is reported once for that line."
  severity := .error
  run := (LineScan.perLine fun line => messagesWhere [(line.has '\t', "Tab used instead of spaces")]).run

/-- The last character of the line is white space. -/
def endsBlank (line : Text) : Bool := line.glyphs.getLast?.any (·.isBlank)

/-- No line ends in white space. -/
def trailingWhitespace : Rule where
  name := "trailing-whitespace"
  doc := "Report whitespace at the end of a line."
  severity := .warning
  run := (LineScan.perLine fun line => messagesWhere [(endsBlank line, "Trailing whitespace")]).run

/-- What is wrong with the semicolons of a line. -/
def semicolonMessages (line : Text) : List Text :=
  let n := line.countOf ';'
  if n = 1 then
    let left := line.dropLast
    let kept := Text.trimRight left
    messagesWhere
      [(Line.beginsWith line "while", "Too much semicolon found on this line"),
       (!line.endsWith ";", "Semicolon must be followed by a newline"),
       (line.endsWith ";" && !kept.isEmpty && kept.length != left.length,
        "Semicolon must not be preceded by whitespaces")]
  else
    messagesWhere [(n ≥ 2 && (!line.includes "for" || n > 2), "Too much semicolon found on this line")]

/-- A line holds one semicolon at most, at its end; a `for` header may hold two. -/
def semicolon : Rule where
  name := "semicolon"
  doc := "Check semicolon placement.\n\n" ++
    "A line holds at most one statement, so at most one semicolon (two inside a for header). A semicolon ends its " ++
    "line and is not preceded by whitespace. A while loop with an empty body (\"while (x);\") is reported."
  severity := .error
  run := (LineScan.perLine semicolonMessages).run

/-- What is wrong around the commas of a line, given the pieces after its first comma. -/
def afterCommas : List Text → List Text
  | [] => []
  | [last] =>
    if last.isEmpty then []
    else if last.isBlank then ["The last comma must be followed by a newline"]
    else messagesWhere [spacedBadly last]
  | piece :: rest => messagesWhere [endsSpaced piece, spacedBadly piece] ++ afterCommas rest
where
  spacedBadly (piece : Text) : Bool × Text :=
    (!piece.startsWith " " || piece.leadingWidth != 1, "Comma must be followed by exactly one whitespace")
  endsSpaced (piece : Text) : Bool × Text :=
    (piece.trimRight != piece, "Comma must not be preceded by whitespaces")

/-- What is wrong with the commas of a line. -/
def commaMessages (line : Text) : List Text :=
  match line.pieces ',' with
  | [] | [_] => []
  | first :: rest => messagesWhere [afterCommas.endsSpaced first] ++ afterCommas rest

/-- A comma has one space after it, unless it ends the line, and none before it. -/
def comma : Rule where
  name := "comma"
  doc := "Check spacing around commas.\n\n" ++
    "A comma is followed by exactly one space, is never preceded by whitespace, and a comma ending a line is " ++
    "directly followed by the newline."
  severity := .warning
  run := (LineScan.perLine commaMessages).run

end HouseStyle.Rule
