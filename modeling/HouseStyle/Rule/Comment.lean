import HouseStyle.Rule.Basic

/-!
# Block comments

The layout of comments that span several lines: the delimiters stand alone, and every line between them begins with two
stars.
-/

namespace HouseStyle.Rule

/-- The line holds the opening delimiter only, with one star or two. -/
def isLoneOpener (line : Text) : Bool :=
  line.inkCount == 2 || (line.inkCount == 3 && line.includes "/**")

/-- Reads a line of a file, inside a comment or not. -/
def commentStep (inside : Bool) (line : Text) : Bool × List Text :=
  let opens := line.includes "/*"
  let closes := line.includes "*/"
  let ending := closes && !opens
  let atEnd := messagesWhere
    [(ending && !inside, "Unexpected comment end delimiter"),
     (ending && line.inkCount != 2, "Comment end delimiter must appear on its own line")]
  let inside := inside && !ending
  let between := messagesWhere
    [(inside && !line.trimLeft.startsWith "**", "Comment intermediary line must start with '**'")]
  let beginning := opens && !closes
  let atBegin := messagesWhere
    [(beginning && inside, "Comments can't be nested"),
     (beginning && !isLoneOpener line, "Comment start delimiter must appear on its own line")]
  (inside || beginning, atEnd ++ between ++ atBegin)

/-- Follows the comments of a file; one that is open after the last line is reported there. -/
def commentScan : LineScan Bool where
  start := false
  step := commentStep
  finish := fun next inside => if inside then [{ line := next, message := "Expected comment end delimiter" }] else []

/-- A comment of several lines has its delimiters alone on their lines and two stars before each line of text. -/
def multiLinesComment : Rule where
  name := "multi-lines-comment"
  doc := "Check the layout of multi-line block comments.\n\n" ++
    "A comment spanning several lines opens with \"/*\" (or \"/**\") alone on its\n" ++
    "line, every intermediary line starts with \"**\" and the comment closes with\n" ++
    "\"*/\" alone on its line:\n\n" ++
    "\t/*\n" ++
    "\t** Explain the invariant.\n" ++
    "\t*/\n\n" ++
    "Single-line block comments are not affected. Nested openings are reported."
  severity := .error
  run := commentScan.run

end HouseStyle.Rule
