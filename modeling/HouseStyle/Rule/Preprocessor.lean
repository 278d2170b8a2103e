import HouseStyle.Rule.Basic
import HouseStyle.Source.Directive

/-!
# Directive lines

The rules about single preprocessor lines and about macros that continue over several lines.
-/

namespace HouseStyle.Rule

/-- A directive starts on the first column. -/
def preprocessorFirstColumn : Rule where
  name := "preprocessor-first-column"
  doc := "Check that preprocessor directives start on the first column.\n\n" ++
    "Any line holding a '#' that does not begin with it is reported, nested directives are not indented."
  severity := .error
  run := (LineScan.perLine fun line => messagesWhere
    [(line.has '#' && !line.startsWith "#", "Preprocessor directive must start on the first column")]).run

/-- The line closes or switches a conditional without saying which. -/
def lacksComment (line : Text) : Bool :=
  match Directive.parse? line with
  | none => false
  | some d => (d.name == Text.ofString "else" || d.name == Text.ofString "endif") && !d.hasComment

/-- `#else` and `#endif` carry a comment. -/
def preprocessorComment : Rule where
  name := "preprocessor-comment"
  doc := "Check that #else and #endif directives carry a comment.\n\n" ++
    "The comment recalls the condition being closed:\n\n" ++
    "\t#endif /* !MY_FILE_H_ */"
  severity := .warning
  run := (LineScan.perLine fun line => messagesWhere
    [(lacksComment line,
      "Else and endif directives must have a comment describing their initial condition")]).run

/-- Reads a line, inside a macro whose backslashes stand on the given column or outside any. -/
def continuationStep (column : Option Nat) (line : Text) : Option Nat × List Text :=
  let at? := line.lastIndexOf? '\\'
  let column := if line.has '#' && line.trimRight.endsWith "\\" then at? else column
  match column, at? with
  | none, _ => (none, [])
  | some _, none => (none, [])
  | some expected, some actual => (some expected, messagesWhere [(actual != expected,
      "Multi lines macro must have \\ aligned. Expected alignment on column " ++ Text.ofNat expected ++ " got " ++
        Text.ofNat actual)])

/-- The backslashes that continue a macro stand on one column. -/
def multiLinesPreprocessor : Rule where
  name := "multi-lines-preprocessor"
  doc := "Check that the continuation backslashes of a multi-line macro are aligned.\n\n" ++
    "The column of the backslash on the directive line fixes the column of every following continuation."
  severity := .warning
  run := LineScan.run { start := none, step := continuationStep }

end HouseStyle.Rule
