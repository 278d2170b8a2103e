import HouseStyle.Rule.Basic
import HouseStyle.Source.Block
import HouseStyle.Word

/-!
# Blocks

The rules about blocks: braces stand alone on their lines, and every line is indented by a fixed width per level.
-/

namespace HouseStyle.Rule

/-- The line holds a single character, perhaps before the backslash that continues a macro line. -/
def isLone (line : Text) : Bool :=
  line.trim.length == 1 || (line.inkCount == 2 && line.trimRight.endsWith "\\")

/-- What is wrong with the braces of a line. -/
def braceMessages (line : Text) : List Text :=
  if line.has '{' && !isLone line then ["Opening brace must be on its own line"]
  else messagesWhere
    [(line.has '}' && !isLone line && !line.endsWith ";", "Closing brace must be on its own line")]

/-- A brace stands alone on its line. -/
def ownLineBrace : Rule where
  name := "own-line-brace"
  doc := "Check that braces sit alone on their line.\n\n" ++
    "A closing brace may be followed by a trailer ending in a semicolon (\"\x7d;\", \"\x7d s_point;\", \"\x7d " ++
    "while (x);\"). Inside a multi-line macro a brace may be followed by the continuation backslash."
  severity := .error
  run := (LineScan.perLine braceMessages).run

/-- The width that a line at this level is indented by. -/
def expectedWidth (unit : Int) (level : Nat) : Int := word (level * unit)

/-- What is wrong with the place of a line, given the verdict of the block scan. -/
def indentMessages (unit : Int) (line : Text) (v : Block.Verdict) : List Text :=
  let expected := expectedWidth unit v.level
  let actual := word line.leadingWidth
  messagesWhere
    [(!line.isBlank && actual != expected,
      "Wrong indentation level. Expected " ++ Text.ofInt expected ++ " whitespaces got " ++ Text.ofInt actual),
     (v.unexpected, "Unexpected closing brace")]

/-- The findings in lines from number `n` on, given their verdicts. -/
def indentFindings (unit : Int) : (n : Nat) → List Text → List Block.Verdict → List Finding
  | n, line :: lines, v :: verdicts =>
    (indentMessages unit line v).map (fun m => { line := n, message := m }) ++
      indentFindings unit (n + 1) lines verdicts
  | _, _, _ => []

/-- Every line is indented by `unit` spaces per level, and braces are balanced. -/
def indentationLevel (unit : Int) : Rule where
  name := "indentation-level"
  doc := "Check that every line is indented by a fixed number of spaces per block level.\n\n" ++
    "Block structure is inferred from lines holding a lone brace, from braceless control bodies (an if, else, for, " ++
    "while or switch line not followed by \"\x7b\", whose body is the next line) and from switch cases (a case or " ++
    "default label up to its break or return). Unbalanced braces are reported without stopping the scan."
  severity := .error
  run src :=
    let scan := Block.scan (Shape.ofLines src.lines)
    indentFindings unit 1 src.lines scan.verdicts ++
      if scan.unclosed > 0 then
        [{ line := src.lines.length + 1
           message := "Expected " ++ Text.ofNat scan.unclosed ++ " more closing brace" }]
      else []

end HouseStyle.Rule
