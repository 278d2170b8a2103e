import HouseStyle.Diagnostic
import HouseStyle.Json.Basic
import HouseStyle.Yaml.Scalar

/-!
# Reports

A list of diagnostics as text, one line each, as a JSON array and as a YAML sequence. The two machine formats leave out
column 0 and an empty list of notes, and write an unset severity as an error.
-/

namespace HouseStyle.Report

/-- One line for each diagnostic. -/
def text (ds : List Diagnostic) : Text := Text.unlines (ds.map (·.render))

/-! ## JSON -/

/-- A place as a JSON object. -/
def positionJson (p : Position) : Json := .object <|
  [(Text.ofString "file", .string p.file), (Text.ofString "line", .int p.line)] ++
    if p.col = 0 then [] else [(Text.ofString "col", .int p.col)]

/-- A diagnostic as a JSON object. -/
def diagnosticJson (d : Diagnostic) : Json := .object <|
  [(Text.ofString "pos", positionJson d.pos), (Text.ofString "message", .string d.message),
   (Text.ofString "analyzer", .string d.rule), (Text.ofString "severity", .string d.severity.reportName)] ++
    if d.notes.isEmpty then [] else [(Text.ofString "notes", .array (d.notes.map .string))]

/-- The diagnostics as an indented JSON array. -/
def json (ds : List Diagnostic) : Text := (Json.array (ds.map diagnosticJson)).pretty ++ "\n"

/-! ## YAML -/

/-- A line of a YAML document. A literal block may end in a line break of its own; all else gets a newline. -/
def yamlLine (line : Text) : Text := if line.codes.getLast?.any Yaml.isBreak then line else line ++ "\n"

/-- A diagnostic as an item of a YAML sequence. -/
def diagnosticYaml (d : Diagnostic) : Text :=
  List.flatten <|
    [yamlLine "- pos:", yamlLine ("    file: " ++ Yaml.writeString 6 d.pos.file),
     yamlLine ("    line: " ++ Text.ofInt d.pos.line)] ++
    (if d.pos.col = 0 then [] else [yamlLine ("    col: " ++ Text.ofInt d.pos.col)]) ++
    [yamlLine ("  message: " ++ Yaml.writeString 4 d.message), yamlLine ("  analyzer: " ++ Yaml.writeString 4 d.rule),
     yamlLine ("  severity: " ++ d.severity.reportName)] ++
    if d.notes.isEmpty then []
    else yamlLine "  notes:" :: d.notes.map fun note => yamlLine ("    - " ++ Yaml.writeString 6 note)

/-- The diagnostics as a YAML sequence. -/
def yaml (ds : List Diagnostic) : Text := if ds.isEmpty then "[]\n" else ds.flatMap diagnosticYaml

end HouseStyle.Report
