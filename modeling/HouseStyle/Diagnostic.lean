import HouseStyle.Text.Basic

/-!
# Diagnostics

A diagnostic is one reported problem: where it is, what it is, which rule found it and how bad it is. Reports list
diagnostics by file, then by line, and keep the order of discovery within a line (`Diagnostic.sort`).
-/

namespace HouseStyle

/-- How bad a problem is. A rule may leave it `unset` to take the rule's own severity; `unknown` is any level outside
the scale. -/
inductive Severity where
  | unset
  | error
  | warning
  | info
  | unknown
  deriving DecidableEq

namespace Severity

/-- The name of a severity. -/
def name : Severity → Text
  | .error => "error"
  | .warning => "warning"
  | .info => "info"
  | .unset | .unknown => "unknown"

/-- The name that reports write: an unset severity counts as an error. -/
def reportName : Severity → Text
  | .unset => "error"
  | s => s.name

/-- Reads the name of a severity. -/
def ofName? (t : Text) : Option Severity :=
  if t = Text.ofString "error" then some .error
  else if t = Text.ofString "warning" then some .warning
  else if t = Text.ofString "info" then some .info
  else none

end Severity

/-- A place in a file. Line 0 stands for the whole file, column 0 for the whole line. -/
structure Position where
  file : Text
  line : Int
  col : Int := 0
  deriving DecidableEq

/-- The place as `file`, `file:line` or `file:line:col`. -/
def Position.render (p : Position) : Text :=
  if p.line = 0 then p.file
  else if p.col > 0 then p.file ++ ":" ++ Text.ofInt p.line ++ ":" ++ Text.ofInt p.col
  else p.file ++ ":" ++ Text.ofInt p.line

/-- One reported problem. The message has no final period. -/
structure Diagnostic where
  pos : Position
  message : Text
  rule : Text
  severity : Severity
  notes : List Text := []
  deriving DecidableEq

namespace Diagnostic

/-- The diagnostic on one line: `[file:line]Message.` -/
def render (d : Diagnostic) : Text :=
  if d.pos.line = 0 then "[" ++ d.pos.file ++ "]" ++ d.message ++ "."
  else "[" ++ d.pos.file ++ ":" ++ Text.ofInt d.pos.line ++ "]" ++ d.message ++ "."

/-- The order of reports: by file in byte order, then by line. -/
def before (a b : Diagnostic) : Bool :=
  if a.pos.file = b.pos.file then a.pos.line < b.pos.line else Text.less a.pos.file b.pos.file

/-- Sorts by file, then by line; diagnostics on the same line keep their order. -/
def sort (ds : List Diagnostic) : List Diagnostic := ds.mergeSort fun a b => !b.before a

end Diagnostic

end HouseStyle
