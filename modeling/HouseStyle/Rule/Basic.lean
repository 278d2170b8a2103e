import HouseStyle.Diagnostic
import HouseStyle.Source.Lines

/-!
# Rules

A rule looks at the lines of one file and returns findings in the order of discovery. It never fails and keeps no state
between files. Most rules read a file line by line, carrying a small state: those are a `LineScan`.
-/

namespace HouseStyle

/-- What a rule reports. An empty file name and an unset severity are filled in from the file and the rule. -/
structure Finding where
  line : Int
  message : Text
  col : Int := 0
  file : Text := []
  severity : Severity := .unset
  notes : List Text := []

/-- A style check. -/
structure Rule where
  /-- The short name by which the check is selected. -/
  name : Text
  /-- A description; its first line is a summary. -/
  doc : Text
  /-- The severity of findings that do not bring their own. -/
  severity : Severity
  /-- Finds the problems of a file. -/
  run : Source → List Finding

namespace Rule

/-- The diagnostic that a finding of the rule in the file `name` stands for. -/
def diagnose (rule : Rule) (name : Text) (f : Finding) : Diagnostic where
  pos := { file := if f.file.isEmpty then name else f.file, line := f.line, col := f.col }
  message := f.message
  rule := rule.name
  severity := if f.severity = .unset then rule.severity else f.severity
  notes := f.notes

/-- The diagnostics of a rule for a file, in the order of discovery. -/
def verify (rule : Rule) (src : Source) : List Diagnostic := (rule.run src).map (rule.diagnose src.name)

end Rule

/-- A check that reads a file line by line. -/
structure LineScan (σ : Type) where
  /-- The state before the first line. -/
  start : σ
  /-- Reads a line: the next state and the messages about this line. -/
  step : σ → Text → σ × List Text
  /-- The findings after the last line, whose number is one less than `next`. -/
  finish : (next : Nat) → σ → List Finding := fun _ _ => []

namespace LineScan

/-- The findings in the lines from number `n` on. -/
def runFrom (scan : LineScan σ) (s : σ) (n : Nat) : List Text → List Finding
  | [] => scan.finish n s
  | line :: rest =>
    let (s, messages) := scan.step s line
    messages.map (fun m => { line := n, message := m }) ++ scan.runFrom s (n + 1) rest

/-- The findings in a file. -/
def run (scan : LineScan σ) (src : Source) : List Finding := scan.runFrom scan.start 1 src.lines

/-- A check that looks at each line alone. -/
def perLine (check : Text → List Text) : LineScan Unit where
  start := ()
  step _ line := ((), check line)

end LineScan

/-- The messages of those pairs whose condition holds. -/
def messagesWhere (checks : List (Bool × Text)) : List Text := (checks.filter (·.1)).map (·.2)

end HouseStyle
