import HouseStyle.Json.Basic
import HouseStyle.Server.Position

/-!
# Quick fixes

For a problem that an editor shows, the edit that suppresses it: a comment at the end of its line.
-/

namespace HouseStyle.Server

/-- The name under which problems are published. -/
def problemSource : Text := "cstyle"

/-- A replacement of a stretch of a document. -/
structure TextEdit where
  range : Range
  newText : Text
  deriving DecidableEq

/-- The code that a problem carries. A code whose value was lost in transit is `blank`. -/
inductive ProblemCode where
  | text (t : Text)
  | number (n : Int)
  | blank

/-- The code as comments name it. -/
def ProblemCode.name : ProblemCode → Text
  | .text t => t
  | .number n => Text.ofInt n
  | .blank => "<nil>"

/-- A problem as an editor sends it back: what the fix needs of it, and the whole of it. -/
structure ShownProblem where
  range : Range
  source : Option Text
  code : Option ProblemCode
  whole : Json

/-- A quick fix: its title, the problem it suppresses and its edit. -/
structure QuickFix where
  title : Text
  problem : ShownProblem
  edit : TextEdit

namespace QuickFix

/-- The comment that suppresses a rule on a line. After a line comment a further one would not be seen, so such a line
gets a block comment. -/
def comment (line rule : Text) : Text :=
  if line.includes "//" then "/* nolint:" ++ rule ++ " */" else "// nolint:" ++ rule

/-- The fix of a problem that names a rule. -/
def suppress (lines : List Text) (problem : ShownProblem) (rule : Text) : QuickFix :=
  let line := problem.range.start.line
  let text := ((lines[line]?).getD []).trimSuffix "\r"
  let place : Point := ⟨line, clamp (units16 text)⟩
  { title := "Suppress with " ++ comment text rule
    problem
    edit := ⟨⟨place, place⟩, " " ++ comment text rule⟩ }

/-- The fix of a problem, if it is one of ours, has a code and is about a line: a problem about a whole file has an
empty range. -/
def ofProblem? (lines : List Text) (problem : ShownProblem) : Option QuickFix :=
  match problem.code with
  | none => none
  | some code =>
    if problem.source != some problemSource || problem.range.start == problem.range.stop || code.name.isEmpty then none
    else some (suppress lines problem code.name)

/-- The kind of a quick fix. -/
def kind : Text := "quickfix"

/-- The fixes of problems in a document; `only` holds the kinds of actions asked for, none meaning all. -/
def all (content : Text) (only : List Text) (problems : List ShownProblem) : List QuickFix :=
  if !only.isEmpty && !only.contains kind then [] else problems.filterMap (ofProblem? (content.pieces '\n'))

end QuickFix

end HouseStyle.Server
