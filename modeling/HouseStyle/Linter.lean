import HouseStyle.Rule.Basic
import HouseStyle.Suppression

/-!
# Running rules over files

`lintFile` runs every rule over a file, drops what directives suppress and sorts by line. `lintFiles` does so for a list
of files and sorts the whole; a file that cannot be read is an error for the whole run.
-/

namespace HouseStyle

/-- The diagnostics of a file. -/
def lintFile (rules : List Rule) (name content : Text) : List Diagnostic :=
  let src := Source.ofContent name content
  Diagnostic.sort (Suppression.filter src.lines (rules.flatMap (·.verify src)))

/-- The diagnostics of a list of files, or the first file that cannot be read and why. -/
def lintFiles (rules : List Rule) (read : Text → Except ε Text) (paths : List Text) :
    Except (Text × ε) (List Diagnostic) := do
  let found ← paths.mapM fun path =>
    match read path with
    | .ok content => .ok (lintFile rules path content)
    | .error e => .error (path, e)
  return Diagnostic.sort found.flatten

end HouseStyle
