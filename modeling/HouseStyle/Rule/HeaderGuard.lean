import HouseStyle.Path.Basic
import HouseStyle.Rule.Basic
import HouseStyle.Source.Directive
import HouseStyle.Text.Case

/-!
# Header guards

A header file is wrapped in `#ifndef GUARD`, `#define GUARD` and `#endif`, where the name of the file fixes the guard.
-/

namespace HouseStyle.Rule

/-- The byte may stand in a guard as it is: an upper-case letter or a digit. -/
def isGuardByte (b : UInt8) : Bool := (Text.byte 'A' ≤ b && b ≤ Text.byte 'Z') || Text.isDigit b

/-- The guard of a header: its base name in upper case, with an underscore for every other byte and one at the end. -/
def guardName (filename : Text) : Text :=
  (Path.base filename).upper.map (fun b => if isGuardByte b then b else Text.byte '_') ++ "_"

/-- The directives of a file with the numbers of their lines, counted from `n`. -/
def directivesFrom : (n : Nat) → List Text → List (Nat × Directive)
  | _, [] => []
  | n, line :: rest =>
    match Directive.parse? line with
    | some d => (n, d) :: directivesFrom (n + 1) rest
    | none => directivesFrom (n + 1) rest

/-- What is wrong with the guard of a header with these directives and `count` lines. -/
def guardFindings (guard : Text) (count : Nat) : List (Nat × Directive) → List Finding
  | [] => [{ line := 0, message := "Missing header guard, expected '#ifndef " ++ guard ++ "'" }]
  | (n, first) :: rest =>
    if !(first.name == Text.ofString "ifndef" && first.arg == guard) then
      [{ line := n, message := "Header guard must be '#ifndef " ++ guard ++ "'" }]
    else
      match rest with
      | [] => [unfollowed n]
      | (m, second) :: rest =>
        if !(second.name == Text.ofString "define" && second.arg == guard) then [unfollowed m]
        else if rest.getLast?.any (·.2.name == Text.ofString "endif") then []
        else [{ line := count + 1, message := "Header guard must be closed by '#endif'" }]
where
  unfollowed (n : Nat) : Finding :=
    { line := n, message := "Header guard must be followed by '#define " ++ guard ++ "'" }

/-- A header file has its guard. -/
def headerGuard : Rule where
  name := "header-guard"
  doc := "Check the include guard of header files.\n\n" ++
    "Only files ending in \".h\" are checked. The first two directives must be\n" ++
    "\"#ifndef GUARD\" and \"#define GUARD\" and the last one \"#endif\", where GUARD\n" ++
    "is derived from the file name: my-file.h is guarded by MY_FILE_H_."
  severity := .error
  run src :=
    if src.name.endsWith ".h" then
      guardFindings (guardName src.name) src.lines.length (directivesFrom 1 src.lines)
    else []

end HouseStyle.Rule
