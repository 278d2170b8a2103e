import HouseStyle.Convention
import HouseStyle.Suggestion
import HouseStyle.Text.Layout

/-!
# Describing the rules

The command that prints what each rule checks.
-/

namespace HouseStyle.Command

/-- The width of a printed description, indentation included. -/
def describeWidth : Nat := 72

/-- The indentation of a printed description. -/
def describeIndent : Nat := 2

/-- The name of a rule's severity; all that is neither a warning nor an information is an error. -/
def severityLabel : Severity → Text
  | .warning => Severity.name .warning
  | .info => Severity.name .info
  | _ => Severity.name .error

/-- The printed description of a rule. -/
def describeRule (r : Rule) : Text :=
  r.name ++ " (" ++ severityLabel r.severity ++ ")\n" ++
    Text.indent describeIndent (Text.wrap (describeWidth - describeIndent) r.doc) ++ "\n\n"

/-- What is said about a name that no rule has. -/
def unknownCheck (rules : List Rule) (name : Text) : Text := name ++ Suggestion.hint name (Rule.sortedNames rules)

/-- The descriptions of the named rules, or of all; with `list` only their names. -/
def describe (rules : List Rule) (names : List Text) (list : Bool) : Except Text Text :=
  let s := Rule.select rules names []
  if s.unknown.isEmpty then
    .ok (s.selected.flatMap fun r => if list then r.name ++ "\n" else describeRule r)
  else .error ("unknown check: " ++ Text.join ", " (s.unknown.map (unknownCheck rules)))

end HouseStyle.Command
