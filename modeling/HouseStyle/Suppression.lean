import HouseStyle.Diagnostic
import HouseStyle.Text.Blank

/-!
# Suppression

A comment on a line suppresses diagnostics on that line: `// nolint` all of them, `// nolint:a,b` those of the rules
`a` and `b`. Block comments serve as well, and every comment on the line is considered.
-/

namespace HouseStyle.Suppression

/-- Reads the text of a comment as a directive: the rule names as written, empty meaning all rules. -/
def ofComment? (comment : Text) : Option Text :=
  match comment.trim.afterPrefix? "nolint" with
  | none => none
  | some [] => some []
  | some rest => (rest.afterPrefix? ":").map Text.trim

/-- The first directive among the comments of a line. A line comment extends to the end of the line; a block comment
without an end does too. -/
def directive? : (line : Text) → Option Text
  | [] => none
  | [_] => none
  | a :: b :: rest =>
    if a ≠ Text.byte '/' then directive? (b :: rest)
    else if b = Text.byte '/' then (ofComment? rest).or (directive? rest)
    else if b = Text.byte '*' then
      (ofComment? (((Text.cut? "*/" rest).map (·.1)).getD rest)).or (directive? rest)
    else directive? (b :: rest)

/-- Whether a directive with these names silences the rule. -/
def silences (names rule : Text) : Bool := names.isEmpty || (names.pieces ',').any (·.trim == rule)

/-- Whether the line that a diagnostic is on carries a directive that silences its rule. -/
def suppressed (lines : List Text) (d : Diagnostic) : Bool :=
  d.pos.line ≥ 1 &&
    match (lines[(d.pos.line - 1).toNat]?).bind directive? with
    | some names => silences names d.rule
    | none => false

/-- The diagnostics that no directive suppresses. -/
def filter (lines : List Text) (ds : List Diagnostic) : List Diagnostic := ds.filter (!suppressed lines ·)

end HouseStyle.Suppression
