import HouseStyle.Rule.Basic
import HouseStyle.Source.Line
import HouseStyle.Text.Case

/-!
# Switch statements

The rules about `switch`: its labels are enumeration constants, it has a `default`, and no case falls through. The last
two follow the outermost `switch` by counting the lines with braces.
-/

namespace HouseStyle.Rule

/-- The byte, read as a Latin-1 character, begins an identifier: an underscore or a letter. -/
def startsIdentifier (b : UInt8) : Bool :=
  b == Text.byte '_' || Text.isLetter b || b == 0xAA || b == 0xB5 || b == 0xBA ||
    (0xC0 ≤ b && b != 0xD7 && b != 0xF7)

/-- The label is an upper-case name. -/
def isConstantName (label : Text) : Bool := label.head?.any startsIdentifier && label.upper == label

/-- The label of a `case` is an upper-case constant. -/
def switchEnum : Rule where
  name := "switch-enum"
  doc := "Check that switch statements are only used on enumerations.\n\n" ++
    "A case label must be an upper-case enumeration constant; numeric and character literals or lower-case names " ++
    "are reported."
  severity := .warning
  run := (LineScan.perLine fun line =>
    let label := (line.trimLeft.trimPrefix "case").trim
    messagesWhere [(Line.isCase line && !isConstantName label, "Switch must only be used on enums")]).run

/-- Where a scan stands with respect to the outermost `switch`. -/
structure SwitchState where
  inside : Bool := false
  depth : Nat := 0

/-- What a line does to the outermost `switch`. -/
structure SwitchEvent where
  opened : Bool
  closed : Bool

/-- Reads a line: a `switch (` opens, and the line where the brace count returns to zero closes. -/
def SwitchState.next (s : SwitchState) (line : Text) : SwitchState × SwitchEvent :=
  let opened := line.trimLeft.startsWith "switch ("
  let s := if opened then { inside := true, depth := 0 } else s
  if !s.inside then (s, ⟨opened, false⟩)
  else
    let depth := if line.has '{' then s.depth + 1 else s.depth
    if depth > 0 && line.has '}' then
      let depth := depth - 1
      ({ inside := depth != 0, depth }, ⟨opened, depth == 0⟩)
    else ({ s with depth }, ⟨opened, false⟩)

/-- Looks for a `default` label in the `switch` that is followed; it is judged where this `switch` closes. -/
def defaultScan : LineScan (SwitchState × Bool) where
  start := ({}, false)
  step := fun (state, found) line =>
    let (next, event) := state.next line
    let found := if event.opened then false else found
    let found := found || ((state.inside || event.opened) && Line.isDefault line)
    ((next, found), messagesWhere [(event.closed && !found, "Missing default case for the switch statement")])

/-- Every `switch` has a `default` label. -/
def switchDefaultCase : Rule where
  name := "switch-default-case"
  doc := "Check that every switch statement has a default case.\n\n" ++
    "The diagnostic is placed on the closing brace of the switch."
  severity := .error
  run := defaultScan.run

/-- The message for a case that falls through. -/
def fallsThrough : Text := "Missing return or break statement for the previous case"

/-- Looks for cases that fall through in the `switch` that is followed: `ended` says whether a `break` or a `return` has
been met since the last label. A case is judged where the next label stands or this `switch` closes. -/
def endScan : LineScan (SwitchState × Bool) where
  start := ({}, false)
  step := fun (state, ended) line =>
    let (next, event) := state.next line
    let ended := event.opened || ended
    if !state.inside && !event.opened then ((next, ended), [])
    else
      let atClose := messagesWhere [(event.closed && !ended, fallsThrough)]
      let ended := ended || Line.beginsWith line "break" || Line.beginsWith line "return"
      if Line.isLabel line then ((next, false), atClose ++ messagesWhere [(!ended, fallsThrough)])
      else ((next, ended), atClose)

/-- Every case ends with a `break` or a `return`. -/
def switchEnd : Rule where
  name := "switch-end"
  doc := "Check that every case ends with a break or return statement.\n\n" ++
    "Fall-through is reported on the label (or closing brace) that follows a case body without a terminator. " ++
    "Consecutive labels sharing a body are accepted only when the first has a terminator, so fall-through is " ++
    "always explicit."
  severity := .error
  run := endScan.run

end HouseStyle.Rule
