import HouseStyle.Rule.Block
import HouseStyle.Rule.Comment
import HouseStyle.Rule.Declaration
import HouseStyle.Rule.Function
import HouseStyle.Rule.HeaderGuard
import HouseStyle.Rule.Preprocessor
import HouseStyle.Rule.Spacing
import HouseStyle.Rule.Statement
import HouseStyle.Rule.Structure
import HouseStyle.Rule.Switch

/-!
# The convention

The limits that can be configured, the rules in reporting order, and the selection of rules by name.
-/

namespace HouseStyle

/-- The numeric limits of the convention. -/
structure Limits where
  /-- Spaces per block level. -/
  indentWidth : Int := 4
  /-- Lines are shorter than this many bytes. -/
  maxLineLength : Int := 80
  /-- Code lines in a function body. -/
  maxFunctionLines : Int := 25
  /-- Parameters of a function. -/
  maxFunctionArgs : Int := 4
  deriving DecidableEq

namespace Limits

/-- The limits with the names they are configured by. -/
def named (l : Limits) : List (Text × Int) :=
  [("indent-width", l.indentWidth), ("max-line-length", l.maxLineLength),
   ("max-function-lines", l.maxFunctionLines), ("max-function-args", l.maxFunctionArgs)]

/-- The first limit that is not positive, with its name. -/
def firstInvalid? (l : Limits) : Option (Text × Int) := l.named.find? (·.2 ≤ 0)

/-- The complaint about a limit that is not positive. -/
def invalidMessage (name : Text) (value : Int) : Text :=
  "invalid lint configuration: " ++ name ++ " must be positive, got " ++ Text.ofInt value

end Limits

/-- The rules of the convention, in reporting order. -/
def convention (limits : Limits) : List Rule :=
  [Rule.lineSize limits.maxLineLength, Rule.spaceIndentation, Rule.trailingWhitespace, Rule.semicolon, Rule.comma,
   Rule.controlStructures, Rule.specialControlStructures, Rule.structureFields, Rule.ownLineBrace,
   Rule.indentationLevel limits.indentWidth, Rule.multiLinesComment, Rule.goto, Rule.enum, Rule.staticVariable,
   Rule.switchEnum, Rule.switchDefaultCase, Rule.switchEnd, Rule.preprocessorFirstColumn, Rule.preprocessorComment,
   Rule.multiLinesPreprocessor, Rule.headerGuard, Rule.functionMaxLines limits.maxFunctionLines,
   Rule.functionMaxArguments limits.maxFunctionArgs, Rule.typedef, Rule.global]

namespace Rule

/-- The names of the rules in byte order. -/
def sortedNames (rules : List Rule) : List Text :=
  (rules.map (·.name)).mergeSort fun a b => !Text.less b a

/-- A short description of the rules: each name over the first line of its description. -/
def summary (rules : List Rule) : Text :=
  rules.flatMap fun r => "  " ++ r.name ++ "\n    " ++ ((r.doc.pieces '\n').head?.getD []) ++ "\n\n"

/-- The outcome of selecting rules by name: those selected and the names that no rule has. -/
structure Selection where
  selected : List Rule
  unknown : List Text

/-- The names in a list as a user writes them: trimmed, without the blank ones. -/
def givenNames (names : List Text) : List Text := (names.map (·.trim)).filter (!·.isEmpty)

/-- Selects rules by name. Without an enabled rule every rule is kept; disabled rules are dropped in any case. -/
def select (rules : List Rule) (enable disable : List Text) : Selection :=
  let known (name : Text) : Bool := rules.any (·.name == name)
  let on := (givenNames enable).filter known
  let off := givenNames disable
  { selected := rules.filter fun r => (on.isEmpty || on.contains r.name) && !off.contains r.name
    unknown := (givenNames enable ++ givenNames disable).filter (!known ·) }

end Rule

end HouseStyle
