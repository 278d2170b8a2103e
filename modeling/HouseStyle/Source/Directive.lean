import HouseStyle.Text.Blank

/-!
# Preprocessor directives

A directive line is `#`, a name, an optional identifier and an optional rest:

    directive := '#' name arg? rest?
    name      := [A-Za-z_]+
    arg       := [A-Za-z_][A-Za-z0-9_]*
    rest      := the remaining text up to a newline

Between the parts stand spaces, tabs, carriage returns and newlines, a narrower class than white space. Each part is a
token of the library of readers, and the last two are optional (`Reader.token`, `Reader.maybe`).
-/

namespace HouseStyle

/-- A directive line in its parts. -/
structure Directive where
  name : Text
  arg : Text
  rest : Text
  deriving DecidableEq

namespace Directive

/-- The bytes that may stand between the parts of a directive. -/
def isGap (b : UInt8) : Bool :=
  b == Text.byte ' ' || b == Text.byte '\t' || b == Text.byte '\r' || b == Text.byte '\n'

/-- A letter or an underscore. -/
def isNameByte (b : UInt8) : Bool := Text.isLetter b || b == Text.byte '_'

/-- The identifier at the front of a text, empty if none starts there, and what follows. -/
def takeArg (t : Text) : Text × Text :=
  match t with
  | [] => ([], [])
  | b :: _ => if isNameByte b then t.span Text.isIdent else ([], t)

/-! ## Readers

The readers that the directive reader is put together from. They belong to a library, of which this is assumed. -/

/-- Takes a value off the front of a text, or fails. -/
abbrev Reader (α : Type) := Text → Option (α × Text)

/-- A token passes over the gap before it and takes the longest match of its pattern there, which must not be empty. -/
def Reader.token (pattern : Text → Text × Text) : Reader Text := fun t =>
  let taken := pattern (t.dropWhile isGap)
  if taken.1.isEmpty then none else some taken

/-- A word is a token that has one match. -/
def Reader.word (w : Text) : Reader Text := fun t => (Text.afterPrefix? (t.dropWhile isGap) w).map (w, ·)

/-- Where a reader fails, nothing is taken. -/
def Reader.maybe {α : Type} (p : Reader α) : Reader (Option α) := fun t =>
  match p t with
  | some (a, rest) => some (some a, rest)
  | none => some (none, t)

/-- One reader and then another, which starts where the first one stops. -/
def Reader.and {α β : Type} (p : Reader α) (q : Reader β) : Reader (α × β) := fun t => do
  let (a, t) ← p t
  let (b, t) ← q t
  return ((a, b), t)

/-- Perhaps an identifier, and perhaps more up to a newline. -/
def operands : Reader (Option Text × Option Text) :=
  (Reader.token takeArg).maybe.and (Reader.token (·.span (· != Text.byte '\n'))).maybe

/-- A hash, a name and what may follow it. -/
def parts : Reader (Text × Text × Option Text × Option Text) :=
  (Reader.word "#").and ((Reader.token (·.span isNameByte)).and operands)

/-- Reads a line as a directive. -/
def parse? (line : Text) : Option Directive :=
  if line.trim.startsWith "#" then
    (parts line.trim).map fun ((_, name, arg, rest), _) => ⟨name, arg.getD [], Text.trim (rest.getD [])⟩
  else none

/-- Whether a comment follows the directive. -/
def hasComment (d : Directive) : Bool :=
  d.rest.includes "//" || (d.rest.includes "/*" && d.rest.includes "*/")

end Directive

end HouseStyle
