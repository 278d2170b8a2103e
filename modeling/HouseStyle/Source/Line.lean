import HouseStyle.Source.Lines

/-!
# What a line is

The block structure of a file is read off its lines one at a time: each predicate looks at the first token of a trimmed
line, and at most at the line that follows. Continuation lines, string literals and comments are lines like any other.
-/

namespace HouseStyle.Line

/-- The text begins with `word` as a whole token: no character follows that would continue an identifier. -/
def startsWithWord (t word : Text) : Bool :=
  match t.afterPrefix? word with
  | none => false
  | some [] => true
  | some (b :: _) => !Text.isIdent b

/-- The line begins, after white space, with the whole token `word`. -/
def beginsWith (line word : Text) : Bool := startsWithWord line.trimLeft word

/-- The line is a lone opening brace. -/
def isOpeningBrace (line : Text) : Bool := line.trim == Text.ofString "\x7b"

/-- The line is a lone closing brace, or a closing brace with a trailer that ends in a semicolon, as after a type
definition or a `do` loop. -/
def isClosingBrace (line : Text) : Bool :=
  let t := line.trim
  t == Text.ofString "\x7d" || (t.startsWith "\x7d" && t.endsWith ";")

/-- The keywords whose body may be a single line without braces. -/
def controlKeywords : List Text := ["if", "else", "switch", "while", "for"]

/-- The control keyword that the line begins with. -/
def controlKeyword? (line : Text) : Option Text := controlKeywords.find? (beginsWith line)

/-- The control keyword whose body is the next line: there is a next line and it does not begin with an opening
brace. -/
def governedBy? (line : Text) (next : Option Text) : Option Text :=
  match next with
  | none => none
  | some next => if next.trimLeft.startsWith "\x7b" then none else controlKeyword? line

/-- The line is a `case` label. -/
def isCase (line : Text) : Bool := beginsWith line "case"

/-- The line is a `default` label. -/
def isDefault (line : Text) : Bool := beginsWith line "default"

/-- The line is a label of a `switch`. -/
def isLabel (line : Text) : Bool := isCase line || isDefault line

/-- The line ends the current case: a `break` always, a `return` unless the next line is a `break`. -/
def endsCase (line : Text) (next : Option Text) : Bool :=
  beginsWith line "break" ||
    (beginsWith line "return" && !(next.any fun next => beginsWith next "break"))

end HouseStyle.Line
