import HouseStyle.Text.Blank
import HouseStyle.Text.Width

/-!
# Snippets

A diagnostic shown with the source line it is about, the way compilers show theirs:

    error[indentation-level]: Wrong indentation level. Expected 4 whitespaces got 2
      --> main.c:12
       |
    12 |    x = 1;
       |    ^^^^^^
       |

Columns are byte offsets, and the row of carets is laid out in display cells. A session keeps the files it has read, the
failures too, so that each file is read once.
-/

namespace HouseStyle

/-! ## Colour -/

/-- When output is coloured. -/
inductive ColorMode where
  | auto
  | always
  | never
  deriving DecidableEq

/-- The mode with this name; any other name is `auto`. -/
def ColorMode.ofName (t : Text) : ColorMode :=
  if t = Text.ofString "always" then .always else if t = Text.ofString "never" then .never else .auto

/-- Whether output that goes to no terminal is coloured. -/
def ColorMode.isColored (m : ColorMode) : Bool := m == .always

/-- The ways to paint a part of a snippet. -/
inductive Paint where
  | bold
  | red
  | yellow
  | blue
  | cyan

/-- The terminal codes that switch a paint on, and those that switch it off. -/
def Paint.codes : Paint → Text × Text
  | .bold => ("1", "22")
  | .red => ("31;1", "0;22")
  | .yellow => ("33;1", "0;22")
  | .blue => ("34;1", "0;22")
  | .cyan => ("36;1", "0;22")

/-- The text, painted if output is coloured. -/
def Paint.apply (p : Paint) (colored : Bool) (t : Text) : Text :=
  if colored then "\x1b[" ++ p.codes.1 ++ "m" ++ t ++ "\x1b[" ++ p.codes.2 ++ "m" else t

/-! ## What is shown -/

namespace Snippet

/-- How bad the shown problem is. -/
inductive Level where
  | error
  | warning
  | note
  | unknown
  deriving DecidableEq

/-- The name of a level. -/
def Level.name : Level → Text
  | .error => "error"
  | .warning => "warning"
  | .note => "note"
  | .unknown => "unknown"

/-- The paint of a level. -/
def Level.paint : Level → Paint
  | .error => .red
  | .warning => .yellow
  | .note | .unknown => .cyan

/-- A part of a source line to underline. Column 0 is the first character that is not white space, end column 0 the
last one. -/
structure Span where
  file : Text
  line : Int
  col : Int := 0
  endCol : Int := 0
  label : Text := []

end Snippet

/-- A problem with the source lines that show it and notes below. -/
structure Snippet where
  level : Snippet.Level
  code : Text := []
  message : Text
  spans : List Snippet.Span := []
  notes : List Text := []

namespace Snippet

/-! ## Reading sources -/

/-- How a session reads files; a file that cannot be read is none. -/
abbrev Reader := Text → Option Text

/-- The files a session has read, with their lines, and the names it has asked its reader for, in order. -/
structure Session where
  known : List (Text × List Text) := []
  reads : List Text := []

/-- The text with each carriage return before a newline taken out. -/
def dropReturns : Text → Text
  | [] => []
  | [b] => [b]
  | b :: c :: rest =>
    if b = Text.byte '\r' && c = Text.byte '\n' then c :: dropReturns rest else b :: dropReturns (c :: rest)

/-- The lines of a file as snippets quote them; an empty file has one empty line. -/
def quotedLines (content : Text) : List Text := ((dropReturns content).trimSuffix "\n").pieces '\n'

/-- The lines of a file, read unless they are known; a file that cannot be read has none. -/
def Session.lines (s : Session) (reader : Reader) (file : Text) : List Text × Session :=
  match s.known.find? (·.1 == file) with
  | some (_, lines) => (lines, s)
  | none =>
    let lines := (reader file).elim [] quotedLines
    (lines, { known := s.known ++ [(file, lines)], reads := s.reads ++ [file] })

/-- The line with this number, counted from 1. -/
def Session.line? (s : Session) (reader : Reader) (file : Text) (line : Int) : Option Text × Session :=
  if line ≤ 0 || file.isEmpty then (none, s)
  else
    let (lines, s) := s.lines reader file
    (lines[(line - 1).toNat]?, s)

/-! ## Underlining -/

/-- The first and the last byte to underline, counted from 1. A column outside the line stands for the line's first or
last byte that is not white space; a blank line is underlined in full, and the range of an empty line is empty. -/
def underline (source : Text) (col endCol : Int) : Nat × Nat :=
  let content := source.trim
  let inside (c : Int) : Bool := 0 < c && c ≤ source.length
  let front := if content.isEmpty then 1 else (source.indexOf? content).getD 0 + 1
  let back := if content.isEmpty then source.length else front + content.length - 1
  let start := if inside col then col.toNat else front
  let stop := if inside endCol then endCol.toNat else back
  if source.isEmpty then (1, 0) else (start, max start stop)

/-! ## Rendering -/

/-- The place of a span as `file`, `file:line` or `file:line:col`. -/
def Span.place (s : Span) : Text :=
  if s.line ≤ 0 then s.file
  else if s.col > 0 then s.file ++ ":" ++ Text.ofInt s.line ++ ":" ++ Text.ofInt s.col
  else s.file ++ ":" ++ Text.ofInt s.line

/-- The rows that quote and underline a source line. -/
def quoteRows (colored : Bool) (s : Span) (source : Text) : Text :=
  let number := Text.ofInt s.line
  let gutter := Paint.blue.apply colored (Text.spaces number.length ++ " |")
  let (start, stop) := underline source s.col s.endCol
  let indent := Text.displayWidth (source.take (start - 1))
  let width := max 1 (Text.displayWidth ((source.take stop).drop (start - 1)))
  let label : Text := if s.label.isEmpty then [] else " " ++ Paint.red.apply colored s.label
  gutter ++ "\n" ++
  Paint.blue.apply colored (number ++ " |") ++ "  " ++ source.flattenTabs ++ "\n" ++
  gutter ++ "  " ++ Text.spaces indent ++ Paint.red.apply colored (List.replicate width (Text.byte '^')) ++ label ++
  "\n" ++
  gutter ++ "\n"

/-- A span: its place and, if its line can be read, the rows that show it. -/
def renderSpan (colored : Bool) (reader : Reader) (session : Session) (s : Span) : Text × Session :=
  let (found, session) := session.line? reader s.file s.line
  let rows := match found with
    | some source => quoteRows colored s source
    | none => "   " ++ Paint.blue.apply colored "|" ++ "\n"
  ("  " ++ Paint.blue.apply colored "-->" ++ " " ++ s.place ++ "\n" ++ rows, session)

/-- The first row of a snippet. -/
def header (colored : Bool) (s : Snippet) : Text :=
  let tag := if s.code.isEmpty then s.level.name else s.level.name ++ "[" ++ s.code ++ "]"
  s.level.paint.apply colored tag ++ ": " ++ Paint.bold.apply colored s.message ++ "\n"

/-- The last rows of a snippet. -/
def footer (colored : Bool) (s : Snippet) : Text :=
  s.notes.flatMap fun note => "   " ++ Paint.cyan.apply colored "=" ++ " note: " ++ note ++ "\n"

/-- The spans one after the other. -/
def renderSpans (colored : Bool) (reader : Reader) (session : Session) : List Span → Text × Session
  | [] => ([], session)
  | s :: rest =>
    let (rows, session) := renderSpan colored reader session s
    let (more, session) := renderSpans colored reader session rest
    (rows ++ more, session)

/-- A snippet, and the session after it. -/
def render (colored : Bool) (reader : Reader) (session : Session) (s : Snippet) : Text × Session :=
  let (rows, session) := renderSpans colored reader session s.spans
  (s.header colored ++ rows ++ s.footer colored, session)

/-- Snippets with a blank line between neighbours, in one session. -/
def renderAll (colored : Bool) (reader : Reader) (session : Session) : List Snippet → Text × Session
  | [] => ([], session)
  | [s] => render colored reader session s
  | s :: t :: rest =>
    let (rows, session) := render colored reader session s
    let (more, session) := renderAll colored reader session (t :: rest)
    (rows ++ "\n" ++ more, session)

end Snippet

end HouseStyle
