import HouseStyle.Text.Blank
import HouseStyle.Text.Width

/-!
# Laying out paragraphs

`Text.wrap` breaks a text into lines that fit a width, at white space and after hyphens; `Text.indent` moves its lines
to the right. Both know the escape sequences that colour a terminal: they take no cells, and the colour in force is
switched off before an indentation and on again after it.

A hyphen takes no room on its line, and a word as wide as the limit is never moved to a line of its own.
-/

namespace HouseStyle.Text

/-- The character that begins an escape sequence. -/
def escapeCode : Nat := 0x1B

/-- Whether the character ends an escape sequence. -/
def endsEscape (c : Nat) : Bool := (0x40 ≤ c && c ≤ 0x5A) || (0x61 ≤ c && c ≤ 0x7A)

/-! ## Wrapping -/

/-- The cells of a list of characters, of which those in an escape sequence take none. -/
def visibleCells : (inEscape : Bool) → List Nat → Nat
  | _, [] => 0
  | true, c :: rest => visibleCells (!endsEscape c) rest
  | false, c :: rest => if c = escapeCode then visibleCells true rest else Glyph.cells c + visibleCells false rest

/-- The state of wrapping: the characters set so far, the width of the current line, the white space and the word that
wait to be set, and whether the word ends inside an escape sequence. -/
structure Wrapping where
  done : List Nat := []
  width : Nat := 0
  space : List Nat := []
  word : List Nat := []
  inEscape : Bool := false

namespace Wrapping

/-- White space takes as many cells as it has bytes. -/
def spaceWidth (w : Wrapping) : Nat := (ofCodes w.space).length

/-- The cells of the waiting word. -/
def wordWidth (w : Wrapping) : Nat := visibleCells false w.word

/-- Sets the waiting white space. -/
def setSpace (w : Wrapping) : Wrapping :=
  { w with done := w.done ++ w.space, width := w.width + w.spaceWidth, space := [] }

/-- Sets the waiting word, if there is one, after its white space. -/
def setWord (w : Wrapping) : Wrapping :=
  if w.word.isEmpty then w
  else
    let s := w.setSpace
    { s with done := s.done ++ s.word, width := s.width + s.wordWidth, word := [] }

/-- Begins a new line; white space that waits is lost. -/
def breakLine (w : Wrapping) : Wrapping := { w with done := w.done ++ [0x0A], width := 0, space := [] }

/-- Keeps the white space at the end of a line, if it fits. -/
def keepTrailing (limit : Nat) (w : Wrapping) : Wrapping :=
  if w.word.isEmpty then
    if w.width + w.spaceWidth > limit then { w with width := 0, space := [] }
    else { w with done := w.done ++ w.space, space := [] }
  else w

/-- Takes one character. -/
def step (limit : Nat) (w : Wrapping) (c : Nat) : Wrapping :=
  if c = escapeCode then { w with word := w.word ++ [c], inEscape := true }
  else if w.inEscape then { w with word := w.word ++ [c], inEscape := !endsEscape c }
  else if c = 0x0A then (keepTrailing limit w).setWord.breakLine
  else if Glyph.isBlankCode c then
    let s := w.setWord
    { s with space := s.space ++ [c] }
  else if c = 0x2D then
    let s := w.setSpace.setWord
    { s with done := s.done ++ [c] }
  else
    let s := { w with word := w.word ++ [c] }
    if s.width + s.spaceWidth + s.wordWidth > limit && s.wordWidth < limit then s.breakLine else s

end Wrapping

/-- The text broken into lines of at most `limit` cells where that is possible. -/
def wrap (limit : Nat) (t : Text) : Text := ofCodes (t.codes.foldl (Wrapping.step limit) {}).setWord.done

/-! ## Indenting -/

/-- The state of indenting: the text so far, whether the next character begins a line, whether it stands in an escape
sequence, the sequence read so far, the colours in force, and whether a colour was switched on. -/
structure Indenting where
  done : Text := []
  atStart : Bool := true
  inEscape : Bool := false
  reading : Bool := false
  sequence : Text := []
  active : Text := []
  changed : Bool := false

namespace Indenting

/-- The sequence that switches all colours off. -/
def resetSequence : Text := "\x1b[0m"

/-- Takes a character of an escape sequence, or a plain one. A sequence is set when it is complete. -/
def put (s : Indenting) (c : Nat) : Indenting :=
  if c = escapeCode then { s with reading := true, changed := true, sequence := s.sequence ++ Glyph.encode c }
  else if s.reading then
    let sequence := s.sequence ++ Glyph.encode c
    if endsEscape c then
      let s := { s with reading := false, sequence := [], done := s.done ++ sequence }
      if sequence.startsWith resetSequence then { s with active := [], changed := false }
      else if c = 0x6D then { s with active := s.active ++ sequence }
      else s
    else { s with sequence }
  else { s with done := s.done ++ Glyph.encode c }

/-- Sets the indentation at the start of a line. -/
def begin (n : Nat) (s : Indenting) : Indenting :=
  if s.atStart then
    let s := if s.changed then { s with done := s.done ++ resetSequence } else s
    let s := (List.replicate n 0x20).foldl put s
    { s with atStart := false, done := s.done ++ s.active }
  else s

/-- Whether a letter ends an escape sequence as far as the start of lines is concerned. -/
def isLetterCode (c : Nat) : Bool := (0x41 ≤ c && c ≤ 0x5A) || (0x61 ≤ c && c ≤ 0x7A)

/-- Takes one character. -/
def step (n : Nat) (s : Indenting) (c : Nat) : Indenting :=
  let s :=
    if c = escapeCode then { s with inEscape := true }
    else if s.inEscape then { s with inEscape := !isLetterCode c }
    else
      let s := begin n s
      if c = 0x0A then { s with atStart := true } else s
  s.put c

end Indenting

/-- The text with `n` spaces before each of its lines; a last line without characters gets none. -/
def indent (n : Nat) (t : Text) : Text := (t.codes.foldl (Indenting.step n) {}).done

end HouseStyle.Text
