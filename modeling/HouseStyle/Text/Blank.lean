import HouseStyle.Text.Glyph

/-!
# White space

The white space characters, trimming, and the words between them. All counts are in characters, so a tab and an
ideographic space count as one each; a stray byte is never white space.
-/

namespace HouseStyle

/-- The white space code points. -/
def Glyph.blankCodes : List (Nat × Nat) :=
  [(0x09, 0x0D), (0x20, 0x20), (0x85, 0x85), (0xA0, 0xA0), (0x1680, 0x1680), (0x2000, 0x200A), (0x2028, 0x2029),
   (0x202F, 0x202F), (0x205F, 0x205F), (0x3000, 0x3000)]

/-- Whether the code point is white space. -/
def Glyph.isBlankCode (c : Nat) : Bool := blankCodes.any fun (lo, hi) => lo ≤ c && c ≤ hi

/-- Whether the character is white space. -/
def Glyph.isBlank (g : Glyph) : Bool := isBlankCode g.code

namespace Text

/-- The text without white space at its front. -/
def trimLeft (t : Text) : Text := ofGlyphs (t.glyphs.dropWhile (·.isBlank))

/-- The text without white space at its end. -/
def trimRight (t : Text) : Text := ofGlyphs (t.glyphs.reverse.dropWhile (·.isBlank)).reverse

/-- The text without white space at either end. -/
def trim (t : Text) : Text := t.trimLeft.trimRight

/-- Whether the text holds only white space. -/
def isBlank (t : Text) : Bool := t.trim.isEmpty

/-- The number of white space characters at the front. -/
def leadingWidth (t : Text) : Nat := (t.glyphs.takeWhile (·.isBlank)).length

/-- The number of characters that are not white space. -/
def inkCount (t : Text) : Nat := t.glyphs.countP (!·.isBlank)

/-- Cuts a list of characters into the words between white space; `word` holds the characters of the current word in
reverse. -/
def wordsFrom (word : List Glyph) : List Glyph → List Text
  | [] => if word.isEmpty then [] else [ofGlyphs word.reverse]
  | g :: rest =>
    if g.isBlank then
      if word.isEmpty then wordsFrom [] rest else ofGlyphs word.reverse :: wordsFrom [] rest
    else wordsFrom (g :: word) rest

/-- The words of a text: its longest runs without white space. -/
def words (t : Text) : List Text := wordsFrom [] t.glyphs

end Text

end HouseStyle
