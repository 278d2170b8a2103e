import HouseStyle.Text.Blank

/-!
# Fixing white space

The white space problems that have exactly one correct answer: tabs become spaces up to the next tab stop, and white
space at the end of a line goes. Line terminators are kept.
-/

namespace HouseStyle.Whitespace

/-- The characters of a line with tabs expanded, where `col` characters stand before. A stray byte becomes the
replacement character. -/
def expandFrom (tabWidth : Nat) : (col : Nat) → List Glyph → Text
  | _, [] => []
  | col, g :: rest =>
    if g.code = 0x09 then
      let n := tabWidth - col % tabWidth
      Text.spaces n ++ expandFrom tabWidth (col + n) rest
    else Glyph.encode g.code ++ expandFrom tabWidth (col + 1) rest

/-- The line with tabs expanded; a line without tabs is left as it is, stray bytes included. -/
def expandTabs (tabWidth : Nat) (line : Text) : Text :=
  if line.has '\t' then expandFrom tabWidth 0 line.glyphs else line

/-- The line, which may end in the carriage return of its terminator, without tabs and without white space at its
end. -/
def fixLine (tabWidth : Nat) (line : Text) : Text :=
  match line.beforeSuffix? "\r" with
  | some body => Text.trimRight (expandTabs tabWidth body) ++ "\r"
  | none => Text.trimRight (expandTabs tabWidth line)

/-- The file with its white space fixed. A tab width that is not positive counts as one. -/
def fix (content : Text) (tabWidth : Int) : Text :=
  Text.join "\n" ((content.pieces '\n').map (fixLine (if tabWidth ≤ 0 then 1 else tabWidth.toNat)))

end HouseStyle.Whitespace
