import HouseStyle.Text.Printable

/-!
# Quoted texts

A text in double quotes on one line of printable characters, as error messages show what a user wrote. Quotes and
backslashes are escaped, as is every byte and character that does not show.
-/

namespace HouseStyle.Text

/-- The lowest `n` hexadecimal digits of a number, in lower case. -/
def hexDigits (n code : Nat) : Text :=
  (List.range n).reverse.map fun i => byte (Nat.digitChar (code / Nat.pow 16 i % 16))

/-- A character inside quotes. -/
def escapeGlyph (g : Glyph) : Text :=
  let c := g.code
  if g.isStray then "\\x" ++ hexDigits 2 ((g.bytes.head?.map (·.toNat)).getD 0)
  else if c = 0x22 then "\\\""
  else if c = 0x5C then "\\\\"
  else if Glyph.isPrintableCode c then g.bytes
  else if c = 0x07 then "\\a"
  else if c = 0x08 then "\\b"
  else if c = 0x0C then "\\f"
  else if c = 0x0A then "\\n"
  else if c = 0x0D then "\\r"
  else if c = 0x09 then "\\t"
  else if c = 0x0B then "\\v"
  else if c < 0x20 || c = 0x7F then "\\x" ++ hexDigits 2 c
  else if c < 0x10000 then "\\u" ++ hexDigits 4 c
  else "\\U" ++ hexDigits 8 c

/-- The text in quotes. -/
def quoted (t : Text) : Text := "\"" ++ t.glyphs.flatMap escapeGlyph ++ "\""

end HouseStyle.Text
