import HouseStyle.Text.Glyph

/-!
# JSON values

JSON values and their written forms, on one line (`Json.compact`) and indented (`Json.pretty`). Strings are texts;
characters that matter to HTML and the two separators U+2028 and U+2029 are escaped, and a stray byte is written as the
replacement character.
-/

namespace HouseStyle

/-- A JSON value. A number is `mantissa · 10 ^ exponent`; an object keeps the order of its members. -/
inductive Json where
  | null
  | bool (b : Bool)
  | number (mantissa : Int) (exponent : Int)
  | string (t : Text)
  | array (items : List Json)
  | object (members : List (Text × Json))

namespace Json

/-- The value of an integer. -/
def int (n : Int) : Json := .number n 0

/-- The value of a natural number. -/
def nat (n : Nat) : Json := .number n 0

instance : Coe String Json := ⟨fun s => .string (Text.ofString s)⟩

/-! ## Access -/

/-- The member of an object with this name; of several, the last. -/
def get? (j : Json) (name : Text) : Option Json :=
  match j with
  | .object members => (members.reverse.find? (·.1 == name)).map (·.2)
  | _ => none

/-- The member of an object with this name, or `null`. -/
def get (j : Json) (name : Text) : Json := (j.get? name).getD .null

/-- Whether the value is `null`. -/
def isNull : Json → Bool
  | .null => true
  | _ => false

/-- The text of a string. -/
def text? : Json → Option Text
  | .string t => some t
  | _ => none

/-- The items of an array. -/
def items? : Json → Option (List Json)
  | .array items => some items
  | _ => none

/-- The integer that a number denotes, if it denotes one. -/
def int? : Json → Option Int
  | .number m e =>
    if e ≥ 0 then some (m * Nat.pow 10 e.toNat)
    else if m % Nat.pow 10 (-e).toNat = 0 then some (m / Nat.pow 10 (-e).toNat)
    else none
  | _ => none

/-! ## Writing -/

/-- The lower-case hexadecimal digit. -/
def hexDigit (n : Nat) : UInt8 := Text.byte (Nat.digitChar (n % 16))

/-- The escape `\uXXXX` of a code below 65536. -/
def unicodeEscape (code : Nat) : Text :=
  "\\u" ++ [hexDigit (code / 4096), hexDigit (code / 256), hexDigit (code / 16), hexDigit code]

/-- A character inside a string. -/
def escapeCode (code : Nat) : Text :=
  if code = 0x22 then "\\\""
  else if code = 0x5C then "\\\\"
  else if code = 0x08 then "\\b"
  else if code = 0x0C then "\\f"
  else if code = 0x0A then "\\n"
  else if code = 0x0D then "\\r"
  else if code = 0x09 then "\\t"
  else if code < 0x20 || code = 0x3C || code = 0x3E || code = 0x26 || code = 0x2028 || code = 0x2029 then
    unicodeEscape code
  else Glyph.encode code

/-- A text as a string. A stray byte counts as U+FFFD, which is written as that character and not as an escape; both
read back as the same. -/
def quote (t : Text) : Text := "\"" ++ t.codes.flatMap escapeCode ++ "\""

/-- A number: its digits, with zeros or a point as the exponent asks. -/
def writeNumber (m e : Int) : Text :=
  if e ≥ 0 then Text.ofInt (m * Nat.pow 10 e.toNat)
  else
    let places := (-e).toNat
    let digits := Text.ofNat m.natAbs
    let digits := List.replicate (places + 1 - digits.length) (Text.byte '0') ++ digits
    (if m < 0 then Text.ofString "-" else []) ++ digits.take (digits.length - places) ++ "." ++
      digits.drop (digits.length - places)

mutual

/-- The value on one line. -/
def compact : Json → Text
  | .null => "null"
  | .bool b => if b then "true" else "false"
  | .number m e => writeNumber m e
  | .string t => quote t
  | .array items => "[" ++ compactItems items ++ "]"
  | .object members => "\x7b" ++ compactMembers members ++ "\x7d"

/-- The items of an array, with commas between them. -/
def compactItems : List Json → Text
  | [] => []
  | [j] => compact j
  | j :: rest => compact j ++ "," ++ compactItems rest

/-- The members of an object, with commas between them. -/
def compactMembers : List (Text × Json) → Text
  | [] => []
  | [(name, j)] => quote name ++ ":" ++ compact j
  | (name, j) :: rest => quote name ++ ":" ++ compact j ++ "," ++ compactMembers rest

end

/-- A new line at nesting depth `depth`. -/
def newline (depth : Nat) : Text := "\n" ++ Text.spaces (2 * depth)

mutual

/-- The value over several lines, with two spaces per nesting depth; `depth` is the depth it stands at. -/
def prettyAt (depth : Nat) : Json → Text
  | .null => "null"
  | .bool b => if b then "true" else "false"
  | .number m e => writeNumber m e
  | .string t => quote t
  | .array [] => "[]"
  | .array (j :: rest) => "[" ++ prettyItems (depth + 1) (j :: rest) ++ newline depth ++ "]"
  | .object [] => "\x7b\x7d"
  | .object (m :: rest) => "\x7b" ++ prettyMembers (depth + 1) (m :: rest) ++ newline depth ++ "\x7d"

/-- The items of an array, each on lines of its own. -/
def prettyItems (depth : Nat) : List Json → Text
  | [] => []
  | [j] => newline depth ++ prettyAt depth j
  | j :: rest => newline depth ++ prettyAt depth j ++ "," ++ prettyItems depth rest

/-- The members of an object, each on lines of its own. -/
def prettyMembers (depth : Nat) : List (Text × Json) → Text
  | [] => []
  | [(name, j)] => newline depth ++ quote name ++ ": " ++ prettyAt depth j
  | (name, j) :: rest =>
    newline depth ++ quote name ++ ": " ++ prettyAt depth j ++ "," ++ prettyMembers depth rest

end

/-- The value over several lines. -/
def pretty (j : Json) : Text := prettyAt 0 j

end Json

end HouseStyle
