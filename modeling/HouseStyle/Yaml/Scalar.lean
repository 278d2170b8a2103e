import HouseStyle.Text.Glyph
import HouseStyle.Yaml.Plain

/-!
# Written scalars

How a string is written as a YAML scalar: plain where that reads back as the same string, otherwise in single quotes, as
a literal block if it holds a newline, or in double quotes with escapes. Bytes that are no UTF-8 are written in base 64.

Line breaks inside a scalar are the newline, the two Unicode separators, the carriage return and the next-line control.
-/

namespace HouseStyle.Yaml

/-- Whether the code point is written as it is: a newline, or a visible character of the basic plane that is no byte
order mark. -/
def isPrintable (c : Nat) : Bool :=
  c == 0x0A || (0x20 ≤ c && c ≤ 0x7E) || (0xA0 ≤ c && c ≤ 0xFFFD && c != 0xFEFF)

/-- Whether the code point breaks a line. -/
def isBreak (c : Nat) : Bool := c == 0x0A || c == 0x0D || c == 0x85 || c == 0x2028 || c == 0x2029

/-- Whether a plain scalar sees white space at the code point. -/
def isGap (c : Nat) : Bool := c == 0x20 || c == 0x09 || c == 0 || isBreak c

/-- The code of an ASCII character. -/
def code (c : Char) : Nat := c.toNat

/-- The characters that a plain scalar does not begin with. -/
def indicators : List Nat := "#,[]\x7b\x7d&*!|>'\"%@\x60".toList.map code

/-- Whether a plain scalar with these code points would be read as something else: it begins like a marker of the
format, or holds the beginning of a comment or of a mapping value. -/
def hasIndicator (cs : List Nat) : Bool :=
  let marker := [code '-', code '-', code '-'].isPrefixOf cs || [code '.', code '.', code '.'].isPrefixOf cs
  let first := match cs with
    | [] => false
    | c :: rest =>
      indicators.contains c || ((c == code '?' || c == code '-') && rest.head?.all isGap)
  marker || first || inner none cs
where
  /-- Looks for `: ` and ` #`, where `before` is the code point before. -/
  inner (before : Option Nat) : List Nat → Bool
    | [] => false
    | c :: rest =>
      (c == code ':' && rest.head?.all isGap) || (c == code '#' && before.any isGap) || inner (some c) rest

/-- The ways to write a scalar. -/
inductive Style where
  | plain
  | single
  | double
  | literal
  deriving DecidableEq

/-- Whether some code point that satisfies `p` is followed by one that satisfies `q`. -/
def hasPair (p q : Nat → Bool) : List Nat → Bool
  | a :: b :: rest => (p a && q b) || hasPair p q (b :: rest)
  | _ => false

/-- The style of a string: `plainReads` says whether it is a string to readers when written plain. -/
def styleOf (plainReads : Bool) (cs : List Nat) : Style :=
  let isSpace (c : Nat) : Bool := c == 0x20
  let tab := cs.contains 0x09
  let special := cs.any fun c => c != 0x09 && !isPrintable c
  let breaks := cs.any isBreak
  let edge (p : Nat → Bool) : Bool := cs.head?.any p || cs.getLast?.any p
  let spaceBreak := hasPair isSpace isBreak cs
  let breakSpace := hasPair isBreak isSpace cs
  let plainAllowed := !(edge isSpace || edge isBreak || breakSpace || spaceBreak || tab || special || breaks ||
    hasIndicator cs)
  let singleAllowed := !(breakSpace || spaceBreak || tab || special)
  let blockAllowed := !(cs.getLast?.any isSpace || spaceBreak || special)
  if cs.contains 0x0A then if blockAllowed then .literal else .double
  else if !plainReads then .double
  else if plainAllowed then .plain
  else if singleAllowed then .single
  else .double

/-- An upper-case hexadecimal escape of `n` digits. -/
def hexEscape (letter : Char) (n c : Nat) : Text :=
  Text.byte '\\' :: Text.byte letter :: (Text.hexDigits n c).map Text.upperByte

/-- A character inside double quotes. -/
def escapeCode (c : Nat) : Text :=
  if c = 0x22 then "\\\""
  else if c = 0x5C then "\\\\"
  else if isPrintable c && !isBreak c then Glyph.encode c
  else if c = 0x00 then "\\0"
  else if c = 0x07 then "\\a"
  else if c = 0x08 then "\\b"
  else if c = 0x09 then "\\t"
  else if c = 0x0A then "\\n"
  else if c = 0x0B then "\\v"
  else if c = 0x0C then "\\f"
  else if c = 0x0D then "\\r"
  else if c = 0x1B then "\\e"
  else if c = 0x85 then "\\N"
  else if c = 0x2028 then "\\L"
  else if c = 0x2029 then "\\P"
  else if c ≤ 0xFF then hexEscape 'x' 2 c
  else if c ≤ 0xFFFF then hexEscape 'u' 4 c
  else hexEscape 'U' 8 c

/-- The characters inside single quotes: a quote is written twice, and a line that follows a break is indented.
`broken` says whether a break stands just before. -/
def singleBody (indent : Nat) : (broken : Bool) → List Nat → Text
  | _, [] => []
  | broken, c :: rest =>
    if c = 0x20 then Glyph.encode c ++ singleBody indent broken rest
    else if isBreak c then Glyph.encode c ++ singleBody indent true rest
    else
      (if broken then Text.spaces indent else []) ++
        (if c = 0x27 then Text.ofString "''" else Glyph.encode c) ++ singleBody indent false rest

/-- The lines of a literal block. A line starts after the header or a break, and only what is not empty is indented. -/
inductive LineState where
  | header
  | fresh
  | filled

/-- The body of a literal block. -/
def literalBody (indent : Nat) : LineState → List Nat → Text
  | _, [] => []
  | state, c :: rest =>
    if isBreak c then Glyph.encode c ++ literalBody indent .fresh rest
    else
      let start := match state with
        | .header => Text.ofString "\n" ++ Text.spaces indent
        | .fresh => Text.spaces indent
        | .filled => []
      start ++ Glyph.encode c ++ literalBody indent .filled rest

/-- The header of a literal block: an indentation hint if the text begins with white space, and how to treat the
newlines at its end. -/
def literalHeader (cs : List Nat) : Text :=
  let hint := if cs.head?.any fun c => c == 0x20 || isBreak c then Text.ofString "2" else []
  let chomp := match cs.reverse with
    | [] => Text.ofString "-"
    | [c] => if isBreak c then "+" else "-"
    | c :: d :: _ => if !isBreak c then Text.ofString "-" else if isBreak d then "+" else []
  "|" ++ hint ++ chomp

/-- A string with these code points in this style; `indent` is the indentation of further lines. -/
def writeStyled (indent : Nat) (cs : List Nat) : Style → Text
  | .plain => Text.ofCodes cs
  | .single => "'" ++ singleBody indent false cs ++ "'"
  | .double => "\"" ++ cs.flatMap escapeCode ++ "\""
  | .literal => literalHeader cs ++ literalBody indent .header cs

/-! ## Base 64 -/

/-- The base 64 digit of a number below 64. -/
def base64Digit (n : Nat) : UInt8 :=
  if n < 26 then UInt8.ofNat (65 + n)
  else if n < 52 then UInt8.ofNat (97 + (n - 26))
  else if n < 62 then UInt8.ofNat (48 + (n - 52))
  else if n = 62 then Text.byte '+'
  else Text.byte '/'

/-- The bytes in base 64, padded with `=`. -/
def base64 : Text → Text
  | a :: b :: c :: rest =>
    let n := a.toNat * 65536 + b.toNat * 256 + c.toNat
    base64Digit (n / 262144) :: base64Digit (n / 4096 % 64) :: base64Digit (n / 64 % 64) :: base64Digit (n % 64) ::
      base64 rest
  | [a, b] =>
    let n := a.toNat * 65536 + b.toNat * 256
    [base64Digit (n / 262144), base64Digit (n / 4096 % 64), base64Digit (n / 64 % 64), Text.byte '=']
  | [a] =>
    let n := a.toNat * 65536
    [base64Digit (n / 262144), base64Digit (n / 4096 % 64), Text.byte '=', Text.byte '=']
  | [] => []

/-- The lines of at most 70 bytes of a text, each with its newline; a text that fits on one line has none. -/
def wrap70 (t : Text) : Text :=
  if t.length < 70 then t else Text.unlines (chunks t.length t)
where
  /-- Cuts off 70 bytes at a time. -/
  chunks : (fuel : Nat) → Text → List Text
    | 0, _ => []
    | fuel + 1, t => if t.isEmpty then [] else t.take 70 :: chunks fuel (t.drop 70)

/-! ## Strings -/

/-- A string as a scalar; `indent` is the indentation of further lines. -/
def writeString (indent : Nat) (t : Text) : Text :=
  if t.isWellFormed then
    let cs := t.codes
    writeStyled indent cs (styleOf (Plain.isString t && !isBase60 t && !isOldBool t) cs)
  else
    let cs := (wrap70 (base64 t)).codes
    "!!binary " ++ writeStyled indent cs (styleOf true cs)

end HouseStyle.Yaml
