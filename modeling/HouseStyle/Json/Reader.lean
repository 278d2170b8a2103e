import HouseStyle.Json.Basic

/-!
# Reading JSON

A reader for JSON texts. It accepts exactly the grammar: no trailing commas, no comments, no bare control characters in
strings. In a string, half a surrogate pair and a stray byte are read as the replacement character.
-/

namespace HouseStyle.Json

/-- Drops the blanks that may stand between tokens. -/
def skipBlanks (t : Text) : Text :=
  t.dropWhile fun b => b == Text.byte ' ' || b == Text.byte '\t' || b == Text.byte '\r' || b == Text.byte '\n'

/-- The value of a hexadecimal digit. -/
def hexValue? (b : UInt8) : Option Nat :=
  if Text.isDigit b then some (b.toNat - 48)
  else if Text.byte 'a' ≤ b && b ≤ Text.byte 'f' then some (b.toNat - 87)
  else if Text.byte 'A' ≤ b && b ≤ Text.byte 'F' then some (b.toNat - 55)
  else none

/-- The number that four hexadecimal digits denote. -/
def hex4? (a b c d : UInt8) : Option Nat := do
  return (← hexValue? a) * 4096 + (← hexValue? b) * 256 + (← hexValue? c) * 16 + (← hexValue? d)

/-- The character of a one-letter escape. -/
def simpleEscape? (b : UInt8) : Option UInt8 :=
  if b = Text.byte '"' || b = Text.byte '\\' || b = Text.byte '/' then some b
  else if b = Text.byte 'b' then some 0x08
  else if b = Text.byte 'f' then some 0x0C
  else if b = Text.byte 'n' then some 0x0A
  else if b = Text.byte 'r' then some 0x0D
  else if b = Text.byte 't' then some 0x09
  else none

/-- Whether the code is the first, or the second, half of a surrogate pair. -/
def isHighHalf (code : Nat) : Bool := 0xD800 ≤ code && code < 0xDC00

@[inherit_doc isHighHalf]
def isLowHalf (code : Nat) : Bool := 0xDC00 ≤ code && code < 0xE000

/-- Reads the rest of a string after its opening quote. A first half of a surrogate pair that stands just before is
passed along as `half`. -/
def readString : (half : Option Nat) → Text → Option (Text × Text)
  | _, [] => none
  | half, b :: rest =>
    let lone : Text := if half.isSome then Glyph.encode Glyph.replacement else []
    if b = Text.byte '"' then some (lone, rest)
    else if b < 0x20 then none
    else if b ≠ Text.byte '\\' then
      (readString none rest).map fun (t, after) => (lone ++ b :: t, after)
    else
      match rest with
      | u :: h₁ :: h₂ :: h₃ :: h₄ :: tail =>
        if u = Text.byte 'u' then
          match hex4? h₁ h₂ h₃ h₄ with
          | none => none
          | some code =>
            match half with
            | some high =>
              if isLowHalf code then
                (readString none tail).map fun (t, after) =>
                  (Glyph.encode (0x10000 + (high - 0xD800) * 1024 + (code - 0xDC00)) ++ t, after)
              else if isHighHalf code then
                (readString (some code) tail).map fun (t, after) => (lone ++ t, after)
              else (readString none tail).map fun (t, after) => (lone ++ Glyph.encode code ++ t, after)
            | none =>
              if isHighHalf code then readString (some code) tail
              else (readString none tail).map fun (t, after) => (Glyph.encode code ++ t, after)
        else
          match simpleEscape? u with
          | none => none
          | some c => (readString none (h₁ :: h₂ :: h₃ :: h₄ :: tail)).map fun (t, after) => (lone ++ c :: t, after)
      | u :: tail =>
        match simpleEscape? u with
        | none => none
        | some c => (readString none tail).map fun (t, after) => (lone ++ c :: t, after)
      | [] => none

/-- Reads a sign that may stand before digits: whether it is a minus sign. A plus sign counts only with `plus`. -/
def readSign (plus : Bool) : Text → Bool × Text
  | [] => (false, [])
  | b :: rest =>
    if b = Text.byte '-' then (true, rest)
    else if plus && b = Text.byte '+' then (false, rest)
    else (false, b :: rest)

/-- Reads a fraction: the digits after a point, if there is one. -/
def readFraction : Text → Option (Text × Text)
  | [] => some ([], [])
  | b :: rest =>
    if b = Text.byte '.' then
      let (ds, rest) := rest.span Text.isDigit
      if ds.isEmpty then none else some (ds, rest)
    else some ([], b :: rest)

/-- Reads an exponent, if there is one. -/
def readExponent : Text → Option (Int × Text)
  | [] => some (0, [])
  | b :: rest =>
    if b = Text.byte 'e' || b = Text.byte 'E' then
      let (negative, rest) := readSign true rest
      let (ds, rest) := rest.span Text.isDigit
      let n : Int := Text.digitsValue ds
      if ds.isEmpty then none else some (if negative then -n else n, rest)
    else some (0, b :: rest)

/-- Reads a number: a sign, digits without a leading zero, a fraction and an exponent. -/
def readNumber (t : Text) : Option (Json × Text) := do
  let (negative, t) := readSign false t
  let (whole, t) := t.span Text.isDigit
  if whole.isEmpty || (whole.length > 1 && whole.head? == some (Text.byte '0')) then none
  let (fraction, t) ← readFraction t
  let (exponent, t) ← readExponent t
  let m : Int := Text.digitsValue (whole ++ fraction)
  return (.number (if negative then -m else m) (exponent - fraction.length), t)

/-- What follows the literal `word`, if the text begins with it. -/
def readLiteral (word : Text) (j : Json) (t : Text) : Option (Json × Text) := (t.afterPrefix? word).map (j, ·)

mutual

/-- Reads a value at the front of a text. A value takes a byte at least, so the length of the text is fuel enough. -/
def readValue : (fuel : Nat) → Text → Option (Json × Text)
  | 0, _ => none
  | fuel + 1, t =>
    match skipBlanks t with
    | [] => none
    | b :: rest =>
      if b = Text.byte '{' then
        match skipBlanks rest with
        | c :: after => if c = Text.byte '}' then some (.object [], after) else readMembers fuel (c :: after) []
        | [] => none
      else if b = Text.byte '[' then
        match skipBlanks rest with
        | c :: after => if c = Text.byte ']' then some (.array [], after) else readItems fuel (c :: after) []
        | [] => none
      else if b = Text.byte '"' then (readString none rest).map fun (s, after) => (.string s.wellFormed, after)
      else if b = Text.byte 't' then readLiteral "true" (.bool true) (b :: rest)
      else if b = Text.byte 'f' then readLiteral "false" (.bool false) (b :: rest)
      else if b = Text.byte 'n' then readLiteral "null" .null (b :: rest)
      else readNumber (b :: rest)

/-- Reads the items of an array up to its closing bracket; `done` holds the items so far in reverse. -/
def readItems : (fuel : Nat) → Text → (done : List Json) → Option (Json × Text)
  | 0, _, _ => none
  | fuel + 1, t, done =>
    match readValue fuel t with
    | none => none
    | some (j, after) =>
      match skipBlanks after with
      | b :: rest =>
        if b = Text.byte ',' then readItems fuel rest (j :: done)
        else if b = Text.byte ']' then some (.array (j :: done).reverse, rest)
        else none
      | [] => none

/-- Reads the members of an object up to its closing brace; `done` holds the members so far in reverse. -/
def readMembers : (fuel : Nat) → Text → (done : List (Text × Json)) → Option (Json × Text)
  | 0, _, _ => none
  | fuel + 1, t, done =>
    match skipBlanks t with
    | q :: t =>
      if q ≠ Text.byte '"' then none
      else
        match readString none t with
        | none => none
        | some (name, after) =>
          match skipBlanks after with
          | colon :: t =>
            if colon ≠ Text.byte ':' then none
            else
              match readValue fuel t with
              | none => none
              | some (j, after) =>
                let done := (name.wellFormed, j) :: done
                match skipBlanks after with
                | b :: rest =>
                  if b = Text.byte ',' then readMembers fuel rest done
                  else if b = Text.byte '}' then some (.object done.reverse, rest)
                  else none
                | [] => none
          | [] => none
    | [] => none

end

/-- Reads a text that holds one value and blanks around it. -/
def parse? (t : Text) : Option Json :=
  match readValue (2 * t.length + 2) t with
  | some (j, rest) => if (skipBlanks rest).isEmpty then some j else none
  | none => none

end HouseStyle.Json
