import HouseStyle.Text.Quoted
import HouseStyle.Word

/-!
# Reading numbers

Integers as users and configuration files write them: a sign, a base prefix (`0b`, `0o`, `0x`, or `0` for octal) and
digits, with underscores between digits. The value must fit into sixty-four bits.
-/

namespace HouseStyle

/-- Why a text is no integer. -/
inductive NumberError where
  | syntactic
  | range
  deriving DecidableEq

namespace Number

/-- The value of a letter or digit as a digit. -/
def digitValue? (b : UInt8) : Option Nat :=
  if Text.isDigit b then some (b.toNat - 48)
  else
    let b := Text.lowerByte b
    if Text.byte 'a' ≤ b && b ≤ Text.byte 'z' then some (b.toNat - 87) else none

/-- What stands before a byte, as far as underscores care. -/
inductive Before where
  | start
  | digit
  | underscore
  | other
  deriving DecidableEq

/-- Whether every underscore stands between two digits; `hex` says whether letters are digits. -/
def underscoresOk (hex : Bool) : Before → Text → Bool
  | s, [] => s != .underscore
  | s, b :: rest =>
    if Text.isDigit b || (hex && Text.byte 'a' ≤ Text.lowerByte b && Text.lowerByte b ≤ Text.byte 'f') then
      underscoresOk hex .digit rest
    else if b = Text.byte '_' then s == .digit && underscoresOk hex .underscore rest
    else s != .underscore && underscoresOk hex .other rest

/-- Whether the underscores of an unsigned number are well placed. A base prefix counts as a digit. -/
def underscoresPlaced (t : Text) : Bool :=
  match t with
  | z :: p :: rest =>
    let p := Text.lowerByte p
    if z = Text.byte '0' && (p = Text.byte 'b' || p = Text.byte 'o' || p = Text.byte 'x') then
      underscoresOk (p = Text.byte 'x') .digit rest
    else underscoresOk false .start t
  | _ => underscoresOk false .start t

/-- The base of an unsigned number and its digits. -/
def baseOf (t : Text) : Nat × Text :=
  match t with
  | z :: p :: d :: rest =>
    if z ≠ Text.byte '0' then (10, t)
    else
      let p' := Text.lowerByte p
      if p' = Text.byte 'b' then (2, d :: rest)
      else if p' = Text.byte 'o' then (8, d :: rest)
      else if p' = Text.byte 'x' then (16, d :: rest)
      else (8, p :: d :: rest)
  | z :: rest => if z = Text.byte '0' then (8, rest) else (10, t)
  | [] => (10, t)

/-- Reads digits on top of the value `n`; a value of more than sixty-four bits is out of range at once. -/
def readDigits (base : Nat) : (n : Nat) → Text → Except NumberError Nat
  | n, [] => .ok n
  | n, b :: rest =>
    if b = Text.byte '_' then readDigits base n rest
    else
      match digitValue? b with
      | none => .error .syntactic
      | some d =>
        if d ≥ base then .error .syntactic
        else
          let n := n * base + d
          if n ≥ wordCount then .error .range else readDigits base n rest

/-- Reads an unsigned number. -/
def parseNat (t : Text) : Except NumberError Nat :=
  if t.isEmpty then .error .syntactic
  else
    let (base, digits) := baseOf t
    match readDigits base 0 digits with
    | .error e => .error e
    | .ok n => if t.has '_' && !underscoresPlaced t then .error .syntactic else .ok n

/-- Reads a signed number. -/
def parseInt (t : Text) : Except NumberError Int :=
  let (negative, digits) := match t with
    | b :: rest =>
      if b = Text.byte '-' then (true, rest) else if b = Text.byte '+' then (false, rest) else (false, t)
    | [] => (false, t)
  match parseNat digits with
  | .error e => .error e
  | .ok n =>
    if negative then if n > wordBound then .error .range else .ok (-n)
    else if n ≥ wordBound then .error .range
    else .ok n

/-- What is said about a text that is no integer. -/
def errorMessage (t : Text) : NumberError → Text
  | .syntactic => "strconv.ParseInt: parsing " ++ t.quoted ++ ": invalid syntax"
  | .range => "strconv.ParseInt: parsing " ++ t.quoted ++ ": value out of range"

/-! ## Decimal fractions -/

/-- A decimal number: `mantissa · 10 ^ exponent`. -/
structure Decimal where
  mantissa : Int
  exponent : Int

/-- Whether the magnitude is below the bound from which on numbers no longer round to a finite double. -/
def Decimal.isFinite (d : Decimal) : Bool :=
  let m := d.mantissa.natAbs
  let digits : Int := (Nat.toDigits 10 m).length
  let bound := Nat.pow 2 1024 - Nat.pow 2 970
  if m = 0 || digits + d.exponent < 300 then true
  else if digits + d.exponent > 320 then false
  else if d.exponent ≥ 0 then m * Nat.pow 10 d.exponent.toNat < bound
  else m < bound * Nat.pow 10 (-d.exponent).toNat

/-- The integer part of a decimal number as a signed word; one that does not fit gives the least word. The power of ten
is computed only if the number is neither clearly too large nor clearly below one. -/
def Decimal.toWord (d : Decimal) : Int :=
  let digits : Int := (Nat.toDigits 10 d.mantissa.natAbs).length
  if d.mantissa = 0 || digits + d.exponent ≤ 0 then 0
  else if digits + d.exponent > 20 then -wordBound
  else
    let n :=
      if d.exponent ≥ 0 then d.mantissa * Nat.pow 10 d.exponent.toNat
      else d.mantissa.tdiv (Nat.pow 10 (-d.exponent).toNat)
    if -wordBound ≤ n && n < wordBound then n else -wordBound

/-- Reads a decimal number: a sign, digits with a point somewhere, and an exponent. -/
def parseDecimal? (t : Text) : Option Decimal := do
  let (negative, t) := match t with
    | b :: rest =>
      if b = Text.byte '-' then (true, rest) else if b = Text.byte '+' then (false, rest) else (false, t)
    | [] => (false, t)
  let (whole, t) := t.span Text.isDigit
  let (fraction, t) := match t with
    | b :: rest => if b = Text.byte '.' then rest.span Text.isDigit else ([], t)
    | [] => ([], t)
  if whole.isEmpty && fraction.isEmpty then none
  let exponent ← match t with
    | [] => some (0 : Int)
    | b :: rest =>
      if b = Text.byte 'e' || b = Text.byte 'E' then
        let (sign, ds) : Int × Text := match rest with
          | s :: tail =>
            if s = Text.byte '-' then (-1, tail) else if s = Text.byte '+' then (1, tail) else (1, rest)
          | [] => (1, rest)
        if ds.isEmpty || !ds.all Text.isDigit then none else some (sign * Text.digitsValue ds)
      else none
  let m : Int := Text.digitsValue (whole ++ fraction)
  return ⟨if negative then -m else m, exponent - fraction.length⟩

end Number

end HouseStyle
