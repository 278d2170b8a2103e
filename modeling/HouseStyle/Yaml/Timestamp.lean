import HouseStyle.Text.Basic

/-!
# Timestamps

The texts that YAML readers take for a date or a point in time: a date with a four-digit year, and perhaps a time of day
after `T`, `t` or spaces. Fields of one digit are accepted, and every field must be in range.
-/

namespace HouseStyle.Yaml.Timestamp

/-- Reads a number of one or two digits. -/
def number? (t : Text) : Option (Nat × Text) :=
  match t with
  | a :: b :: rest =>
    if !Text.isDigit a then none
    else if Text.isDigit b then some (Text.digitsValue [a, b], rest)
    else some (Text.digitsValue [a], b :: rest)
  | [a] => if Text.isDigit a then some (Text.digitsValue [a], []) else none
  | [] => none

/-- Reads a number of two digits. -/
def twoDigits? (t : Text) : Option (Nat × Text) :=
  match t with
  | a :: b :: rest => if Text.isDigit a && Text.isDigit b then some (Text.digitsValue [a, b], rest) else none
  | _ => none

/-- Drops the ASCII character `c` at the front. -/
def skip? (c : Char) (t : Text) : Option Text :=
  match t with
  | b :: rest => if b = Text.byte c then some rest else none
  | [] => none

/-- The number of days of a month. -/
def daysIn (year month : Nat) : Nat :=
  if month = 2 then if year % 4 = 0 && (year % 100 ≠ 0 || year % 400 = 0) then 29 else 28
  else if month = 4 || month = 6 || month = 9 || month = 11 then 30
  else 31

/-- Reads a date in the calendar. -/
def date? (t : Text) : Option Text := do
  let (year, t) := t.span Text.isDigit
  if year.length ≠ 4 then none
  let t ← skip? '-' t
  let (month, t) ← number? t
  let t ← skip? '-' t
  let (day, t) ← number? t
  if month < 1 || month > 12 || day < 1 || day > daysIn (Text.digitsValue year) month then none
  return t

/-- Reads a time of day, with a fraction of a second of any length. -/
def clock? (t : Text) : Option Text := do
  let (hour, t) ← number? t
  let t ← skip? ':' t
  let (minute, t) ← number? t
  let t ← skip? ':' t
  let (second, t) ← number? t
  if hour ≥ 24 || minute ≥ 60 || second ≥ 60 then none
  match t with
  | p :: d :: rest =>
    if (p = Text.byte '.' || p = Text.byte ',') && Text.isDigit d then return rest.dropWhile Text.isDigit
    else return t
  | _ => return t

/-- Reads a time zone: `Z`, or a signed offset. -/
def zone? (t : Text) : Option Text :=
  match t with
  | [] => none
  | z :: rest =>
    if z = Text.byte 'Z' then some rest
    else if z = Text.byte '+' || z = Text.byte '-' then do
      let (hour, t) ← twoDigits? rest
      let t ← skip? ':' t
      let (minute, t) ← twoDigits? t
      if hour > 24 || minute > 60 then none else return t
    else none

/-- Whether the text is a timestamp. -/
def accepts (t : Text) : Bool :=
  match date? t with
  | none => false
  | some [] => true
  | some (b :: rest) =>
    if b = Text.byte 'T' || b = Text.byte 't' then
      ((clock? rest).bind zone?).any (·.isEmpty)
    else if b = Text.byte ' ' then (clock? (rest.dropWhile (· == Text.byte ' '))).any (·.isEmpty)
    else false

end HouseStyle.Yaml.Timestamp
