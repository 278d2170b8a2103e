import HouseStyle.Text.Number
import HouseStyle.Yaml.Timestamp

/-!
# Plain scalars

What a YAML reader makes of a scalar without quotes: a text like `no`, `1_000` or `2024-01-02` is not a string to every
reader.
-/

namespace HouseStyle.Yaml

/-- The value of a plain scalar. -/
inductive Plain where
  | null
  | bool (b : Bool)
  | int (n : Int)
  | float (d : Number.Decimal)
  | special
  | timestamp
  | string

namespace Plain

/-- The words with a meaning of their own. -/
def named? (t : Text) : Option Plain :=
  let oneOf (words : List Text) : Bool := words.contains t
  if oneOf ["true", "True", "TRUE"] then some (.bool true)
  else if oneOf ["false", "False", "FALSE"] then some (.bool false)
  else if oneOf ["", "~", "null", "Null", "NULL"] then some .null
  else if oneOf [".nan", ".NaN", ".NAN", ".inf", ".Inf", ".INF"] then some .special
  else if oneOf ["+.inf", "+.Inf", "+.INF", "-.inf", "-.Inf", "-.INF"] then some .special
  else none

/-- Reads an integer of sixty-four bits, signed or not. -/
def integer? (t : Text) : Option Int :=
  match Number.parseInt t with
  | .ok n => some n
  | .error _ =>
    match Number.parseNat t with
    | .ok n => some n
    | .error _ => none

/-- Reads an integer whose sign stands behind the prefix of its base, as in `0o-17`. -/
def signedDigits? (t : Text) : Option Int :=
  let read (base : Nat) : Text → Option Int
    | sign :: digits =>
      if digits.isEmpty || Text.has digits '_' then none
      else
        match Number.readDigits base 0 digits with
        | .ok n =>
          if sign = Text.byte '-' && n ≤ wordBound then some (-n)
          else if sign = Text.byte '+' && n < wordBound then some n
          else none
        | .error _ => none
    | [] => none
  ((t.afterPrefix? "0b").bind (read 2)).or ((t.afterPrefix? "0o").bind (read 8))

/-- Reads a finite decimal fraction. -/
def fraction? (t : Text) : Option Number.Decimal :=
  (Number.parseDecimal? t).bind fun d => if d.isFinite then some d else none

/-- The value of a plain scalar. -/
def ofText (t : Text) : Plain :=
  match named? t with
  | some p => p
  | none =>
    match t with
    | [] => .null
    | b :: _ =>
      if b = Text.byte '.' then
        let digits := if Number.underscoresOk false .start t then t.filter (· != Text.byte '_') else t
        match fraction? digits with
        | some d => .float d
        | none => .string
      else if Text.isDigit b || b = Text.byte '+' || b = Text.byte '-' then
        if Timestamp.accepts t then .timestamp
        else
          let digits := t.filter (· != Text.byte '_')
          match integer? digits with
          | some n => .int n
          | none =>
            match fraction? digits with
            | some d => .float d
            | none => (signedDigits? digits).elim .string .int
      else .string

/-- Whether the text is a string to the reader. -/
def isString (t : Text) : Bool :=
  match ofText t with
  | .string => true
  | _ => false

end Plain

/-- The words that older readers take for a truth value. -/
def isOldBool (t : Text) : Bool :=
  (["y", "Y", "yes", "Yes", "YES", "on", "On", "ON", "n", "N", "no", "No", "NO", "off", "Off", "OFF"] :
    List Text).contains t

/-- A colon-separated part of a number in base sixty: at most two digits, below sixty. -/
def isSexagesimal (t : Text) : Bool :=
  t.all Text.isDigit && (t.length == 1 || (t.length == 2 && Text.digitsValue t < 60))

/-- Whether older readers take the text for a number in base sixty, such as `12:30:45`. -/
def isBase60 (t : Text) : Bool :=
  let unsigned : Text := match t with
    | b :: rest => if b = Text.byte '+' || b = Text.byte '-' then rest else t
    | [] => t
  match unsigned.pieces ':' with
  | first :: rest =>
    match rest.getLast? with
    | none => false
    | some last =>
      let (whole, fraction) := last.span (· != Text.byte '.')
      let isRun (b : UInt8) : Bool := Text.isDigit b || b == Text.byte '_'
      first.head?.any Text.isDigit && first.all isRun && rest.dropLast.all isSexagesimal && isSexagesimal whole &&
        (fraction.drop 1).all isRun
  | [] => false

end HouseStyle.Yaml
