import HouseStyle.Text.Blank
import HouseStyle.Text.Number

/-!
# Values of settings

A setting may come from a command line, the environment or one of several file formats, so its value is first of all
just a value, and the program reads it as a text, a number or a list of texts. The reading is lenient: a number written
as a text is a number, and a text is a list of its words.
-/

namespace HouseStyle

/-- The value of a setting. -/
inductive Value where
  | null
  | bool (b : Bool)
  | int (n : Int)
  | fraction (d : Number.Decimal)
  | text (t : Text)
  | list (items : List Value)
  | table (members : List (Text × Value))

namespace Value

/-! ## Texts -/

/-- A decimal number in positional notation, without zeros at the end of its fraction. -/
def fractionText (d : Number.Decimal) : Text :=
  let sign : Text := if d.mantissa < 0 then "-" else []
  let digits := Text.ofNat d.mantissa.natAbs
  if d.exponent ≥ 0 then
    sign ++ if d.mantissa = 0 then digits else digits ++ List.replicate d.exponent.toNat (Text.byte '0')
  else
    let places := (-d.exponent).toNat
    let digits := List.replicate (places + 1 - digits.length) (Text.byte '0') ++ digits
    let whole := digits.take (digits.length - places)
    let part := ((digits.drop (digits.length - places)).reverse.dropWhile (· == Text.byte '0')).reverse
    sign ++ whole ++ if part.isEmpty then [] else Text.byte '.' :: part

/-- The text of a plain value; a list or a table has none. -/
def text? : Value → Option Text
  | .null => some []
  | .bool b => some (if b then "true" else "false")
  | .int n => some (Text.ofInt n)
  | .fraction d => some (fractionText d)
  | .text t => some t
  | .list _ | .table _ => none

/-- The value as a text. -/
def toText (v : Value) : Text := v.text?.getD []

/-- The value as a list of texts: the words of a text, the items of a list, any other plain value alone. -/
def toTexts : Value → List Text
  | .null => []
  | .text t => t.words
  | .list items => items.map toText
  | v => v.text?.toList

/-! ## Numbers -/

/-- The text without a fraction of zeros. -/
def trimZeroFraction (t : Text) : Text :=
  let rest := t.reverse.dropWhile (· == Text.byte '0')
  match rest with
  | b :: whole => if b = Text.byte '.' && rest.length < t.length then whole.reverse else t
  | [] => t

/-- The value as a number; what is no number counts as zero. -/
def toInt : Value → Int
  | .bool b => if b then 1 else 0
  | .int n => n
  | .fraction d => d.toWord
  | .text t => ((Number.parseInt (trimZeroFraction t)).toOption).getD 0
  | .null | .list _ | .table _ => 0

mutual

/-- The value as error messages show it. -/
def display : Value → Text
  | .null => "<nil>"
  | .bool b => if b then "true" else "false"
  | .int n => Text.ofInt n
  | .fraction d => fractionText d
  | .text t => t
  | .list items => "[" ++ displayItems items ++ "]"
  | .table members => "map[" ++ displayMembers members ++ "]"

/-- The items of a list, with spaces between them. -/
def displayItems : List Value → Text
  | [] => []
  | [v] => display v
  | v :: rest => display v ++ " " ++ displayItems rest

/-- The members of a table, with spaces between them. -/
def displayMembers : List (Text × Value) → Text
  | [] => []
  | [(name, v)] => name ++ ":" ++ display v
  | (name, v) :: rest => name ++ ":" ++ display v ++ " " ++ displayMembers rest

end

/-- What is said about a value that cannot be a limit. -/
def limitError (name : Text) : Value → Text
  | .text t =>
    match Number.parseInt t with
    | .error e => "cannot parse '" ++ name ++ "' as int: " ++ Number.errorMessage t e
    | .ok _ => []
  | .list items =>
    "'" ++ name ++ "' expected type 'int', got unconvertible type '[]interface \x7b\x7d', value: '" ++
      display (.list items) ++ "'"
  | v =>
    "'" ++ name ++ "' expected type 'int', got unconvertible type 'map[string]interface \x7b\x7d', value: '" ++
      display v ++ "'"

/-- The value as a limit, or what is said about it. A limit is read more strictly than other numbers: a text must be a
number, of which the empty text is zero. -/
def toLimit (name : Text) (v : Value) : Except Text Int :=
  match v with
  | .bool b => .ok (if b then 1 else 0)
  | .int n => .ok n
  | .fraction d => .ok (d.toWord)
  | .text t =>
    if t.isEmpty then .ok 0
    else
      match Number.parseInt t with
      | .ok n => .ok n
      | .error _ => .error (limitError name v)
  | _ => .error (limitError name v)

end Value

end HouseStyle
