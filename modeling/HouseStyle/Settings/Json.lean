import HouseStyle.Json.Reader
import HouseStyle.Settings.Value

/-!
# Settings in JSON

A JSON value as the value of a setting, and the members of a JSON document.
-/

namespace HouseStyle.Value

mutual

/-- The value that a JSON value stands for. -/
def ofJson : Json → Value
  | .null => .null
  | .bool b => .bool b
  | .number m e => ((Json.number m e).int?).elim (.fraction ⟨m, e⟩) .int
  | .string t => .text t
  | .array items => .list (ofJsonItems items)
  | .object members => .table (ofJsonMembers members)

/-- The values that the items of an array stand for. -/
def ofJsonItems : List Json → List Value
  | [] => []
  | j :: rest => ofJson j :: ofJsonItems rest

/-- The values that the members of an object stand for. -/
def ofJsonMembers : List (Text × Json) → List (Text × Value)
  | [] => []
  | (name, j) :: rest => (name, ofJson j) :: ofJsonMembers rest

end

/-- The members of a JSON document, which is an object or null. -/
def readJson? (t : Text) : Option (List (Text × Value)) :=
  match Json.parse? t with
  | some (.object members) => some (ofJsonMembers members)
  | some .null => some []
  | _ => none

end HouseStyle.Value
