import RobotCell.Json.Value

/-!
# Records in JSON

A record is written as an object with a member for each field, or as an array of its fields in
order. Members that belong to no field are passed over, fields at the end of an array may be left
out, and a field must not be given twice.

## Main definitions

- `Json.fields` — the fields of a record that are given
- `Json.required`, `Json.withDefault` — a field that must be there, and one that may be left out
-/

namespace RobotCell.Json

/-- The member with the given name, if it is there; nothing if it is there twice. -/
def member (members : List (String × Json)) (name : String) : Option (Option Json) :=
  match members.filter fun m => m.1 == name with
  | [] => some none
  | [(_, value)] => some (some value)
  | _ => none

/-- The fields of a record, each with its value if it is given. -/
def fields (names : List String) : Json → Option (List (Option Json))
  | .object members => names.mapM (member members)
  | .array items =>
    if items.length ≤ names.length then
      some (items.map some ++ List.replicate (names.length - items.length) none)
    else none
  | _ => none

/-- A field that must be given. -/
def required {α : Type} (read : Json → Option α) : Option Json → Option α
  | some value => read value
  | none => none

/-- A field that has a value of its own if it is left out. -/
def withDefault {α : Type} (preset : α) (read : Json → Option α) : Option Json → Option α
  | some value => read value
  | none => some preset

/-- The value as a text. -/
def toText? : Json → Option String
  | .string s => some s
  | _ => none

/-- The value as a truth value. -/
def toBool? : Json → Option Bool
  | .bool b => some b
  | _ => none

/-- The value as a list. -/
def toList? {α : Type} (read : Json → Option α) : Json → Option (List α)
  | .array items => items.mapM read
  | _ => none

/-- The value as something that may be absent, which is written as `null`. -/
def toOption? {α : Type} (read : Json → Option α) : Json → Option (Option α)
  | .null => some none
  | value => (read value).map some

end RobotCell.Json
