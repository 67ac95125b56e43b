import RobotCell.Json.Number

/-!
# JSON documents

The values of JSON. The members of an object are kept in the order in which they are written, and a
name may occur more than once. A literal that is well formed but stands for nothing (a number that
is too large, a string with half of a surrogate pair) makes the value `invalid`, which is accepted
only where the value is not looked at. The same holds for a value that is nested too deep.

## Main definitions

- `Json` — the values
- `Json.bounded` — a value without what is nested too deep
- `Json.settle` — a value with the members of its objects sorted and made unique
-/

namespace RobotCell

/-- A JSON value. -/
inductive Json where
  | null
  | bool (value : Bool)
  | number (value : Json.Number)
  | string (value : String)
  | array (items : List Json)
  | object (members : List (String × Json))
  | invalid

namespace Json

/-- The order of names by code points. -/
def nameLE (a b : String × Json) : Bool :=
  !(decide (b.1 < a.1))

/-- The members with unique names, where the last member with a name counts, sorted by name. -/
def sortMembers (members : List (String × Json)) : List (String × Json) :=
  let unique := members.reverse.foldl
    (fun kept m => if kept.any (·.1 == m.1) then kept else m :: kept) []
  unique.mergeSort nameLE

mutual

/-- The value with arrays and objects nested up to `depth` deep. Those nested deeper are invalid. -/
def bounded (depth : Nat) : Json → Json
  | .null => .null
  | .bool b => .bool b
  | .number n => .number n
  | .string s => .string s
  | .array items => if depth = 0 then .invalid else .array (boundedItems (depth - 1) items)
  | .object members =>
    if depth = 0 then .invalid else .object (boundedMembers (depth - 1) members)
  | .invalid => .invalid

/-- The items of an array nested up to `depth` deep. -/
def boundedItems (depth : Nat) : List Json → List Json
  | [] => []
  | item :: rest => bounded depth item :: boundedItems depth rest

/-- The members of an object nested up to `depth` deep. -/
def boundedMembers (depth : Nat) : List (String × Json) → List (String × Json)
  | [] => []
  | (name, value) :: rest => (name, bounded depth value) :: boundedMembers depth rest

end

mutual

/-- The value as free data: the members of every object sorted and unique. There is none if a part
is invalid. -/
def settle : Json → Option Json
  | .null => some .null
  | .bool b => some (.bool b)
  | .number n => some (.number n)
  | .string s => some (.string s)
  | .array items => (settleItems items).map .array
  | .object members =>
    (settleMembers members).map fun members => .object (sortMembers members)
  | .invalid => none

/-- The items of an array as free data. -/
def settleItems : List Json → Option (List Json)
  | [] => some []
  | item :: rest =>
    match settle item, settleItems rest with
    | some item, some rest => some (item :: rest)
    | _, _ => none

/-- The members of an object as free data. -/
def settleMembers : List (String × Json) → Option (List (String × Json))
  | [] => some []
  | (name, value) :: rest =>
    match settle value, settleMembers rest with
    | some value, some rest => some ((name, value) :: rest)
    | _, _ => none

end

end Json

end RobotCell
