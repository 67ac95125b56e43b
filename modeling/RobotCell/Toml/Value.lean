import RobotCell.Named
import RobotCell.Toml.Scalar

/-!
# Values

## Main definitions

- `Toml.Value` — strings, arrays and tables; all other values count as plain
- `Toml.value` — the reader of values
- `Toml.key` — the reader of keys
- `Toml.ofPairs` — the table with the given keys and values
-/

namespace RobotCell.Toml

open Reader

/-- A value. -/
inductive Value where
  | text (s : String)
  | array (items : List Value)
  | table (members : List (String × Value))
  /-- A number, a truth value or a time. -/
  | plain

/-- How deep values may be nested, and how long keys may be. -/
def maxDepth : Nat := 79

/-! ### Keys -/

/-- A part of a key. -/
def simpleKey : Reader String :=
  basicString <|> literalString <|> (do
    let isBare (c : Char) : Bool := c.isAlphanum || c == '-' || c == '_'
    let first ← satisfy isBare
    let rest ← takeWhile isBare
    return String.ofList (first :: rest))

/-- A key: one part or more, with points between them. -/
def key : Reader (List String) := do
  let parts ← separated '.' (do
    gap
    let part ← simpleKey
    gap
    return part)
  if parts.length ≤ maxDepth then return parts else failure

/-! ### Tables within a line -/

/-- A table that is being written: some of its tables come from keys with several parts. -/
inductive Entry where
  | value (v : Value)
  | dotted (members : List (String × Entry))

/-- The members with a new value under a key. Each part of the key but the last names a table that
comes from keys with several parts, and the last part is new. -/
def addPair (v : Value) : List String → List (String × Entry) → Option (List (String × Entry))
  | [], _ => none
  | [name], members =>
    if (members.lookup name).isNone then some (members ++ [(name, .value v)]) else none
  | name :: rest, members =>
    match members.lookup name with
    | none => (addPair v rest []).map fun inner => members ++ [(name, .dotted inner)]
    | some (.dotted inner) =>
      (addPair v rest inner).map fun inner => putNamed name (.dotted inner) members
    | some (.value _) => none

mutual

/-- The value that is written. -/
def Entry.toValue : Entry → Value
  | .value v => v
  | .dotted members => .table (membersToValues members)

/-- The values that are written. -/
def membersToValues : List (String × Entry) → List (String × Value)
  | [] => []
  | (name, e) :: rest => (name, e.toValue) :: membersToValues rest

end

/-- The table with the given keys and values. -/
def ofPairs (pairs : List (List String × Value)) : Option Value :=
  (pairs.foldlM (fun members (path, v) => addPair v path members) []).map fun members =>
    .table (membersToValues members)

/-! ### Values -/

/-- Blanks, comments and newlines within an array. -/
def space : Reader Unit := do
  gap
  let _ ← many (do
    let _ ← optionally comment
    let _ ← newline
    gap)

/-- Values between brackets, with commas between them. -/
def arrayOf (item : Reader Value) : Reader Value := do
  let _ ← char '['
  let spaced : Reader Value := do
    space
    let v ← item
    space
    return v
  let items ← optionally (separated ',' spaced)
  if items.isSome then
    let _ ← optionally (char ',')
  space
  let _ ← char ']'
  return .array (items.getD [])

/-- A key and its value. -/
def pairOf (item : Reader Value) : Reader (List String × Value) := do
  let path ← key
  let _ ← char '='
  gap
  let v ← item
  return (path, v)

/-- Keys and values between braces, with commas between them. -/
def tableOf (item : Reader Value) : Reader Value := do
  let _ ← char '{'
  let pairs ← optionally (separated ',' (do
    let pair ← pairOf item
    gap
    return pair))
  gap
  let _ ← char '}'
  match ofPairs (pairs.getD []) with
  | some v => return v
  | none => failure

/-- A number, a truth value or a time. -/
def plainValue : Reader Value := do
  time <|> number <|> word ['t', 'r', 'u', 'e'] <|> word ['f', 'a', 'l', 's', 'e']
  return .plain

/-- A value that holds values nested up to the given depth. -/
def valueUpTo : Nat → Reader Value
  | 0 => (.text <$> text) <|> plainValue
  | depth + 1 =>
    (.text <$> text) <|> plainValue <|> arrayOf (valueUpTo depth) <|> tableOf (valueUpTo depth)

/-- A value. -/
def value : Reader Value :=
  valueUpTo maxDepth

end RobotCell.Toml
