import RobotCell.Json.Value
import RobotCell.Text.Join

/-!
# Writing JSON

Documents are written with one item or member on a line, each level indented by two spaces. Empty
arrays and objects take no lines of their own. Only quotes, backslashes and control characters are
escaped.

## Main definitions

- `Json.quote` — a string between quotes
- `Json.render` — a value over several lines
-/

namespace RobotCell.Json

/-- A code point below 256 as four hexadecimal digits. -/
def unitDigits (n : Nat) : String :=
  "00" ++ String.ofList [Nat.digitChar (n / 16), Nat.digitChar (n % 16)]

/-- A character of a string. -/
def quotedChar (c : Char) : String :=
  if c = '"' then "\\\""
  else if c = '\\' then "\\\\"
  else if c = '\x08' then "\\b"
  else if c = '\x0c' then "\\f"
  else if c = '\n' then "\\n"
  else if c = '\r' then "\\r"
  else if c = '\t' then "\\t"
  else if c.toNat < 0x20 then "\\u" ++ unitDigits c.toNat
  else String.singleton c

/-- A string between quotes. -/
def quote (s : String) : String :=
  "\"" ++ String.join (s.toList.map quotedChar) ++ "\""

/-- The start of a line at the given level. -/
def indentation (level : Nat) : String :=
  String.ofList (List.replicate (2 * level) ' ')

/-- Lines between brackets: each on the next level, and the closing bracket on its own line. -/
def bracketed (left right : String) (level : Nat) (lines : List String) : String :=
  if lines.isEmpty then left ++ right
  else
    left ++ "\n" ++ Text.joinWith ",\n" (lines.map fun l => indentation (level + 1) ++ l) ++ "\n" ++
      indentation level ++ right

mutual

/-- The text of a value that starts on a line at the given level. -/
def renderAt (level : Nat) : Json → String
  | .null => "null"
  | .bool true => "true"
  | .bool false => "false"
  | .number n => n.text
  | .string s => quote s
  | .array items => bracketed "[" "]" level (renderItems (level + 1) items)
  | .object members => bracketed "\x7b" "\x7d" level (renderMembers (level + 1) members)
  | .invalid => "null"

/-- The texts of the items of an array. -/
def renderItems (level : Nat) : List Json → List String
  | [] => []
  | item :: rest => renderAt level item :: renderItems level rest

/-- The texts of the members of an object. -/
def renderMembers (level : Nat) : List (String × Json) → List String
  | [] => []
  | (name, value) :: rest =>
    (quote name ++ ": " ++ renderAt level value) :: renderMembers level rest

end

/-- The text of a document. -/
def render (value : Json) : String :=
  renderAt 0 value

end RobotCell.Json
