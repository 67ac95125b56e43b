import RobotCell.Text.Extending
import RobotCell.Text.Unprintable

/-!
# Text as shown in messages

Messages quote a piece of the input between double quotes. Characters that would break the line or
that cannot be seen are written as escapes, everything else stands for itself.

## Main definitions

- `shownChar` — one character of a quoted piece
- `shown` — a text between double quotes
-/

namespace RobotCell.Text

/-- The code point in lower-case hexadecimal digits between `\u{` and `}`. -/
def codeEscape (c : Char) : String :=
  "\\u\x7b" ++ String.ofList (Nat.toDigits 16 c.toNat) ++ "\x7d"

/-- A character as it stands between the quotes. -/
def shownChar (c : Char) : String :=
  if c = '\x00' then "\\0"
  else if c = '\t' then "\\t"
  else if c = '\r' then "\\r"
  else if c = '\n' then "\\n"
  else if c = '\\' then "\\\\"
  else if c = '"' then "\\\""
  else if isExtending c || isUnprintable c then codeEscape c
  else String.singleton c

/-- A text between double quotes, with escapes for what cannot be seen. -/
def shown (s : String) : String :=
  "\"" ++ String.join (s.toList.map shownChar) ++ "\""

end RobotCell.Text
