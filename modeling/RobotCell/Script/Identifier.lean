import RobotCell.Script.Keyword
import RobotCell.Text.Alphabetic
import RobotCell.Text.Numeric

/-!
# Identifiers

An identifier starts with a letter or an underscore, goes on with letters, numbers and underscores,
and is not a keyword.

## Main definitions

- `isNameStart`, `isNameChar` — the characters of identifiers
- `isIdentifier` — the words that may name something
-/

namespace RobotCell.Script

/-- The character is a letter or a number of some script. -/
def isAlphanumeric (c : Char) : Bool :=
  Text.isAlphabetic c || Text.isNumeric c

/-- The character may start a word. -/
def isNameStart (c : Char) : Bool :=
  c == '_' || Text.isAlphabetic c

/-- The character may continue a word. -/
def isNameChar (c : Char) : Bool :=
  c == '_' || isAlphanumeric c

/-- The characters form a word, reserved or not. -/
def isWord : List Char → Bool
  | [] => false
  | c :: rest => isNameStart c && rest.all isNameChar

/-- The word is reserved. -/
def isKeyword (word : String) : Bool :=
  (Keyword.ofSpelling? word).isSome

/-- The word may name something: it is well formed and not reserved. -/
def isIdentifier (word : String) : Bool :=
  isWord word.toList && !isKeyword word

end RobotCell.Script
