import RobotCell.Text.CodeRange

/-!
# White space and trimming

Characters with the property `White_Space`, and the removal of such characters from the two ends of
a text.

## Main definitions

- `isBlank` — the character is white space of some kind
- `trim`, `trimEnd` — a text without its outer white space
-/

namespace RobotCell.Text

/-- Intervals of the characters with the property `White_Space`. -/
def blankRanges : List CodeRange :=
  [(0x9, 0xD), (0x20, 0x20), (0x85, 0x85), (0xA0, 0xA0), (0x1680, 0x1680), (0x2000, 0x200A),
   (0x2028, 0x2029), (0x202F, 0x202F), (0x205F, 0x205F), (0x3000, 0x3000)]

/-- The character has the property `White_Space`. -/
def isBlank (c : Char) : Bool :=
  within blankRanges c

/-- The characters up to the last one that is not blank. -/
def dropBlankEnd (cs : List Char) : List Char :=
  (cs.reverse.dropWhile isBlank).reverse

/-- The text without white space at its end. -/
def trimEnd (s : String) : String :=
  String.ofList (dropBlankEnd s.toList)

/-- The text without white space at its start and its end. -/
def trim (s : String) : String :=
  String.ofList (dropBlankEnd (s.toList.dropWhile isBlank))

end RobotCell.Text
