import RobotCell.Text.Cased
import RobotCell.Text.CaseMapping

/-!
# Lower case of a text

A capital sigma becomes the final form when it ends a word: a cased character comes before it and
none after it, with case-ignorable characters passed over on both sides. Every other character is
mapped on its own.

## Main definitions

- `lower` — the lower-case form of a text
-/

namespace RobotCell.Text

/-- The first character that is not case-ignorable has a case. -/
def casedAhead (cs : List Char) : Bool :=
  match cs.dropWhile isCaseIgnorable with
  | c :: _ => isCased c
  | [] => false

/-- The lower-case form of a character between the characters `before` (nearest first) and
`after`. -/
def lowerBetween (before : List Char) (c : Char) (after : List Char) : List Char :=
  if c = 'Σ' then
    [if casedAhead before && !casedAhead after then 'ς' else 'σ']
  else
    lowerChar c

/-- The lower-case form of the characters that follow `before` (nearest first). -/
def lowerAfter (before : List Char) : List Char → List Char
  | [] => []
  | c :: rest => lowerBetween before c rest ++ lowerAfter (c :: before) rest

/-- The lower-case form of a list of characters. -/
def lowerChars (cs : List Char) : List Char :=
  lowerAfter [] cs

/-- The lower-case form of a text. -/
def lower (s : String) : String :=
  String.ofList (lowerChars s.toList)

end RobotCell.Text
