/-!
# Places in a source text

A place is a line and a column, both counted from one. Lines end at a newline character, and every
other character takes up one column.

## Main definitions

- `Place` — a line and a column
- `Place.after` — the place reached by passing over some characters
-/

namespace RobotCell.Script

/-- A line and a column of a source text. -/
structure Place where
  line : Nat
  column : Nat
  deriving DecidableEq

namespace Place

/-- The place of the first character. -/
def start : Place := ⟨1, 1⟩

/-- The place that stands for no character at all. -/
def nowhere : Place := ⟨0, 0⟩

/-- The place behind one character. -/
def step (p : Place) (c : Char) : Place :=
  if c = '\n' then ⟨p.line + 1, 1⟩ else ⟨p.line, p.column + 1⟩

/-- The place behind the given characters. -/
def after (p : Place) (cs : List Char) : Place :=
  cs.foldl step p

end Place

end RobotCell.Script
