/-!
# Intervals of code points

The character classes of the library are data of the Unicode standard. Each class is a list of
closed intervals of code points, and membership is a look-up in that list.

## Main definitions

- `CodeRange` — a closed interval of code points
- `within` — membership of a character in a list of intervals
-/

namespace RobotCell.Text

/-- A closed interval of code points, given by its two ends. -/
abbrev CodeRange := Nat × Nat

/-- The character's code point lies in one of the intervals. -/
def within (ranges : List CodeRange) (c : Char) : Bool :=
  ranges.any fun r => r.1 ≤ c.toNat && c.toNat ≤ r.2

end RobotCell.Text
