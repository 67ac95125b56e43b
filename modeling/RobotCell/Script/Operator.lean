/-!
# Operators of the script language

The operators of expressions, each with the symbol or words it is written with.

## Main definitions

- `BinaryOp`, `UnaryOp`, `LogicOp`, `CompareOp` — the four families of operators
- `BinaryOp.symbol`, `CompareOp.symbol` — how an operator is written
-/

namespace RobotCell.Script

/-- Operators between two operands, which also have an augmented assignment. -/
inductive BinaryOp where
  | add | sub | mult | matMult | div | floorDiv | mod | pow
  | leftShift | rightShift | bitOr | bitXor | bitAnd
  deriving DecidableEq

/-- Operators in front of one operand. -/
inductive UnaryOp where
  | not | neg | pos | invert
  deriving DecidableEq

/-- Operators that join two or more conditions. -/
inductive LogicOp where
  | and | or
  deriving DecidableEq

/-- Operators of comparison chains. -/
inductive CompareOp where
  | eq | notEq | lt | ltE | gt | gtE | is | isNot | mem | notMem
  deriving DecidableEq

/-- The symbol between the two operands. -/
def BinaryOp.symbol : BinaryOp → String
  | .add => "+"
  | .sub => "-"
  | .mult => "*"
  | .matMult => "@"
  | .div => "/"
  | .floorDiv => "//"
  | .mod => "%"
  | .pow => "**"
  | .leftShift => "<<"
  | .rightShift => ">>"
  | .bitOr => "|"
  | .bitXor => "^"
  | .bitAnd => "&"

/-- The symbol or the words between the two sides of a comparison. -/
def CompareOp.symbol : CompareOp → String
  | .eq => "=="
  | .notEq => "!="
  | .lt => "<"
  | .ltE => "<="
  | .gt => ">"
  | .gtE => ">="
  | .is => "is"
  | .isNot => "is not"
  | .mem => "in"
  | .notMem => "not in"

/-- The name of the operator in messages. -/
def BinaryOp.label : BinaryOp → String
  | .add => "Add"
  | .sub => "Sub"
  | .mult => "Mult"
  | .matMult => "MatMult"
  | .div => "Div"
  | .floorDiv => "FloorDiv"
  | .mod => "Mod"
  | .pow => "Pow"
  | .leftShift => "LShift"
  | .rightShift => "RShift"
  | .bitOr => "BitOr"
  | .bitXor => "BitXor"
  | .bitAnd => "BitAnd"

end RobotCell.Script
