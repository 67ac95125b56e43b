import RobotCell.Script.Tree

/-!
# Binding strength of expressions

Every form of expression has a level: the greater it is, the tighter the parts of the expression
hold together. An expression may stand without parentheses wherever its level is not below the one
that the place asks for.

## Main definitions

- `Level.test`, `Level.bitOr`, … — the levels by name
- `BinaryOp.level` — the level of an operation
- `Expr.level` — the level of an expression
-/

namespace RobotCell.Script

namespace Level

/-- Assignments inside an expression. -/
def named : Nat := 0

/-- Functions without a name. -/
def test : Nat := 1

/-- Choices between two expressions. -/
def conditional : Nat := 2

/-- Alternatives of conditions. -/
def disjunction : Nat := 3

/-- Conditions that hold together. -/
def conjunction : Nat := 4

/-- Negated conditions. -/
def negation : Nat := 5

/-- Comparison chains. -/
def comparison : Nat := 6

/-- Unions of bits. -/
def bitOr : Nat := 7

/-- Differences of bits. -/
def bitXor : Nat := 8

/-- Intersections of bits. -/
def bitAnd : Nat := 9

/-- Shifts. -/
def shift : Nat := 10

/-- Sums. -/
def sum : Nat := 11

/-- Products. -/
def product : Nat := 12

/-- Operators in front of one operand. -/
def unary : Nat := 13

/-- Powers. -/
def power : Nat := 14

/-- Awaited values. -/
def await : Nat := 15

/-- Attributes, subscripts and calls. -/
def primary : Nat := 16

/-- Names, constants and everything between brackets. -/
def atom : Nat := 17

end Level

/-- The level of an operation. -/
def BinaryOp.level : BinaryOp → Nat
  | .bitOr => Level.bitOr
  | .bitXor => Level.bitXor
  | .bitAnd => Level.bitAnd
  | .leftShift | .rightShift => Level.shift
  | .add | .sub => Level.sum
  | .mult | .matMult | .div | .floorDiv | .mod => Level.product
  | .pow => Level.power

/-- The level of an operator in front of one operand. -/
def UnaryOp.level : UnaryOp → Nat
  | .not => Level.negation
  | .neg | .pos | .invert => Level.unary

/-- The level of a combination of conditions. -/
def LogicOp.level : LogicOp → Nat
  | .and => Level.conjunction
  | .or => Level.disjunction

/-- The level of an expression. -/
def Expr.level : Expr → Nat
  | .named .. => Level.named
  | .lambda .. => Level.test
  | .conditional .. => Level.conditional
  | .logic op _ => op.level
  | .unary op _ => op.level
  | .compare .. => Level.comparison
  | .starred _ => Level.bitOr
  | .binary _ op _ => op.level
  | .await _ => Level.await
  | .attribute .. | .subscript .. | .call .. => Level.primary
  | _ => Level.atom

end RobotCell.Script
