import RobotCell.Script.Level
import RobotCell.Script.Literal
import RobotCell.Text.Join

/-!
# The text of expressions

Expressions are written on one line, with the fewest parentheses that their levels allow and with
strings between single quotes where possible. Every tree has a text; whether the text is a script is
another question.

## Main definitions

- `Expr.text` — the text of an expression without outer parentheses
- `Expr.textAt` — the text in a place that asks for a level
- `Expr.bareText` — the text as a statement or on the right of an assignment
-/

namespace RobotCell.Script

open RobotCell.Text (joinWith)

/-- The text of a constant. -/
def Constant.text : Constant → String
  | .none => "None"
  | .bool true => "True"
  | .bool false => "False"
  | .int text | .float text | .verbatim text => text
  | .str s => Literal.quote s
  | .ellipsis => "..."

/-- The sign or word in front of an operand. -/
def UnaryOp.lead : UnaryOp → String
  | .not => "not "
  | .neg => "-"
  | .pos => "+"
  | .invert => "~"

/-- The word between conditions. -/
def LogicOp.word : LogicOp → String
  | .and => " and "
  | .or => " or "

/-- The level that a power or another operation asks of its left operand. -/
def BinaryOp.leftLevel (op : BinaryOp) : Nat :=
  if op = .pow then op.level + 1 else op.level

/-- The level that a power or another operation asks of its right operand. -/
def BinaryOp.rightLevel (op : BinaryOp) : Nat :=
  if op = .pow then Level.unary else op.level + 1

/-- The brackets around a comprehension. -/
def ComprehensionKind.wrap (kind : ComprehensionKind) (inner : String) : String :=
  match kind with
  | .list => "[" ++ inner ++ "]"
  | .set => "\x7b" ++ inner ++ "\x7d"
  | .generator => "(" ++ inner ++ ")"

/-- The stars in front of a parameter. -/
def ParamKind.stars : ParamKind → String
  | .varArgs => "*"
  | .varKeywords => "**"
  | .positional | .keywordOnly => ""

/-- The text of the expression `e`, with parentheses around it if its level is below `least`. -/
def parenthesize (least : Nat) (e : Expr) (text : String) : String :=
  if e.level < least then "(" ++ text ++ ")" else text

/-- Items separated by commas, with a comma after a single one. -/
def tupleText : List String → String
  | [] => "()"
  | [item] => item ++ ","
  | items => joinWith ", " items

/-- A parameter with the texts of its annotation and default value. -/
def paramText (name : String) (kind : ParamKind) (hint preset : Option String) : String :=
  kind.stars ++ name ++ (hint.elim "" fun a => ": " ++ a) ++
    preset.elim "" fun d => (if hint.isSome then " = " else "=") ++ d

/-- The lone star that goes before the first keyword-only parameter if no other star does. -/
def loneStar (starSeen : Bool) (kind : ParamKind) : List String :=
  if kind = .keywordOnly && !starSeen then ["*"] else []

/-- Parameters after this one come after a star. -/
def starAfter (starSeen : Bool) (kind : ParamKind) : Bool :=
  starSeen || kind = .varArgs || kind = .keywordOnly

/-- A keyword argument with the text of its value. -/
def argumentText (name : Option String) (value : String) : String :=
  match name with
  | some name => name ++ "=" ++ value
  | none => "**" ++ value

/-- The level that a keyword argument asks of its value. -/
def argumentLevel (name : Option String) : Nat :=
  if name.isSome then Level.test else Level.bitOr

/-- Operators of a comparison with the texts of the operands after them. -/
def comparisonText : List CompareOp → List String → String
  | op :: ops, operand :: operands =>
    " " ++ op.symbol ++ " " ++ operand ++ comparisonText ops operands
  | _, _ => ""

/-- A slice with the texts of its bounds and its step. -/
def sliceText (lower upper step : Option String) : String :=
  lower.getD "" ++ ":" ++ upper.getD "" ++ step.elim "" fun s => ":" ++ s

mutual

/-- The text of an expression, without parentheses around it. -/
def Expr.text : Expr → String
  | .name id => id
  | .constant c => c.text
  | .attribute value attr => parenthesize Level.primary value value.text ++ "." ++ attr
  | .subscript value index =>
    parenthesize Level.primary value value.text ++ "[" ++
      (match index with
        | .tuple (item :: items) => joinWith ", " (textsAt Level.test (item :: items))
        | index => parenthesize Level.test index index.text) ++ "]"
  | .slice lower upper step => sliceText (optionText lower) (optionText upper) (optionText step)
  | .call func args keywords =>
    parenthesize Level.primary func func.text ++ "(" ++
      joinWith ", " (textsAt Level.test args ++ argumentTexts keywords) ++ ")"
  | .starred value => "*" ++ parenthesize Level.bitOr value value.text
  | .list items => "[" ++ joinWith ", " (textsAt Level.test items) ++ "]"
  | .tuple [] => "()"
  | .tuple (item :: items) => "(" ++ tupleText (textsAt Level.test (item :: items)) ++ ")"
  | .set [] => "set()"
  | .set (item :: items) =>
    "\x7b" ++ joinWith ", " (textsAt Level.test (item :: items)) ++ "\x7d"
  | .dict entries => "\x7b" ++ joinWith ", " (entryTexts entries) ++ "\x7d"
  | .comprehension kind element clauses =>
    kind.wrap (parenthesize Level.test element element.text ++ clausesText clauses)
  | .dictComprehension key value clauses =>
    "\x7b" ++ parenthesize Level.test key key.text ++ ": " ++
      parenthesize Level.test value value.text ++ clausesText clauses ++ "\x7d"
  | .unary op operand => op.lead ++ parenthesize op.level operand operand.text
  | .binary left op right =>
    parenthesize op.leftLevel left left.text ++ " " ++ op.symbol ++ " " ++
      parenthesize op.rightLevel right right.text
  | .logic op values => joinWith op.word (textsAt (op.level + 1) values)
  | .compare left ops comparators =>
    parenthesize Level.bitOr left left.text ++
      comparisonText ops (textsAt Level.bitOr comparators)
  | .conditional test body orelse =>
    parenthesize Level.disjunction body body.text ++ " if " ++
      parenthesize Level.disjunction test test.text ++ " else " ++
      parenthesize Level.test orelse orelse.text
  | .lambda [] body => "lambda: " ++ parenthesize Level.test body body.text
  | .lambda (param :: params) body =>
    "lambda " ++ joinWith ", " (paramTexts false false (param :: params)) ++ ": " ++
      parenthesize Level.test body body.text
  | .await value => "await " ++ parenthesize Level.primary value value.text
  | .named target value => target ++ " := " ++ parenthesize Level.test value value.text

/-- The texts of expressions in places that ask for a level. -/
def textsAt (least : Nat) : List Expr → List String
  | [] => []
  | e :: rest => parenthesize least e e.text :: textsAt least rest

/-- The text of an expression that may be missing. -/
def optionText : Option Expr → Option String
  | some e => some (parenthesize Level.test e e.text)
  | none => none

/-- The texts of keyword arguments. -/
def argumentTexts : List (Argument Expr) → List String
  | [] => []
  | ⟨name, value⟩ :: rest =>
    argumentText name (parenthesize (argumentLevel name) value value.text) :: argumentTexts rest

/-- The texts of the entries of a dictionary. -/
def entryTexts : List (Expr × Expr) → List String
  | [] => []
  | (key, value) :: rest =>
    (parenthesize Level.test key key.text ++ ": " ++ parenthesize Level.test value value.text) ::
      entryTexts rest

/-- The text of the clauses of a comprehension. -/
def clausesText : List (Clause Expr) → String
  | [] => ""
  | ⟨target, iter, conditions⟩ :: rest =>
    " for " ++
      (match target with
        | .tuple items => tupleText (textsAt Level.test items)
        | target => parenthesize Level.test target target.text) ++
      " in " ++ parenthesize Level.disjunction iter iter.text ++ conditionsText conditions ++
      clausesText rest

/-- The text of the conditions of a clause. -/
def conditionsText : List Expr → String
  | [] => ""
  | e :: rest => " if " ++ parenthesize Level.disjunction e e.text ++ conditionsText rest

/-- The texts of parameters, with or without their annotations. -/
def paramTexts (annotated starSeen : Bool) : List (Param Expr) → List String
  | [] => []
  | ⟨name, kind, hint, preset⟩ :: rest =>
    loneStar starSeen kind ++
      paramText name kind (if annotated then optionText hint else none) (optionText preset) ::
      paramTexts annotated (starAfter starSeen kind) rest

end

namespace Expr

/-- The text of an expression in a place that asks for a level. -/
def textAt (least : Nat) (e : Expr) : String :=
  parenthesize least e e.text

/-- The text of an expression as a statement or on the right of an assignment, where a tuple needs
no parentheses. -/
def bareText : Expr → String
  | .tuple items => tupleText (textsAt Level.test items)
  | e => e.textAt Level.test

end Expr

end RobotCell.Script
