import RobotCell.Script.Identifier
import RobotCell.Script.Tree
import RobotCell.Text.Join

/-!
# Expressions that can be written

Not every tree is the tree of a script. The check goes through a tree in the order in which its
parts are written and stops at the first part that cannot be: a word that is no identifier, or a
form with too few parts.

## Main definitions

- `RenderError` — why a tree cannot be written, with its wording
- `Expr.check` — the first obstacle in an expression
-/

namespace RobotCell.Script

/-- A form that lacks one of its parts. -/
inductive Flaw where
  | assignmentWithoutTarget
  | causeWithoutException
  | importWithoutNames (module : String)
  | bareTry
  | comprehensionWithoutClause
  | straySlice
  | fewOperands
  | unevenComparison
  deriving DecidableEq

/-- Why a tree cannot be written. -/
inductive RenderError where
  /-- The block below a header line is empty. -/
  | emptyBlock (header : String)
  /-- A word is not an identifier. -/
  | invalidIdentifier (word : String)
  /-- A form lacks one of its parts. -/
  | malformed (flaw : Flaw)
  deriving DecidableEq

/-- The wording of a flaw. -/
def Flaw.message : Flaw → String
  | .assignmentWithoutTarget => "assignment without target"
  | .causeWithoutException => "raise with cause but no exception"
  | .importWithoutNames module => "import from `" ++ module ++ "` without names"
  | .bareTry => "try without except or finally"
  | .comprehensionWithoutClause => "comprehension without `for`"
  | .straySlice => "slice outside of a subscript"
  | .fewOperands => "boolean operation with fewer than two operands"
  | .unevenComparison => "comparison operator count mismatch"

/-- The wording of an error. -/
def RenderError.message : RenderError → String
  | .emptyBlock header => "empty block in `" ++ header ++ "`"
  | .invalidIdentifier word => "`" ++ word ++ "` is not a valid identifier"
  | .malformed flaw => "malformed node: " ++ flaw.message

/-- The outcome of a check. -/
abbrev Check := Except RenderError Unit

/-- The condition holds, or else the form has the given flaw. -/
def demand (condition : Bool) (flaw : Flaw) : Check :=
  if condition then .ok () else .error (.malformed flaw)

/-- The word is an identifier. -/
def checkIdentifier (word : String) : Check :=
  if isIdentifier word then .ok () else .error (.invalidIdentifier word)

/-- Every word is an identifier. -/
def checkIdentifiers : List String → Check
  | [] => .ok ()
  | word :: rest => do
    checkIdentifier word
    checkIdentifiers rest

/-- The words between the dots of a path are identifiers. -/
def checkDotted (path : String) : Check :=
  checkIdentifiers (Text.splitAtChar '.' path)

mutual

/-- The first obstacle in an expression outside a subscript. -/
def Expr.check : Expr → Check
  | .name id => checkIdentifier id
  | .constant _ => .ok ()
  | .attribute value attr => do
    checkIdentifier attr
    value.check
  | .subscript value index => do
    match index with
    | .tuple items => checkItems items
    | .slice lower upper step => do
      checkOption lower
      checkOption upper
      checkOption step
    | index => index.check
    value.check
  | .slice .. => .error (.malformed .straySlice)
  | .call func args keywords => do
    func.check
    checkAll args
    checkArguments keywords
  | .starred value => value.check
  | .list items => checkAll items
  | .tuple items => checkAll items
  | .set items => checkAll items
  | .dict entries => checkEntries entries
  | .comprehension _ element clauses => do
    element.check
    demand (!clauses.isEmpty) .comprehensionWithoutClause
    checkClauses clauses
  | .dictComprehension key value clauses => do
    key.check
    value.check
    demand (!clauses.isEmpty) .comprehensionWithoutClause
    checkClauses clauses
  | .unary _ operand => operand.check
  | .binary left _ right => do
    left.check
    right.check
  | .logic _ values => do
    demand (2 ≤ values.length) .fewOperands
    checkAll values
  | .compare left ops comparators => do
    demand (!ops.isEmpty && ops.length == comparators.length) .unevenComparison
    left.check
    checkAll comparators
  | .conditional test body orelse => do
    body.check
    test.check
    orelse.check
  | .lambda params body => do
    checkParams false params
    body.check
  | .await value => value.check
  | .named target value => do
    checkIdentifier target
    value.check

/-- The first obstacle in a list of expressions. -/
def checkAll : List Expr → Check
  | [] => .ok ()
  | e :: rest => do
    e.check
    checkAll rest

/-- The first obstacle in the items of a subscript, where slices may stand. -/
def checkItems : List Expr → Check
  | [] => .ok ()
  | .slice lower upper step :: rest => do
    checkOption lower
    checkOption upper
    checkOption step
    checkItems rest
  | e :: rest => do
    e.check
    checkItems rest

/-- The first obstacle in an expression that may be missing. -/
def checkOption : Option Expr → Check
  | none => .ok ()
  | some e => e.check

/-- The first obstacle in keyword arguments. -/
def checkArguments : List (Argument Expr) → Check
  | [] => .ok ()
  | ⟨name, value⟩ :: rest => do
    checkIdentifiers name.toList
    value.check
    checkArguments rest

/-- The first obstacle in the entries of a dictionary. -/
def checkEntries : List (Expr × Expr) → Check
  | [] => .ok ()
  | (key, value) :: rest => do
    key.check
    value.check
    checkEntries rest

/-- The first obstacle in the clauses of a comprehension. -/
def checkClauses : List (Clause Expr) → Check
  | [] => .ok ()
  | ⟨target, iter, conditions⟩ :: rest => do
    target.check
    iter.check
    checkAll conditions
    checkClauses rest

/-- The first obstacle in parameters, whose annotations may count or not. -/
def checkParams (annotated : Bool) : List (Param Expr) → Check
  | [] => .ok ()
  | ⟨name, _, hint, preset⟩ :: rest => do
    checkIdentifier name
    if annotated then checkOption hint
    checkOption preset
    checkParams annotated rest

end

end RobotCell.Script
