import RobotCell.Script.ExprText

/-!
# The text of statements

Statements are written one on a line, each block four spaces deeper than its header. Definitions are
set apart by blank lines: two at the outermost level, one elsewhere, and one more at the start of a
class that opens with a definition.

## Main definitions

- `Stmt.text` — the lines of a statement
- `blockText` — the lines of a block
-/

namespace RobotCell.Script

open RobotCell.Text (joinWith)

/-! ### Lines -/

/-- The start of a line at the given depth. -/
def indentation (depth : Nat) : String :=
  String.ofList (List.replicate (4 * depth) ' ')

/-- A line at the given depth. -/
def line (depth : Nat) (text : String) : String :=
  indentation depth ++ text ++ "\n"

/-- The line that opens a block. -/
def headerLine (depth : Nat) (header : String) : String :=
  line depth (header ++ ":")

/-- A number of blank lines. -/
def blankLines (n : Nat) : String :=
  String.ofList (List.replicate n '\n')

/-! ### Parts of statements -/

/-- An imported name. -/
def Alias.text (a : Alias) : String :=
  match a.asName with
  | some asName => a.name ++ " as " ++ asName
  | none => a.name

/-- The names of an import, or the lone star that stands for all of them. -/
def importedText (names : List Alias) : String :=
  match names with
  | [a] => if a.name = "*" then "*" else a.text
  | names => joinWith ", " (names.map Alias.text)

/-- The dots in front of the path of a relative import. -/
def levelDots (level : Nat) : String :=
  String.ofList (List.replicate level '.')

/-- A context of a `with` block. -/
def WithItem.text (item : WithItem) : String :=
  item.context.textAt Level.test ++ item.target.elim "" fun t => " as " ++ t.textAt Level.bitOr

/-- The header of a function. -/
def functionHeader (isAsync : Bool) (name : String) (params : List (Param Expr))
    (returns : Option Expr) : String :=
  (if isAsync then "async def " else "def ") ++ name ++ "(" ++
    joinWith ", " (paramTexts true false params) ++ ")" ++
    returns.elim "" fun e => " -> " ++ e.textAt Level.test

/-- The header of a class. -/
def classHeader (name : String) (bases : List Expr) (keywords : List (Argument Expr)) : String :=
  let args := joinWith ", " (textsAt Level.test bases ++ argumentTexts keywords)
  if args.isEmpty then "class " ++ name else "class " ++ name ++ "(" ++ args ++ ")"

/-- The header of an exception handler. -/
def handlerHeader (kind : Option Expr) (name : Option String) : String :=
  match kind, name with
  | none, _ => "except"
  | some kind, none => "except " ++ kind.textAt Level.test
  | some kind, some name => "except " ++ kind.textAt Level.test ++ " as " ++ name

/-- The header of a condition, which starts with `if` or `elif`. -/
def conditionHeader (word : String) (test : Expr) : String :=
  word ++ " " ++ test.textAt Level.test

/-- The header of a `while` loop. -/
def whileHeader (test : Expr) : String :=
  "while " ++ test.textAt Level.test

/-- The header of a `for` loop. -/
def forHeader (target iter : Expr) : String :=
  "for " ++ target.bareText ++ " in " ++ iter.bareText

/-- The header of a `with` block. -/
def withHeader (items : List WithItem) : String :=
  "with " ++ joinWith ", " (items.map WithItem.text)

/-- The lines of decorators. -/
def decoratorLines (depth : Nat) (decorators : List Expr) : String :=
  String.join (decorators.map fun e => line depth ("@" ++ e.textAt Level.test))

/-- The targets of an assignment, each with its equals sign. -/
def targetsText (targets : List Expr) : String :=
  String.join (targets.map fun t => t.bareText ++ " = ")

/-- An expression as a statement. A string over several lines that opens a block is written between
triple quotes. -/
def exprText (opening : Bool) (e : Expr) : String :=
  match e.string? with
  | some s => if opening && s.toList.contains '\n' then Literal.docLiteral s else e.bareText
  | none => e.bareText

/-! ### Statements and blocks -/

/-- The text of a statement without blocks, as one line. -/
def simpleText (opening : Bool) : Stmt → String
  | .expr e => exprText opening e
  | .assign targets value => targetsText targets ++ value.bareText
  | .annAssign target hint value =>
    target.textAt Level.test ++ ": " ++ hint.textAt Level.test ++
      value.elim "" fun v => " = " ++ v.bareText
  | .augAssign target op value => target.bareText ++ " " ++ op.symbol ++ "= " ++ value.bareText
  | .ret value => "return" ++ value.elim "" fun v => " " ++ v.bareText
  | .pass => "pass"
  | .breakLoop => "break"
  | .continueLoop => "continue"
  | .raise exception cause =>
    "raise" ++ (exception.elim "" fun e => " " ++ e.textAt Level.test) ++
      cause.elim "" fun c => " from " ++ c.textAt Level.test
  | .assertion test message =>
    "assert " ++ test.textAt Level.test ++ message.elim "" fun m => ", " ++ m.textAt Level.test
  | .delete targets => "del " ++ joinWith ", " (textsAt Level.bitOr targets)
  | .global names => "global " ++ joinWith ", " names
  | .importModules names => "import " ++ joinWith ", " (names.map Alias.text)
  | .importFrom module names level =>
    "from " ++ levelDots level ++ module ++ " import " ++ importedText names
  | _ => ""

/-- The number of blank lines around a definition at the given depth. -/
def spacing (depth : Nat) : Nat :=
  if depth = 0 then 2 else 1

/-- The blank lines between two statements, one of which may be a definition. -/
def separation (depth : Nat) (before : Option Stmt) (s : Stmt) : String :=
  match before with
  | some before =>
    if s.isDefinition || before.isDefinition then blankLines (spacing depth) else ""
  | none => ""

/-- The blank line at the start of a class that opens with a definition. -/
def classOpening : List Stmt → String
  | s :: _ => if s.isDefinition then blankLines 1 else ""
  | [] => ""

/-- A further clause of a statement, left out if its block is empty. -/
def clauseText (depth : Nat) (header : String) (body : List Stmt) (text : String) : String :=
  if body.isEmpty then "" else headerLine depth header ++ text

mutual

/-- The lines of a statement at the given depth. It may open its block, and a condition may start
with `if` or `elif`. -/
def Stmt.text (depth : Nat) (opening : Bool) (word : String) : Stmt → String
  | .functionDef ⟨name, params, body, decorators, returns, isAsync⟩ =>
    decoratorLines depth decorators ++
      headerLine depth (functionHeader isAsync name params returns) ++
      blockText (depth + 1) none body
  | .classDef ⟨name, bases, keywords, body, decorators⟩ =>
    decoratorLines depth decorators ++ headerLine depth (classHeader name bases keywords) ++
      classOpening body ++ blockText (depth + 1) none body
  | .ifElse test body orelse =>
    headerLine depth (conditionHeader word test) ++ blockText (depth + 1) none body ++
      orelseText depth orelse
  | .whileLoop test body orelse =>
    headerLine depth (whileHeader test) ++ blockText (depth + 1) none body ++
      clauseText depth "else" orelse (blockText (depth + 1) none orelse)
  | .forLoop target iter body orelse =>
    headerLine depth (forHeader target iter) ++ blockText (depth + 1) none body ++
      clauseText depth "else" orelse (blockText (depth + 1) none orelse)
  | .withBlock items body =>
    headerLine depth (withHeader items) ++ blockText (depth + 1) none body
  | .tryBlock body handlers orelse finalBody =>
    headerLine depth "try" ++ blockText (depth + 1) none body ++ handlersText depth handlers ++
      clauseText depth "else" orelse (blockText (depth + 1) none orelse) ++
      clauseText depth "finally" finalBody (blockText (depth + 1) none finalBody)
  | s => line depth (simpleText opening s)

/-- The lines of a block at the given depth, after the statement `before` of the same block. -/
def blockText (depth : Nat) (before : Option Stmt) : List Stmt → String
  | [] => ""
  | s :: rest =>
    separation depth before s ++ s.text depth (before.isNone && 0 < depth) "if" ++
      blockText depth (some s) rest

/-- The lines of the other branch of a condition. A single condition there continues the chain. -/
def orelseText (depth : Nat) : List Stmt → String
  | [] => ""
  | [s] =>
    if s.isCondition then s.text depth false "elif"
    else headerLine depth "else" ++ s.text (depth + 1) true "if"
  | s :: t :: rest =>
    headerLine depth "else" ++ s.text (depth + 1) true "if" ++
      blockText (depth + 1) (some s) (t :: rest)

/-- The lines of exception handlers. -/
def handlersText (depth : Nat) : List (Handler Stmt) → String
  | [] => ""
  | ⟨kind, name, body⟩ :: rest =>
    headerLine depth (handlerHeader kind name) ++ blockText (depth + 1) none body ++
      handlersText depth rest

end

end RobotCell.Script
