import RobotCell.Script.ExprCheck
import RobotCell.Script.StmtText

/-!
# Statements that can be written

The check of statements goes in the order of the lines: what stands before a block, then whether
the block is empty, then its statements.

## Main definitions

- `Stmt.check` — the first obstacle in a statement
- `checkBlock` — the first obstacle in a block
- `render` — the text of a script, if it can be written
- `renderExpr` — the text of an expression, if it can be written
-/

namespace RobotCell.Script

/-- The name is an identifier, or a path of identifiers where paths are allowed. -/
def Alias.check (dotted : Bool) (a : Alias) : Check := do
  if dotted then checkDotted a.name else checkIdentifier a.name
  checkIdentifiers a.asName.toList

/-- The first obstacle in imported names. -/
def checkAliases (dotted : Bool) : List Alias → Check
  | [] => .ok ()
  | a :: rest => do
    a.check dotted
    checkAliases dotted rest

/-- The names of an import are a lone star. -/
def isStarImport : List Alias → Bool
  | [a] => a.name = "*"
  | _ => false

/-- The first obstacle in an import from a module. -/
def checkImportFrom (module : String) (names : List Alias) : Check := do
  demand (!names.isEmpty) (.importWithoutNames module)
  if !module.isEmpty then checkDotted module
  if !isStarImport names then checkAliases false names

/-- The first obstacle in the contexts of a `with` block. -/
def checkWithItems : List WithItem → Check
  | [] => .ok ()
  | item :: rest => do
    item.context.check
    checkOption item.target
    checkWithItems rest

/-- The first obstacle in the header of an exception handler. -/
def checkHandlerHeader (kind : Option Expr) (name : Option String) : Check :=
  match kind with
  | none => .ok ()
  | some kind => do
    checkIdentifiers name.toList
    kind.check

/-- A block is not empty. -/
def checkFilled (header : String) (body : List Stmt) : Check :=
  if body.isEmpty then .error (.emptyBlock header) else .ok ()

/-- The first obstacle in a statement without blocks. -/
def checkSimple : Stmt → Check
  | .expr e => e.check
  | .assign targets value => do
    demand (!targets.isEmpty) .assignmentWithoutTarget
    checkAll targets
    value.check
  | .annAssign target hint value => do
    target.check
    hint.check
    checkOption value
  | .augAssign target _ value => do
    target.check
    value.check
  | .ret value => checkOption value
  | .raise exception cause => do
    demand (exception.isSome || cause.isNone) .causeWithoutException
    checkOption exception
    checkOption cause
  | .assertion test message => do
    test.check
    checkOption message
  | .delete targets => checkAll targets
  | .global names => checkIdentifiers names
  | .importModules names => checkAliases true names
  | .importFrom module names _ => checkImportFrom module names
  | _ => .ok ()

mutual

/-- The first obstacle in a statement, which starts with the given word if it is a condition. -/
def Stmt.check (word : String) : Stmt → Check
  | .functionDef ⟨name, params, body, decorators, returns, isAsync⟩ => do
    checkAll decorators
    checkIdentifier name
    checkParams true params
    checkOption returns
    checkFilled (functionHeader isAsync name params returns) body
    checkBlock body
  | .classDef ⟨name, bases, keywords, body, decorators⟩ => do
    checkAll decorators
    checkIdentifier name
    checkAll bases
    checkArguments keywords
    checkFilled (classHeader name bases keywords) body
    checkBlock body
  | .ifElse test body orelse => do
    test.check
    checkFilled (conditionHeader word test) body
    checkBlock body
    checkOrelse orelse
  | .whileLoop test body orelse => do
    test.check
    checkFilled (whileHeader test) body
    checkBlock body
    checkBlock orelse
  | .forLoop target iter body orelse => do
    target.check
    iter.check
    checkFilled (forHeader target iter) body
    checkBlock body
    checkBlock orelse
  | .withBlock items body => do
    checkWithItems items
    checkFilled (withHeader items) body
    checkBlock body
  | .tryBlock body handlers orelse finalBody => do
    demand (!handlers.isEmpty || !finalBody.isEmpty) .bareTry
    checkFilled "try" body
    checkBlock body
    checkHandlers handlers
    checkBlock orelse
    checkBlock finalBody
  | s => checkSimple s

/-- The first obstacle in a block. -/
def checkBlock : List Stmt → Check
  | [] => .ok ()
  | s :: rest => do
    s.check "if"
    checkBlock rest

/-- The first obstacle in the other branch of a condition. -/
def checkOrelse : List Stmt → Check
  | [] => .ok ()
  | [s] => s.check "elif"
  | s :: t :: rest => do
    s.check "if"
    checkBlock (t :: rest)

/-- The first obstacle in exception handlers. -/
def checkHandlers : List (Handler Stmt) → Check
  | [] => .ok ()
  | ⟨kind, name, body⟩ :: rest => do
    checkHandlerHeader kind name
    checkFilled (handlerHeader kind name) body
    checkBlock body
    checkHandlers rest

end

/-- The text of a script, if it can be written. -/
def render (script : Block) : Except RenderError String := do
  checkBlock script
  return blockText 0 none script

/-- The text of an expression as on the right of an assignment, if it can be written. -/
def renderExpr (e : Expr) : Except RenderError String := do
  e.check
  return e.bareText

end RobotCell.Script
