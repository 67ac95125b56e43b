import RobotCell.Script.ExprGrammar
import RobotCell.Script.Lexer
import RobotCell.Script.Tree

/-!
# The grammar of statements

Statements are read with the expression parsers of one fixed record. As with expressions, the
parsers for blocks inside other statements are taken from a record, which is built up by the number
of tokens in the stream.

## Main definitions

- `Blocks` — the parsers for the blocks inside a statement
- `Grammar.smallStatement` — statements without blocks
- `Grammar.statement` — one statement, or several on one line
- `parseTokens`, `parse` — the script that a list of tokens or a text stands for
-/

namespace RobotCell.Script

/-- The parsers for the blocks inside a statement. -/
structure Blocks where
  /-- A block with the colon before it. -/
  block : Parser Block
  /-- A condition that starts with `if` or `elif`. -/
  condition : Parser Stmt

namespace Grammar

/-! ### Statements without blocks -/

/-- An expression list without stars. -/
def testList (r : Nested) : Parser Expr :=
  sequence (test r)

/-- An expression list with stars and assignments. -/
def starList (r : Nested) : Parser Expr :=
  sequence (starItem (bitOr r) (test r))

/-- The token ends a statement. -/
def endsStatement : Token → Bool
  | .newline | .symbol .semicolon | .endOfInput => true
  | _ => false

/-- An optional part that is read if the current token is the given symbol. -/
def partAfter {α : Type} (symbol : Symbol) (part : Parser α) : Parser (Option α) := fun s =>
  if s.sees symbol then do
    let (a, s) ← part s.advance
    return (some a, s)
  else .ok (none, s)

/-- An optional part that is read if the current token is the given keyword. -/
def partAfterKeyword {α : Type} (k : Keyword) (part : Parser α) : Parser (Option α) := fun s =>
  if s.seesKeyword k then do
    let (a, s) ← part s.advance
    return (some a, s)
  else .ok (none, s)

/-- Names joined by dots. -/
def dottedName : Parser String := fun s => do
  let (first, s) ← expectName s
  let (more, s) ← repeated (partAfter .dot expectName) s
  return (Text.joinWith "." (first :: more), s)

/-- An imported name. -/
def aliasWith (name : Parser String) : Parser Alias := fun s => do
  let (name, s) ← name s
  let (asName, s) ← partAfterKeyword .asKw expectName s
  return (⟨name, asName⟩, s)

/-- The dots before the path of an import, as a number of levels. -/
def levelPart : Parser (Option Nat) := fun s =>
  if s.sees .dot then .ok (some 1, s.advance)
  else if s.sees .ellipsis then .ok (some 3, s.advance)
  else .ok (none, s)

/-- No token ends a list early. -/
def never : Token → Bool := fun _ => false

/-- The names of an import from a module. -/
def importedNames : Parser (List Alias) := fun s =>
  if s.sees .star then .ok ([⟨"*", none⟩], s.advance)
  else if s.sees .leftParen then do
    let (names, s) ← oneOrMore (· == .symbol .rightParen) (aliasWith expectName) s.advance
    let s ← expectSymbol .rightParen s
    return (names, s)
  else oneOrMore never (aliasWith expectName) s

/-- An import from a module, after its keyword. -/
def importFrom : Parser Stmt := fun s => do
  let (levels, s) ← repeated levelPart s
  let (module, s) ← if s.seesKeyword .importKw then .ok ("", s) else dottedName s
  let s ← expectKeyword .importKw s
  let (names, s) ← importedNames s
  return (.importFrom module names (levels.foldr Nat.add 0), s)

/-- The values of an assignment, each after an equals sign. -/
def assignedValues (r : Nested) : Parser (List Expr) :=
  repeated (partAfter .assign (starList r))

/-- An assignment of any kind, or an expression. -/
def expressionStatement (r : Nested) : Parser Stmt := fun s => do
  let (first, s) ← starList r s
  match s.current with
  | .symbol .colon => do
    let (hint, s) ← test r s.advance
    let (value, s) ← partAfter .assign (testList r) s
    return (.annAssign first hint value, s)
  | .augAssign op => do
    let (value, s) ← testList r s.advance
    return (.augAssign first op value, s)
  | _ => do
    let (values, s) ← assignedValues r s
    match values.getLast? with
    | some value => return (.assign (first :: values.dropLast) value, s)
    | none => return (.expr first, s)

/-- The value of a `return`, after its keyword. -/
def returned (r : Nested) : Parser Stmt := fun s =>
  if endsStatement s.current then .ok (.ret none, s)
  else do
    let (value, s) ← testList r s
    return (.ret (some value), s)

/-- The exception and the cause of a `raise`, after its keyword. -/
def raised (r : Nested) : Parser Stmt := fun s =>
  if endsStatement s.current then .ok (.raise none none, s)
  else do
    let (exception, s) ← test r s
    let (cause, s) ← partAfterKeyword .fromKw (test r) s
    return (.raise (some exception) cause, s)

/-- An assertion, after its keyword. -/
def asserted (r : Nested) : Parser Stmt := fun s => do
  let (test_, s) ← test r s
  let (message, s) ← partAfter .comma (test r) s
  return (.assertion test_ message, s)

/-- A statement without blocks. -/
def smallStatement (r : Nested) : Parser Stmt := fun s =>
  match s.current with
  | .keyword .passKw => .ok (.pass, s.advance)
  | .keyword .breakKw => .ok (.breakLoop, s.advance)
  | .keyword .continueKw => .ok (.continueLoop, s.advance)
  | .keyword .returnKw => returned r s.advance
  | .keyword .raiseKw => raised r s.advance
  | .keyword .assertKw => asserted r s.advance
  | .keyword .delKw => do
    let (targets, s) ← targetList (bitOr r) s.advance
    return (.delete targets, s)
  | .keyword .globalKw => do
    let (names, s) ← oneOrMore never expectName s.advance
    return (.global names, s)
  | .keyword .importKw => do
    let (names, s) ← oneOrMore never (aliasWith dottedName) s.advance
    return (.importModules names, s)
  | .keyword .fromKw => importFrom s.advance
  | .keyword .nonlocalKw | .keyword .yieldKw => .error (s.unexpected .statementKind)
  | _ => expressionStatement r s

/-- A further statement on the same line, after a semicolon. -/
def furtherStatement (r : Nested) : Parser (Option Stmt) := fun s =>
  if s.sees .semicolon then
    let s := s.advance
    if s.current = .newline || s.current = .endOfInput then .ok (none, s)
    else do
      let (stmt, s) ← smallStatement r s
      return (some stmt, s)
  else .ok (none, s)

/-- The statements of a line. -/
def simpleStatements (r : Nested) : Parser Block := fun s => do
  let (first, s) ← smallStatement r s
  let (more, s) ← repeated (furtherStatement r) s
  if s.current = .newline then return (first :: more, s.advance)
  else if s.current = .endOfInput then return (first :: more, s)
  else .error (s.unexpected .statementEnd)

/-! ### Statements with blocks -/

/-- A block that is there if the current token is the given keyword. -/
def blockAfter (b : Blocks) (k : Keyword) : Parser Block := fun s =>
  if s.seesKeyword k then b.block s.advance else .ok ([], s)

/-- A condition: the first token is `if` or `elif`. -/
def condition (r : Nested) (b : Blocks) : Parser Stmt := fun s => do
  let (test_, s) ← namedTest (test r) s.advance
  let (body, s) ← b.block s
  if s.seesKeyword .elifKw then do
    let (other, s) ← b.condition s
    return (.ifElse test_ body [other], s)
  else do
    let (orelse, s) ← blockAfter b .elseKw s
    return (.ifElse test_ body orelse, s)

/-- A `while` loop, after its keyword. -/
def whileLoop (r : Nested) (b : Blocks) : Parser Stmt := fun s => do
  let (test_, s) ← namedTest (test r) s
  let (body, s) ← b.block s
  let (orelse, s) ← blockAfter b .elseKw s
  return (.whileLoop test_ body orelse, s)

/-- A `for` loop, after its keyword. -/
def forLoop (r : Nested) (b : Blocks) : Parser Stmt := fun s => do
  let (target, s) ← target (bitOr r) s
  let s ← expectKeyword .inKw s
  let (iter, s) ← testList r s
  let (body, s) ← b.block s
  let (orelse, s) ← blockAfter b .elseKw s
  return (.forLoop target iter body orelse, s)

/-- The type and the name of a handler, if it has them. -/
def handlerHead (r : Nested) : Parser (Option Expr × Option String) := fun s =>
  if s.sees .colon then .ok ((none, none), s)
  else do
    let (kind, s) ← test r s
    let (name, s) ← partAfterKeyword .asKw expectName s
    return ((some kind, name), s)

/-- An exception handler, if there is one. -/
def handler (r : Nested) (b : Blocks) : Parser (Option (Handler Stmt)) := fun s =>
  if s.seesKeyword .exceptKw then do
    let ((kind, name), s) ← handlerHead r s.advance
    let (body, s) ← b.block s
    return (some ⟨kind, name, body⟩, s)
  else .ok (none, s)

/-- A `try` statement, after its keyword. -/
def tryBlock (r : Nested) (b : Blocks) : Parser Stmt := fun s => do
  let (body, s) ← b.block s
  let (handlers, s) ← repeated (handler r b) s
  let (orelse, s) ← blockAfter b .elseKw s
  let (finalBody, s) ← blockAfter b .finallyKw s
  if handlers.isEmpty && finalBody.isEmpty then .error (s.fail .bareTry)
  else return (.tryBlock body handlers orelse finalBody, s)

/-- A context of a `with` block. -/
def withItem (r : Nested) : Parser WithItem := fun s => do
  let (context, s) ← test r s
  let (target, s) ← partAfterKeyword .asKw (starOperand (bitOr r)) s
  return (⟨context, target⟩, s)

/-- A `with` block, after its keyword. -/
def withBlock (r : Nested) (b : Blocks) : Parser Stmt := fun s => do
  let (items, s) ← oneOrMore never (withItem r) s
  let (body, s) ← b.block s
  return (.withBlock items body, s)

/-- A function with the given decorators; the first token is `async` or `def`. -/
def functionDef (r : Nested) (b : Blocks) (decorators : List Expr) : Parser Stmt := fun s => do
  let isAsync := s.seesKeyword .asyncKw
  let s ← expectKeyword .defKw (if isAsync then s.advance else s)
  let (name, s) ← expectName s
  let s ← expectSymbol .leftParen s
  let (params, s) ← params .rightParen true (test r) s
  let s ← expectSymbol .rightParen s
  let (returns, s) ← partAfter .arrow (test r) s
  let (body, s) ← b.block s
  return (.functionDef ⟨name, params, body, decorators, returns, isAsync⟩, s)

/-- A class with the given decorators, after its keyword. -/
def classDef (r : Nested) (b : Blocks) (decorators : List Expr) : Parser Stmt := fun s => do
  let (name, s) ← expectName s
  let (args, s) ← if s.sees .leftParen then callArgs r s.advance else .ok ([], s)
  let (body, s) ← b.block s
  return (.classDef ⟨name, positionals args, keywords args, body, decorators⟩, s)

/-- A decorator, if there is one. -/
def decorator (r : Nested) : Parser (Option Expr) := fun s =>
  if s.sees .atSign then do
    let (e, s) ← test r s.advance
    let s ← expect .newline s
    return (some e, s)
  else .ok (none, s)

/-- A function or a class with decorators. -/
def decorated (r : Nested) (b : Blocks) : Parser Stmt := fun s => do
  let (decorators, s) ← repeated (decorator r) s
  match s.current with
  | .keyword .defKw | .keyword .asyncKw => functionDef r b decorators s
  | .keyword .classKw => classDef r b decorators s.advance
  | _ => .error (s.unexpected .decorated)

/-- A statement with blocks as a list of one statement. -/
def single (statement : Parser Stmt) : Parser Block := fun s => do
  let (stmt, s) ← statement s
  return ([stmt], s)

/-- One statement with blocks, or the statements of a line. -/
def statement (r : Nested) (b : Blocks) : Parser Block := fun s =>
  match s.current with
  | .keyword .ifKw => single (condition r b) s
  | .keyword .whileKw => single (whileLoop r b) s.advance
  | .keyword .forKw => single (forLoop r b) s.advance
  | .keyword .tryKw => single (tryBlock r b) s.advance
  | .keyword .withKw => single (withBlock r b) s.advance
  | .keyword .defKw => single (functionDef r b []) s
  | .keyword .asyncKw =>
    if s.ahead = .keyword .defKw then single (functionDef r b []) s
    else .error (s.fail .asyncWithoutDef)
  | .keyword .classKw => single (classDef r b []) s.advance
  | .symbol .atSign => single (decorated r b) s
  | _ => simpleStatements r s

/-- The next statements of an indented block, or its end. -/
def blockPart (r : Nested) (b : Blocks) : Parser (Option Block) := fun s =>
  match s.current with
  | .dedent => .ok (none, s.advance)
  | .endOfInput => .error (s.fail .openBlock)
  | .newline => .ok (some [], s.advance)
  | _ => do
    let (stmts, s) ← statement r b s
    return (some stmts, s)

/-- A block with the colon before it: indented lines, or the rest of the line. -/
def block (r : Nested) (b : Blocks) : Parser Block := fun s => do
  let s ← expectSymbol .colon s
  if s.current = .newline then do
    let s ← expect .indent s.advance
    let (parts, s) ← repeated (blockPart r b) s
    return (parts.flatten, s)
  else simpleStatements r s

/-! ### Scripts -/

/-- The record of block parsers for streams with fewer than `n` tokens behind the current one. -/
def blocks (r : Nested) : Nat → Blocks
  | 0 => ⟨fun s => .error (s.fail .endless), fun s => .error (s.fail .endless)⟩
  | n + 1 => ⟨block r (blocks r n), condition r (blocks r n)⟩

/-- The next statements of a script, or its end. -/
def scriptPart (r : Nested) (b : Blocks) : Parser (Option Block) := fun s =>
  match s.current with
  | .endOfInput => .ok (none, s)
  | .newline => .ok (some [], s.advance)
  | _ => do
    let (stmts, s) ← statement r b s
    return (some stmts, s)

/-- A whole script. -/
def script : Parser Block := fun s => do
  let r := nestedFor s
  let (parts, s) ← repeated (scriptPart r (blocks r (s.rest.length + 2))) s
  return (parts.flatten, s)

end Grammar

/-- The place at which a failure is found in the given tokens. -/
def Failure.place (tokens : List PlacedToken) (f : Failure) : Place :=
  match tokens.reverse[f.behind]? with
  | some t => t.place
  | none => .nowhere

/-- What a parser reads from the start of a list of tokens, with failures at their places. -/
def runParser {α : Type} (parser : Parser α) (tokens : List PlacedToken) :
    Except SyntaxError α :=
  match parser (.ofTokens (tokens.map (·.token))) with
  | .ok (a, _) => .ok a
  | .error f => .error ⟨f.place tokens, f.fault⟩

/-- The script that a list of tokens stands for. -/
def parseTokens (tokens : List PlacedToken) : Except SyntaxError Block :=
  runParser Grammar.script tokens

/-- The script that a text stands for. -/
def parse (source : String) : Except SyntaxError Block := do
  parseTokens (← tokenize source)

/-- The expression at the start of a list of tokens. -/
def parseTestTokens (tokens : List PlacedToken) : Except SyntaxError Expr :=
  runParser parseTest tokens

/-- The expression at the start of a text. -/
def parseExpr (source : String) : Except SyntaxError Expr := do
  parseTestTokens (← tokenize source)

end RobotCell.Script
