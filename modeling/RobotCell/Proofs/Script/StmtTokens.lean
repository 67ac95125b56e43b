import RobotCell.Proofs.Script.Legible
import RobotCell.Script.StmtText

/-!
# The tokens of statements

As for expressions, every statement has a list of tokens beside its lines. A block is the tokens of
its statements between the marks of the indentation. A statement is legible if its lines can only be
read as the statement itself; besides what its expressions ask for, the blocks below its headers
must not be empty, and a text over several lines that opens one must not end in quotes that close it
too early.

## Main definitions

- `Stmt.tokens`, `blockTokens` — the tokens of a statement and of a block
- `isSuite` — the block may stand below a header
- `LegibleStmt` — the statements that are read back
-/

namespace RobotCell.Script

open RobotCell.Text (splitAtChar)

/-! ### Parts of statements -/

/-- The names of a path with dots between them. -/
def pathTokens (path : String) : List Token :=
  separatedBy (.symbol .dot) ((splitAtChar '.' path).map fun p => [.name p])

/-- An optional part behind a keyword. -/
def wordTokens (k : Keyword) (part : Option (List Token)) : List Token :=
  part.elim [] (.keyword k :: ·)

@[simp]
theorem wordTokens_none (k : Keyword) : wordTokens k none = [] := rfl

@[simp]
theorem wordTokens_some (k : Keyword) (part : List Token) :
    wordTokens k (some part) = .keyword k :: part := rfl

/-- The tokens of an imported name. -/
def Alias.tokens (a : Alias) : List Token :=
  pathTokens a.name ++ wordTokens .asKw (a.asName.map fun n => [.name n])

/-- The tokens of the names of an import. -/
def importedTokens (names : List Alias) : List Token :=
  match names with
  | [a] => if a.name = "*" then [.symbol .star] else a.tokens
  | names => commas (names.map Alias.tokens)

/-- The dots in front of the path of a relative import; three of them are one token. -/
def levelTokens (level : Nat) : List Token :=
  List.replicate (level / 3) (.symbol .ellipsis) ++ List.replicate (level % 3) (.symbol .dot)

/-- The tokens of a context of a `with` block. -/
def WithItem.tokens (item : WithItem) : List Token :=
  item.context.tokensAt Level.test ++ wordTokens .asKw (item.target.map (Expr.tokensAt Level.bitOr))

/-- The tokens of the header of a function. -/
def functionTokens (isAsync : Bool) (name : String) (params : List (Param Expr))
    (returns : Option Expr) : List Token :=
  (if isAsync then [.keyword .asyncKw] else []) ++ .keyword .defKw :: .name name ::
    (between .leftParen .rightParen (commas (parameterTokens true false params)) ++
      partTokens .arrow (returns.map (Expr.tokensAt Level.test)))

/-- The tokens of the header of a class. -/
def classTokens (name : String) (bases : List Expr) (keywords : List (Argument Expr)) :
    List Token :=
  .keyword .classKw :: .name name ::
    if (argsOf bases keywords).isEmpty then []
    else between .leftParen .rightParen (commas ((argsOf bases keywords).map argTokens))

/-- The tokens of the header of an exception handler. -/
def handlerTokens (kind : Option Expr) (name : Option String) : List Token :=
  .keyword .exceptKw :: kind.elim [] fun e =>
    e.tokensAt Level.test ++ wordTokens .asKw (name.map fun n => [.name n])

/-- The tokens of the header of a `for` loop. -/
def forTokens (target iter : Expr) : List Token :=
  .keyword .forKw :: (target.bareTokens ++ .keyword .inKw :: iter.bareTokens)

/-- The tokens of the header of a `with` block. -/
def withTokens (items : List WithItem) : List Token :=
  .keyword .withKw :: commas (items.map WithItem.tokens)

/-- The tokens of the line of a decorator. -/
def decoratorLine (e : Expr) : List Token :=
  .symbol .atSign :: (e.tokensAt Level.test ++ [.newline])

/-- The tokens of the lines of decorators. -/
def decoratorTokens (decorators : List Expr) : List Token :=
  decorators.flatMap decoratorLine

/-! ### Statements and blocks -/

/-- The tokens of a statement without blocks, up to the end of its line. -/
def simpleTokens : Stmt → List Token
  | .expr e => e.bareTokens
  | .assign targets value =>
    (targets.flatMap fun t => t.bareTokens ++ [.symbol .assign]) ++ value.bareTokens
  | .annAssign target hint value =>
    target.tokensAt Level.test ++ .symbol .colon ::
      (hint.tokensAt Level.test ++ partTokens .assign (value.map Expr.bareTokens))
  | .augAssign target op value => target.bareTokens ++ .augAssign op :: value.bareTokens
  | .ret value => .keyword .returnKw :: value.elim [] Expr.bareTokens
  | .pass => [.keyword .passKw]
  | .breakLoop => [.keyword .breakKw]
  | .continueLoop => [.keyword .continueKw]
  | .raise exception cause =>
    .keyword .raiseKw :: (exception.elim [] (Expr.tokensAt Level.test) ++
      wordTokens .fromKw (cause.map (Expr.tokensAt Level.test)))
  | .assertion test message =>
    .keyword .assertKw :: (test.tokensAt Level.test ++
      partTokens .comma (message.map (Expr.tokensAt Level.test)))
  | .delete targets => .keyword .delKw :: commas (targets.map (Expr.tokensAt Level.bitOr))
  | .global names => .keyword .globalKw :: commas (names.map fun n => [.name n])
  | .importModules names => .keyword .importKw :: commas (names.map Alias.tokens)
  | .importFrom module names level =>
    .keyword .fromKw :: (levelTokens level ++ ((if module.isEmpty then [] else pathTokens module) ++
      .keyword .importKw :: importedTokens names))
  | _ => []

/-- The tokens of a block below its header. -/
def suiteTokens (ts : List Token) : List Token :=
  .symbol .colon :: .newline :: .indent :: (ts ++ [.dedent])

/-- A further clause of a statement, left out if its block is empty. -/
def clauseTokens (k : Keyword) (body : List Stmt) (ts : List Token) : List Token :=
  if body.isEmpty then [] else .keyword k :: suiteTokens ts

mutual

/-- The tokens of a statement; a condition may start with `if` or `elif`. -/
def Stmt.tokens (word : Keyword) : Stmt → List Token
  | .functionDef ⟨name, params, body, decorators, returns, isAsync⟩ =>
    decoratorTokens decorators ++
      (functionTokens isAsync name params returns ++ suiteTokens (blockTokens body))
  | .classDef ⟨name, bases, keywords, body, decorators⟩ =>
    decoratorTokens decorators ++
      (classTokens name bases keywords ++ suiteTokens (blockTokens body))
  | .ifElse test body orelse =>
    .keyword word :: (test.tokensAt Level.test ++
      (suiteTokens (blockTokens body) ++ orelseTokens orelse))
  | .whileLoop test body orelse =>
    .keyword .whileKw :: (test.tokensAt Level.test ++
      (suiteTokens (blockTokens body) ++ clauseTokens .elseKw orelse (blockTokens orelse)))
  | .forLoop target iter body orelse =>
    forTokens target iter ++
      (suiteTokens (blockTokens body) ++ clauseTokens .elseKw orelse (blockTokens orelse))
  | .withBlock items body => withTokens items ++ suiteTokens (blockTokens body)
  | .tryBlock body handlers orelse finalBody =>
    .keyword .tryKw :: (suiteTokens (blockTokens body) ++ (handlersTokens handlers ++
      (clauseTokens .elseKw orelse (blockTokens orelse) ++
        clauseTokens .finallyKw finalBody (blockTokens finalBody))))
  | s => simpleTokens s ++ [.newline]

/-- The tokens of the statements of a block. -/
def blockTokens : List Stmt → List Token
  | [] => []
  | s :: rest => s.tokens .ifKw ++ blockTokens rest

/-- The tokens of the other branch of a condition. -/
def orelseTokens : List Stmt → List Token
  | [] => []
  | [s] =>
    if s.isCondition then s.tokens .elifKw
    else .keyword .elseKw :: suiteTokens (s.tokens .ifKw)
  | s :: t :: rest => .keyword .elseKw :: suiteTokens (s.tokens .ifKw ++ blockTokens (t :: rest))

/-- The tokens of exception handlers. -/
def handlersTokens : List (Handler Stmt) → List Token
  | [] => []
  | ⟨kind, name, body⟩ :: rest =>
    handlerTokens kind name ++ (suiteTokens (blockTokens body) ++ handlersTokens rest)

end

theorem blockTokens_eq (body : List Stmt) :
    blockTokens body = body.flatMap (Stmt.tokens .ifKw) := by
  induction body with
  | nil => rfl
  | cons s body ih => rw [blockTokens, ih, List.flatMap_cons]

/-- The statement has no blocks. -/
def Stmt.isSimple : Stmt → Bool
  | .functionDef _ | .classDef _ | .ifElse .. | .whileLoop .. | .forLoop .. | .withBlock ..
  | .tryBlock .. => false
  | _ => true

theorem Stmt.text_of_isSimple {s : Stmt} (h : s.isSimple = true) (d : Nat) (opening : Bool)
    (word : String) : s.text d opening word = line d (simpleText opening s) := by
  cases s <;> first | cases h; done | simp only [Stmt.text]

theorem Stmt.tokens_of_isSimple {s : Stmt} (h : s.isSimple = true) (word : Keyword) :
    s.tokens word = simpleTokens s ++ [.newline] := by
  cases s <;> first | cases h; done | simp only [Stmt.tokens]

/-- The tokens of an exception handler. -/
def Handler.tokens (h : Handler Stmt) : List Token :=
  handlerTokens h.kind h.name ++ suiteTokens (blockTokens h.body)

theorem handlersTokens_eq (handlers : List (Handler Stmt)) :
    handlersTokens handlers = handlers.flatMap Handler.tokens := by
  induction handlers with
  | nil => rfl
  | cons h handlers ih =>
    rw [handlersTokens, ih, List.flatMap_cons, Handler.tokens, List.append_assoc]

/-- The other branch of a condition goes on with the chain, or is a clause of its own. -/
theorem orelse_cases (orelse : List Stmt) :
    (∃ s, orelse = [s] ∧ s.isCondition = true ∧ orelseTokens orelse = s.tokens .elifKw ∧
        ∀ d, orelseText d orelse = s.text d false "elif") ∨
      orelseTokens orelse = clauseTokens .elseKw orelse (blockTokens orelse) ∧
        ∀ d, orelseText d orelse = clauseText d "else" orelse (blockText (d + 1) none orelse) := by
  match orelse with
  | [] => exact .inr ⟨rfl, fun _ => rfl⟩
  | [s] =>
    by_cases chain : s.isCondition = true
    · exact .inl ⟨s, rfl, chain, by simp [orelseTokens, chain], by simp [orelseText, chain]⟩
    · refine .inr ⟨?_, fun d => ?_⟩
      · simp [orelseTokens, chain, clauseTokens, blockTokens]
      · simp [orelseText, chain, clauseText, blockText, separation]
  | s :: t :: rest =>
    refine .inr ⟨?_, fun d => ?_⟩
    · simp [orelseTokens, clauseTokens, blockTokens]
    · simp [orelseText, clauseText, blockText, separation, String.append_assoc]

/-! ### Legible statements -/

/-- The expression may stand where a tuple needs no parentheses and no star is taken. -/
def Expr.isTestList (e : Expr) : Bool :=
  e.bareItems.all (Expr.standsAt Level.test)

theorem Expr.isItem_of_isTestList {e : Expr} (h : e.isTestList = true) : e.isItem = true := by
  cases e with
  | slice => cases h
  | _ => rfl

/-- The expression may be the target of a loop. -/
def Expr.isTarget (e : Expr) : Bool :=
  e.bareItems.all Expr.isTargetItem

/-- The expression is read back if it is the first statement of a block: a text over several lines
is written between triple quotes there. -/
def Expr.endsDoc (e : Expr) : Bool :=
  e.string?.all fun s => !s.toList.contains '\n' || Literal.endsDoc s.toList

/-- The statement may open a block. -/
def Stmt.opensBlock : Stmt → Bool
  | .expr e => e.endsDoc
  | _ => true

/-- The block may stand below a header. -/
def isSuite : Block → Bool
  | [] => false
  | s :: _ => s.opensBlock

theorem ne_nil_of_isSuite {body : Block} (h : isSuite body = true) : body ≠ [] := by
  rintro rfl
  cases h

/-- The path consists of identifiers. -/
def isPath (path : String) : Bool :=
  (splitAtChar '.' path).all isIdentifier

/-- The names of an import from a module can be read back. -/
def areImported (names : List Alias) : Bool :=
  names == [⟨"*", none⟩] ||
    !names.isEmpty && names.all fun a => isIdentifier a.name && a.asName.all isIdentifier

/-- The lines of the statement can only be read as the statement. -/
inductive LegibleStmt : Stmt → Prop where
  | expr {e : Expr} (value : Legible e) (item : e.isItem = true) : LegibleStmt (.expr e)
  | assign {targets : List Expr} {v : Expr} (filled : targets ≠ [])
      (legible : ∀ t ∈ targets, Legible t) (items : ∀ t ∈ targets, t.isItem = true)
      (value : Legible v) (item : v.isItem = true) : LegibleStmt (.assign targets v)
  | annAssign {t h : Expr} {v : Option Expr} (target : Legible t) (item : t.isItem = true)
      (hint : Legible h) (stands : h.standsAt Level.test = true) (value : ∀ e ∈ v, Legible e)
      (list : ∀ e ∈ v, e.isTestList = true) : LegibleStmt (.annAssign t h v)
  | augAssign {t v : Expr} {op : BinaryOp} (target : Legible t) (item : t.isItem = true)
      (value : Legible v) (list : v.isTestList = true) : LegibleStmt (.augAssign t op v)
  | ret {v : Option Expr} (value : ∀ e ∈ v, Legible e) (list : ∀ e ∈ v, e.isTestList = true) :
      LegibleStmt (.ret v)
  | pass : LegibleStmt .pass
  | breakLoop : LegibleStmt .breakLoop
  | continueLoop : LegibleStmt .continueLoop
  | raise {exception cause : Option Expr} (given : cause.isSome = true → exception.isSome = true)
      (legible : ∀ x ∈ [exception, cause], ∀ e ∈ x, Legible e)
      (stand : ∀ x ∈ [exception, cause], ∀ e ∈ x, e.standsAt Level.test = true) :
      LegibleStmt (.raise exception cause)
  | assertion {t : Expr} {message : Option Expr} (test : Legible t)
      (stands : t.standsAt Level.test = true) (legible : ∀ e ∈ message, Legible e)
      (stand : ∀ e ∈ message, e.standsAt Level.test = true) : LegibleStmt (.assertion t message)
  | delete {targets : List Expr} (filled : targets ≠ []) (legible : ∀ t ∈ targets, Legible t)
      (items : ∀ t ∈ targets, t.isItem = true) : LegibleStmt (.delete targets)
  | global {names : List String} (filled : names ≠ [])
      (identifiers : ∀ n ∈ names, isIdentifier n = true) : LegibleStmt (.global names)
  | importModules {names : List Alias} (filled : names ≠ [])
      (paths : ∀ a ∈ names, isPath a.name = true)
      (identifiers : ∀ a ∈ names, ∀ n ∈ a.asName, isIdentifier n = true) :
      LegibleStmt (.importModules names)
  | importFrom {module : String} {names : List Alias} (level : Nat)
      (path : module = "" ∨ isPath module = true) (imported : areImported names = true) :
      LegibleStmt (.importFrom module names level)
  | functionDef {name : String} {params : List (Param Expr)} {body : Block}
      {decorators : List Expr} {returns : Option Expr} {isAsync : Bool}
      (decorated : ∀ e ∈ decorators, Legible e)
      (stand : ∀ e ∈ decorators, e.standsAt Level.test = true)
      (identifier : isIdentifier name = true) (names : ∀ p ∈ params, isIdentifier p.name = true)
      (kinds : kindsStand false params = true) (hints : ∀ p ∈ params, ∀ e ∈ p.hint, Legible e)
      (presets : ∀ p ∈ params, ∀ e ∈ p.preset, Legible e)
      (paramsStand : ∀ p ∈ params, p.stands true = true) (result : ∀ e ∈ returns, Legible e)
      (stands : ∀ e ∈ returns, e.standsAt Level.test = true) (suite : isSuite body = true)
      (block : ∀ s ∈ body, LegibleStmt s) :
      LegibleStmt (.functionDef ⟨name, params, body, decorators, returns, isAsync⟩)
  | classDef {name : String} {bases : List Expr} {keywords : List (Argument Expr)} {body : Block}
      {decorators : List Expr} (decorated : ∀ e ∈ decorators, Legible e)
      (stand : ∀ e ∈ decorators, e.standsAt Level.test = true)
      (identifier : isIdentifier name = true) (legible : ∀ x ∈ bases, Legible x)
      (items : ∀ x ∈ bases, x.isItem = true)
      (names : ∀ k ∈ keywords, ∀ n ∈ k.name, isIdentifier n = true)
      (values : ∀ k ∈ keywords, Legible k.value)
      (stands : ∀ k ∈ keywords, k.value.standsAt (argumentLevel k.name) = true)
      (suite : isSuite body = true) (block : ∀ s ∈ body, LegibleStmt s) :
      LegibleStmt (.classDef ⟨name, bases, keywords, body, decorators⟩)
  | ifElse {t : Expr} {body orelse : Block} (test : Legible t)
      (stands : t.standsAt Level.test = true) (suite : isSuite body = true)
      (other : orelse ≠ [] → isSuite orelse = true) (block : ∀ s ∈ body, LegibleStmt s)
      (elseBlock : ∀ s ∈ orelse, LegibleStmt s) : LegibleStmt (.ifElse t body orelse)
  | whileLoop {t : Expr} {body orelse : Block} (test : Legible t)
      (stands : t.standsAt Level.test = true) (suite : isSuite body = true)
      (other : orelse ≠ [] → isSuite orelse = true) (block : ∀ s ∈ body, LegibleStmt s)
      (elseBlock : ∀ s ∈ orelse, LegibleStmt s) : LegibleStmt (.whileLoop t body orelse)
  | forLoop {t i : Expr} {body orelse : Block} (targets : ∀ x ∈ t.bareItems, Legible x)
      (target : t.isTarget = true) (iter : Legible i) (list : i.isTestList = true)
      (suite : isSuite body = true) (other : orelse ≠ [] → isSuite orelse = true)
      (block : ∀ s ∈ body, LegibleStmt s) (elseBlock : ∀ s ∈ orelse, LegibleStmt s) :
      LegibleStmt (.forLoop t i body orelse)
  | withBlock {items : List WithItem} {body : Block} (filled : items ≠ [])
      (contexts : ∀ x ∈ items, Legible x.context)
      (stand : ∀ x ∈ items, x.context.standsAt Level.test = true)
      (targets : ∀ x ∈ items, ∀ e ∈ x.target, Legible e)
      (isItem : ∀ x ∈ items, ∀ e ∈ x.target, e.isItem = true) (suite : isSuite body = true)
      (block : ∀ s ∈ body, LegibleStmt s) : LegibleStmt (.withBlock items body)
  | tryBlock {body : Block} {handlers : List (Handler Stmt)} {orelse finalBody : Block}
      (ends : handlers ≠ [] ∨ finalBody ≠ []) (suite : isSuite body = true)
      (kinds : ∀ h ∈ handlers, ∀ e ∈ h.kind, Legible e)
      (stand : ∀ h ∈ handlers, ∀ e ∈ h.kind, e.standsAt Level.test = true)
      (names : ∀ h ∈ handlers, ∀ n ∈ h.name, h.kind.isSome = true ∧ isIdentifier n = true)
      (suites : ∀ h ∈ handlers, isSuite h.body = true)
      (other : orelse ≠ [] → isSuite orelse = true)
      (final : finalBody ≠ [] → isSuite finalBody = true) (block : ∀ s ∈ body, LegibleStmt s)
      (handled : ∀ h ∈ handlers, ∀ s ∈ h.body, LegibleStmt s)
      (elseBlock : ∀ s ∈ orelse, LegibleStmt s) (finalBlock : ∀ s ∈ finalBody, LegibleStmt s) :
      LegibleStmt (.tryBlock body handlers orelse finalBody)

end RobotCell.Script
