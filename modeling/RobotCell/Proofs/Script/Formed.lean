import RobotCell.Proofs.Script.StmtTokens

/-!
# Trees that the grammar yields

A tree that was read from a text is not any tree: its words are identifiers, its literals can be
read, and each form has the parts that the grammar asks for. Slices stand in subscripts only. Where
the parts stand is left open, since parentheses let any expression stand anywhere.

## Main definitions

- `Formed` — the expressions that the grammar yields
- `FormedStmt` — the statements that the grammar yields
-/

namespace RobotCell.Script

/-! ### Expressions -/

/-- The items of a subscript. -/
def Expr.indexItems : Expr → List Expr
  | .tuple items => items
  | e => [e]

/-- The expressions in an item of a subscript, which may be a slice. -/
def Expr.bounds : Expr → List Expr
  | .slice lower upper step => lower.toList ++ upper.toList ++ step.toList
  | e => [e]

/-- The parameter has an annotation only where they are allowed, and a default value only if it is
not behind a star of its own. -/
def Param.isShaped (annotated : Bool) (p : Param Expr) : Bool :=
  (annotated || p.hint.isNone) &&
    (p.preset.isNone || p.kind = .positional || p.kind = .keywordOnly)

/-- The expression is one that the grammar yields. -/
inductive Formed : Expr → Prop where
  | name {id : String} (identifier : isIdentifier id = true) : Formed (.name id)
  | constant {c : Constant} (constant : c.IsLegible) : Formed (.constant c)
  | dotted {e : Expr} {attr : String} (value : Formed e) (identifier : isIdentifier attr = true) :
      Formed (.attribute e attr)
  | subscript {e i : Expr} (value : Formed e)
      (index : ∀ x ∈ i.indexItems, ∀ y ∈ x.bounds, Formed y) : Formed (.subscript e i)
  | call {e : Expr} {args : List Expr} {keywords : List (Argument Expr)} (func : Formed e)
      (formed : ∀ x ∈ args, Formed x)
      (names : ∀ k ∈ keywords, ∀ n ∈ k.name, isIdentifier n = true)
      (values : ∀ k ∈ keywords, Formed k.value) : Formed (.call e args keywords)
  | starred {e : Expr} (value : Formed e) : Formed (.starred e)
  | list {items : List Expr} (formed : ∀ x ∈ items, Formed x) : Formed (.list items)
  | tuple {items : List Expr} (formed : ∀ x ∈ items, Formed x) : Formed (.tuple items)
  | set {items : List Expr} (filled : items ≠ []) (formed : ∀ x ∈ items, Formed x) :
      Formed (.set items)
  | dict {entries : List (Expr × Expr)} (keys : ∀ x ∈ entries, Formed x.1)
      (values : ∀ x ∈ entries, Formed x.2) : Formed (.dict entries)
  | comprehension {kind : ComprehensionKind} {e : Expr} {clauses : List (Clause Expr)}
      (element : Formed e) (filled : clauses ≠ []) (targets : ∀ c ∈ clauses, Formed c.target)
      (iters : ∀ c ∈ clauses, Formed c.iter)
      (conditions : ∀ c ∈ clauses, ∀ x ∈ c.conditions, Formed x) :
      Formed (.comprehension kind e clauses)
  | dictComprehension {k v : Expr} {clauses : List (Clause Expr)} (key : Formed k)
      (value : Formed v) (filled : clauses ≠ []) (targets : ∀ c ∈ clauses, Formed c.target)
      (iters : ∀ c ∈ clauses, Formed c.iter)
      (conditions : ∀ c ∈ clauses, ∀ x ∈ c.conditions, Formed x) :
      Formed (.dictComprehension k v clauses)
  | unary {op : UnaryOp} {e : Expr} (operand : Formed e) : Formed (.unary op e)
  | binary {l r : Expr} {op : BinaryOp} (left : Formed l) (right : Formed r) :
      Formed (.binary l op r)
  | logic {op : LogicOp} {values : List Expr} (several : 2 ≤ values.length)
      (formed : ∀ x ∈ values, Formed x) : Formed (.logic op values)
  | compare {e : Expr} {ops : List CompareOp} {comparators : List Expr} (left : Formed e)
      (filled : ops ≠ []) (even : ops.length = comparators.length)
      (formed : ∀ x ∈ comparators, Formed x) : Formed (.compare e ops comparators)
  | conditional {t b o : Expr} (test : Formed t) (body : Formed b) (orelse : Formed o) :
      Formed (.conditional t b o)
  | lambda {params : List (Param Expr)} {b : Expr}
      (names : ∀ p ∈ params, isIdentifier p.name = true) (kinds : kindsStand false params = true)
      (shaped : ∀ p ∈ params, p.isShaped false = true)
      (presets : ∀ p ∈ params, ∀ e ∈ p.preset, Formed e) (body : Formed b) :
      Formed (.lambda params b)
  | await {e : Expr} (value : Formed e) : Formed (.await e)
  | named {target : String} {e : Expr} (identifier : isIdentifier target = true)
      (value : Formed e) : Formed (.named target e)

theorem Formed.isItem {e : Expr} (h : Formed e) : e.isItem = true := by
  cases h <;> rfl

theorem Formed.bounds_eq {e : Expr} (h : Formed e) : e.bounds = [e] := by
  cases h <;> rfl

/-- An item of a subscript that stands alone is all of the subscript. -/
theorem formed_of_mem_indexItems {e : Expr} (h : ∀ y ∈ e.bounds, Formed y) :
    ∀ x ∈ e.indexItems, ∀ y ∈ x.bounds, Formed y := by
  cases e with
  | tuple items =>
    intro x hx y hy
    cases h _ (List.mem_singleton_self _) with
    | tuple formed =>
      rw [(formed x hx).bounds_eq, List.mem_singleton] at hy
      exact hy ▸ formed x hx
  | _ => exact List.forall_mem_singleton.2 h

/-! ### Statements -/

/-- The statement is one that the grammar yields. Its blocks may be empty: a line that is joined to
a blank one opens a block without statements. -/
inductive FormedStmt : Stmt → Prop where
  | expr {e : Expr} (value : Formed e) : FormedStmt (.expr e)
  | assign {targets : List Expr} {v : Expr} (filled : targets ≠ [])
      (formed : ∀ t ∈ targets, Formed t) (value : Formed v) : FormedStmt (.assign targets v)
  | annAssign {t h : Expr} {v : Option Expr} (target : Formed t) (hint : Formed h)
      (value : ∀ e ∈ v, Formed e) : FormedStmt (.annAssign t h v)
  | augAssign {t v : Expr} {op : BinaryOp} (target : Formed t) (value : Formed v) :
      FormedStmt (.augAssign t op v)
  | ret {v : Option Expr} (value : ∀ e ∈ v, Formed e) : FormedStmt (.ret v)
  | pass : FormedStmt .pass
  | breakLoop : FormedStmt .breakLoop
  | continueLoop : FormedStmt .continueLoop
  | raise {exception cause : Option Expr} (given : cause.isSome = true → exception.isSome = true)
      (formed : ∀ x ∈ [exception, cause], ∀ e ∈ x, Formed e) : FormedStmt (.raise exception cause)
  | assertion {t : Expr} {message : Option Expr} (test : Formed t)
      (formed : ∀ e ∈ message, Formed e) : FormedStmt (.assertion t message)
  | delete {targets : List Expr} (filled : targets ≠ []) (formed : ∀ t ∈ targets, Formed t) :
      FormedStmt (.delete targets)
  | global {names : List String} (filled : names ≠ [])
      (identifiers : ∀ n ∈ names, isIdentifier n = true) : FormedStmt (.global names)
  | importModules {names : List Alias} (filled : names ≠ [])
      (paths : ∀ a ∈ names, isPath a.name = true)
      (identifiers : ∀ a ∈ names, ∀ n ∈ a.asName, isIdentifier n = true) :
      FormedStmt (.importModules names)
  | importFrom {module : String} {names : List Alias} (level : Nat)
      (path : module = "" ∨ isPath module = true) (imported : areImported names = true) :
      FormedStmt (.importFrom module names level)
  | functionDef {name : String} {params : List (Param Expr)} {body : Block}
      {decorators : List Expr} {returns : Option Expr} {isAsync : Bool}
      (decorated : ∀ e ∈ decorators, Formed e) (identifier : isIdentifier name = true)
      (names : ∀ p ∈ params, isIdentifier p.name = true) (kinds : kindsStand false params = true)
      (shaped : ∀ p ∈ params, p.isShaped true = true) (hints : ∀ p ∈ params, ∀ e ∈ p.hint, Formed e)
      (presets : ∀ p ∈ params, ∀ e ∈ p.preset, Formed e) (result : ∀ e ∈ returns, Formed e)
      (block : ∀ s ∈ body, FormedStmt s) :
      FormedStmt (.functionDef ⟨name, params, body, decorators, returns, isAsync⟩)
  | classDef {name : String} {bases : List Expr} {keywords : List (Argument Expr)} {body : Block}
      {decorators : List Expr} (decorated : ∀ e ∈ decorators, Formed e)
      (identifier : isIdentifier name = true) (formed : ∀ x ∈ bases, Formed x)
      (names : ∀ k ∈ keywords, ∀ n ∈ k.name, isIdentifier n = true)
      (values : ∀ k ∈ keywords, Formed k.value) (block : ∀ s ∈ body, FormedStmt s) :
      FormedStmt (.classDef ⟨name, bases, keywords, body, decorators⟩)
  | ifElse {t : Expr} {body orelse : Block} (test : Formed t) (block : ∀ s ∈ body, FormedStmt s)
      (elseBlock : ∀ s ∈ orelse, FormedStmt s) : FormedStmt (.ifElse t body orelse)
  | whileLoop {t : Expr} {body orelse : Block} (test : Formed t)
      (block : ∀ s ∈ body, FormedStmt s) (elseBlock : ∀ s ∈ orelse, FormedStmt s) :
      FormedStmt (.whileLoop t body orelse)
  | forLoop {t i : Expr} {body orelse : Block} (target : Formed t) (iter : Formed i)
      (block : ∀ s ∈ body, FormedStmt s) (elseBlock : ∀ s ∈ orelse, FormedStmt s) :
      FormedStmt (.forLoop t i body orelse)
  | withBlock {items : List WithItem} {body : Block} (filled : items ≠ [])
      (contexts : ∀ x ∈ items, Formed x.context)
      (targets : ∀ x ∈ items, ∀ e ∈ x.target, Formed e) (block : ∀ s ∈ body, FormedStmt s) :
      FormedStmt (.withBlock items body)
  | tryBlock {body : Block} {handlers : List (Handler Stmt)} {orelse finalBody : Block}
      (ends : handlers ≠ [] ∨ finalBody ≠ [])
      (kinds : ∀ h ∈ handlers, ∀ e ∈ h.kind, Formed e)
      (names : ∀ h ∈ handlers, ∀ n ∈ h.name, h.kind.isSome = true ∧ isIdentifier n = true)
      (block : ∀ s ∈ body, FormedStmt s)
      (handled : ∀ h ∈ handlers, ∀ s ∈ h.body, FormedStmt s)
      (elseBlock : ∀ s ∈ orelse, FormedStmt s) (finalBlock : ∀ s ∈ finalBody, FormedStmt s) :
      FormedStmt (.tryBlock body handlers orelse finalBody)

end RobotCell.Script
