import RobotCell.Proofs.Script.PlainExpr
import RobotCell.Proofs.Script.ReadStmt

/-!
# Block structure is read back

The blocks of a script are written with indentation, and the lexer tells them from it again. For
statements whose expressions are names, nothing else can go wrong: however deep the blocks are
nested and whichever clauses they have, every statement is found in its block again.

## Main definitions

- `IsSkeleton` — the statements whose expressions are names

## Main statements

- `IsSkeleton.legible` — such statements are legible
- `parse_render_skeleton` — the text of a script of such statements is read as the script
-/

namespace RobotCell.Script

/-- The parameter is a positional one, and its annotation and its default value are names. -/
def Param.isNamed (p : Param Expr) : Bool :=
  isIdentifier p.name && p.kind = .positional && p.hint.all Expr.isName && p.preset.all Expr.isName

/-- An exception handler has a name only with a type. -/
def Handler.isNamed (h : Handler Stmt) : Bool :=
  h.kind.all Expr.isName && h.name.all fun n => h.kind.isSome && isIdentifier n

/-- The imported name and the name it is bound to are identifiers. -/
def Alias.isNamed (a : Alias) : Bool :=
  isIdentifier a.name && a.asName.all isIdentifier

/-- The statement is built from names and from blocks that are not empty. -/
inductive IsSkeleton : Stmt → Prop where
  | pass : IsSkeleton .pass
  | breakLoop : IsSkeleton .breakLoop
  | continueLoop : IsSkeleton .continueLoop
  | expr {e : Expr} (names : e.isNameTarget = true) : IsSkeleton (.expr e)
  | assign {targets : List Expr} {v : Expr} (filled : targets ≠ [])
      (names : ∀ t ∈ targets, t.isNameTarget = true) (value : v.isNameTarget = true) :
      IsSkeleton (.assign targets v)
  | annAssign {t h : Expr} {v : Option Expr} (target : t.isName = true) (hint : h.isName = true)
      (value : ∀ e ∈ v, e.isNameTarget = true) : IsSkeleton (.annAssign t h v)
  | augAssign {t v : Expr} (op : BinaryOp) (target : t.isName = true)
      (value : v.isNameTarget = true) : IsSkeleton (.augAssign t op v)
  | ret {v : Option Expr} (value : ∀ e ∈ v, e.isNameTarget = true) : IsSkeleton (.ret v)
  | raise {exception cause : Option Expr} (given : cause.isSome = true → exception.isSome = true)
      (names : ∀ x ∈ [exception, cause], ∀ e ∈ x, e.isName = true) :
      IsSkeleton (.raise exception cause)
  | assertion {t : Expr} {message : Option Expr} (test : t.isName = true)
      (told : ∀ e ∈ message, e.isName = true) : IsSkeleton (.assertion t message)
  | delete {targets : List Expr} (filled : targets ≠ [])
      (names : ∀ t ∈ targets, t.isName = true) : IsSkeleton (.delete targets)
  | global {names : List String} (filled : names ≠ [])
      (identifiers : ∀ n ∈ names, isIdentifier n = true) : IsSkeleton (.global names)
  | importModules {names : List Alias} (filled : names ≠ [])
      (paths : ∀ a ∈ names, isPath a.name = true)
      (identifiers : ∀ a ∈ names, ∀ n ∈ a.asName, isIdentifier n = true) :
      IsSkeleton (.importModules names)
  | importFrom {module : String} {names : List Alias} (level : Nat)
      (path : module = "" ∨ isPath module = true) (filled : names ≠ [])
      (named : ∀ a ∈ names, a.isNamed = true) : IsSkeleton (.importFrom module names level)
  | functionDef {name : String} {params : List (Param Expr)} {body : Block}
      {decorators : List Expr} {returns : Option Expr} {isAsync : Bool}
      (decorated : ∀ e ∈ decorators, e.isName = true) (identifier : isIdentifier name = true)
      (named : ∀ p ∈ params, p.isNamed = true) (result : ∀ e ∈ returns, e.isName = true)
      (filled : body ≠ []) (block : ∀ s ∈ body, IsSkeleton s) :
      IsSkeleton (.functionDef ⟨name, params, body, decorators, returns, isAsync⟩)
  | classDef {name : String} {bases : List Expr} {keywords : List (Argument Expr)} {body : Block}
      {decorators : List Expr} (decorated : ∀ e ∈ decorators, e.isName = true)
      (identifier : isIdentifier name = true) (names : ∀ e ∈ bases, e.isName = true)
      (keys : ∀ k ∈ keywords, ∀ n ∈ k.name, isIdentifier n = true)
      (values : ∀ k ∈ keywords, k.value.isName = true) (filled : body ≠ [])
      (block : ∀ s ∈ body, IsSkeleton s) :
      IsSkeleton (.classDef ⟨name, bases, keywords, body, decorators⟩)
  | ifElse {t : Expr} {body orelse : Block} (test : t.isName = true) (filled : body ≠ [])
      (block : ∀ s ∈ body, IsSkeleton s) (elseBlock : ∀ s ∈ orelse, IsSkeleton s) :
      IsSkeleton (.ifElse t body orelse)
  | whileLoop {t : Expr} {body orelse : Block} (test : t.isName = true) (filled : body ≠ [])
      (block : ∀ s ∈ body, IsSkeleton s) (elseBlock : ∀ s ∈ orelse, IsSkeleton s) :
      IsSkeleton (.whileLoop t body orelse)
  | forLoop {t i : Expr} {body orelse : Block} (target : t.isNameTarget = true)
      (iter : i.isNameTarget = true) (filled : body ≠ []) (block : ∀ s ∈ body, IsSkeleton s)
      (elseBlock : ∀ s ∈ orelse, IsSkeleton s) : IsSkeleton (.forLoop t i body orelse)
  | withBlock {items : List WithItem} {body : Block} (given : items ≠ [])
      (contexts : ∀ x ∈ items, x.context.isName = true)
      (targets : ∀ x ∈ items, ∀ e ∈ x.target, e.isName = true) (filled : body ≠ [])
      (block : ∀ s ∈ body, IsSkeleton s) : IsSkeleton (.withBlock items body)
  | tryBlock {body : Block} {handlers : List (Handler Stmt)} {orelse finalBody : Block}
      (ends : handlers ≠ [] ∨ finalBody ≠ []) (filled : body ≠ [])
      (named : ∀ h ∈ handlers, h.isNamed = true) (filledHandlers : ∀ h ∈ handlers, h.body ≠ [])
      (block : ∀ s ∈ body, IsSkeleton s) (handled : ∀ h ∈ handlers, ∀ s ∈ h.body, IsSkeleton s)
      (elseBlock : ∀ s ∈ orelse, IsSkeleton s) (finalBlock : ∀ s ∈ finalBody, IsSkeleton s) :
      IsSkeleton (.tryBlock body handlers orelse finalBody)

/-! ### Names in their places -/

namespace Expr

variable {e : Expr}

theorem standsAt_of_isName (h : e.isName = true) (least : Nat) : e.standsAt least = true := by
  cases e with
  | name id => rfl
  | _ => cases h

theorem isItem_of_isName (h : e.isName = true) : e.isItem = true :=
  isItem_of_standsAt (standsAt_of_isName h Level.test)

theorem legible_of_isNameTarget (h : e.isNameTarget = true) : Legible e := by
  have items := isNameTarget_iff.1 h
  cases e with
  | tuple xs =>
    cases xs with
    | nil => cases h
    | cons x xs =>
      exact .tuple (fun y hy => legible_of_isName (items y hy))
        fun y hy => isItem_of_isName (items y hy)
  | name id => exact .name h
  | _ => cases h

theorem isTestList_of_isNameTarget (h : e.isNameTarget = true) : e.isTestList = true :=
  List.all_eq_true.2 fun x hx => standsAt_of_isName (isNameTarget_iff.1 h x hx) _

theorem isItem_of_isNameTarget (h : e.isNameTarget = true) : e.isItem = true :=
  isItem_of_isTestList (isTestList_of_isNameTarget h)

end Expr

/-- A name is no text, so it does not change when it opens a block. -/
theorem IsSkeleton.isSuite {body : Block} (filled : body ≠ []) (h : ∀ s ∈ body, IsSkeleton s) :
    isSuite body = true := by
  cases body with
  | nil => exact absurd rfl filled
  | cons s body =>
    cases h s List.mem_cons_self with
    | @expr e names =>
      cases e with
      | constant => cases names
      | _ => rfl
    | _ => rfl

open Script.Expr in
theorem IsSkeleton.legible {s : Stmt} (h : IsSkeleton s) : LegibleStmt s := by
  induction h with
  | pass => exact .pass
  | breakLoop => exact .breakLoop
  | continueLoop => exact .continueLoop
  | expr names => exact .expr (legible_of_isNameTarget names) (isItem_of_isNameTarget names)
  | assign filled names value =>
    exact .assign filled (fun t ht => legible_of_isNameTarget (names t ht))
      (fun t ht => isItem_of_isNameTarget (names t ht)) (legible_of_isNameTarget value)
      (isItem_of_isNameTarget value)
  | annAssign target hint value =>
    exact .annAssign (legible_of_isName target) (isItem_of_isName target) (legible_of_isName hint)
      (standsAt_of_isName hint _) (fun e he => legible_of_isNameTarget (value e he))
      fun e he => isTestList_of_isNameTarget (value e he)
  | augAssign op target value =>
    exact .augAssign (legible_of_isName target) (isItem_of_isName target)
      (legible_of_isNameTarget value) (isTestList_of_isNameTarget value)
  | ret value =>
    exact .ret (fun e he => legible_of_isNameTarget (value e he))
      fun e he => isTestList_of_isNameTarget (value e he)
  | raise given names =>
    exact .raise given (fun x hx e he => legible_of_isName (names x hx e he))
      fun x hx e he => standsAt_of_isName (names x hx e he) _
  | assertion test told =>
    exact .assertion (legible_of_isName test) (standsAt_of_isName test _)
      (fun e he => legible_of_isName (told e he)) fun e he => standsAt_of_isName (told e he) _
  | delete filled names =>
    exact .delete filled (fun t ht => legible_of_isName (names t ht))
      fun t ht => isItem_of_isName (names t ht)
  | global filled identifiers => exact .global filled identifiers
  | importModules filled paths identifiers => exact .importModules filled paths identifiers
  | importFrom level path filled named =>
    refine .importFrom level path ?_
    simp only [areImported, Bool.or_eq_true, Bool.and_eq_true]
    exact .inr ⟨by simpa using filled, List.all_eq_true.2 named⟩
  | functionDef decorated identifier named result filled block ih =>
    simp only [Param.isNamed, Bool.and_eq_true, decide_eq_true_eq, Option.all_eq_true] at named
    refine .functionDef (fun e he => legible_of_isName (decorated e he))
      (fun e he => standsAt_of_isName (decorated e he) _) identifier (fun p hp => (named p hp).1.1.1)
      (kindsStand_of_positional fun p hp => (named p hp).1.1.2) (fun p hp e he => legible_of_isName ((named p hp).1.2 e he))
      (fun p hp e he => legible_of_isName ((named p hp).2 e he)) (fun p hp => ?_)
      (fun e he => legible_of_isName (result e he)) (fun e he => standsAt_of_isName (result e he) _)
      (isSuite filled block) ih
    simp only [Param.stands, Bool.and_eq_true, Option.all_eq_true, (named p hp).1.1.2]
    exact ⟨fun e he => ⟨trivial, standsAt_of_isName ((named p hp).1.2 e he) _⟩,
      fun e he => ⟨rfl, standsAt_of_isName ((named p hp).2 e he) _⟩⟩
  | classDef decorated identifier names keys values filled block ih =>
    exact .classDef (fun e he => legible_of_isName (decorated e he))
      (fun e he => standsAt_of_isName (decorated e he) _) identifier
      (fun e he => legible_of_isName (names e he)) (fun e he => isItem_of_isName (names e he)) keys
      (fun k hk => legible_of_isName (values k hk))
      (fun k hk => standsAt_of_isName (values k hk) _) (isSuite filled block) ih
  | ifElse test filled block elseBlock ih ihElse =>
    exact .ifElse (legible_of_isName test) (standsAt_of_isName test _) (isSuite filled block)
      (fun other => isSuite other elseBlock) ih ihElse
  | whileLoop test filled block elseBlock ih ihElse =>
    exact .whileLoop (legible_of_isName test) (standsAt_of_isName test _) (isSuite filled block)
      (fun other => isSuite other elseBlock) ih ihElse
  | forLoop target iter filled block elseBlock ih ihElse =>
    have items := isNameTarget_iff.1 target
    exact .forLoop (fun x hx => legible_of_isName (items x hx))
      (List.all_eq_true.2 fun x hx => isTargetItem_of_isName (items x hx))
      (legible_of_isNameTarget iter) (isTestList_of_isNameTarget iter) (isSuite filled block)
      (fun other => isSuite other elseBlock) ih ihElse
  | withBlock given contexts targets filled block ih =>
    exact .withBlock given (fun x hx => legible_of_isName (contexts x hx))
      (fun x hx => standsAt_of_isName (contexts x hx) _)
      (fun x hx e he => legible_of_isName (targets x hx e he))
      (fun x hx e he => isItem_of_isName (targets x hx e he)) (isSuite filled block) ih
  | tryBlock ends filled named filledHandlers block handled elseBlock finalBlock ih ihHandled ihElse
      ihFinal =>
    simp only [Handler.isNamed, Bool.and_eq_true, Option.all_eq_true] at named
    exact .tryBlock ends (isSuite filled block)
      (fun h hh e he => legible_of_isName ((named h hh).1 e he))
      (fun h hh e he => standsAt_of_isName ((named h hh).1 e he) _)
      (fun h hh => (named h hh).2) (fun h hh => isSuite (filledHandlers h hh) (handled h hh))
      (fun other => isSuite other elseBlock) (fun final => isSuite final finalBlock) ih ihHandled
      ihElse ihFinal

/-! ### Reading the text of a script -/

/-- A script of legible statements is always written. -/
theorem render_eq_ok {script : Block} (h : ∀ s ∈ script, LegibleStmt s) :
    render script = .ok (blockText 0 none script) := by
  rw [render, checkBlock_eq_ok_iff.2 fun s hs => (h s hs).check_eq_ok]
  rfl

/-- A script whose statements are built from names is always written, and its text is read as the
same script, however deep its blocks are nested. -/
theorem parse_render_skeleton {script : Block} (h : ∀ s ∈ script, IsSkeleton s) :
    ∃ text, render script = .ok text ∧ parse text = .ok script := by
  have legible : ∀ s ∈ script, LegibleStmt s := fun s hs => (h s hs).legible
  refine ⟨_, render_eq_ok legible, ?_⟩
  have read : parse ("" ++ blockText 0 none script) = .ok script :=
    parse_blockText legible isBlankLines_nil
  rwa [String.empty_append] at read

/-- A class with a method whose blocks hold most kinds of blocks, some of them as the last one of
several that end in the same line. -/
theorem parse_render_skeleton_nested :
    let name (id : String) : Expr := .name id
    let loop : Stmt := .whileLoop (name "b") [.ifElse (name "c") [.breakLoop] []] [.continueLoop]
    let choice : Stmt := .ifElse (name "a") [.pass] [.ifElse (name "b") [loop] [.ret none]]
    let scan : Stmt := .forLoop (.tuple [name "i", name "k"]) (name "xs")
      [.withBlock [⟨name "r", some (name "s")⟩] [.augAssign (name "i") .add (name "k")]] []
    let guarded : Stmt := .tryBlock [choice] [⟨some (name "E"), some "e", [.raise none none]⟩] []
      [scan]
    let method : Stmt := .functionDef ⟨"f", [⟨"x", .positional, some (name "T"), none⟩], [guarded],
      [name "d"], some (name "T"), true⟩
    let script : Block := [.importFrom "m.n" [⟨"T", none⟩] 2,
      .classDef ⟨"A", [name "T"], [], [method, .expr (name "x")], []⟩]
    (∀ s ∈ script, IsSkeleton s) ∧
      ∃ text, render script = .ok text ∧ parse text = .ok script := by
  intro name loop choice scan guarded method script
  have one {s : Stmt} (h : IsSkeleton s) : ∀ t ∈ [s], IsSkeleton t := List.forall_mem_singleton.2 h
  have none : ∀ t ∈ [], IsSkeleton t := List.forall_mem_nil _
  have loopIs : IsSkeleton loop :=
    .whileLoop (by decide) (by simp) (one (.ifElse (by decide) (by simp) (one .breakLoop) none))
      (one .continueLoop)
  have choiceIs : IsSkeleton choice :=
    .ifElse (by decide) (by simp) (one .pass)
      (one (.ifElse (by decide) (by simp) (one loopIs) (one (.ret (by simp)))))
  have scanIs : IsSkeleton scan :=
    .forLoop (by decide) (by decide) (by simp) (one (.withBlock (by simp) (by decide) (by decide)
      (by simp) (one (.augAssign _ (by decide) (by decide))))) none
  have guardedIs : IsSkeleton guarded :=
    .tryBlock (by simp) (by simp) (by decide) (by simp) (one choiceIs)
      (List.forall_mem_singleton.2 (one (.raise (by simp) (by simp)))) none (one scanIs)
  have methodIs : IsSkeleton method :=
    .functionDef (by decide) (by decide) (by decide) (by decide) (by simp) (one guardedIs)
  have classIs : IsSkeleton (.classDef ⟨"A", [name "T"], [], [method, .expr (name "x")], []⟩) :=
    .classDef (by simp) (by decide) (by decide) (by simp) (by simp) (by simp)
      (List.forall_mem_cons.2 ⟨methodIs, one (.expr (by decide))⟩)
  have skeleton : ∀ s ∈ script, IsSkeleton s :=
    List.forall_mem_cons.2 ⟨.importFrom 2 (.inr (by decide)) (by simp) (by decide), one classIs⟩
  exact ⟨skeleton, parse_render_skeleton skeleton⟩

end RobotCell.Script
