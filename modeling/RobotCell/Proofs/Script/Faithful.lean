import RobotCell.Proofs.Script.Checked
import RobotCell.Proofs.Script.ReadStmt
import RobotCell.Proofs.Script.SoundStmt

/-!
# Scripts that are written as they were read

Parentheses are no part of a tree. When a script is written again, they are set where the levels of
the grammar ask for them, but some places ask for more: a decimal number before a point, a tuple of
one item in a subscript, a star where none is taken, a comparison as the target of a loop. There the
text that is written is another script, or none. A text over several lines that opens a block is
written between triple quotes, and must not end in a quote.

A script is faithful if none of its parts stands in such a place. What this asks for is said for the
parts right below an expression or a statement, and then for all of them. All else that reading back
needs holds of every script that was read, since its trees are formed.

## Main definitions

- `Expr.parts`, `Expr.placesParts` — what is right below an expression, and if it may stand there
- `Faithful`, `FaithfulStmt` — no part stands in a place where its text is read as something else

## Main results

- `Formed.legible`, `FormedStmt.legible` — faithful trees that were read are read back
- `parse_of_render_of_parse` — a faithful script is read from the text that is written for it
- `isLost_in_places` — scripts that are not
-/

namespace RobotCell.Script

/-! ### Expressions -/

/-- The expressions of a clause. -/
def Clause.parts (c : Clause Expr) : List Expr :=
  c.target :: c.iter :: c.conditions

/-- The default value of the parameter and its annotation may stand in their places. -/
def Param.placesParts (p : Param Expr) : Bool :=
  p.hint.all (Expr.standsAt Level.test) && p.preset.all (Expr.standsAt Level.test)

namespace Expr

/-- The expressions right below an expression. -/
def parts : Expr → List Expr
  | .name _ | .constant _ => []
  | .attribute value _ => [value]
  | .subscript value index => [value, index]
  | .slice lower upper step => lower.toList ++ upper.toList ++ step.toList
  | .call func args keywords => func :: (args ++ keywords.map (·.value))
  | .starred value | .unary _ value | .await value | .named _ value => [value]
  | .list items | .tuple items | .set items | .logic _ items => items
  | .dict entries => entries.map (·.1) ++ entries.map (·.2)
  | .comprehension _ element clauses => element :: clauses.flatMap Clause.parts
  | .dictComprehension key value clauses => key :: value :: clauses.flatMap Clause.parts
  | .binary left _ right => [left, right]
  | .compare left _ comparators => left :: comparators
  | .conditional test body orelse => [test, body, orelse]
  | .lambda params body => body :: params.flatMap (·.preset.toList)

/-- The expression may be all that is between the brackets of a subscript. The parentheses of a
tuple are left out there, so that one of a single item would be taken for the item. -/
def fillsSubscript : Expr → Bool
  | .tuple items => items.length ≠ 1 && items.all isSubscriptItem
  | e => e.isSubscriptItem

/-- The parts right below the expression may stand in their places. -/
def placesParts : Expr → Bool
  | .attribute value _ => value.takesPoint
  | .subscript _ index => index.fillsSubscript
  | .slice lower upper step =>
    (lower.toList ++ upper.toList ++ step.toList).all (standsAt Level.test)
  | .call _ _ keywords => keywords.all fun k => k.value.standsAt (argumentLevel k.name)
  | .starred value => value.standsAt Level.bitOr
  | .dict entries =>
    (entries.tail.all fun x => x.1.standsAt Level.test) &&
      entries.all fun x => x.2.standsAt Level.test
  | .comprehension _ _ clauses => clauses.all Clause.stands
  | .dictComprehension _ value clauses =>
    value.standsAt Level.test && clauses.all Clause.stands
  | .unary op operand => operand.standsAt op.level
  | .binary left op right => left.standsAt op.leftLevel && right.standsAt op.rightLevel
  | .logic op values => values.all (standsAt (op.level + 1))
  | .compare left _ comparators =>
    left.standsAt Level.bitOr && comparators.all (standsAt Level.bitOr)
  | .conditional test body orelse =>
    test.standsAt Level.disjunction && body.standsAt Level.disjunction &&
      orelse.standsAt Level.test
  | .lambda params body => params.all Param.placesParts && body.standsAt Level.test
  | .named _ value => value.standsAt Level.test
  | .name _ | .constant _ | .list _ | .tuple _ | .set _ | .await _ => true

end Expr

/-- No part of the expression stands in a place where its text is read as something else. -/
inductive Faithful : Expr → Prop where
  | intro {e : Expr} (places : e.placesParts = true) (parts : ∀ x ∈ e.parts, Faithful x) :
      Faithful e

theorem Faithful.places {e : Expr} (h : Faithful e) : e.placesParts = true := by
  cases h with
  | intro places _ => exact places

theorem Faithful.part {e x : Expr} (h : Faithful e) (hx : x ∈ e.parts) : Faithful x := by
  cases h with
  | intro _ parts => exact parts x hx

theorem faithful_iff {e : Expr} :
    Faithful e ↔ e.placesParts = true ∧ ∀ x ∈ e.parts, Faithful x :=
  ⟨fun h => ⟨h.places, fun _ => h.part⟩, fun h => .intro h.1 h.2⟩

theorem Param.stands_of_isShaped {annotated : Bool} {p : Param Expr}
    (shaped : p.isShaped annotated = true) (places : p.placesParts = true) :
    p.stands annotated = true := by
  obtain ⟨name, kind, hint, preset⟩ := p
  cases hint <;> cases preset <;> simp_all [isShaped, placesParts, stands]

/-- An item of a subscript is legible if the expressions in it are. -/
theorem legible_of_bounds {e : Expr} (h : ∀ y ∈ e.bounds, Faithful y → Legible y)
    (faithful : Faithful e) : Legible e := by
  cases e with
  | slice lower upper step =>
    have listed {x : Option Expr} {y : Expr} (hx : x ∈ [lower, upper, step]) (hy : y ∈ x) :
        y ∈ lower.toList ++ upper.toList ++ step.toList := by
      simp only [List.mem_cons, List.not_mem_nil, or_false] at hx
      rcases hx with rfl | rfl | rfl <;> simp_all
    refine .slice (fun x hx y hy => ?_) fun x hx y hy => ?_
    · exact h y (listed hx hy) (faithful.part (listed hx hy))
    · exact List.all_eq_true.1 faithful.places y (listed hx hy)
  | _ => exact h _ (List.mem_singleton_self _) faithful

/-- What fills a subscript is a list of several items, or a single one. -/
theorem legible_subscript {e i : Expr} (value : Legible e) (item : e.isItem = true)
    (index : ∀ x ∈ i.indexItems, ∀ y ∈ x.bounds, Faithful y → Legible y) (faithful : Faithful i)
    (fills : i.fillsSubscript = true) : Legible (.subscript e i) := by
  have single (alone : i.indexItems = [i]) (isIndex : i.isIndex = true) :
      Legible (.subscript e i) := by
    rw [alone] at index
    exact .subscript value item
      (legible_of_bounds (index i (List.mem_singleton_self i)) faithful) isIndex
  cases i with
  | tuple items =>
    have legible : ∀ x ∈ items, Legible x := fun x hx =>
      legible_of_bounds (index x hx) (faithful.part hx)
    simp only [Expr.fillsSubscript, Bool.and_eq_true, decide_eq_true_eq, List.all_eq_true] at fills
    by_cases empty : items = []
    · -- the empty tuple keeps its parentheses and stands as a single item
      subst empty
      exact .subscript value item (.tuple legible (List.forall_mem_nil _)) rfl
    · have several : 2 ≤ items.length := by
        have := List.length_pos_iff.2 empty
        omega
      exact .subscriptMany value item several legible fills.2
  | _ => exact single rfl fills

theorem forall_mem_clauses {clauses : List (Clause Expr)} {P : Expr → Prop} :
    (∀ x ∈ clauses.flatMap Clause.parts, P x) ↔ (∀ c ∈ clauses, P c.target) ∧
      (∀ c ∈ clauses, P c.iter) ∧ ∀ c ∈ clauses, ∀ x ∈ c.conditions, P x := by
  simp only [List.forall_mem_flatMap, Clause.parts, List.forall_mem_cons, forall_and]

/-- A faithful expression that was read is read back. -/
theorem Formed.legible {e : Expr} (h : Formed e) (faithful : Faithful e) : Legible e := by
  have items {l : List Expr} (formed : ∀ x ∈ l, Formed x) : ∀ x ∈ l, x.isItem = true :=
    fun x hx => (formed x hx).isItem
  induction h with
  | name identifier => exact .name identifier
  | constant constant => exact .constant constant
  | dotted value identifier ih =>
    have part := faithful.part (List.mem_singleton_self _)
    exact .dotted (ih part) value.isItem faithful.places identifier
  | subscript value index ihValue ihIndex =>
    obtain ⟨places, parts⟩ := faithful_iff.1 faithful
    simp only [Expr.parts, List.forall_mem_cons] at parts
    exact legible_subscript (ihValue parts.1) value.isItem ihIndex parts.2.1 places
  | call func formed names values ihFunc ihArgs ihValues =>
    obtain ⟨places, parts⟩ := faithful_iff.1 faithful
    simp only [Expr.parts, List.forall_mem_cons, List.forall_mem_append, List.forall_mem_map]
      at parts
    obtain ⟨func', args', values'⟩ := parts
    exact .call (ihFunc func') func.isItem (fun x hx => ihArgs x hx (args' x hx)) (items formed)
      names (fun k hk => ihValues k hk (values' k hk)) (List.all_eq_true.1 places)
  | starred value ih =>
    exact .starred (ih (faithful.part (List.mem_singleton_self _))) faithful.places
  | list formed ih => exact .list (fun x hx => ih x hx (faithful.part hx)) (items formed)
  | tuple formed ih => exact .tuple (fun x hx => ih x hx (faithful.part hx)) (items formed)
  | set filled formed ih =>
    exact .set filled (fun x hx => ih x hx (faithful.part hx)) (items formed)
  | dict keys values ihKeys ihValues =>
    obtain ⟨places, parts⟩ := faithful_iff.1 faithful
    simp only [Expr.placesParts, Bool.and_eq_true, List.all_eq_true] at places
    simp only [Expr.parts, List.forall_mem_append, List.forall_mem_map] at parts
    exact .dict (fun x hx => ihKeys x hx (parts.1 x hx)) (fun x hx => ihValues x hx (parts.2 x hx))
      (fun x hx => (keys x (List.mem_of_mem_head? hx)).isItem) places.1 places.2
  | comprehension element filled targets iters conditions ihElement ihTargets ihIters ihConds =>
    obtain ⟨places, parts⟩ := faithful_iff.1 faithful
    simp only [Expr.parts, List.forall_mem_cons, forall_mem_clauses] at parts
    obtain ⟨element', targets', iters', conditions'⟩ := parts
    exact .comprehension (ihElement element') element.isItem filled
      (fun c hc => (ihTargets c hc (targets' c hc)).bareItems)
      (fun c hc => ihIters c hc (iters' c hc))
      (fun c hc x hx => ihConds c hc x hx (conditions' c hc x hx)) (List.all_eq_true.1 places)
  | dictComprehension key value filled targets iters conditions ihKey ihValue ihTargets ihIters
      ihConds =>
    obtain ⟨places, parts⟩ := faithful_iff.1 faithful
    simp only [Expr.placesParts, Bool.and_eq_true, List.all_eq_true] at places
    simp only [Expr.parts, List.forall_mem_cons, forall_mem_clauses] at parts
    obtain ⟨key', value', targets', iters', conditions'⟩ := parts
    exact .dictComprehension (ihKey key') key.isItem (ihValue value') places.1 filled
      (fun c hc => (ihTargets c hc (targets' c hc)).bareItems)
      (fun c hc => ihIters c hc (iters' c hc))
      (fun c hc x hx => ihConds c hc x hx (conditions' c hc x hx)) places.2
  | unary operand ih =>
    exact .unary (ih (faithful.part (List.mem_singleton_self _))) faithful.places
  | binary left right ihLeft ihRight =>
    obtain ⟨places, parts⟩ := faithful_iff.1 faithful
    simp only [Expr.placesParts, Bool.and_eq_true] at places
    simp only [Expr.parts, List.forall_mem_cons] at parts
    exact .binary (ihLeft parts.1) (ihRight parts.2.1) places.1 places.2
  | logic several formed ih =>
    exact .logic several (fun x hx => ih x hx (faithful.part hx))
      (List.all_eq_true.1 faithful.places)
  | compare left filled even formed ihLeft ihMore =>
    obtain ⟨places, parts⟩ := faithful_iff.1 faithful
    simp only [Expr.placesParts, Bool.and_eq_true, List.all_eq_true] at places
    simp only [Expr.parts, List.forall_mem_cons] at parts
    exact .compare (ihLeft parts.1) places.1 filled even
      (fun x hx => ihMore x hx (parts.2 x hx)) places.2
  | conditional test body orelse ihTest ihBody ihElse =>
    obtain ⟨places, parts⟩ := faithful_iff.1 faithful
    simp only [Expr.placesParts, Bool.and_eq_true] at places
    simp only [Expr.parts, List.forall_mem_cons] at parts
    exact .conditional (ihTest parts.1) (ihBody parts.2.1) (ihElse parts.2.2.1) places.1.1
      places.1.2 places.2
  | lambda names kinds shaped presets body ihPresets ihBody =>
    obtain ⟨places, parts⟩ := faithful_iff.1 faithful
    simp only [Expr.placesParts, Bool.and_eq_true, List.all_eq_true] at places
    simp only [Expr.parts, List.forall_mem_cons, List.forall_mem_flatMap, Option.mem_toList]
      at parts
    exact .lambda names kinds (fun p hp e he => ihPresets p hp e he (parts.2 p hp e he))
      (fun p hp => Param.stands_of_isShaped (shaped p hp) (places.1 p hp)) (ihBody parts.1) places.2
  | await value ih =>
    exact .await (ih (faithful.part (List.mem_singleton_self _))) value.isItem
  | named identifier value ih =>
    exact .named identifier (ih (faithful.part (List.mem_singleton_self _))) faithful.places

/-! ### Statements -/

namespace Stmt

/-- The expressions in a statement, those in its blocks left out. -/
def exprs : Stmt → List Expr
  | .expr value => [value]
  | .assign targets value => value :: targets
  | .annAssign target hint value => target :: hint :: value.toList
  | .augAssign target _ value => [target, value]
  | .ret value => value.toList
  | .raise exception cause => exception.toList ++ cause.toList
  | .assertion test message => test :: message.toList
  | .delete targets => targets
  | .functionDef f =>
    f.decorators ++ f.params.flatMap (fun p => p.hint.toList ++ p.preset.toList) ++ f.returns.toList
  | .classDef c => c.decorators ++ c.bases ++ c.keywords.map (·.value)
  | .ifElse test .. | .whileLoop test .. => [test]
  | .forLoop target iter .. => [target, iter]
  | .withBlock items _ => items.flatMap fun x => x.context :: x.target.toList
  | .tryBlock _ handlers .. => handlers.flatMap (·.kind.toList)
  | .pass | .breakLoop | .continueLoop | .global _ | .importModules _ | .importFrom .. => []

/-- The blocks of a statement that must not be empty. -/
def suites : Stmt → List Block
  | .functionDef f => [f.body]
  | .classDef c => [c.body]
  | .ifElse _ body _ | .whileLoop _ body _ | .forLoop _ _ body _ | .withBlock _ body => [body]
  | .tryBlock body handlers .. => body :: handlers.map (·.body)
  | _ => []

/-- The blocks of a statement that are left out if they are empty. -/
def clauses : Stmt → List Block
  | .ifElse _ _ orelse | .whileLoop _ _ orelse | .forLoop _ _ _ orelse => [orelse]
  | .tryBlock _ _ orelse finalBody => [orelse, finalBody]
  | _ => []

/-- The expressions in the statement may stand in their places. -/
def placesParts : Stmt → Bool
  | .annAssign _ hint value => hint.standsAt Level.test && value.all Expr.isTestList
  | .augAssign _ _ value => value.isTestList
  | .ret value => value.all Expr.isTestList
  | .raise exception cause =>
    exception.all (Expr.standsAt Level.test) && cause.all (Expr.standsAt Level.test)
  | .assertion test message =>
    test.standsAt Level.test && message.all (Expr.standsAt Level.test)
  | .functionDef f =>
    f.decorators.all (Expr.standsAt Level.test) && f.params.all Param.placesParts &&
      f.returns.all (Expr.standsAt Level.test)
  | .classDef c =>
    c.decorators.all (Expr.standsAt Level.test) &&
      c.keywords.all fun k => k.value.standsAt (argumentLevel k.name)
  | .ifElse test .. | .whileLoop test .. => test.standsAt Level.test
  | .forLoop target iter .. => target.isTarget && iter.isTestList
  | .withBlock items _ => items.all fun x => x.context.standsAt Level.test
  | .tryBlock _ handlers .. => handlers.all fun h => h.kind.all (Expr.standsAt Level.test)
  | _ => true

end Stmt

/-- The statement that opens the block, if there is one, is read back in its place. -/
def opensWell (body : Block) : Bool :=
  body.head?.all Stmt.opensBlock

/-- No part of the statement stands in a place where its text is read as something else. -/
inductive FaithfulStmt : Stmt → Prop where
  | intro {s : Stmt} (places : s.placesParts = true) (exprs : ∀ e ∈ s.exprs, Faithful e)
      (opens : ∀ body ∈ s.suites ++ s.clauses, opensWell body = true)
      (blocks : ∀ body ∈ s.suites ++ s.clauses, ∀ t ∈ body, FaithfulStmt t) : FaithfulStmt s

theorem isSuite_of_opensWell {body : Block} (opens : opensWell body = true) (filled : body ≠ []) :
    isSuite body = true := by
  cases body with
  | nil => exact absurd rfl filled
  | cons s body => exact opens

/-- The blocks below the headers of a statement that is written are not empty, and all statements in
its blocks are written. -/
theorem filled_of_check {s : Stmt} (h : s.check "if" = .ok ()) :
    (∀ body ∈ s.suites, body ≠ []) ∧
      ∀ body ∈ s.suites ++ s.clauses, ∀ t ∈ body, t.check "if" = .ok () := by
  cases s with
  | tryBlock body handlers orelse finalBody =>
    simp only [Stmt.check, check_bind_eq_ok_iff, checkFilled_eq_ok_iff, checkBlock_eq_ok_iff,
      checkHandlers_eq_ok_iff] at h
    obtain ⟨-, filled, block, handled, elseBlock, finalBlock⟩ := h
    simp only [Stmt.suites, Stmt.clauses, List.cons_append, List.forall_mem_cons,
      List.forall_mem_append, List.forall_mem_map]
    exact ⟨⟨filled, fun h hh => (handled h hh).2.1⟩, block, fun h hh => (handled h hh).2.2,
      elseBlock, finalBlock, List.forall_mem_nil _⟩
  | _ =>
    simp_all [Stmt.check, check_bind_eq_ok_iff, checkBlock_eq_ok_iff, checkOrelse_eq_ok_iff,
      Stmt.suites, Stmt.clauses]

/-- A faithful statement that was read is read back, if it is written at all. -/
theorem FormedStmt.legible {s : Stmt} (h : FormedStmt s) (check : s.check "if" = .ok ())
    (faithful : FaithfulStmt s) : LegibleStmt s := by
  have items {l : List Expr} (formed : ∀ x ∈ l, Formed x) : ∀ x ∈ l, x.isItem = true :=
    fun x hx => (formed x hx).isItem
  have several {l : List Expr} (formed : ∀ x ∈ l, Formed x) (faithful : ∀ x ∈ l, Faithful x) :
      ∀ x ∈ l, Legible x := fun x hx => (formed x hx).legible (faithful x hx)
  have optional {o : Option Expr} (formed : ∀ x ∈ o, Formed x) (faithful : ∀ x ∈ o, Faithful x) :
      ∀ x ∈ o, Legible x := fun x hx => (formed x hx).legible (faithful x hx)
  -- the induction is on the blocks; that they are written comes down with the check
  induction faithful with | @intro s places exprs opens blocks ih =>
  obtain ⟨nonempty, checked⟩ := filled_of_check check
  have suites : ∀ body ∈ s.suites, isSuite body = true := fun body hb =>
    isSuite_of_opensWell (opens body (List.mem_append_left _ hb)) (nonempty body hb)
  have clauses : ∀ body ∈ s.clauses, body ≠ [] → isSuite body = true := fun body hb =>
    isSuite_of_opensWell (opens body (List.mem_append_right _ hb))
  have inner : ∀ body ∈ s.suites ++ s.clauses, (∀ t ∈ body, FormedStmt t) →
      ∀ t ∈ body, LegibleStmt t := fun body hb formed t ht =>
    ih body hb t ht (formed t ht) (checked body hb t ht)
  cases h with
  | expr value => exact .expr (value.legible (exprs _ (List.mem_singleton_self _))) value.isItem
  | assign filled formed value =>
    simp only [Stmt.exprs, List.forall_mem_cons] at exprs
    exact .assign filled (several formed exprs.2) (items formed) (value.legible exprs.1)
      value.isItem
  | annAssign target hint value =>
    simp only [Stmt.exprs, List.forall_mem_cons, Option.mem_toList] at exprs
    simp only [Stmt.placesParts, Bool.and_eq_true, Option.all_eq_true] at places
    exact .annAssign (target.legible exprs.1) target.isItem (hint.legible exprs.2.1) places.1
      (optional value exprs.2.2) places.2
  | augAssign target value =>
    simp only [Stmt.exprs, List.forall_mem_cons] at exprs
    exact .augAssign (target.legible exprs.1) target.isItem (value.legible exprs.2.1) places
  | ret value =>
    simp only [Stmt.exprs, Option.mem_toList] at exprs
    exact .ret (optional value exprs) ((Option.all_eq_true _ _).1 places)
  | pass => exact .pass
  | breakLoop => exact .breakLoop
  | continueLoop => exact .continueLoop
  | raise given formed =>
    simp only [Stmt.exprs, List.forall_mem_append, Option.mem_toList] at exprs
    simp only [Stmt.placesParts, Bool.and_eq_true, Option.all_eq_true] at places
    simp only [List.forall_mem_cons] at formed
    refine .raise given ?_ ?_ <;> simp only [List.forall_mem_cons]
    · exact ⟨optional formed.1 exprs.1, optional formed.2.1 exprs.2, List.forall_mem_nil _⟩
    · exact ⟨places.1, places.2, List.forall_mem_nil _⟩
  | assertion test formed =>
    simp only [Stmt.exprs, List.forall_mem_cons, Option.mem_toList] at exprs
    simp only [Stmt.placesParts, Bool.and_eq_true, Option.all_eq_true] at places
    exact .assertion (test.legible exprs.1) places.1 (optional formed exprs.2) places.2
  | delete filled formed => exact .delete filled (several formed exprs) (items formed)
  | global filled identifiers => exact .global filled identifiers
  | importModules filled paths identifiers => exact .importModules filled paths identifiers
  | importFrom level path imported => exact .importFrom level path imported
  | functionDef decorated identifier names kinds shaped hints presets result block =>
    simp only [Stmt.exprs, List.forall_mem_append, List.forall_mem_flatMap, Option.mem_toList]
      at exprs
    simp only [Stmt.placesParts, Bool.and_eq_true, List.all_eq_true, Option.all_eq_true] at places
    obtain ⟨⟨decorated', params'⟩, result'⟩ := exprs
    obtain ⟨⟨standDecorators, standParams⟩, standResult⟩ := places
    exact .functionDef (several decorated decorated') standDecorators identifier names kinds
      (fun p hp => optional (hints p hp) (params' p hp).1)
      (fun p hp => optional (presets p hp) (params' p hp).2)
      (fun p hp => Param.stands_of_isShaped (shaped p hp) (standParams p hp))
      (optional result result') standResult (suites _ (List.mem_singleton_self _))
      (inner _ (List.mem_singleton_self _) block)
  | classDef decorated identifier formed names values block =>
    simp only [Stmt.exprs, List.forall_mem_append, List.forall_mem_map] at exprs
    simp only [Stmt.placesParts, Bool.and_eq_true, List.all_eq_true] at places
    obtain ⟨⟨decorated', bases'⟩, values'⟩ := exprs
    exact .classDef (several decorated decorated') places.1 identifier (several formed bases')
      (items formed) names (fun k hk => (values k hk).legible (values' k hk)) places.2
      (suites _ (List.mem_singleton_self _)) (inner _ (List.mem_singleton_self _) block)
  | ifElse test block elseBlock =>
    simp only [Stmt.suites, Stmt.clauses, List.cons_append, List.nil_append, List.forall_mem_cons]
      at suites clauses inner
    exact .ifElse (test.legible (exprs _ (List.mem_singleton_self _))) places suites.1 clauses.1
      (inner.1 block) (inner.2.1 elseBlock)
  | whileLoop test block elseBlock =>
    simp only [Stmt.suites, Stmt.clauses, List.cons_append, List.nil_append, List.forall_mem_cons]
      at suites clauses inner
    exact .whileLoop (test.legible (exprs _ (List.mem_singleton_self _))) places suites.1 clauses.1
      (inner.1 block) (inner.2.1 elseBlock)
  | forLoop target iter block elseBlock =>
    simp only [Stmt.suites, Stmt.clauses, List.cons_append, List.nil_append, List.forall_mem_cons]
      at suites clauses inner
    simp only [Stmt.exprs, List.forall_mem_cons] at exprs
    simp only [Stmt.placesParts, Bool.and_eq_true] at places
    exact .forLoop (target.legible exprs.1).bareItems places.1 (iter.legible exprs.2.1) places.2
      suites.1 clauses.1 (inner.1 block) (inner.2.1 elseBlock)
  | withBlock filled contexts targets block =>
    simp only [Stmt.exprs, List.forall_mem_flatMap, List.forall_mem_cons, Option.mem_toList]
      at exprs
    exact .withBlock filled (fun x hx => (contexts x hx).legible (exprs x hx).1)
      (List.all_eq_true.1 places) (fun x hx => optional (targets x hx) (exprs x hx).2)
      (fun x hx e he => (targets x hx e he).isItem) (suites _ (List.mem_singleton_self _))
      (inner _ (List.mem_singleton_self _) block)
  | tryBlock ends kinds names block handled elseBlock finalBlock =>
    simp only [Stmt.exprs, List.forall_mem_flatMap, Option.mem_toList] at exprs
    simp only [Stmt.placesParts, List.all_eq_true, Option.all_eq_true] at places
    simp only [Stmt.suites, Stmt.clauses, List.cons_append, List.forall_mem_cons,
      List.forall_mem_append, List.forall_mem_map] at suites clauses inner
    obtain ⟨body', handlers', orelse', finalBody', -⟩ := inner
    exact .tryBlock ends suites.1 (fun h hh => optional (kinds h hh) (exprs h hh)) places names
      suites.2 clauses.1 clauses.2.1 (body' block) (fun h hh => handlers' h hh (handled h hh))
      (orelse' elseBlock) (finalBody' finalBlock)

/-! ### Scripts -/

/-- A script that was read from a text and is written again is read from the new text, if no part of
it stands in a place where its text is read as something else. -/
theorem parse_of_render_of_parse {source text : String} {script : Block}
    (read : parse source = .ok script) (written : render script = .ok text)
    (faithful : ∀ s ∈ script, FaithfulStmt s) : parse text = .ok script := by
  obtain ⟨⟨⟩, check, same⟩ := bind_eq_ok_iff.1 written
  obtain rfl : blockText 0 none script = text := Except.ok.inj same
  have legible : ∀ s ∈ script, LegibleStmt s := fun s hs =>
    (formedStmt_of_parse read s hs).legible (checkBlock_eq_ok_iff.1 check s hs) (faithful s hs)
  rw [← String.empty_append (s := blockText 0 none script)]
  exact parse_blockText legible isBlankLines_nil

/-- No part of the expression down to the given depth stands in a wrong place, and there is none
below it. -/
def Expr.isFaithfulWithin : Nat → Expr → Bool
  | 0, _ => false
  | depth + 1, e => e.placesParts && e.parts.all (isFaithfulWithin depth)

theorem Expr.faithful_of_isFaithfulWithin {depth : Nat} {e : Expr}
    (h : e.isFaithfulWithin depth = true) : Faithful e := by
  induction depth generalizing e with
  | zero => cases h
  | succ depth ih =>
    rw [isFaithfulWithin, Bool.and_eq_true, List.all_eq_true] at h
    exact .intro h.1 fun x hx => ih (h.2 x hx)

/-- The same for a statement with its blocks. -/
def Stmt.isFaithfulWithin : Nat → Stmt → Bool
  | 0, _ => false
  | depth + 1, s =>
    s.placesParts && s.exprs.all (Expr.isFaithfulWithin depth) &&
      (s.suites ++ s.clauses).all fun body => opensWell body && body.all (isFaithfulWithin depth)

theorem Stmt.faithful_of_isFaithfulWithin {depth : Nat} {s : Stmt}
    (h : s.isFaithfulWithin depth = true) : FaithfulStmt s := by
  induction depth generalizing s with
  | zero => cases h
  | succ depth ih =>
    simp only [isFaithfulWithin, Bool.and_eq_true, List.all_eq_true] at h
    obtain ⟨⟨places, exprs⟩, blocks⟩ := h
    exact .intro places (fun e he => Expr.faithful_of_isFaithfulWithin (exprs e he))
      (fun body hb => (blocks body hb).1) fun body hb t ht => ih ((blocks body hb).2 t ht)

/-- The text that is written for what the source is read as. -/
def reprint? (source : String) : Option String :=
  (parse source).toOption.bind fun script => (render script).toOption

theorem reprint?_eq_some {source text : String} (h : reprint? source = some text) :
    ∃ script, parse source = .ok script ∧ render script = .ok text := by
  unfold reprint? at h
  cases read : parse source with
  | error e => simp [read, Except.toOption] at h
  | ok script =>
    cases written : render script with
    | error e => simp [read, written, Except.toOption] at h
    | ok found =>
      have same : found = text := by simpa [read, written, Except.toOption] using h
      exact ⟨script, rfl, same ▸ written⟩

/-- A method with more parentheses than it needs. -/
def methodSource : String :=
  "class A:\n  def f(a, b=((1), 2)): return (a, -(b[(0), 1:] + (a)) ** 2)\n"

/-- The parentheses of the names, of the numbers and of the tuple that is returned are gone. -/
def methodText : String :=
  "class A:\n\n    def f(a, b=(1, 2)):\n        return a, -(b[0, 1:] + a) ** 2\n"

theorem parse_of_render_of_parse_method :
    ∃ script, parse methodSource = .ok script ∧ render script = .ok methodText ∧
      (∀ s ∈ script, FaithfulStmt s) ∧ parse methodText = .ok script := by
  have places : ((parse methodSource).toOption.all fun script =>
      script.all (Stmt.isFaithfulWithin 12)) = true := by decide +kernel
  have text : reprint? methodSource = some methodText := by decide +kernel
  obtain ⟨script, read, written⟩ := reprint?_eq_some text
  rw [read] at places
  have faithful : ∀ s ∈ script, FaithfulStmt s := fun s hs =>
    Stmt.faithful_of_isFaithfulWithin (List.all_eq_true.1 places s hs)
  exact ⟨script, read, written, faithful, parse_of_render_of_parse read written faithful⟩

/-- The source is read and written as the text, but the text is not read as the same script. -/
def IsLost (source text : String) : Prop :=
  ∃ script, parse source = .ok script ∧ render script = .ok text ∧ parse text ≠ .ok script

/-- The text is read as something else if it can be told apart from what the source is read as. -/
theorem isLost_of_ne {α : Type} (f : Block → α) {source text : String}
    (h : reprint? source = some text)
    (apart : (parse source).toOption.map f ≠ (parse text).toOption.map f) : IsLost source text := by
  obtain ⟨script, read, written⟩ := reprint?_eq_some h
  refine ⟨script, read, written, fun again => apart ?_⟩
  rw [read, again]

/-- The script is an item of something by a tuple. -/
def isItemByTuple : Block → Bool
  | [.expr (.subscript _ (.tuple _))] => true
  | _ => false

/-- The script is a loop over something that has a name. -/
def isLoopOverName : Block → Bool
  | [.forLoop _ (.name _) _ _] => true
  | _ => false

/-- Sources with a part in each kind of place where its parentheses or its quotes are lost. The
texts of the second and of the fourth one are read, but as other scripts. -/
theorem isLost_in_places :
    IsLost "(1).real\n" "1.real\n" ∧ IsLost "a[b,]\n" "a[b]\n" ∧
      IsLost "return (*a, b)\n" "return *a, b\n" ∧
      IsLost "for (a in b) in c: pass\n" "for a in b in c:\n    pass\n" ∧
      IsLost "if a: 'b\\nc\"'\n" "if a:\n    \"\"\"b\nc\"\"\"\"\n" := by
  refine ⟨?_, ?_, ?_, ?_, ?_⟩
  · exact isLost_of_ne (fun _ => ()) (by decide +kernel) (by decide +kernel)
  · exact isLost_of_ne isItemByTuple (by decide +kernel) (by decide +kernel)
  · exact isLost_of_ne (fun _ => ()) (by decide +kernel) (by decide +kernel)
  · exact isLost_of_ne isLoopOverName (by decide +kernel) (by decide +kernel)
  · exact isLost_of_ne (fun _ => ()) (by decide +kernel) (by decide +kernel)

end RobotCell.Script
