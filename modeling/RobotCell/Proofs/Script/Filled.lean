import RobotCell.Proofs.Script.Faithful
import RobotCell.Script.Lookup

/-!
# Scripts that were read can be written

Nearly all that the check before writing asks for holds of every script that was read: its words are
identifiers and no form lacks a part. What is left are empty blocks. A line that holds no more than a
backslash is indented like any other line, so it opens a block, but it has no tokens. If this is all
there is in a block, the block is read without statements, and the statement that it belongs to
cannot be written.

## Main definitions

- `Stmt.IsFilled` — no such block is empty, here or further inside

## Main results

- `Formed.check_eq_ok` — an expression that was read can be written
- `render_of_parse_iff` — when a script that was read can be written
-/

namespace RobotCell.Script

/-! ### Expressions -/

theorem checkItem_of_bounds {e : Expr} (h : ∀ x ∈ e.bounds, x.check = .ok ()) :
    e.checkItem = .ok () := by
  cases e with
  | slice lower upper step =>
    refine Expr.checkItem_slice_eq_ok_iff.2 fun part hpart x hx => h x ?_
    simp only [Expr.bounds, List.mem_append, Option.mem_toList]
    simp only [List.mem_cons, List.not_mem_nil, or_false] at hpart
    rcases hpart with rfl | rfl | rfl
    · exact .inl (.inl hx)
    · exact .inl (.inr hx)
    · exact .inr hx
  | _ => exact h _ (List.mem_singleton_self _)

theorem checkClauses_of_forall {clauses : List (Clause Expr)}
    (targets : ∀ c ∈ clauses, c.target.check = .ok ()) (iters : ∀ c ∈ clauses, c.iter.check = .ok ())
    (conditions : ∀ c ∈ clauses, ∀ x ∈ c.conditions, x.check = .ok ()) :
    checkClauses clauses = .ok () :=
  checkClauses_eq_ok_iff.2 fun c hc => ⟨targets c hc, iters c hc, conditions c hc⟩

/-- An expression that was read can be written. -/
theorem Formed.check_eq_ok {e : Expr} (h : Formed e) : e.check = .ok () := by
  induction h with
  | name identifier => exact checkIdentifier_eq_ok_iff.2 identifier
  | constant => rfl
  | dotted _ identifier ih =>
    exact check_bind_eq_ok_iff.2 ⟨checkIdentifier_eq_ok_iff.2 identifier, ih⟩
  | @subscript e i _ _ ih ihIndex =>
    refine check_subscript_eq_ok_iff.2 ⟨ih, ?_⟩
    by_cases tuple : ∃ items, i = .tuple items
    · obtain ⟨items, rfl⟩ := tuple
      exact .inl ⟨items, rfl, fun x hx => checkItem_of_bounds (ihIndex x hx)⟩
    · refine .inr ⟨fun items same => tuple ⟨items, same⟩, checkItem_of_bounds (ihIndex i ?_)⟩
      cases i with
      | tuple items => exact absurd ⟨items, rfl⟩ tuple
      | _ => exact List.mem_singleton_self _
  | call _ _ names _ ih ihArgs ihValues =>
    simp only [Expr.check, check_bind_eq_ok_iff, checkAll_eq_ok_iff, checkArguments_eq_ok_iff]
    exact ⟨ih, ihArgs, fun k hk => ⟨names k hk, ihValues k hk⟩⟩
  | starred _ ih | unary _ ih | await _ ih => exact ih
  | list _ ih | tuple _ ih | set _ _ ih => exact checkAll_eq_ok_iff.2 ih
  | dict _ _ ihKeys ihValues =>
    exact checkEntries_eq_ok_iff.2 fun x hx => ⟨ihKeys x hx, ihValues x hx⟩
  | comprehension _ filled _ _ _ ih ihTargets ihIters ihConditions =>
    simp only [Expr.check, check_bind_eq_ok_iff, demand_eq_ok_iff]
    exact ⟨ih, by simpa using filled, checkClauses_of_forall ihTargets ihIters ihConditions⟩
  | dictComprehension _ _ filled _ _ _ ihKey ihValue ihTargets ihIters ihConditions =>
    simp only [Expr.check, check_bind_eq_ok_iff, demand_eq_ok_iff]
    exact ⟨ihKey, ihValue, by simpa using filled,
      checkClauses_of_forall ihTargets ihIters ihConditions⟩
  | binary _ _ ihLeft ihRight => exact check_bind_eq_ok_iff.2 ⟨ihLeft, ihRight⟩
  | logic several _ ih =>
    simp only [Expr.check, check_bind_eq_ok_iff, demand_eq_ok_iff, checkAll_eq_ok_iff]
    exact ⟨decide_eq_true several, ih⟩
  | compare _ filled even _ ih ihItems =>
    simp only [Expr.check, check_bind_eq_ok_iff, demand_eq_ok_iff, checkAll_eq_ok_iff]
    exact ⟨by simp [filled, even], ih, ihItems⟩
  | conditional _ _ _ ihTest ihBody ihElse =>
    simp only [Expr.check, check_bind_eq_ok_iff]
    exact ⟨ihBody, ihTest, ihElse⟩
  | lambda names _ _ _ _ ihPresets ih =>
    refine check_bind_eq_ok_iff.2 ⟨checkParams_eq_ok_iff.2 fun p hp => ?_, ih⟩
    exact ⟨names p hp, fun annotated => absurd annotated Bool.false_ne_true, ihPresets p hp⟩
  | named identifier _ ih =>
    exact check_bind_eq_ok_iff.2 ⟨checkIdentifier_eq_ok_iff.2 identifier, ih⟩

theorem Formed.renderExpr_eq_ok {e : Expr} (h : Formed e) : renderExpr e = .ok e.bareText := by
  rw [renderExpr, h.check_eq_ok]
  rfl

theorem checkOption_of_formed {part : Option Expr} (h : ∀ e ∈ part, Formed e) :
    checkOption part = .ok () :=
  checkOption_eq_ok_iff.2 fun e he => (h e he).check_eq_ok

theorem checkAll_of_formed {items : List Expr} (h : ∀ e ∈ items, Formed e) :
    checkAll items = .ok () :=
  checkAll_eq_ok_iff.2 fun e he => (h e he).check_eq_ok

/-! ### Blocks that must not be empty -/

/-- No block that must hold a statement is empty, in the statement and in everything inside it. -/
def Stmt.IsFilled (s : Stmt) : Prop :=
  ∀ t ∈ s.statements, ∀ body ∈ t.suites, body ≠ []

theorem mem_statementsOf_iff {t : Stmt} {body : Block} :
    t ∈ statementsOf body ↔ ∃ s ∈ body, t ∈ s.statements := by
  induction body with
  | nil => simp [statementsOf]
  | cons s body ih => simp [statementsOf, ih]

theorem mem_statementsOfHandlers_iff {t : Stmt} {handlers : List (Handler Stmt)} :
    t ∈ statementsOfHandlers handlers ↔ ∃ h ∈ handlers, t ∈ statementsOf h.body := by
  induction handlers with
  | nil => simp [statementsOfHandlers]
  | cons h handlers ih => simp [statementsOfHandlers, ih]

theorem forall_statementsOf_iff {P : Stmt → Prop} {body : Block} :
    (∀ t ∈ statementsOf body, P t) ↔ ∀ s ∈ body, ∀ t ∈ s.statements, P t := by
  simp only [mem_statementsOf_iff]
  exact ⟨fun h s hs t ht => h t ⟨s, hs, ht⟩, fun h t ⟨s, hs, ht⟩ => h s hs t ht⟩

namespace Stmt

/-- What is inside a statement is inside one of its blocks. -/
theorem mem_statements_iff {s t : Stmt} :
    t ∈ s.statements ↔ t = s ∨ ∃ body ∈ s.suites ++ s.clauses, t ∈ statementsOf body := by
  cases s with
  | tryBlock body handlers orelse finalBody =>
    simp [statements, suites, clauses, mem_statementsOfHandlers_iff, or_and_right, exists_or]
  | _ => simp [statements, suites, clauses]

theorem isFilled_iff {s : Stmt} :
    s.IsFilled ↔ (∀ body ∈ s.suites, body ≠ []) ∧
      ∀ body ∈ s.suites ++ s.clauses, ∀ t ∈ body, t.IsFilled := by
  simp only [IsFilled, mem_statements_iff (s := s), forall_eq_or_imp, forall_exists_index, and_imp,
    ← forall_statementsOf_iff]
  exact and_congr_right fun _ => ⟨fun h body hb t ht => h t body hb ht,
    fun h t body hb ht => h body hb t ht⟩

end Stmt

/-! ### Checks that stop at an empty block -/

/-- The check succeeds if the condition holds, and else it stops at an empty block. -/
def StopsUnless (condition : Prop) (check : Check) : Prop :=
  (check = .ok () ↔ condition) ∧ ∀ e, check = .error e → ∃ header, e = .emptyBlock header

section StopsUnless

variable {p q : Prop} {x y : Check}

theorem StopsUnless.congr (h : StopsUnless p x) (same : p ↔ q) : StopsUnless q x :=
  ⟨h.1.trans same, h.2⟩

theorem stopsUnless_ok : StopsUnless True (.ok ()) :=
  ⟨iff_of_true rfl trivial, nofun⟩

theorem StopsUnless.bind (hx : StopsUnless p x) (hy : StopsUnless q y) :
    StopsUnless (p ∧ q) (x >>= fun _ => y) := by
  refine ⟨check_bind_eq_ok_iff.trans (and_congr hx.1 hy.1), fun e failed => ?_⟩
  cases x with
  | error e' =>
    cases failed
    exact hx.2 e rfl
  | ok => exact hy.2 e failed

/-- A part that can be written in front of the others. -/
theorem StopsUnless.after (hy : StopsUnless q y) (hx : x = .ok ()) :
    StopsUnless q (x >>= fun _ => y) := by
  subst hx
  exact hy

theorem stopsUnless_checkFilled (header : String) (body : Block) :
    StopsUnless (body ≠ []) (checkFilled header body) := by
  refine ⟨checkFilled_eq_ok_iff, fun e failed => ?_⟩
  unfold checkFilled at failed
  split_ifs at failed
  exact ⟨header, (Except.error.inj failed).symm⟩

theorem stopsUnless_checkBlock {body : Block} {P : Stmt → Prop}
    (h : ∀ s ∈ body, ∀ word, StopsUnless (P s) (s.check word)) :
    StopsUnless (∀ s ∈ body, P s) (checkBlock body) := by
  induction body with
  | nil => exact stopsUnless_ok.congr (by simp)
  | cons s body ih =>
    obtain ⟨first, later⟩ := List.forall_mem_cons.1 h
    exact ((first "if").bind (ih later)).congr List.forall_mem_cons.symm

theorem stopsUnless_checkOrelse {orelse : Block} {P : Stmt → Prop}
    (h : ∀ s ∈ orelse, ∀ word, StopsUnless (P s) (s.check word)) :
    StopsUnless (∀ s ∈ orelse, P s) (checkOrelse orelse) := by
  match orelse with
  | [] => exact stopsUnless_ok.congr (by simp)
  | [s] => exact (h s (List.mem_singleton_self s) "elif").congr (by simp)
  | s :: t :: rest =>
    have first := h s List.mem_cons_self "if"
    have later := stopsUnless_checkBlock fun u hu => h u (List.mem_cons_of_mem s hu)
    exact (first.bind later).congr List.forall_mem_cons.symm

theorem stopsUnless_checkHandlers {handlers : List (Handler Stmt)} {P : Stmt → Prop}
    (heads : ∀ h ∈ handlers, checkHandlerHeader h.kind h.name = .ok ())
    (bodies : ∀ h ∈ handlers, ∀ s ∈ h.body, ∀ word, StopsUnless (P s) (s.check word)) :
    StopsUnless (∀ h ∈ handlers, h.body ≠ [] ∧ ∀ s ∈ h.body, P s) (checkHandlers handlers) := by
  induction handlers with
  | nil => exact stopsUnless_ok.congr (by simp)
  | cons h handlers ih =>
    obtain ⟨head, heads⟩ := List.forall_mem_cons.1 heads
    obtain ⟨body, bodies⟩ := List.forall_mem_cons.1 bodies
    have block := (stopsUnless_checkBlock body).bind (ih heads bodies)
    refine (((stopsUnless_checkFilled _ h.body).bind block).after head).congr ?_
    rw [List.forall_mem_cons, and_assoc]

end StopsUnless

/-! ### Statements -/

/-- A statement without blocks that passes its check. -/
theorem stopsUnless_of_single {s : Stmt} {word : String} (ok : s.check word = .ok ())
    (single : s.statements = [s]) (none : s.suites = []) :
    StopsUnless s.IsFilled (s.check word) := by
  have filled : s.IsFilled := by
    rw [Stmt.IsFilled, single, List.forall_mem_singleton, none]
    exact List.forall_mem_nil _
  rw [ok]
  exact stopsUnless_ok.congr (iff_of_true trivial filled)

/-- The only obstacle in a statement that was read is an empty block. -/
theorem FormedStmt.stopsUnless_isFilled {s : Stmt} (h : FormedStmt s) (word : String) :
    StopsUnless s.IsFilled (s.check word) := by
  induction h generalizing word with
  | expr value => exact stopsUnless_of_single value.check_eq_ok rfl rfl
  | assign filled formed value =>
    refine stopsUnless_of_single ?_ rfl rfl
    simp only [Stmt.check, checkSimple, check_bind_eq_ok_iff, demand_eq_ok_iff]
    exact ⟨by simpa using filled, checkAll_of_formed formed, value.check_eq_ok⟩
  | annAssign target hint value =>
    refine stopsUnless_of_single ?_ rfl rfl
    simp only [Stmt.check, checkSimple, check_bind_eq_ok_iff]
    exact ⟨target.check_eq_ok, hint.check_eq_ok, checkOption_of_formed value⟩
  | augAssign target value =>
    exact stopsUnless_of_single (check_bind_eq_ok_iff.2 ⟨target.check_eq_ok, value.check_eq_ok⟩) rfl rfl
  | ret value => exact stopsUnless_of_single (checkOption_of_formed value) rfl rfl
  | pass | breakLoop | continueLoop => exact stopsUnless_of_single rfl rfl rfl
  | @raise exception cause given formed =>
    refine stopsUnless_of_single ?_ rfl rfl
    simp only [Stmt.check, checkSimple, check_bind_eq_ok_iff, demand_eq_ok_iff]
    refine ⟨?_, checkOption_of_formed (formed exception (by simp)),
      checkOption_of_formed (formed cause (by simp))⟩
    cases cause with
    | none => simp
    | some c => simp [given rfl]
  | assertion test formed =>
    exact stopsUnless_of_single (check_bind_eq_ok_iff.2 ⟨test.check_eq_ok, checkOption_of_formed formed⟩) rfl rfl
  | delete _ formed => exact stopsUnless_of_single (checkAll_of_formed formed) rfl rfl
  | global _ identifiers => exact stopsUnless_of_single (checkIdentifiers_eq_ok_iff.2 identifiers) rfl rfl
  | importModules _ paths identifiers =>
    refine stopsUnless_of_single (checkAliases_eq_ok_iff.2 fun a ha => ?_) rfl rfl
    exact ⟨paths a ha, identifiers a ha⟩
  | importFrom level path imported =>
    have names := checkAliases_of_areImported imported
    exact stopsUnless_of_single (checkImportFrom_eq_ok_iff.2 ⟨names.1, path, names.2⟩) rfl rfl
  | @functionDef _ _ body _ _ _ decorated identifier names _ _ hints presets result _ ih =>
    have params : checkParams true _ = .ok () := checkParams_eq_ok_iff.2 fun p hp => ⟨names p hp,
      fun _ e he => (hints p hp e he).check_eq_ok, fun e he => (presets p hp e he).check_eq_ok⟩
    have block := stopsUnless_checkBlock ih
    rw [Stmt.check]
    refine (((((stopsUnless_checkFilled _ body).bind block).after (checkOption_of_formed result)).after
      params).after (checkIdentifier_eq_ok_iff.2 identifier)).after (checkAll_of_formed decorated)
      |>.congr ?_
    rw [Stmt.isFilled_iff]
    simp [Stmt.suites, Stmt.clauses]
  | @classDef _ _ _ body _ decorated identifier formed names values _ ih =>
    have keywords := checkArguments_eq_ok_iff.2 fun k hk => ⟨names k hk, (values k hk).check_eq_ok⟩
    have block := stopsUnless_checkBlock ih
    rw [Stmt.check]
    refine (((((stopsUnless_checkFilled _ body).bind block).after keywords).after
      (checkAll_of_formed formed)).after (checkIdentifier_eq_ok_iff.2 identifier)).after
      (checkAll_of_formed decorated) |>.congr ?_
    rw [Stmt.isFilled_iff]
    simp [Stmt.suites, Stmt.clauses]
  | @ifElse _ body _ test _ _ ih ihElse =>
    have block := stopsUnless_checkBlock ih
    have blocks := block.bind (stopsUnless_checkOrelse ihElse)
    rw [Stmt.check]
    refine (((stopsUnless_checkFilled _ body).bind blocks).after test.check_eq_ok).congr ?_
    rw [Stmt.isFilled_iff]
    simp [Stmt.suites, Stmt.clauses]
  | @whileLoop _ body _ test _ _ ih ihElse =>
    have block := stopsUnless_checkBlock ih
    have blocks := block.bind (stopsUnless_checkBlock ihElse)
    rw [Stmt.check]
    refine (((stopsUnless_checkFilled _ body).bind blocks).after test.check_eq_ok).congr ?_
    rw [Stmt.isFilled_iff]
    simp [Stmt.suites, Stmt.clauses]
  | @forLoop _ _ body _ target iter _ _ ih ihElse =>
    have block := stopsUnless_checkBlock ih
    have blocks := block.bind (stopsUnless_checkBlock ihElse)
    rw [Stmt.check]
    refine ((((stopsUnless_checkFilled _ body).bind blocks).after iter.check_eq_ok).after
      target.check_eq_ok).congr ?_
    rw [Stmt.isFilled_iff]
    simp [Stmt.suites, Stmt.clauses]
  | @withBlock _ body _ contexts targets _ ih =>
    have items := checkWithItems_eq_ok_iff.2 fun x hx => ⟨(contexts x hx).check_eq_ok,
      fun e he => (targets x hx e he).check_eq_ok⟩
    have block := stopsUnless_checkBlock ih
    rw [Stmt.check]
    refine (((stopsUnless_checkFilled _ body).bind block).after items).congr ?_
    rw [Stmt.isFilled_iff]
    simp [Stmt.suites, Stmt.clauses]
  | @tryBlock body handlers _ _ ends kinds names _ _ _ _ ih ihHandled ihElse ihFinal =>
    have heads : ∀ h ∈ handlers, checkHandlerHeader h.kind h.name = .ok () := fun h hh =>
      checkHandlerHeader_eq_ok_iff.2 ⟨fun e he => (kinds h hh e he).check_eq_ok,
        fun _ n hn => (names h hh n hn).2⟩
    have block := stopsUnless_checkBlock ih
    have handled := stopsUnless_checkHandlers heads ihHandled
    have other := stopsUnless_checkBlock ihElse
    have final := stopsUnless_checkBlock ihFinal
    have blocks := block.bind (handled.bind (other.bind final))
    have given : demand (!handlers.isEmpty || !List.isEmpty _) .bareTry = .ok () :=
      demand_eq_ok_iff.2 (by simpa using ends)
    rw [Stmt.check]
    refine (((stopsUnless_checkFilled _ body).bind blocks).after given).congr ?_
    rw [Stmt.isFilled_iff]
    simp only [Stmt.suites, Stmt.clauses, List.cons_append, List.forall_mem_cons,
      List.forall_mem_append, List.forall_mem_map, List.not_mem_nil, false_implies, implies_true,
      forall₂_and, and_true]
    constructor
    · rintro ⟨first, block, ⟨suites, handled⟩, rest⟩
      exact ⟨⟨first, suites⟩, block, handled, rest⟩
    · rintro ⟨⟨first, suites⟩, block, handled, rest⟩
      exact ⟨first, block, ⟨suites, handled⟩, rest⟩

/-! ### Scripts -/

theorem render_eq_error_iff {script : Block} {e : RenderError} :
    render script = .error e ↔ checkBlock script = .error e := by
  unfold render
  cases checkBlock script <;> simp

theorem exists_render_eq_ok_iff {script : Block} :
    (∃ text, render script = .ok text) ↔ checkBlock script = .ok () := by
  unfold render
  cases checkBlock script <;> simp

/-- A script that was read can be written if no block is empty that must hold a statement. If there
is such a block, this is what is reported. -/
theorem render_of_parse_iff {source : String} {script : Block} (h : parse source = .ok script) :
    ((∃ text, render script = .ok text) ↔ ∀ t ∈ statementsOf script, ∀ body ∈ t.suites, body ≠ []) ∧
      ∀ e, render script = .error e → ∃ header, e = .emptyBlock header := by
  have formed := formedStmt_of_parse h
  have block := stopsUnless_checkBlock fun s hs => (formed s hs).stopsUnless_isFilled
  rw [exists_render_eq_ok_iff, forall_statementsOf_iff]
  exact ⟨block.1, fun e failed => block.2 e (render_eq_error_iff.1 failed)⟩

theorem render_of_parse_method :
    ∃ script text, parse methodSource = .ok script ∧ render script = .ok text := by
  have filled : ((parse methodSource).toOption.any fun script =>
      (statementsOf script).all fun t => t.suites.all fun body => !body.isEmpty) = true := by
    decide +kernel
  cases read : parse methodSource with
  | error e => simp [read, Except.toOption] at filled
  | ok script =>
    simp only [read, Except.toOption, Option.any_some, List.all_eq_true, Bool.not_eq_true',
      List.isEmpty_eq_false_iff] at filled
    obtain ⟨text, written⟩ := (render_of_parse_iff read).1.2 filled
    exact ⟨script, text, rfl, written⟩

/-- A condition over a block that holds no more than a backslash. -/
def gapSource : String := "if x:\n  \\\n\ny\n"

theorem emptyBlock_gapSource :
    ∃ script, parse gapSource = .ok script ∧ render script = .error (.emptyBlock "if x") := by
  have failed : (parse gapSource).toOption.map render = some (.error (.emptyBlock "if x")) := by
    decide +kernel
  cases read : parse gapSource with
  | error e => simp [read, Except.toOption] at failed
  | ok script =>
    rw [read] at failed
    exact ⟨script, rfl, Option.some.inj failed⟩

end RobotCell.Script
