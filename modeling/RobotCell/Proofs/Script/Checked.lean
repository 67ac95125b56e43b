import RobotCell.Proofs.Outcome
import RobotCell.Proofs.Script.StmtTokens
import RobotCell.Proofs.Text.Split
import RobotCell.Script.StmtCheck

/-!
# What the check of a script asks for

A script is written only if every word in it may stand where it does. Each statement here says what
the check of one form asks of its parts. A legible expression has all that is asked for.
-/

namespace RobotCell.Script

/-- Two checks in sequence. -/
theorem check_bind_eq_ok_iff {x y : Check} :
    (x >>= fun _ => y) = .ok () ↔ x = .ok () ∧ y = .ok () := by
  rw [bind_eq_ok_iff]
  exact ⟨fun ⟨_, hx, hy⟩ => ⟨hx, hy⟩, fun ⟨hx, hy⟩ => ⟨(), hx, hy⟩⟩

@[simp]
theorem checkIdentifier_eq_ok_iff {word : String} :
    checkIdentifier word = .ok () ↔ isIdentifier word = true := by
  unfold checkIdentifier
  split_ifs with h <;> simp [h]

theorem checkIdentifiers_eq_ok_iff {words : List String} :
    checkIdentifiers words = .ok () ↔ ∀ w ∈ words, isIdentifier w = true := by
  induction words with
  | nil => simp [checkIdentifiers]
  | cons w words ih => simp [checkIdentifiers, check_bind_eq_ok_iff, ih]

theorem checkDotted_eq_ok_iff {path : String} : checkDotted path = .ok () ↔ isPath path = true := by
  rw [checkDotted, checkIdentifiers_eq_ok_iff, isPath, List.all_eq_true]

@[simp]
theorem demand_eq_ok_iff {condition : Bool} {flaw : Flaw} :
    demand condition flaw = .ok () ↔ condition = true := by
  unfold demand
  split_ifs with h <;> simp [h]

/-! ### Expressions -/

/-- The first obstacle in an item of a subscript, which may be a slice. -/
def Expr.checkItem : Expr → Check
  | .slice lower upper step => do
    checkOption lower
    checkOption upper
    checkOption step
  | e => e.check

theorem Expr.checkItem_of_isItem {e : Expr} (h : e.isItem = true) : e.checkItem = e.check := by
  cases e with
  | slice => cases h
  | _ => rfl

theorem checkAll_eq_ok_iff {items : List Expr} :
    checkAll items = .ok () ↔ ∀ e ∈ items, e.check = .ok () := by
  induction items with
  | nil => simp [checkAll]
  | cons e items ih => simp [checkAll, check_bind_eq_ok_iff, ih]

theorem checkOption_eq_ok_iff {part : Option Expr} :
    checkOption part = .ok () ↔ ∀ e ∈ part, e.check = .ok () := by
  cases part <;> simp [checkOption]

theorem Expr.checkItem_slice_eq_ok_iff {lower upper step : Option Expr} :
    (Expr.slice lower upper step).checkItem = .ok () ↔
      ∀ x ∈ [lower, upper, step], ∀ e ∈ x, e.check = .ok () := by
  simp [Expr.checkItem, check_bind_eq_ok_iff, checkOption_eq_ok_iff]

theorem checkItems_eq_ok_iff {items : List Expr} :
    checkItems items = .ok () ↔ ∀ e ∈ items, e.checkItem = .ok () := by
  induction items with
  | nil => simp [checkItems]
  | cons e items ih =>
    cases e <;> simp [checkItems, Expr.checkItem, check_bind_eq_ok_iff, ih, and_assoc]

theorem checkArguments_eq_ok_iff {keywords : List (Argument Expr)} :
    checkArguments keywords = .ok () ↔
      ∀ k ∈ keywords, (∀ n ∈ k.name, isIdentifier n = true) ∧ k.value.check = .ok () := by
  induction keywords with
  | nil => simp [checkArguments]
  | cons k keywords ih =>
    simp [checkArguments, check_bind_eq_ok_iff, checkIdentifiers_eq_ok_iff, ih, and_assoc]

theorem checkEntries_eq_ok_iff {entries : List (Expr × Expr)} :
    checkEntries entries = .ok () ↔
      ∀ x ∈ entries, x.1.check = .ok () ∧ x.2.check = .ok () := by
  induction entries with
  | nil => simp [checkEntries]
  | cons x entries ih =>
    simp only [checkEntries, check_bind_eq_ok_iff, ih, List.forall_mem_cons, and_assoc]

theorem checkClauses_eq_ok_iff {clauses : List (Clause Expr)} :
    checkClauses clauses = .ok () ↔ ∀ c ∈ clauses, c.target.check = .ok () ∧
      c.iter.check = .ok () ∧ ∀ x ∈ c.conditions, x.check = .ok () := by
  induction clauses with
  | nil => simp [checkClauses]
  | cons c clauses ih =>
    simp only [checkClauses, check_bind_eq_ok_iff, checkAll_eq_ok_iff, ih, List.forall_mem_cons,
      and_assoc]

theorem checkParams_eq_ok_iff {annotated : Bool} {params : List (Param Expr)} :
    checkParams annotated params = .ok () ↔ ∀ p ∈ params, isIdentifier p.name = true ∧
      (annotated = true → ∀ e ∈ p.hint, e.check = .ok ()) ∧
      ∀ e ∈ p.preset, e.check = .ok () := by
  induction params with
  | nil => simp [checkParams]
  | cons p params ih =>
    cases annotated <;>
      simp [checkParams, check_bind_eq_ok_iff, checkOption_eq_ok_iff, ih, and_assoc]

/-- A tuple and the items of a subscript are checked alike, but for slices. -/
theorem check_subscript_eq_ok_iff {value index : Expr} :
    (Expr.subscript value index).check = .ok () ↔ value.check = .ok () ∧
      ((∃ items, index = .tuple items ∧ ∀ e ∈ items, e.checkItem = .ok ()) ∨
        (∀ items, index ≠ .tuple items) ∧ index.checkItem = .ok ()) := by
  cases index <;>
    simp [Expr.check, Expr.checkItem, check_bind_eq_ok_iff, checkItems_eq_ok_iff, and_comm,
      and_assoc, and_left_comm]

/-- Where a tuple needs no parentheses its items are what is checked. -/
theorem check_of_bareItems {e : Expr} (h : ∀ x ∈ e.bareItems, x.check = .ok ()) :
    e.check = .ok () := by
  cases e with
  | tuple items =>
    cases items with
    | nil => rfl
    | cons x items => exact checkAll_eq_ok_iff.2 h
  | _ => exact h _ (List.mem_singleton_self _)

theorem Param.isItem_preset {annotated : Bool} {p : Param Expr} (h : p.stands annotated = true)
    {e : Expr} (he : e ∈ p.preset) : e.isItem = true := by
  simp only [Param.stands, Bool.and_eq_true, Option.all_eq_true] at h
  exact Expr.isItem_of_standsAt (h.2 e he).2

theorem Param.isItem_hint {annotated : Bool} {p : Param Expr} (h : p.stands annotated = true)
    {e : Expr} (he : e ∈ p.hint) : e.isItem = true := by
  simp only [Param.stands, Bool.and_eq_true, Option.all_eq_true] at h
  exact Expr.isItem_of_standsAt (h.1 e he).2

/-- The targets of clauses are checked as a whole, though only their items are asked to be
legible. -/
theorem Clause.check_of_items {c : Clause Expr} (stands : c.stands = true)
    (targets : ∀ x ∈ c.target.bareItems, x.checkItem = .ok ()) (iter : c.iter.checkItem = .ok ())
    (conditions : ∀ x ∈ c.conditions, x.checkItem = .ok ()) : c.target.check = .ok () ∧
      c.iter.check = .ok () ∧ ∀ x ∈ c.conditions, x.check = .ok () := by
  simp only [Clause.stands, Expr.isTargetItem, Bool.and_eq_true, List.all_eq_true] at stands
  obtain ⟨⟨target, source⟩, tests⟩ := stands
  refine ⟨check_of_bareItems fun x hx => ?_, ?_, fun x hx => ?_⟩
  · exact Expr.checkItem_of_isItem (target x hx).1 ▸ targets x hx
  · exact Expr.checkItem_of_isItem (Expr.isItem_of_standsAt source) ▸ iter
  · exact Expr.checkItem_of_isItem (Expr.isItem_of_standsAt (tests x hx)) ▸ conditions x hx

theorem Legible.checkItem_eq_ok {e : Expr} (h : Legible e) : e.checkItem = .ok () := by
  have item {x : Expr} (hx : x.checkItem = .ok ()) (is : x.isItem = true) : x.check = .ok () :=
    Expr.checkItem_of_isItem is ▸ hx
  have stand {x : Expr} {least : Nat} (hx : x.checkItem = .ok ()) (at_ : x.standsAt least = true) :
      x.check = .ok () := item hx (Expr.isItem_of_standsAt at_)
  induction h with
  | name identifier => simpa [Expr.checkItem, Expr.check] using identifier
  | constant => rfl
  | dotted _ is _ identifier ih =>
    simp [Expr.checkItem, Expr.check, check_bind_eq_ok_iff, identifier, item ih is]
  | @subscript e i _ is _ single ih ihIndex =>
    refine check_subscript_eq_ok_iff.2 ⟨item ih is, ?_⟩
    by_cases tuple : ∃ items, i = .tuple items
    · obtain ⟨items, rfl⟩ := tuple
      cases items with
      | nil => exact .inl ⟨[], rfl, by simp⟩
      | cons => cases single
    · exact .inr ⟨fun items same => tuple ⟨items, same⟩, ihIndex⟩
  | subscriptMany _ is _ _ _ ih ihItems =>
    exact check_subscript_eq_ok_iff.2 ⟨item ih is, .inl ⟨_, rfl, ihItems⟩⟩
  | slice _ bounds ih =>
    exact Expr.checkItem_slice_eq_ok_iff.2 fun x hx e he => stand (ih x hx e he) (bounds x hx e he)
  | call _ is _ items names _ values ih ihArgs ihValues =>
    simp only [Expr.checkItem, Expr.check, check_bind_eq_ok_iff, checkAll_eq_ok_iff,
      checkArguments_eq_ok_iff]
    exact ⟨item ih is, fun x hx => item (ihArgs x hx) (items x hx),
      fun k hk => ⟨names k hk, stand (ihValues k hk) (values k hk)⟩⟩
  | starred _ stands ih => exact (stand ih stands : Expr.check _ = _)
  | list _ items ih => exact checkAll_eq_ok_iff.2 fun x hx => item (ih x hx) (items x hx)
  | tuple _ items ih => exact checkAll_eq_ok_iff.2 fun x hx => item (ih x hx) (items x hx)
  | set _ _ items ih => exact checkAll_eq_ok_iff.2 fun x hx => item (ih x hx) (items x hx)
  | @dict entries _ _ first more values ihKeys ihValues =>
    refine checkEntries_eq_ok_iff.2 fun x hx =>
      ⟨item (ihKeys x hx) ?_, stand (ihValues x hx) (values x hx)⟩
    cases entries with
    | nil => cases hx
    | cons y entries =>
      rcases List.mem_cons.1 hx with rfl | later
      · exact first _ rfl
      · exact Expr.isItem_of_standsAt (more x later)
  | comprehension _ is filled _ _ _ clauses ih ihTargets ihIters ihConditions =>
    simp only [Expr.checkItem, Expr.check, check_bind_eq_ok_iff, demand_eq_ok_iff,
      checkClauses_eq_ok_iff]
    exact ⟨item ih is, by simpa using filled, fun c hc => Clause.check_of_items (clauses c hc)
      (ihTargets c hc) (ihIters c hc) (ihConditions c hc)⟩
  | dictComprehension _ is _ stands filled _ _ _ clauses ihKey ihValue ihTargets ihIters
      ihConditions =>
    simp only [Expr.checkItem, Expr.check, check_bind_eq_ok_iff, demand_eq_ok_iff,
      checkClauses_eq_ok_iff]
    exact ⟨item ihKey is, stand ihValue stands, by simpa using filled, fun c hc =>
      Clause.check_of_items (clauses c hc) (ihTargets c hc) (ihIters c hc) (ihConditions c hc)⟩
  | unary _ stands ih => exact (stand ih stands : Expr.check _ = _)
  | binary _ _ left right ihLeft ihRight =>
    exact check_bind_eq_ok_iff.2 ⟨stand ihLeft left, stand ihRight right⟩
  | logic several _ values ih =>
    refine check_bind_eq_ok_iff.2 ⟨demand_eq_ok_iff.2 (decide_eq_true several), ?_⟩
    exact checkAll_eq_ok_iff.2 fun x hx => stand (ih x hx) (values x hx)
  | compare _ stands filled even _ values ih ihItems =>
    simp only [Expr.checkItem, Expr.check, check_bind_eq_ok_iff, demand_eq_ok_iff,
      checkAll_eq_ok_iff]
    exact ⟨by simp [filled, even], stand ih stands, fun x hx => stand (ihItems x hx) (values x hx)⟩
  | conditional _ _ _ test body orelse ihTest ihBody ihElse =>
    simp only [Expr.checkItem, Expr.check, check_bind_eq_ok_iff]
    exact ⟨stand ihBody body, stand ihTest test, stand ihElse orelse⟩
  | lambda names _ _ params _ stands ihPresets ih =>
    refine check_bind_eq_ok_iff.2 ⟨checkParams_eq_ok_iff.2 fun p hp => ?_, stand ih stands⟩
    exact ⟨names p hp, by simp, fun e he => item (ihPresets p hp e he)
      (Param.isItem_preset (params p hp) he)⟩
  | await _ is ih => exact (item ih is : Expr.check _ = _)
  | named identifier _ stands ih =>
    simp [Expr.checkItem, Expr.check, check_bind_eq_ok_iff, identifier, stand ih stands]

/-- A legible expression is written unless it is a lone slice. -/
theorem Legible.check_eq_ok {e : Expr} (h : Legible e) (item : e.isItem = true) :
    e.check = .ok () :=
  Expr.checkItem_of_isItem item ▸ h.checkItem_eq_ok

/-! ### Statements -/

theorem checkBlock_eq_ok_iff {body : Block} :
    checkBlock body = .ok () ↔ ∀ s ∈ body, s.check "if" = .ok () := by
  induction body with
  | nil => simp [checkBlock]
  | cons s body ih => simp [checkBlock, check_bind_eq_ok_iff, ih]

/-- A module that names are imported from has no name, or a path of identifiers. -/
theorem checkImportFrom_eq_ok_iff {module : String} {names : List Alias} :
    checkImportFrom module names = .ok () ↔ names ≠ [] ∧ (module = "" ∨ isPath module = true) ∧
      (isStarImport names = true ∨ checkAliases false names = .ok ()) := by
  by_cases empty : module = "" <;> by_cases star : isStarImport names = true <;>
    simp [checkImportFrom, check_bind_eq_ok_iff, checkDotted_eq_ok_iff, empty, star]

theorem checkAliases_eq_ok_iff {dotted : Bool} {names : List Alias} :
    checkAliases dotted names = .ok () ↔
      ∀ a ∈ names, (if dotted then isPath a.name else isIdentifier a.name) = true ∧
        ∀ n ∈ a.asName, isIdentifier n = true := by
  induction names with
  | nil => simp [checkAliases]
  | cons a names ih =>
    cases dotted <;> simp [checkAliases, Alias.check, check_bind_eq_ok_iff, checkDotted_eq_ok_iff,
      checkIdentifiers_eq_ok_iff, ih, and_assoc]

theorem checkWithItems_eq_ok_iff {items : List WithItem} :
    checkWithItems items = .ok () ↔
      ∀ x ∈ items, x.context.check = .ok () ∧ ∀ e ∈ x.target, e.check = .ok () := by
  induction items with
  | nil => simp [checkWithItems]
  | cons x items ih =>
    simp [checkWithItems, check_bind_eq_ok_iff, checkOption_eq_ok_iff, ih, and_assoc]

@[simp]
theorem checkFilled_eq_ok_iff {header : String} {body : Block} :
    checkFilled header body = .ok () ↔ body ≠ [] := by
  cases body <;> simp [checkFilled]

theorem checkHandlerHeader_eq_ok_iff {kind : Option Expr} {name : Option String} :
    checkHandlerHeader kind name = .ok () ↔ (∀ e ∈ kind, e.check = .ok ()) ∧
      (kind.isSome = true → ∀ n ∈ name, isIdentifier n = true) := by
  cases kind <;>
    simp [checkHandlerHeader, check_bind_eq_ok_iff, checkIdentifiers_eq_ok_iff, and_comm]

theorem checkHandlers_eq_ok_iff {handlers : List (Handler Stmt)} :
    checkHandlers handlers = .ok () ↔ ∀ h ∈ handlers, checkHandlerHeader h.kind h.name = .ok () ∧
      h.body ≠ [] ∧ ∀ s ∈ h.body, s.check "if" = .ok () := by
  induction handlers with
  | nil => simp [checkHandlers]
  | cons h handlers ih =>
    simp [checkHandlers, check_bind_eq_ok_iff, checkBlock_eq_ok_iff, ih, and_assoc]

/-- The word that a condition starts with only counts for the wording of an error. -/
theorem check_eq_ok_iff_of_word {s : Stmt} (word word' : String) :
    s.check word = .ok () ↔ s.check word' = .ok () := by
  cases s <;> simp [Stmt.check, check_bind_eq_ok_iff]

theorem checkOrelse_eq_ok_iff {orelse : Block} :
    checkOrelse orelse = .ok () ↔ ∀ s ∈ orelse, s.check "if" = .ok () := by
  match orelse with
  | [] => simp [checkOrelse]
  | [s] => simpa [checkOrelse] using check_eq_ok_iff_of_word "elif" "if"
  | s :: t :: rest => simp [checkOrelse, check_bind_eq_ok_iff, checkBlock_eq_ok_iff]

section Forms

variable {word : String} {body orelse finalBody : Block}

theorem check_functionDef_eq_ok_iff {d : FunctionDef Stmt} :
    (Stmt.functionDef d).check word = .ok () ↔ checkAll d.decorators = .ok () ∧
      isIdentifier d.name = true ∧ checkParams true d.params = .ok () ∧
      checkOption d.returns = .ok () ∧ d.body ≠ [] ∧ ∀ s ∈ d.body, s.check "if" = .ok () := by
  simp only [Stmt.check, check_bind_eq_ok_iff, checkIdentifier_eq_ok_iff, checkFilled_eq_ok_iff,
    checkBlock_eq_ok_iff]

theorem check_classDef_eq_ok_iff {d : ClassDef Stmt} :
    (Stmt.classDef d).check word = .ok () ↔ checkAll d.decorators = .ok () ∧
      isIdentifier d.name = true ∧ checkAll d.bases = .ok () ∧ checkArguments d.keywords = .ok () ∧
      d.body ≠ [] ∧ ∀ s ∈ d.body, s.check "if" = .ok () := by
  simp only [Stmt.check, check_bind_eq_ok_iff, checkIdentifier_eq_ok_iff, checkFilled_eq_ok_iff,
    checkBlock_eq_ok_iff]

theorem check_ifElse_eq_ok_iff {test : Expr} :
    (Stmt.ifElse test body orelse).check word = .ok () ↔ test.check = .ok () ∧ body ≠ [] ∧
      (∀ s ∈ body, s.check "if" = .ok ()) ∧ ∀ s ∈ orelse, s.check "if" = .ok () := by
  simp only [Stmt.check, check_bind_eq_ok_iff, checkFilled_eq_ok_iff, checkBlock_eq_ok_iff,
    checkOrelse_eq_ok_iff]

theorem check_whileLoop_eq_ok_iff {test : Expr} :
    (Stmt.whileLoop test body orelse).check word = .ok () ↔ test.check = .ok () ∧ body ≠ [] ∧
      (∀ s ∈ body, s.check "if" = .ok ()) ∧ ∀ s ∈ orelse, s.check "if" = .ok () := by
  simp only [Stmt.check, check_bind_eq_ok_iff, checkFilled_eq_ok_iff, checkBlock_eq_ok_iff]

theorem check_forLoop_eq_ok_iff {target iter : Expr} :
    (Stmt.forLoop target iter body orelse).check word = .ok () ↔ target.check = .ok () ∧
      iter.check = .ok () ∧ body ≠ [] ∧ (∀ s ∈ body, s.check "if" = .ok ()) ∧
      ∀ s ∈ orelse, s.check "if" = .ok () := by
  simp only [Stmt.check, check_bind_eq_ok_iff, checkFilled_eq_ok_iff, checkBlock_eq_ok_iff]

theorem check_withBlock_eq_ok_iff {items : List WithItem} :
    (Stmt.withBlock items body).check word = .ok () ↔ checkWithItems items = .ok () ∧ body ≠ [] ∧
      ∀ s ∈ body, s.check "if" = .ok () := by
  simp only [Stmt.check, check_bind_eq_ok_iff, checkFilled_eq_ok_iff, checkBlock_eq_ok_iff]

theorem check_tryBlock_eq_ok_iff {handlers : List (Handler Stmt)} :
    (Stmt.tryBlock body handlers orelse finalBody).check word = .ok () ↔
      (handlers ≠ [] ∨ finalBody ≠ []) ∧ body ≠ [] ∧ (∀ s ∈ body, s.check "if" = .ok ()) ∧
      checkHandlers handlers = .ok () ∧ (∀ s ∈ orelse, s.check "if" = .ok ()) ∧
      ∀ s ∈ finalBody, s.check "if" = .ok () := by
  simp [Stmt.check, check_bind_eq_ok_iff, checkBlock_eq_ok_iff]

end Forms

theorem checkAliases_of_areImported {names : List Alias} (h : areImported names = true) :
    names ≠ [] ∧ (isStarImport names = true ∨ checkAliases false names = .ok ()) := by
  simp only [areImported, Bool.or_eq_true, beq_iff_eq, Bool.and_eq_true, List.all_eq_true] at h
  rcases h with rfl | ⟨filled, identifiers⟩
  · exact ⟨by simp, .inl rfl⟩
  · refine ⟨by simpa using filled, .inr (checkAliases_eq_ok_iff.2 fun a ha => ?_)⟩
    exact ⟨(identifiers a ha).1, (Option.all_eq_true _ _).1 (identifiers a ha).2⟩

/-- A legible statement is written. -/
theorem LegibleStmt.check_eq_ok {s : Stmt} (h : LegibleStmt s) : s.check "if" = .ok () := by
  have stand {e : Expr} {least : Nat} (legible : Legible e) (at_ : e.standsAt least = true) :
      e.check = .ok () := legible.check_eq_ok (Expr.isItem_of_standsAt at_)
  have list {e : Expr} (legible : Legible e) (test : e.isTestList = true) : e.check = .ok () :=
    legible.check_eq_ok (Expr.isItem_of_isTestList test)
  induction h with
  | expr value item => exact value.check_eq_ok item
  | assign filled legible items value item =>
    simp only [Stmt.check, checkSimple, check_bind_eq_ok_iff, demand_eq_ok_iff, checkAll_eq_ok_iff]
    exact ⟨by simpa using filled, fun t ht => (legible t ht).check_eq_ok (items t ht),
      value.check_eq_ok item⟩
  | annAssign target item hint stands value tests =>
    simp only [Stmt.check, checkSimple, check_bind_eq_ok_iff, checkOption_eq_ok_iff]
    exact ⟨target.check_eq_ok item, stand hint stands, fun e he => list (value e he) (tests e he)⟩
  | augAssign target item value tests =>
    exact check_bind_eq_ok_iff.2 ⟨target.check_eq_ok item, list value tests⟩
  | ret value tests =>
    exact checkOption_eq_ok_iff.2 fun e he => list (value e he) (tests e he)
  | pass | breakLoop | continueLoop => rfl
  | @raise exception cause given legible stands =>
    simp only [Stmt.check, checkSimple, check_bind_eq_ok_iff, demand_eq_ok_iff,
      checkOption_eq_ok_iff]
    refine ⟨?_, fun e he => stand (legible exception (by simp) e he) (stands exception (by simp) e he),
      fun e he => stand (legible cause (by simp) e he) (stands cause (by simp) e he)⟩
    cases cause with
    | none => simp
    | some c => simp [given rfl]
  | assertion test stands legible standMessage =>
    simp only [Stmt.check, checkSimple, check_bind_eq_ok_iff, checkOption_eq_ok_iff]
    exact ⟨stand test stands, fun e he => stand (legible e he) (standMessage e he)⟩
  | delete filled legible items =>
    exact checkAll_eq_ok_iff.2 fun t ht => (legible t ht).check_eq_ok (items t ht)
  | global filled identifiers => exact checkIdentifiers_eq_ok_iff.2 identifiers
  | importModules filled paths identifiers =>
    exact checkAliases_eq_ok_iff.2 fun a ha => ⟨paths a ha, identifiers a ha⟩
  | importFrom level path imported =>
    have names := checkAliases_of_areImported imported
    exact checkImportFrom_eq_ok_iff.2 ⟨names.1, path, names.2⟩
  | functionDef decorated decorators identifier names kinds hints presets params result stands suite
      block ih =>
    simp only [Stmt.check, check_bind_eq_ok_iff, checkAll_eq_ok_iff, checkIdentifier_eq_ok_iff,
      checkParams_eq_ok_iff, checkOption_eq_ok_iff, checkFilled_eq_ok_iff, checkBlock_eq_ok_iff]
    refine ⟨fun e he => stand (decorated e he) (decorators e he), identifier, fun p hp => ?_,
      fun e he => stand (result e he) (stands e he), ne_nil_of_isSuite suite, ih⟩
    exact ⟨names p hp, fun _ e he => (hints p hp e he).check_eq_ok (Param.isItem_hint (params p hp) he),
      fun e he => (presets p hp e he).check_eq_ok (Param.isItem_preset (params p hp) he)⟩
  | classDef decorated decorators identifier legible items names values stands suite block ih =>
    simp only [Stmt.check, check_bind_eq_ok_iff, checkAll_eq_ok_iff, checkIdentifier_eq_ok_iff,
      checkArguments_eq_ok_iff, checkFilled_eq_ok_iff, checkBlock_eq_ok_iff]
    exact ⟨fun e he => stand (decorated e he) (decorators e he), identifier,
      fun x hx => (legible x hx).check_eq_ok (items x hx),
      fun k hk => ⟨names k hk, stand (values k hk) (stands k hk)⟩, ne_nil_of_isSuite suite, ih⟩
  | ifElse test stands suite other block elseBlock ih ihElse =>
    simp only [Stmt.check, check_bind_eq_ok_iff, checkFilled_eq_ok_iff, checkBlock_eq_ok_iff,
      checkOrelse_eq_ok_iff]
    exact ⟨stand test stands, ne_nil_of_isSuite suite, ih, ihElse⟩
  | whileLoop test stands suite other block elseBlock ih ihElse =>
    simp only [Stmt.check, check_bind_eq_ok_iff, checkFilled_eq_ok_iff, checkBlock_eq_ok_iff]
    exact ⟨stand test stands, ne_nil_of_isSuite suite, ih, ihElse⟩
  | forLoop targets target iter tests suite other block elseBlock ih ihElse =>
    simp only [Stmt.check, check_bind_eq_ok_iff, checkFilled_eq_ok_iff, checkBlock_eq_ok_iff]
    refine ⟨check_of_bareItems fun x hx => (targets x hx).check_eq_ok ?_, list iter tests,
      ne_nil_of_isSuite suite, ih, ihElse⟩
    have item := List.all_eq_true.1 target x hx
    simp only [Expr.isTargetItem, Bool.and_eq_true] at item
    exact item.1
  | withBlock filled contexts stands targets items suite block ih =>
    simp only [Stmt.check, check_bind_eq_ok_iff, checkWithItems_eq_ok_iff, checkFilled_eq_ok_iff,
      checkBlock_eq_ok_iff]
    exact ⟨fun x hx => ⟨stand (contexts x hx) (stands x hx), fun e he =>
      (targets x hx e he).check_eq_ok (items x hx e he)⟩, ne_nil_of_isSuite suite, ih⟩
  | tryBlock ends suite kinds stands names suites other final block handled elseBlock finalBlock ih
      ihHandled ihElse ihFinal =>
    simp only [Stmt.check, check_bind_eq_ok_iff, demand_eq_ok_iff, checkFilled_eq_ok_iff,
      checkBlock_eq_ok_iff, checkHandlers_eq_ok_iff, checkHandlerHeader_eq_ok_iff]
    refine ⟨by simpa using ends, ne_nil_of_isSuite suite, ih, fun h hh => ⟨⟨fun e he => ?_, ?_⟩,
      ne_nil_of_isSuite (suites h hh), ihHandled h hh⟩, ihElse, ihFinal⟩
    · exact stand (kinds h hh e he) (stands h hh e he)
    · exact fun _ n hn => (names h hh n hn).2

end RobotCell.Script
