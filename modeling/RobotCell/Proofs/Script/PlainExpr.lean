import RobotCell.Proofs.Script.Checked
import RobotCell.Proofs.Script.ReadExpr
import RobotCell.Proofs.Script.SpellExpr

/-!
# Operator trees are read back

Parentheses are placed by levels, and the grammar reads by levels. For expressions without slices
and without literals that are kept as they are written, the two always agree: whatever the shape of
the tree, its text is one expression, and it is read as the same tree.

## Main definitions

- `IsPlain` — the expressions for which this holds without further conditions

## Main statements

- `IsPlain.legible` — plain expressions are legible
- `parseTest_renderExpr` — the text of a plain expression is read as the expression
-/

namespace RobotCell.Script

open Grammar

/-- What is behind the star of an argument. -/
def Expr.unstarred : Expr → Expr
  | .starred e => e
  | e => e

/-- The expression is a name. -/
def Expr.isName : Expr → Bool
  | .name id => isIdentifier id
  | _ => false

/-- The expression is a name, or a tuple of at least one name. -/
def Expr.isNameTarget : Expr → Bool
  | .tuple (x :: xs) => (x :: xs).all isName
  | e => e.isName

/-- The text is a number without a point, an exponent or a prefix. -/
def isDigits (text : String) : Bool :=
  !text.toList.isEmpty && text.toList.all isDigit

/-- The parameter has a name and perhaps a default value, and no star or annotation. -/
def Param.isPlain (p : Param Expr) : Bool :=
  isIdentifier p.name && p.kind = .positional && p.hint.isNone

/-- The expression is built from names and simple constants, with operators, displays, calls,
attributes and subscripts. -/
inductive IsPlain : Expr → Prop where
  | name {id : String} (identifier : isIdentifier id = true) : IsPlain (.name id)
  | none : IsPlain (.constant .none)
  | bool (b : Bool) : IsPlain (.constant (.bool b))
  | ellipsis : IsPlain (.constant .ellipsis)
  | str (s : String) : IsPlain (.constant (.str s))
  | int {text : String} (digits : isDigits text = true) : IsPlain (.constant (.int text))
  | dotted {e : Expr} {attr : String} (value : IsPlain e)
      (notNumber : ∀ text, e ≠ .constant (.int text)) (identifier : isIdentifier attr = true) :
      IsPlain (.attribute e attr)
  | subscript {e i : Expr} (value : IsPlain e) (index : IsPlain i)
      (single : ∀ items, i ≠ .tuple items) : IsPlain (.subscript e i)
  | call {e : Expr} {args : List Expr} {keywords : List (Argument Expr)} (func : IsPlain e)
      (plain : ∀ x ∈ args, IsPlain x.unstarred)
      (names : ∀ k ∈ keywords, ∀ n ∈ k.name, isIdentifier n = true)
      (values : ∀ k ∈ keywords, IsPlain k.value) : IsPlain (.call e args keywords)
  | list {items : List Expr} (plain : ∀ x ∈ items, IsPlain x) : IsPlain (.list items)
  | tuple {items : List Expr} (plain : ∀ x ∈ items, IsPlain x) : IsPlain (.tuple items)
  | set {items : List Expr} (filled : items ≠ []) (plain : ∀ x ∈ items, IsPlain x) :
      IsPlain (.set items)
  | dict {entries : List (Expr × Expr)} (keys : ∀ x ∈ entries, IsPlain x.1)
      (values : ∀ x ∈ entries, IsPlain x.2) : IsPlain (.dict entries)
  | comprehension {kind : ComprehensionKind} {e : Expr} {clauses : List (Clause Expr)}
      (element : IsPlain e) (filled : clauses ≠ [])
      (targets : ∀ c ∈ clauses, c.target.isNameTarget = true)
      (iters : ∀ c ∈ clauses, IsPlain c.iter)
      (conditions : ∀ c ∈ clauses, ∀ x ∈ c.conditions, IsPlain x) :
      IsPlain (.comprehension kind e clauses)
  | dictComprehension {k v : Expr} {clauses : List (Clause Expr)} (key : IsPlain k)
      (value : IsPlain v) (filled : clauses ≠ [])
      (targets : ∀ c ∈ clauses, c.target.isNameTarget = true)
      (iters : ∀ c ∈ clauses, IsPlain c.iter)
      (conditions : ∀ c ∈ clauses, ∀ x ∈ c.conditions, IsPlain x) :
      IsPlain (.dictComprehension k v clauses)
  | unary (op : UnaryOp) {e : Expr} (operand : IsPlain e) : IsPlain (.unary op e)
  | binary (op : BinaryOp) {l r : Expr} (left : IsPlain l) (right : IsPlain r) :
      IsPlain (.binary l op r)
  | logic (op : LogicOp) {values : List Expr} (several : 2 ≤ values.length)
      (plain : ∀ x ∈ values, IsPlain x) : IsPlain (.logic op values)
  | compare {e : Expr} {ops : List CompareOp} {comparators : List Expr} (left : IsPlain e)
      (filled : ops ≠ []) (even : ops.length = comparators.length)
      (plain : ∀ x ∈ comparators, IsPlain x) : IsPlain (.compare e ops comparators)
  | conditional {t b o : Expr} (test : IsPlain t) (body : IsPlain b) (orelse : IsPlain o) :
      IsPlain (.conditional t b o)
  | lambda {params : List (Param Expr)} {b : Expr} (plain : ∀ p ∈ params, p.isPlain = true)
      (presets : ∀ p ∈ params, ∀ e ∈ p.preset, IsPlain e) (body : IsPlain b) :
      IsPlain (.lambda params b)
  | await {e : Expr} (value : IsPlain e) : IsPlain (.await e)
  | named {target : String} {e : Expr} (identifier : isIdentifier target = true)
      (value : IsPlain e) : IsPlain (.named target e)

/-! ### Numbers -/

theorem Lexeme.decimalRun_digits {cs : List Char} (h : ∀ c ∈ cs, isDigit c = true)
    (before : Char) : decimalRun before cs = cs := by
  induction cs generalizing before with
  | nil => rfl
  | cons c cs ih =>
    have digit : isDigit c = true := h c List.mem_cons_self
    simp only [decimalRun, digit, Bool.true_or, if_true]
    rw [ih fun d hd => h d (List.mem_cons_of_mem c hd)]

theorem isRadixLetter_of_isDigit {c : Char} (h : isDigit c = true) :
    Lexeme.isRadixLetter c = false := by
  rw [isDigit_iff] at h
  by_contra letter
  simp only [Lexeme.isRadixLetter, Bool.not_eq_false, Bool.or_eq_true, beq_iff_eq] at letter
  rcases letter with ((((rfl | rfl) | rfl) | rfl) | rfl) | rfl <;> revert h <;> decide

theorem isNumber_of_isDigits {text : String} (h : isDigits text = true) : IsNumber text := by
  simp only [isDigits, Bool.and_eq_true, Bool.not_eq_true', List.all_eq_true] at h
  obtain ⟨filled, digits⟩ := h
  match same : text.toList, filled with
  | c :: cs, _ =>
    rw [same] at digits
    have first : isDigit c = true := digits c List.mem_cons_self
    have body : Lexeme.numberBody (c :: cs) = c :: cs := by
      match cs with
      | [] => rfl
      | d :: cs =>
        have second : isDigit d = true := digits d (by simp)
        rw [Lexeme.numberBody, isRadixLetter_of_isDigit second, Bool.and_false, if_neg (by decide),
          Lexeme.decimalRun_digits fun x hx => digits x (List.mem_cons_of_mem c hx)]
    exact ⟨c, cs, same, by simp [Lexeme.startsNumber, first], by simp [Lexeme.numberText, body]⟩

theorem numberConstant_of_isDigits {text : String} (h : isDigits text = true) :
    numberConstant text = .int text := by
  simp only [isDigits, Bool.and_eq_true, List.all_eq_true] at h
  have marks : (text.toList.any fun c => ['.', 'e', 'E', 'j', 'J'].contains c) = false := by
    rw [List.any_eq_false]
    intro c hc mark
    have digit := isDigit_iff.1 (h.2 c hc)
    simp only [List.contains_eq_mem, decide_eq_true_eq, List.mem_cons, List.not_mem_nil,
      or_false] at mark
    rcases mark with rfl | rfl | rfl | rfl | rfl <;> revert digit <;> decide
  rw [numberConstant, marks, Bool.and_false]
  rfl

/-! ### Plain expressions are legible -/

/-- Neither a star nor a slice is plain, so a plain expression may stand everywhere. -/
theorem IsPlain.standsAt {e : Expr} (h : IsPlain e) (least : Nat) : e.standsAt least = true := by
  cases h <;> rfl

theorem IsPlain.isItem {e : Expr} (h : IsPlain e) : e.isItem = true := by
  cases h <;> rfl

theorem IsPlain.isIndex {e : Expr} (h : IsPlain e) (single : ∀ items, e ≠ .tuple items) :
    e.isIndex = true := by
  cases h with
  | tuple => exact absurd rfl (single _)
  | _ => rfl

theorem IsPlain.takesPoint {e : Expr} (h : IsPlain e)
    (notNumber : ∀ text, e ≠ .constant (.int text)) : e.takesPoint = true := by
  cases h with
  | int => exact absurd rfl (notNumber _)
  | _ => rfl

theorem Expr.isNameTarget_iff {e : Expr} :
    e.isNameTarget = true ↔ ∀ x ∈ e.bareItems, x.isName = true := by
  cases e with
  | tuple items => cases items <;> simp [isNameTarget, bareItems, isName]
  | _ => simp [isNameTarget, bareItems]

theorem Expr.legible_of_isName {e : Expr} (h : e.isName = true) : Legible e := by
  cases e with
  | name id => exact .name h
  | _ => cases h

theorem Expr.isTargetItem_of_isName {e : Expr} (h : e.isName = true) : e.isTargetItem = true := by
  cases e with
  | name id => rfl
  | _ => cases h

theorem Clause.stands_of_plain {c : Clause Expr} (target : c.target.isNameTarget = true)
    (iter : IsPlain c.iter) (conditions : ∀ x ∈ c.conditions, IsPlain x) : c.stands = true := by
  simp only [Clause.stands, Bool.and_eq_true, List.all_eq_true]
  exact ⟨⟨fun x hx => Expr.isTargetItem_of_isName (Expr.isNameTarget_iff.1 target x hx),
    iter.standsAt _⟩, fun x hx => (conditions x hx).standsAt _⟩

theorem legible_target {e : Expr} (h : e.isNameTarget = true) : ∀ x ∈ e.bareItems, Legible x :=
  fun x hx => Expr.legible_of_isName (Expr.isNameTarget_iff.1 h x hx)

/-- An argument is an item also behind a star. -/
theorem legible_of_unstarred {x : Expr} (plain : IsPlain x.unstarred)
    (legible : Legible x.unstarred) : Legible x ∧ x.isItem = true := by
  cases x with
  | starred e => exact ⟨.starred legible (plain.standsAt _), rfl⟩
  | _ => exact ⟨legible, plain.isItem⟩

theorem IsPlain.legible {e : Expr} (h : IsPlain e) : Legible e := by
  induction h with
  | name identifier => exact .name identifier
  | none | bool | ellipsis | str => exact .constant trivial
  | int digits =>
    exact .constant ⟨isNumber_of_isDigits digits, numberConstant_of_isDigits digits⟩
  | dotted value notNumber identifier ih =>
    exact .dotted ih value.isItem (value.takesPoint notNumber) identifier
  | subscript value index single ih ihIndex =>
    exact .subscript ih value.isItem ihIndex (index.isIndex single)
  | call func args names values ih ihArgs ihValues =>
    exact .call ih func.isItem (fun x hx => (legible_of_unstarred (args x hx) (ihArgs x hx)).1)
      (fun x hx => (legible_of_unstarred (args x hx) (ihArgs x hx)).2) names ihValues
      fun k hk => (values k hk).standsAt _
  | list plain ih => exact .list ih fun x hx => (plain x hx).isItem
  | tuple plain ih => exact .tuple ih fun x hx => (plain x hx).isItem
  | set filled plain ih => exact .set filled ih fun x hx => (plain x hx).isItem
  | dict keys values ihKeys ihValues =>
    exact .dict ihKeys ihValues (fun x hx => (keys x (List.mem_of_mem_head? hx)).isItem)
      (fun x hx => (keys x (List.mem_of_mem_tail hx)).standsAt _)
      fun x hx => (values x hx).standsAt _
  | comprehension element filled targets iters conditions ih ihIters ihConditions =>
    exact .comprehension ih element.isItem filled (fun c hc => legible_target (targets c hc))
      ihIters ihConditions fun c hc =>
        Clause.stands_of_plain (targets c hc) (iters c hc) (conditions c hc)
  | dictComprehension key value filled targets iters conditions ihKey ihValue ihIters
      ihConditions =>
    exact .dictComprehension ihKey key.isItem ihValue (value.standsAt _) filled
      (fun c hc => legible_target (targets c hc)) ihIters ihConditions fun c hc =>
        Clause.stands_of_plain (targets c hc) (iters c hc) (conditions c hc)
  | unary op operand ih => exact .unary ih (operand.standsAt _)
  | binary op left right ihLeft ihRight =>
    exact .binary ihLeft ihRight (left.standsAt _) (right.standsAt _)
  | logic op several plain ih => exact .logic several ih fun x hx => (plain x hx).standsAt _
  | compare left filled even plain ih ihItems =>
    exact .compare ih (left.standsAt _) filled even ihItems fun x hx => (plain x hx).standsAt _
  | conditional test body orelse ihTest ihBody ihElse =>
    exact .conditional ihTest ihBody ihElse (test.standsAt _) (body.standsAt _) (orelse.standsAt _)
  | lambda plain presets body ihPresets ih =>
    have parts {p} (hp : p ∈ _) := by
      have := plain p hp
      simpa only [Param.isPlain, Bool.and_eq_true, decide_eq_true_eq, Option.isNone_iff_eq_none]
        using this
    refine .lambda (fun p hp => (parts hp).1.1) (kindsStand_of_positional fun p hp => (parts hp).1.2) ihPresets
      (fun p hp => ?_) ih (body.standsAt _)
    simp only [Param.stands, (parts hp).1.2, (parts hp).2, Bool.and_eq_true, Option.all_eq_true]
    exact ⟨by simp, fun e he => ⟨by simp, (presets p hp e he).standsAt _⟩⟩
  | await value ih => exact .await ih value.isItem
  | named identifier value ih => exact .named identifier ih (value.standsAt _)

/-! ### Reading the text of an expression -/

/-- The text of a legible expression on a line of its own has the tokens of the expression. -/
theorem Legible.tokenize_textAt {e : Expr} (h : Legible e) {least : Nat}
    (stands : e.standsAt least = true) : ∃ placed, tokenize (e.textAt least) = .ok placed ∧
      placed.map PlacedToken.token = e.tokensAt least ++ [.newline, .endOfInput] := by
  obtain ⟨c, rest, same, opener⟩ := h.spelt.opensAt stands
  exact tokenize_of_spells (h.spelt.at_ least) ⟨c, rest, same, isInk_of_isOpener opener⟩

/-- A plain expression that is no tuple is always written, and its text up to the end of the line is
read as the same expression, however the operators are nested. -/
theorem parseTest_renderExpr {e : Expr} (plain : IsPlain e) (single : ∀ items, e ≠ .tuple items) :
    ∃ text placed, renderExpr e = .ok text ∧ tokenize text = .ok placed ∧
      parseTest (.ofTokens (placed.map PlacedToken.token)) = .ok (e, ⟨.newline, [.endOfInput]⟩) ∧
      parseExpr text = .ok e := by
  have stands := plain.standsAt Level.test
  obtain ⟨placed, tokenized, tokens⟩ := plain.legible.tokenize_textAt stands
  have read : parseTest (.ofTokens (placed.map PlacedToken.token)) =
      .ok (e, ⟨.newline, [.endOfInput]⟩) := by
    rw [tokens, List.append_cons, TokenStream.ofTokens_append_singleton, TokenStream.append_append]
    exact plain.legible.parseTest_eq_ok stands rfl
  refine ⟨e.textAt Level.test, placed, ?_, tokenized, read, ?_⟩
  · rw [renderExpr, plain.legible.check_eq_ok plain.isItem, bareText_of_ne single]
    rfl
  · rw [parseExpr, tokenized]
    show runParser parseTest placed = _
    rw [runParser, read]

/-- A power of a negated power, an assignment below `not`, and a call of a function whose body mixes
`and` with `or`. -/
theorem parseTest_renderExpr_nested :
    let power := Expr.unary .neg (.binary
      (.unary .neg (.binary (.name "a") .pow (.unary .neg (.name "b")))) .pow (.constant (.int "2")))
    let function := Expr.lambda [⟨"k", .positional, none, some (.tuple [])⟩]
      (.logic .and [.logic .or [.name "k", .constant (.str "it's")], .constant .ellipsis])
    let e := Expr.conditional (.unary .not (.named "b" (.name "a"))) power
      (.call function [.starred (.name "a")] [⟨none, .name "b"⟩])
    (IsPlain e ∧ ∀ items, e ≠ .tuple items) ∧
      ∃ text placed, renderExpr e = .ok text ∧ tokenize text = .ok placed ∧
        parseTest (.ofTokens (placed.map PlacedToken.token)) = .ok (e, ⟨.newline, [.endOfInput]⟩) ∧
        parseExpr text = .ok e := by
  intro power function e
  have name (id : String) (h : isIdentifier id = true) : IsPlain (.name id) := .name h
  have a := name "a" (by decide)
  have b := name "b" (by decide)
  have k := name "k" (by decide)
  have plainPower : IsPlain power :=
    .unary _ (.binary _ (.unary _ (.binary _ a (.unary _ b))) (.int (by decide)))
  have plainFunction : IsPlain function := by
    refine .lambda (by decide) ?_ (.logic _ (by decide) ?_)
    · simpa using IsPlain.tuple (by simp)
    · simpa using ⟨IsPlain.logic _ (by decide) (by simpa using ⟨k, IsPlain.str _⟩),
        IsPlain.ellipsis⟩
  have plain : IsPlain e := by
    refine .conditional (.unary _ (.named (by decide) a)) plainPower
      (.call plainFunction ?_ (by simp) ?_)
    · simpa [Expr.unstarred] using a
    · simpa using b
  exact ⟨⟨plain, by simp [e]⟩, parseTest_renderExpr plain (by simp [e])⟩

end RobotCell.Script
