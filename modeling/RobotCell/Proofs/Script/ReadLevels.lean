import RobotCell.Proofs.Script.Legible

/-!
# Reading expressions level by level

Each level has a parser, and the parser of a level calls the one of the next tighter level. What a
tighter parser reads, a looser one reads as well, unless the first token is an operator in front of
an operand of the looser level or the token behind is one that joins operands of it. Both are told by
the levels of tokens alone, so one statement leads from any level to any looser one.

Operands with trailers and operations that are grouped from the left are read by loops. For them it
is told what is read together with whatever the loop goes on with.

## Main definitions

- `joinLevel`, `prefixLevel` — the levels of the tokens behind and in front of operands
- `readerAt` — the parser of a level
- `Reads` — tokens that are read as an expression by the parser of a level
- `ReadsPrimary`, `Grouped` — tokens that are read as the start of a longer expression

## Main results

- `Reads.of_le` — what the parser of a level reads, a looser one does
-/

namespace RobotCell.Script

open Grammar TokenStream

/-! ### Levels of tokens -/

/-- The level of the expressions that go on with the token behind an operand. A literal joins a
literal before it. -/
def joinLevel : Token → Nat
  | .str _ | .verbatim _ => Level.atom + 1
  | .symbol .dot | .symbol .leftParen | .symbol .leftBracket => Level.primary
  | .symbol .doubleStar => Level.power
  | .symbol .eq | .symbol .ne | .symbol .lt | .symbol .le | .symbol .gt | .symbol .ge |
    .keyword .inKw | .keyword .isKw | .keyword .notKw => Level.comparison
  | .keyword .andKw => Level.conjunction
  | .keyword .orKw => Level.disjunction
  | .keyword .ifKw => Level.conditional
  | t => (binaryOp? t).elim 0 BinaryOp.level

/-- The level of the expressions that start with the token; none do at level zero. -/
def prefixLevel : Token → Nat
  | .name _ | .number _ | .str _ | .verbatim _ => Level.atom
  | .keyword .noneKw | .keyword .trueKw | .keyword .falseKw => Level.atom
  | .symbol .ellipsis | .symbol .leftParen | .symbol .leftBracket | .symbol .leftBrace => Level.atom
  | .symbol .minus | .symbol .plus | .symbol .tilde => Level.unary
  | .keyword .awaitKw => Level.await
  | .keyword .notKw => Level.negation
  | .keyword .lambdaKw => Level.test
  | _ => 0

theorem joinLevel_of_binaryOp? {t : Token} {op : BinaryOp} (h : binaryOp? t = some op) :
    joinLevel t = op.level := by
  unfold binaryOp? at h
  split at h <;> first | cases h; rfl | cases h

/-- There are no operators between the levels of products and of powers. -/
theorem joinLevel_ne_unary (t : Token) : joinLevel t ≠ Level.unary := by
  unfold joinLevel
  split <;> try decide
  cases h : binaryOp? _ with
  | none => decide
  | some op => cases op <;> decide

/-- There are no operators between the levels of functions and of choices. -/
theorem joinLevel_ne_test (t : Token) : joinLevel t ≠ Level.test := by
  unfold joinLevel
  split <;> try decide
  cases h : binaryOp? _ with
  | none => decide
  | some op => cases op <;> decide

theorem startsExpression_of_prefixLevel {t : Token} (h : 0 < prefixLevel t) :
    startsExpression t = true := by
  unfold prefixLevel at h
  split at h <;> first | rfl | cases h

variable {s s' : TokenStream} {n ℓ : Nat} {e : Expr} {ts us : List Token}

/-- A symbol or keyword that joins operands of a level is not the next token if that is tighter. -/
theorem sees_of_joinLevel (symbol : Symbol) (h : joinLevel s.current < joinLevel (.symbol symbol)) :
    s.sees symbol = false := by
  rw [TokenStream.sees, beq_eq_false_iff_ne]
  intro same
  rw [same] at h
  omega

theorem seesKeyword_of_joinLevel (k : Keyword) (h : joinLevel s.current < joinLevel (.keyword k)) :
    s.seesKeyword k = false := by
  rw [TokenStream.seesKeyword, beq_eq_false_iff_ne]
  intro same
  rw [same] at h
  omega

theorem sees_of_prefixLevel (symbol : Symbol)
    (h : prefixLevel (.symbol symbol) < prefixLevel s.current) : s.sees symbol = false := by
  rw [TokenStream.sees, beq_eq_false_iff_ne]
  intro same
  rw [same] at h
  omega

theorem seesKeyword_of_prefixLevel (k : Keyword)
    (h : prefixLevel (.keyword k) < prefixLevel s.current) : s.seesKeyword k = false := by
  rw [TokenStream.seesKeyword, beq_eq_false_iff_ne]
  intro same
  rw [same] at h
  omega

/-! ### First tokens -/

/-- The token assigns the name before it. -/
def assignsName : Token → Bool
  | .symbol .colonEq | .symbol .assign => true
  | _ => false

/-- The first token may start an expression of the level, and the second one assigns no name. -/
def Leads (ℓ : Nat) (ts : List Token) : Prop :=
  ∃ t us, ts = t :: us ∧ 0 < prefixLevel t ∧ ℓ ≤ prefixLevel t ∧
    ∀ u ∈ us.head?, assignsName u = false

namespace Leads

theorem mono {m : Nat} (h : Leads m ts) (le : ℓ ≤ m) : Leads ℓ ts := by
  obtain ⟨t, us, rfl, pos, high, second⟩ := h
  exact ⟨t, us, rfl, pos, by omega, second⟩

theorem append (h : Leads ℓ ts) (next : ∀ u ∈ us.head?, assignsName u = false) :
    Leads ℓ (ts ++ us) := by
  obtain ⟨t, vs, rfl, pos, high, second⟩ := h
  refine ⟨t, vs ++ us, rfl, pos, high, ?_⟩
  cases vs with
  | nil => exact next
  | cons v vs => exact second

theorem le_prefixLevel (h : Leads ℓ ts) : ℓ ≤ prefixLevel (TokenStream.append ts s).current := by
  obtain ⟨t, us, rfl, -, high, -⟩ := h
  exact high

theorem prefixLevel_pos (h : Leads ℓ ts) : 0 < prefixLevel (TokenStream.append ts s).current := by
  obtain ⟨t, us, rfl, pos, -, -⟩ := h
  exact pos

theorem ahead_ne (h : Leads ℓ ts) {symbol : Symbol} (assigns : assignsName (.symbol symbol) = true)
    (next : s.current ≠ .symbol symbol) : (TokenStream.append ts s).ahead ≠ .symbol symbol := by
  obtain ⟨t, us, rfl, -, -, second⟩ := h
  cases us with
  | nil => exact next
  | cons u us =>
    intro same
    have := second u rfl
    rw [show u = .symbol symbol from same, assigns] at this
    cases this

end Leads

/-! ### Parsers of levels -/

/-- The parser of the expressions of a level. -/
def readerAt (r : Nested) (ℓ : Nat) : Parser Expr :=
  if ℓ ≤ Level.conditional then test r
  else if ℓ = Level.disjunction then disjunction r
  else if ℓ = Level.conjunction then conjunction r
  else if ℓ = Level.negation then negation r
  else if ℓ = Level.comparison then comparison r
  else if ℓ ≤ Level.unary then operationsWithin r (Level.unary - ℓ)
  else if ℓ = Level.power then power r
  else if ℓ = Level.await then awaited r
  else primary r

/-- In front of a token that joins no operands of the level, the tokens are read as the
expression. -/
def ReadsAt (ℓ : Nat) (e : Expr) (ts : List Token) : Prop :=
  ∀ ⦃n : Nat⦄ ⦃s : TokenStream⦄, ts.length ≤ n → joinLevel s.current < ℓ →
    readerAt (nested n) ℓ (append ts s) = .ok (e, s)

variable {r : Nested}

theorem readerAt_test (h : ℓ ≤ Level.conditional) : readerAt r ℓ = test r :=
  if_pos h

theorem readerAt_negation : readerAt r Level.negation = negation r := rfl

theorem readerAt_comparison : readerAt r Level.comparison = comparison r := rfl

theorem readerAt_operations (low : Level.bitOr ≤ ℓ) (high : ℓ ≤ Level.unary) :
    readerAt r ℓ = operationsWithin r (Level.unary - ℓ) := by
  have test : ¬ℓ ≤ Level.conditional := Nat.not_le.2 (Nat.lt_of_lt_of_le (by decide) low)
  have above {k : Nat} (h : k < Level.bitOr) : ℓ ≠ k := by omega
  rw [readerAt, if_neg test, if_neg (above (by decide)), if_neg (above (by decide)),
    if_neg (above (by decide)), if_neg (above (by decide)), if_pos high]

theorem readerAt_unary : readerAt r Level.unary = factor r := rfl

theorem readerAt_power : readerAt r Level.power = power r := rfl

theorem readerAt_await : readerAt r Level.await = awaited r := rfl

theorem readerAt_primary (h : Level.primary ≤ ℓ) : readerAt r ℓ = primary r := by
  have test : ¬ℓ ≤ Level.conditional := Nat.not_le.2 (Nat.lt_of_lt_of_le (by decide) h)
  have unary : ¬ℓ ≤ Level.unary := Nat.not_le.2 (Nat.lt_of_lt_of_le (by decide) h)
  have above {k : Nat} (lt : k < Level.primary) : ℓ ≠ k := by omega
  rw [readerAt, if_neg test, if_neg (above (by decide)), if_neg (above (by decide)),
    if_neg (above (by decide)), if_neg (above (by decide)), if_neg unary,
    if_neg (above (by decide)), if_neg (above (by decide))]

theorem stringPart_of_joinLevel (h : joinLevel s.current ≤ Level.atom) :
    stringPart s = .ok (none, s) := by
  have literal : ¬Level.atom + 1 ≤ Level.atom := by decide
  unfold stringPart
  split
  · next same =>
    rw [same] at h
    exact absurd h literal
  · next same =>
    rw [same] at h
    exact absurd h literal
  · rfl

theorem trailer_of_joinLevel (h : joinLevel s.current < Level.primary) :
    trailer r s = .ok (none, s) := by
  unfold trailer
  split
  · next same => exact absurd (same ▸ h) (by decide)
  · next same => exact absurd (same ▸ h) (by decide)
  · next same => exact absurd (same ▸ h) (by decide)
  · rfl

theorem unaryOp?_of_prefixLevel {t : Token} (h : Level.unary < prefixLevel t) :
    unaryOp? t = none := by
  unfold unaryOp?
  split
  · exact absurd h (by decide)
  · exact absurd h (by decide)
  · exact absurd h (by decide)
  · rfl

theorem operation_of_joinLevel {operand : Parser Expr} (h : joinLevel s.current < ℓ) :
    operation ℓ operand s = .ok (none, s) := by
  have none : binaryOpAt? ℓ s.current = none := by
    rw [binaryOpAt?, Option.filter_eq_none_iff]
    intro op found
    rw [joinLevel_of_binaryOp? found] at h
    simp only [beq_iff_eq]
    omega
  simp [operation, none]

theorem comparator_of_joinLevel (h : joinLevel s.current < Level.comparison) :
    comparator r s = .ok (none, s) := by
  have none : comparison? s = none := by
    unfold comparison?
    split <;> first | rfl | next same => exact absurd (same ▸ h) (by decide)
  simp [comparator, none]

theorem operandAfter_of_joinLevel {word : Keyword} {operand : Parser Expr}
    (h : joinLevel s.current < joinLevel (.keyword word)) :
    operandAfter word operand s = .ok (none, s) := by
  simp [operandAfter, seesKeyword_of_joinLevel word h]

/-- Operands joined by a word, of which there is only one. -/
theorem logic_of_operand {op : LogicOp} {word : Keyword} {operand : Parser Expr}
    (h : operand s = .ok (e, s')) (last : joinLevel s'.current < joinLevel (.keyword word)) :
    logic op word operand s = .ok (e, s') := by
  simp [logic, h, repeated_of_none (operandAfter_of_joinLevel last)]

/-- Operands joined by operators of a level, of which there is only one. -/
theorem operationsWithin_succ_of_operand {k : Nat} (h : operationsWithin r k s = .ok (e, s'))
    (last : joinLevel s'.current < Level.unary - (k + 1)) :
    operationsWithin r (k + 1) s = .ok (e, s') := by
  rw [operationsWithin, operations, h]
  simp [repeated_of_none (operation_of_joinLevel last), leftGrouped]

theorem level_cases (ℓ : Nat) :
    ℓ < Level.conditional ∨ ℓ = Level.conditional ∨ ℓ = Level.disjunction ∨
      ℓ = Level.conjunction ∨ ℓ = Level.negation ∨ ℓ = Level.comparison ∨
      Level.bitOr ≤ ℓ ∧ ℓ < Level.unary ∨ ℓ = Level.unary ∨ ℓ = Level.power ∨ ℓ = Level.await ∨
      Level.primary ≤ ℓ := by
  simp only [Level.conditional, Level.disjunction, Level.conjunction, Level.negation,
    Level.comparison, Level.bitOr, Level.unary, Level.power, Level.await, Level.primary]
  omega

/-- The parser of a level passes on what the parser of the next level reads. -/
theorem readerAt_of_succ (starts : ℓ + 1 ≤ prefixLevel s.current)
    (h : readerAt r (ℓ + 1) s = .ok (e, s')) (last : joinLevel s'.current < ℓ) :
    readerAt r ℓ s = .ok (e, s') := by
  rcases level_cases ℓ with low | rfl | rfl | rfl | rfl | rfl | ⟨low, high⟩ | rfl | rfl | rfl | high
  · rw [readerAt_test (by omega)] at h ⊢
    exact h
  · have read : disjunction r s = .ok (e, s') := h
    have lambda := seesKeyword_of_prefixLevel .lambdaKw
      (Nat.lt_of_lt_of_le (by decide) starts)
    have choice := seesKeyword_of_joinLevel .ifKw last
    simp [readerAt_test, test, lambda, read, choice]
  · exact logic_of_operand h last
  · exact logic_of_operand h last
  · have read : comparison r s = .ok (e, s') := h
    have negated := seesKeyword_of_prefixLevel .notKw starts
    simp [readerAt_negation, negation, negated, read]
  · have read : bitOr r s = .ok (e, s') := h
    simp [readerAt_comparison, comparison, read, repeated_of_none (comparator_of_joinLevel last)]
  · rw [readerAt_operations (by omega) (by omega)] at h ⊢
    have level : Level.unary - ℓ = Level.unary - (ℓ + 1) + 1 := by omega
    rw [level]
    exact operationsWithin_succ_of_operand h (by omega)
  · have read : power r s = .ok (e, s') := h
    simp [readerAt_unary, factor, unaryOp?_of_prefixLevel starts, read]
  · have read : awaited r s = .ok (e, s') := h
    have exponent := sees_of_joinLevel .doubleStar last
    simp [readerAt_power, power, read, exponent]
  · have read : primary r s = .ok (e, s') := h
    have awaits := seesKeyword_of_prefixLevel .awaitKw starts
    simp [readerAt_await, awaited, awaits, read]
  · rw [readerAt_primary (by omega)] at h ⊢
    exact h

/-- The tokens are read as the expression by the parser of a level and by those of all looser
ones. -/
structure Reads (ℓ : Nat) (e : Expr) (ts : List Token) : Prop where
  leads : Leads ℓ ts
  reads : ReadsAt ℓ e ts

/-- What the parser of a level reads, a looser one does. -/
theorem Reads.of_le {m : Nat} (h : Reads m e ts) (le : ℓ ≤ m) : Reads ℓ e ts := by
  induction m, le using Nat.le_induction with
  | base => exact h
  | succ m le ih =>
    refine ih ⟨h.leads.mono (by omega), fun n s long last => ?_⟩
    exact readerAt_of_succ h.leads.le_prefixLevel (h.reads long (by omega)) last

/-! ### Loops -/

/-- In front of any stream, the tokens are read as the operand together with the trailers that the
stream goes on with. -/
def ReadsPrimary (e : Expr) (ts : List Token) : Prop :=
  ∀ ⦃n : Nat⦄ ⦃s s' : TokenStream⦄ ⦃trailers : List Trailer⦄, ts.length ≤ n →
    joinLevel s.current ≤ Level.atom → repeated (trailer (nested n)) s = .ok (trailers, s') →
    primary (nested n) (append ts s) = .ok (trailers.foldl Trailer.attach e, s')

/-- In front of any stream, the tokens are read as the left operand of the operations that the
stream goes on with. -/
def Grouped (ℓ : Nat) (e : Expr) (ts : List Token) : Prop :=
  ∀ ⦃n : Nat⦄ ⦃s s' : TokenStream⦄ ⦃more : List (BinaryOp × Expr)⦄, ts.length ≤ n →
    joinLevel s.current ≤ ℓ →
    repeated (operation ℓ (operationsWithin (nested n) (Level.unary - (ℓ + 1)))) s =
      .ok (more, s') →
    operationsWithin (nested n) (Level.unary - ℓ) (append ts s) = .ok (leftGrouped e more, s')

theorem ReadsPrimary.readsAt (h : ReadsPrimary e ts) : ReadsAt Level.primary e ts := by
  intro n s long last
  have high : Level.primary ≤ Level.atom := by decide
  exact h long (by omega) (repeated_of_none (trailer_of_joinLevel last))

theorem Grouped.of_readsAt (h : ReadsAt (ℓ + 1) e ts) (low : Level.bitOr ≤ ℓ)
    (high : ℓ < Level.unary) : Grouped ℓ e ts := by
  intro n s s' more long last found
  have level : Level.unary - ℓ = Level.unary - (ℓ + 1) + 1 := by omega
  have same : Level.unary - (Level.unary - (ℓ + 1) + 1) = ℓ := by omega
  have read := h long (Nat.lt_succ_of_le last)
  rw [readerAt_operations (by omega) high] at read
  rw [level, operationsWithin, operations, read, same]
  simp only [ok_bind, found]
  rfl

theorem Grouped.readsAt (h : Grouped ℓ e ts) (low : Level.bitOr ≤ ℓ) (high : ℓ < Level.unary) :
    ReadsAt ℓ e ts := by
  intro n s long last
  rw [readerAt_operations low (by omega)]
  exact h long (by omega) (repeated_of_none (operation_of_joinLevel last))

/-! ### Expressions of every form -/

/-- The tokens of the expression are read as it by the parser of its level, also at the start of a
longer expression of the same level. -/
structure ReadsOwn (e : Expr) : Prop where
  reads : Reads (min e.level Level.primary) e e.tokens
  primary : Level.primary ≤ e.level → ReadsPrimary e e.tokens
  grouped : Level.bitOr ≤ e.level → e.level < Level.unary → Grouped e.level e e.tokens

/-- The parts of the expression are read back, and so is the expression unless it can only stand in
certain places. -/
def ReadsBack : Expr → Prop
  | .named _ value => Reads Level.test value (value.tokensAt Level.test)
  | .starred value => Reads Level.bitOr value (value.tokensAt Level.bitOr)
  | .slice lower upper step =>
    ∀ x ∈ [lower, upper, step], ∀ e ∈ x, Reads Level.test e (e.tokensAt Level.test)
  | e => ReadsOwn e

/-- The expression may stand as an operand, unless a tighter one is asked for. -/
def Expr.isOperand : Expr → Bool
  | .named .. | .starred _ | .slice .. => false
  | _ => true

theorem Expr.test_le_level (operand : e.isOperand = true) : Level.test ≤ e.level := by
  have unary (op : UnaryOp) : Level.test ≤ op.level := by cases op <;> decide
  have binary (op : BinaryOp) : Level.test ≤ op.level := by cases op <;> decide
  have logic (op : LogicOp) : Level.test ≤ op.level := by cases op <;> decide
  cases e with
  | named => cases operand
  | unary op => exact unary op
  | binary _ op => exact binary op
  | logic op => exact logic op
  | _ => exact of_decide_eq_true rfl

/-- What stands without parentheses in a place is an operand. -/
theorem Expr.isOperand_of_le (stands : e.standsAt ℓ = true) (low : Level.test ≤ ℓ)
    (le : ℓ ≤ e.level) : e.isOperand = true := by
  cases e with
  | named => exact absurd (Nat.le_trans low le) (by decide : ¬Level.test ≤ Level.named)
  | starred => exact absurd (of_decide_eq_true stands) (Nat.not_lt.2 le)
  | slice => cases stands
  | _ => rfl

theorem ReadsBack.own (h : ReadsBack e) (operand : e.isOperand = true) : ReadsOwn e := by
  cases e <;> first | exact h | cases operand

theorem ReadsOwn.of_primary (high : Level.primary ≤ e.level) (leads : Leads Level.primary e.tokens)
    (h : ReadsPrimary e e.tokens) : ReadsOwn e := by
  refine ⟨?_, fun _ => h, fun _ low => ?_⟩
  · rw [Nat.min_eq_right high]
    exact ⟨leads, h.readsAt⟩
  · exact absurd (Nat.lt_of_le_of_lt high low) (by decide)

theorem ReadsOwn.of_grouped (low : Level.bitOr ≤ e.level) (high : e.level < Level.unary)
    (leads : Leads e.level e.tokens) (h : Grouped e.level e e.tokens) : ReadsOwn e := by
  have below : e.level < Level.primary := Nat.lt_trans high (by decide)
  refine ⟨?_, fun above => ?_, fun _ _ => h⟩
  · rw [Nat.min_eq_left (by omega)]
    exact ⟨leads, h.readsAt low high⟩
  · omega

theorem ReadsOwn.of_reads (apart : e.level < Level.bitOr ∨ Level.unary ≤ e.level)
    (high : e.level < Level.primary) (h : Reads e.level e e.tokens) : ReadsOwn e := by
  refine ⟨?_, fun above => ?_, fun low below => ?_⟩
  · rwa [Nat.min_eq_left (by omega)]
  · omega
  · omega

/-! ### Items and parentheses -/

theorem namedTest_of_ahead_ne (test : Parser Expr) (h : s.ahead ≠ .symbol .colonEq) :
    namedTest test s = test s := by
  unfold namedTest
  split
  · rw [if_neg h]
  · rfl

theorem Reads.test_eq_ok (h : Reads Level.test e ts) (long : ts.length ≤ n)
    (last : joinLevel s.current = 0) : test (nested n) (append ts s) = .ok (e, s) :=
  h.reads long (by rw [last]; decide)

theorem Reads.namedTest_eq_ok (h : Reads Level.test e ts) (long : ts.length ≤ n)
    (last : joinLevel s.current = 0) (next : s.current ≠ .symbol .colonEq) :
    namedTest (test (nested n)) (append ts s) = .ok (e, s) := by
  rw [namedTest_of_ahead_ne _ (h.leads.ahead_ne rfl next)]
  exact h.test_eq_ok long last

theorem Reads.starItem_eq_ok (h : Reads Level.test e ts) (long : ts.length ≤ n)
    (last : joinLevel s.current = 0) (next : s.current ≠ .symbol .colonEq) :
    starItem (bitOr (nested n)) (test (nested n)) (append ts s) = .ok (e, s) := by
  rw [starItem, sees_of_prefixLevel .star h.leads.prefixLevel_pos]
  exact h.namedTest_eq_ok long last next

namespace ReadsBack

theorem starts (h : ReadsBack e) (item : e.isItem = true) :
    ∃ t us, e.tokens = t :: us ∧ startsExpression t = true := by
  by_cases operand : e.isOperand = true
  · obtain ⟨t, us, same, pos, -, -⟩ := (h.own operand).reads.leads
    exact ⟨t, us, same, startsExpression_of_prefixLevel pos⟩
  · cases e <;> first | cases item; done | exact absurd rfl operand | exact ⟨_, _, rfl, rfl⟩

/-- An operand where any expression may stand. -/
theorem reads_test (h : ReadsBack e) (operand : e.isOperand = true) :
    Reads Level.test e e.tokens :=
  (h.own operand).reads.of_le (Nat.le_min.2 ⟨Expr.test_le_level operand, by decide⟩)

/-- The expression as an item of a display, without parentheses. -/
theorem starItem_eq_ok (h : ReadsBack e) (item : e.isItem = true) (long : e.tokens.length ≤ n)
    (last : joinLevel s.current = 0) (next : s.current ≠ .symbol .colonEq) :
    starItem (bitOr (nested n)) (test (nested n)) (append e.tokens s) = .ok (e, s) := by
  by_cases operand : e.isOperand = true
  · exact (h.reads_test operand).starItem_eq_ok long last next
  · cases e with
    | starred value =>
      rw [Expr.tokens, List.length_cons] at long
      have read : bitOr (nested n) (append (value.tokensAt Level.bitOr) s) = .ok (value, s) :=
        h.reads (Nat.le_of_succ_le long) (by rw [last]; decide)
      rw [Expr.tokens, append_cons, starItem, ← Expr.tokensAt]
      simp [read]
    | named target value =>
      rw [Expr.tokens, List.length_cons, List.length_cons] at long
      have read : test (nested n) (append (value.tokensAt Level.test) s) = .ok (value, s) :=
        h.test_eq_ok (Nat.le_of_succ_le (Nat.le_of_succ_le long)) last
      rw [Expr.tokens, append_cons, append_cons, starItem, ← Expr.tokensAt]
      simp [namedTest, read]
    | slice => cases item
    | _ => exact absurd rfl operand

/-- The expression between parentheses. -/
theorem readsPrimary_parens (h : ReadsBack e) (item : e.isItem = true) :
    ReadsPrimary e (between .leftParen .rightParen e.tokens) := by
  intro n s s' trailers long plain more
  simp only [between, List.length_cons, List.length_append, List.length_nil] at long
  obtain ⟨m, rfl⟩ : ∃ k, n = k + 1 := ⟨n - 1, by omega⟩
  obtain ⟨t, us, same, starts⟩ := h.starts item
  have read := h.starItem_eq_ok (s := cons (.symbol .rightParen) s) (n := m) item (by omega) rfl
    (by simp)
  have first : (append e.tokens (cons (.symbol .rightParen) s)).current = t := by
    rw [same]
    rfl
  have closing : (append e.tokens (cons (.symbol .rightParen) s)).sees .rightParen = false := by
    rw [TokenStream.sees, first, beq_eq_false_iff_ne]
    rintro rfl
    cases starts
  have yields : (append e.tokens (cons (.symbol .rightParen) s)).seesKeyword .yieldKw = false := by
    rw [TokenStream.seesKeyword, first, beq_eq_false_iff_ne]
    rintro rfl
    cases starts
  have inner : parenthesized (nested (m + 1)) (append e.tokens (cons (.symbol .rightParen) s)) =
      .ok (e, s) := by
    rw [parenthesized, closing, yields]
    simp [nested, read]
  simp only [between, append_cons, append_append, append_nil, primary, atom, current_cons,
    advance_cons, inner, ok_bind, more]
  rfl

theorem leads_parens (h : ReadsBack e) (item : e.isItem = true) :
    Leads Level.primary (between .leftParen .rightParen e.tokens) := by
  obtain ⟨t, us, same, starts⟩ := h.starts item
  refine ⟨_, _, rfl, by decide, by decide, ?_⟩
  rw [same]
  intro u hu
  cases hu
  cases t with
  | symbol s => cases s <;> first | rfl | cases starts
  | _ => rfl

/-- The expression in a place that asks for a level. -/
theorem at_ (h : ReadsBack e) (stands : e.standsAt ℓ = true) (low : Level.test ≤ ℓ)
    (high : ℓ ≤ Level.primary) : Reads ℓ e (e.tokensAt ℓ) := by
  have item := Expr.isItem_of_standsAt stands
  by_cases paren : e.level < ℓ
  · rw [Expr.tokensAt_of_lt paren]
    exact Reads.of_le ⟨h.leads_parens item, (h.readsPrimary_parens item).readsAt⟩ high
  · rw [Expr.tokensAt_of_le (by omega)]
    have operand := Expr.isOperand_of_le stands low (by omega)
    exact (h.own operand).reads.of_le (Nat.le_min.2 ⟨by omega, high⟩)

/-- The expression in front of a trailer. -/
theorem primaryAt (h : ReadsBack e) (item : e.isItem = true) :
    ReadsPrimary e (e.tokensAt Level.primary) := by
  by_cases paren : e.level < Level.primary
  · rw [Expr.tokensAt_of_lt paren]
    exact h.readsPrimary_parens item
  · rw [Expr.tokensAt_of_le (by omega)]
    have stands := Expr.standsAt_of_isItem item (by decide : Level.bitOr < Level.primary)
    have operand := Expr.isOperand_of_le stands (by decide) (by omega)
    exact (h.own operand).primary (by omega)

/-- The expression as the left operand of an operation that is grouped from the left. -/
theorem groupedAt (h : ReadsBack e) (stands : e.standsAt ℓ = true) (low : Level.bitOr ≤ ℓ)
    (high : ℓ < Level.unary) : Grouped ℓ e (e.tokensAt ℓ) := by
  have item := Expr.isItem_of_standsAt stands
  have below : ℓ + 1 ≤ Level.primary := Nat.le_trans high (by decide)
  by_cases paren : e.level < ℓ
  · rw [Expr.tokensAt_of_lt paren]
    have parens : Reads Level.primary e (between .leftParen .rightParen e.tokens) :=
      ⟨h.leads_parens item, (h.readsPrimary_parens item).readsAt⟩
    exact .of_readsAt (parens.of_le below).reads low high
  · rw [Expr.tokensAt_of_le (by omega)]
    have operand := Expr.isOperand_of_le stands (Nat.le_trans (by decide) low) (by omega)
    by_cases same : e.level = ℓ
    · exact same ▸ (h.own operand).grouped (by omega) (by omega)
    · exact .of_readsAt ((h.own operand).reads.of_le (Nat.le_min.2 ⟨by omega, below⟩)).reads low high

end ReadsBack

end RobotCell.Script
