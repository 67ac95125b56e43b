import RobotCell.Proofs.Script.Brackets
import RobotCell.Proofs.Script.ProgressExpr

/-!
# Expressions have nested brackets

The lexer counts brackets without their kinds; the grammar is what asks for the right ones. What a
parser passes is told by the brackets that it finds open, which are those it has to close: a parser
for an expression finds none, and the one for the inside of a display finds the bracket before it.
There is a rule for each combinator, and a statement for each parser in the order of the grammar.

## Main definitions

- `TokenStream.Closes` — streams behind others, past the ends of some brackets
- `Balances`, `Balanced` — outcomes and parsers that close what is open, and all that they open

## Main results

- `Balances.bind` — what a step closes and what the next one closes
- `Grammar.isBalanced_nested` — expressions close what they open, up to any bound on their nesting
-/

namespace RobotCell.Script

open TokenStream

/-! ### Streams -/

/-- The token is passed before the end, and leads from some open brackets to others. -/
def Token.Shifts (stack stack' : List BracketKind) (t : Token) : Prop :=
  t ≠ .endOfInput ∧ openBehind stack t = some stack'

variable {stack stack' base : List BracketKind}

theorem shifts_keyword (k : Keyword) : (Token.keyword k).Shifts stack stack :=
  ⟨by simp, rfl⟩

theorem shifts_name (id : String) : (Token.name id).Shifts stack stack :=
  ⟨by simp, rfl⟩

theorem shifts_symbol {symbol : Symbol} (h : openBehind stack (.symbol symbol) = some stack') :
    (Token.symbol symbol).Shifts stack stack' :=
  ⟨by simp, h⟩

variable {s : TokenStream}

theorem shifts_of_sees {symbol : Symbol} (sees : s.sees symbol = true)
    (h : openBehind stack (.symbol symbol) = some stack') : s.current.Shifts stack stack' := by
  rw [eq_of_beq sees]
  exact shifts_symbol h

theorem shifts_of_seesKeyword {k : Keyword} (sees : s.seesKeyword k = true) :
    s.current.Shifts stack stack := by
  rw [eq_of_beq sees]
  exact shifts_keyword k

namespace TokenStream

/-- The second stream is what is left of the first one behind some tokens before the end, which
close the given brackets, innermost first, and all that they open. -/
def Closes (stack : List BracketKind) (s t : TokenStream) : Prop :=
  ∃ passed : List Token, .endOfInput ∉ passed ∧ s = append passed t ∧
    openAfter stack passed = some []

variable {t u : TokenStream}

theorem Closes.refl (s : TokenStream) : s.Closes [] s :=
  ⟨[], List.not_mem_nil, rfl, rfl⟩

theorem Closes.reaches (h : s.Closes stack t) : s.Reaches t := by
  obtain ⟨passed, inside, same, -⟩ := h
  exact ⟨passed, inside, same⟩

theorem Closes.trans (h : s.Closes stack t) (later : t.Closes base u) :
    s.Closes (stack ++ base) u := by
  obtain ⟨first, inside, rfl, closed⟩ := h
  obtain ⟨second, inside', rfl, closed'⟩ := later
  refine ⟨first ++ second, ?_, by rw [append_append], ?_⟩
  · rw [List.mem_append, not_or]
    exact ⟨inside, inside'⟩
  · rw [openAfter_append, openAfter_base closed base]
    exact closed'

/-- The current token is passed, and then what is open behind it is closed. -/
theorem Closes.of_advance (hs : s.HasEnd) (token : s.current.Shifts stack stack')
    (h : s.advance.Closes stack' t) : s.Closes stack t := by
  obtain ⟨inside, shifted⟩ := token
  obtain ⟨passed, inside', same, closed⟩ := h
  refine ⟨s.current :: passed, ?_, ?_, ?_⟩
  · rw [List.mem_cons, not_or]
    exact ⟨inside.symm, inside'⟩
  · rw [append_cons, ← same]
    exact eq_cons_advance hs inside
  · rw [openAfter_cons, shifted]
    exact closed

end TokenStream

/-! ### Outcomes -/

variable {α β : Type}

/-- What was read closes the given brackets, innermost first, and all that it opens. -/
def Balances (stack : List BracketKind) (s : TokenStream) (x : Except Failure (α × TokenStream)) :
    Prop :=
  ∀ a t, x = .ok (a, t) → s.Closes stack t

theorem balances_ok {a : α} : Balances [] s (.ok (a, s)) := by
  rintro _ _ ⟨⟩
  exact .refl s

theorem balances_error {f : Failure} : Balances stack s (.error f : Except Failure (α × _)) := by
  rintro _ _ ⟨⟩

/-- What is passed first may have brackets, if it closes them. -/
theorem Balances.of_closes {t : TokenStream} {x : Except Failure (α × TokenStream)}
    (h : Balances stack t x) (closed : s.Closes [] t) : Balances stack s x :=
  fun a u read => closed.trans (h a u read)

/-- The current token is passed, and what is open behind it is closed by the rest. -/
theorem Balances.advance {t : Token} {x : Except Failure (α × TokenStream)} (hs : s.HasEnd)
    (current : s.current = t) (token : t.Shifts stack stack')
    (h : s.advance.HasEnd → Balances stack' s.advance x) : Balances stack s x := by
  subst t
  intro a u read
  have hs' := (reaches_advance hs token.1).hasEnd hs
  exact (h hs' a u read).of_advance hs token

/-- A step closes the inner brackets, and the step after it the outer ones. -/
theorem Balances.bind {x : Except Failure (α × TokenStream)}
    {f : α × TokenStream → Except Failure (β × TokenStream)} (h : Balances stack s x)
    (hs : s.HasEnd) (later : ∀ a t, t.HasEnd → Balances base t (f (a, t))) :
    Balances (stack ++ base) s (x >>= f) := by
  intro b u read
  obtain ⟨⟨a, t⟩, first, second⟩ := bind_eq_ok_iff.1 read
  have closed := h a t first
  exact closed.trans (later a t (closed.reaches.hasEnd hs) b u second)

/-- What follows a choice follows both of its sides. -/
theorem Balances.ite_bind {choice : Prop} [Decidable choice]
    {x y : Except Failure (α × TokenStream)}
    {f : α × TokenStream → Except Failure (β × TokenStream)}
    (h : Balances stack s (if choice then x else y)) (hs : s.HasEnd)
    (later : ∀ a t, t.HasEnd → Balances base t (f (a, t))) :
    Balances (stack ++ base) s (if choice then x >>= f else y >>= f) := by
  by_cases hc : choice
  · rw [if_pos hc] at h ⊢
    exact h.bind hs later
  · rw [if_neg hc] at h ⊢
    exact h.bind hs later

theorem balances_expect_bind {t : Token} {f : TokenStream → Except Failure (β × TokenStream)}
    (hs : s.HasEnd) (token : t.Shifts stack stack')
    (later : ∀ u, u.HasEnd → Balances stack' u (f u)) : Balances stack s (expect t s >>= f) := by
  unfold expect
  split_ifs with sees
  · exact .advance hs sees token fun hs' => later _ hs'
  · exact balances_error

theorem balances_expectSymbol_bind {symbol : Symbol}
    {f : TokenStream → Except Failure (β × TokenStream)} (hs : s.HasEnd)
    (token : openBehind stack (.symbol symbol) = some stack')
    (later : ∀ u, u.HasEnd → Balances stack' u (f u)) :
    Balances stack s (expectSymbol symbol s >>= f) :=
  balances_expect_bind hs (shifts_symbol token) later

theorem balances_expectKeyword_bind {k : Keyword}
    {f : TokenStream → Except Failure (β × TokenStream)} (hs : s.HasEnd)
    (later : ∀ u, u.HasEnd → Balances stack u (f u)) :
    Balances stack s (expectKeyword k s >>= f) := by
  unfold expectKeyword
  split_ifs with sees
  · exact .advance hs (eq_of_beq sees) (shifts_keyword k) fun hs' => later _ hs'
  · exact balances_error

/-! ### Parsers -/

/-- What the parser reads closes the given brackets, innermost first, and all that it opens. -/
def Balanced (stack : List BracketKind) (p : Parser α) : Prop :=
  ∀ s, s.HasEnd → Balances stack s (p s)

variable {p : Parser α} {part : Parser (Option α)}

theorem balanced_expectName : Balanced [] expectName := by
  intro s hs
  unfold expectName
  split
  · next id current => exact .advance hs current (shifts_name id) fun _ => balances_ok
  · exact balances_error

theorem Balanced.repeatedWithin (h : Balanced [] part) (limit : Nat) :
    Balanced [] (repeatedWithin part limit) := by
  induction limit with
  | zero => exact fun s _ => balances_error
  | succ limit ih =>
    intro s hs
    refine (h s hs).bind hs fun found t ht => ?_
    cases found with
    | none => exact balances_ok
    | some a => exact (ih t ht).bind ht fun as u _ => balances_ok

theorem Balanced.repeated (h : Balanced [] part) : Balanced [] (repeated part) :=
  fun s hs => h.repeatedWithin _ s hs

theorem Balanced.moreItems (h : Balanced [] p) (stop : Token → Bool) :
    Balanced [] (moreItems stop p) := by
  refine Balanced.repeated fun s hs => ?_
  dsimp only
  split_ifs with comma stops
  · exact .advance hs (eq_of_beq comma) (shifts_symbol rfl) fun _ => balances_ok
  · refine .advance hs (eq_of_beq comma) (shifts_symbol rfl) fun hs' => ?_
    exact (h _ hs').bind hs' fun a t _ => balances_ok
  · exact balances_ok

theorem Balanced.oneOrMore (h : Balanced [] p) (stop : Token → Bool) :
    Balanced [] (oneOrMore stop p) := by
  intro s hs
  refine (h s hs).bind hs fun first t ht => ?_
  exact (h.moreItems stop t ht).bind ht fun more u _ => balances_ok

/-- An attempt that reads a part where something stands in front of it, and none elsewhere. -/
theorem Balanced.optional (h : Balanced [] p) {ahead : TokenStream → Bool}
    (token : ∀ s, ahead s = true → s.current.Shifts [] []) :
    Balanced [] (fun s => if ahead s then do
        let (a, s) ← p s.advance
        return (some a, s)
      else .ok (none, s)) := by
  intro s hs
  dsimp only
  split_ifs with starts
  · refine .advance hs rfl (token s starts) fun hs' => ?_
    exact (h _ hs').bind hs' fun a t _ => balances_ok
  · exact balances_ok

theorem Balanced.itemsUpTo (h : Balanced [] p) (closing : Symbol) :
    Balanced [] (itemsUpTo closing p) := by
  intro s hs
  unfold Script.itemsUpTo
  split_ifs
  · exact balances_ok
  · exact h.oneOrMore _ s hs

/-- The parsers for inner expressions close what they open. -/
structure Nested.IsBalanced (r : Nested) : Prop where
  test : Balanced [] r.test
  disjunction : Balanced [] r.disjunction
  negation : Balanced [] r.negation
  bitOr : Balanced [] r.bitOr
  factor : Balanced [] r.factor

namespace Grammar

variable {r : Nested} {e o : Parser Expr}

/-! ### Literals -/

theorem balanced_strings : Balanced [] strings := by
  have literal : Balanced [] stringPart := by
    intro s hs
    unfold stringPart
    split
    · next text current => exact .advance hs current ⟨by simp, rfl⟩ fun _ => balances_ok
    · next text current => exact .advance hs current ⟨by simp, rfl⟩ fun _ => balances_ok
    · exact balances_ok
  intro s hs
  exact (literal.repeated s hs).bind hs fun parts t _ => balances_ok

/-! ### Parts of expressions -/

theorem balanced_namedTest (h : Balanced [] e) : Balanced [] (namedTest e) := by
  intro s hs
  unfold namedTest
  split
  · next target current =>
    split_ifs with colonEq
    · refine .advance hs current (shifts_name target) fun hs' => ?_
      refine .advance hs' colonEq (shifts_symbol rfl) fun ht => ?_
      exact (h _ ht).bind ht fun value u _ => balances_ok
    · exact h s hs
  · exact h s hs

theorem balanced_starOperand (h : Balanced [] o) : Balanced [] (starOperand o) := by
  intro s hs
  unfold starOperand
  split_ifs with star
  · refine .advance hs (eq_of_beq star) (shifts_symbol rfl) fun hs' => ?_
    exact (h _ hs').bind hs' fun value t _ => balances_ok
  · exact h s hs

theorem balanced_starItem (ho : Balanced [] o) (he : Balanced [] e) :
    Balanced [] (starItem o e) := by
  intro s hs
  unfold starItem
  split_ifs with star
  · refine .advance hs (eq_of_beq star) (shifts_symbol rfl) fun hs' => ?_
    exact (ho _ hs').bind hs' fun value t _ => balances_ok
  · exact balanced_namedTest he s hs

theorem balanced_targetList (h : Balanced [] o) : Balanced [] (targetList o) := by
  have further : Balanced [] (targetAfterComma o) := by
    refine (balanced_starOperand h).optional fun s starts => ?_
    rw [Bool.and_eq_true] at starts
    exact shifts_of_sees starts.1 rfl
  intro s hs
  refine (balanced_starOperand h s hs).bind hs fun first t ht => ?_
  exact (further.repeated t ht).bind ht fun more u _ => balances_ok

theorem balanced_target (h : Balanced [] o) : Balanced [] (target o) := by
  intro s hs
  refine (balanced_targetList h s hs).bind hs fun targets t ht => ?_
  dsimp only
  split_ifs with comma
  · exact .advance ht (eq_of_beq comma) (shifts_symbol rfl) fun _ => balances_ok
  · split
    · exact balances_ok
    · exact balances_ok

theorem balanced_clauses (h : r.IsBalanced) : Balanced [] (clauses r) := by
  have condition : Balanced [] (clauseCondition r) :=
    h.disjunction.optional fun _ starts => shifts_of_seesKeyword starts
  refine Balanced.repeated fun s hs => ?_
  unfold clause
  split_ifs with starts
  · refine .advance hs (eq_of_beq starts) (shifts_keyword _) fun hs' => ?_
    refine (balanced_target h.bitOr _ hs').bind hs' fun target t ht => ?_
    refine balances_expectKeyword_bind ht fun u hu => ?_
    refine (h.disjunction u hu).bind hu fun iter v hv => ?_
    exact (condition.repeated v hv).bind hv fun conditions w _ => balances_ok
  · exact balances_ok

/-! ### Parameters -/

theorem balanced_hint (h : Balanced [] e) (annotated : Bool) : Balanced [] (hint annotated e) := by
  refine h.optional fun s starts => ?_
  rw [Bool.and_eq_true] at starts
  exact shifts_of_sees starts.2 rfl

theorem balanced_preset (h : Balanced [] e) : Balanced [] (preset e) :=
  h.optional fun _ starts => shifts_of_sees starts rfl

theorem balanced_paramEntry (h : Balanced [] e) (annotated : Bool) :
    Balanced [] (paramEntry annotated e) := by
  have hint := balanced_hint h annotated
  intro s hs
  unfold paramEntry
  dsimp only
  split_ifs with double star comma slash
  · refine .advance hs (eq_of_beq double) (shifts_symbol rfl) fun hs' => ?_
    refine (balanced_expectName _ hs').bind hs' fun name t ht => ?_
    exact (hint t ht).bind ht fun hint u _ => balances_ok
  · exact .advance hs (eq_of_beq star) (shifts_symbol rfl) fun _ => balances_ok
  · refine .advance hs (eq_of_beq star) (shifts_symbol rfl) fun hs' => ?_
    refine (balanced_expectName _ hs').bind hs' fun name t ht => ?_
    exact (hint t ht).bind ht fun hint u _ => balances_ok
  · exact balances_error
  · refine (balanced_expectName s hs).bind hs fun name t ht => ?_
    refine (hint t ht).bind ht fun hint u hu => ?_
    exact (balanced_preset h u hu).bind hu fun preset v _ => balances_ok

theorem balanced_params (h : Balanced [] e) (closing : Symbol) (annotated : Bool) :
    Balanced [] (params closing annotated e) := by
  intro s hs
  have entries := (balanced_paramEntry h annotated).itemsUpTo closing
  exact (entries s hs).bind hs fun entries t _ => balances_ok

/-! ### Displays -/

theorem balanced_parenthesized (h : r.IsBalanced) : Balanced [.round] (parenthesized r) := by
  have item := balanced_starItem h.bitOr h.test
  intro s hs
  unfold parenthesized
  split_ifs with closing yields
  · exact .advance hs (eq_of_beq closing) (shifts_symbol rfl) fun _ => balances_ok
  · exact balances_error
  · refine (item s hs).bind hs fun first t ht => ?_
    dsimp only
    split_ifs with starts closing
    · refine (balanced_clauses h t ht).bind ht fun clauses u hu => ?_
      exact balances_expectSymbol_bind hu rfl fun v _ => balances_ok
    · exact .advance ht (eq_of_beq closing) (shifts_symbol rfl) fun _ => balances_ok
    · refine (item.moreItems _ t ht).bind ht fun more u hu => ?_
      exact balances_expectSymbol_bind hu rfl fun v _ => balances_ok

theorem balanced_listDisplay (h : r.IsBalanced) : Balanced [.square] (listDisplay r) := by
  have item := balanced_starItem h.bitOr h.test
  intro s hs
  unfold listDisplay
  split_ifs with closing
  · exact .advance hs (eq_of_beq closing) (shifts_symbol rfl) fun _ => balances_ok
  · refine (item s hs).bind hs fun first t ht => ?_
    dsimp only
    split_ifs with starts
    · refine (balanced_clauses h t ht).bind ht fun clauses u hu => ?_
      exact balances_expectSymbol_bind hu rfl fun v _ => balances_ok
    · refine (item.moreItems _ t ht).bind ht fun more u hu => ?_
      exact balances_expectSymbol_bind hu rfl fun v _ => balances_ok

theorem balanced_dictDisplay (h : r.IsBalanced) (key : Expr) :
    Balanced [.curly] (dictDisplay r key) := by
  have entry : Balanced [] (entry r) := by
    intro s hs
    refine (h.test s hs).bind hs fun key t ht => ?_
    refine balances_expectSymbol_bind ht rfl fun u hu => ?_
    exact (h.test u hu).bind hu fun value v _ => balances_ok
  intro s hs
  refine (h.test s hs).bind hs fun value t ht => ?_
  dsimp only
  split_ifs with starts
  · refine (balanced_clauses h t ht).bind ht fun clauses u hu => ?_
    exact balances_expectSymbol_bind hu rfl fun v _ => balances_ok
  · refine (entry.moreItems _ t ht).bind ht fun more u hu => ?_
    exact balances_expectSymbol_bind hu rfl fun v _ => balances_ok

theorem balanced_braceDisplay (h : r.IsBalanced) : Balanced [.curly] (braceDisplay r) := by
  have item := balanced_starItem h.bitOr h.test
  intro s hs
  unfold braceDisplay
  split_ifs with closing double
  · exact .advance hs (eq_of_beq closing) (shifts_symbol rfl) fun _ => balances_ok
  · exact balances_error
  · refine (item s hs).bind hs fun first t ht => ?_
    dsimp only
    split_ifs with colon starts
    · exact .advance ht (eq_of_beq colon) (shifts_symbol rfl) fun ht' =>
        balanced_dictDisplay h first _ ht'
    · refine (balanced_clauses h t ht).bind ht fun clauses u hu => ?_
      exact balances_expectSymbol_bind hu rfl fun v _ => balances_ok
    · refine (item.moreItems _ t ht).bind ht fun more u hu => ?_
      exact balances_expectSymbol_bind hu rfl fun v _ => balances_ok

theorem balanced_atom (h : r.IsBalanced) : Balanced [] (atom r) := by
  intro s hs
  have single {e : Expr} {t : Token} (current : s.current = t) (token : t.Shifts [] []) :
      Balances [] s (.ok (e, s.advance)) :=
    .advance hs current token fun _ => balances_ok
  unfold atom
  split
  · next id current => exact single current (shifts_name id)
  · next text current => exact single current ⟨by simp, rfl⟩
  · exact balanced_strings s hs
  · exact balanced_strings s hs
  · next current => exact single current (shifts_keyword _)
  · next current => exact single current (shifts_keyword _)
  · next current => exact single current (shifts_keyword _)
  · next current => exact single current (shifts_symbol rfl)
  -- the bracket that opens here is the one that the display closes
  · next current => exact .advance hs current (shifts_symbol rfl) (balanced_parenthesized h _)
  · next current => exact .advance hs current (shifts_symbol rfl) (balanced_listDisplay h _)
  · next current => exact .advance hs current (shifts_symbol rfl) (balanced_braceDisplay h _)
  · exact balances_error

/-! ### Attributes, calls and subscripts -/

theorem balanced_callArg (h : r.IsBalanced) : Balanced [] (callArg r) := by
  intro s hs
  -- two branches end here: a name that is no keyword, and anything else
  have positional : Balances [] s
      (namedTest r.test s >>= fun x =>
        if x.2.seesKeyword .forKw then clauses r x.2 >>= fun y =>
          .ok (.inl (.comprehension .generator x.1 y.1), y.2)
        else .ok ((.inl x.1 : CallArg), x.2)) := by
    refine (balanced_namedTest h.test s hs).bind hs fun value t ht => ?_
    dsimp only
    split_ifs with starts
    · exact (balanced_clauses h t ht).bind ht fun clauses u _ => balances_ok
    · exact balances_ok
  unfold callArg
  dsimp only
  split
  · next double =>
    refine .advance hs (eq_of_beq double) (shifts_symbol rfl) fun hs' => ?_
    exact (h.test _ hs').bind hs' fun value t _ => balances_ok
  · split
    · next star =>
      refine .advance hs (eq_of_beq star) (shifts_symbol rfl) fun hs' => ?_
      exact (h.test _ hs').bind hs' fun value t _ => balances_ok
    · split
      · next arg current =>
        split
        · next assign =>
          refine .advance hs current (shifts_name arg) fun hs' => ?_
          refine .advance hs' assign (shifts_symbol rfl) fun ht => ?_
          exact (h.test _ ht).bind ht fun value u _ => balances_ok
        · exact positional
      · exact positional

theorem balanced_callArgs (h : r.IsBalanced) : Balanced [.round] (callArgs r) := by
  intro s hs
  refine ((balanced_callArg h).itemsUpTo _ s hs).bind hs fun args t ht => ?_
  exact balances_expectSymbol_bind ht rfl fun u _ => balances_ok

theorem balanced_bound (h : r.IsBalanced) : Balanced [] (bound r) := by
  intro s hs
  unfold bound
  split_ifs
  · exact balances_ok
  · exact (h.test s hs).bind hs fun e t _ => balances_ok

theorem balanced_sliceAfter (h : r.IsBalanced) (lower : Option Expr) :
    Balanced [] (sliceAfter r lower) := by
  have step : Balanced [] (sliceStep r) := by
    intro s hs
    unfold sliceStep
    split_ifs with colon
    · exact .advance hs (eq_of_beq colon) (shifts_symbol rfl) (balanced_bound h _)
    · exact balances_ok
  intro s hs
  refine (balanced_bound h s hs).bind hs fun upper t ht => ?_
  exact (step t ht).bind ht fun step u _ => balances_ok

theorem balanced_subscriptItem (h : r.IsBalanced) : Balanced [] (subscriptItem r) := by
  intro s hs
  unfold subscriptItem
  split_ifs with colon
  · exact .advance hs (eq_of_beq colon) (shifts_symbol rfl) (balanced_sliceAfter h none _)
  · refine (h.test s hs).bind hs fun value t ht => ?_
    dsimp only
    split_ifs with colon
    · exact .advance ht (eq_of_beq colon) (shifts_symbol rfl) (balanced_sliceAfter h _ _)
    · exact balances_ok

theorem balanced_subscriptIndex (h : r.IsBalanced) : Balanced [] (subscriptIndex r) := by
  intro s hs
  refine (balanced_subscriptItem h s hs).bind hs fun first t ht => ?_
  dsimp only
  split_ifs
  · exact ((balanced_subscriptItem h).moreItems _ t ht).bind ht fun more u _ => balances_ok
  · exact balances_ok

theorem balanced_trailer (h : r.IsBalanced) : Balanced [] (trailer r) := by
  intro s hs
  unfold trailer
  split
  · next current =>
    refine .advance hs current (shifts_symbol rfl) fun hs' => ?_
    exact (balanced_expectName _ hs').bind hs' fun attr t _ => balances_ok
  · next current =>
    refine .advance hs current (shifts_symbol rfl) fun hs' => ?_
    exact (balanced_callArgs h _ hs').bind hs' fun args t _ => balances_ok
  · next current =>
    refine .advance hs current (shifts_symbol rfl) fun hs' => ?_
    refine (balanced_subscriptIndex h _ hs').bind hs' fun index t ht => ?_
    exact balances_expectSymbol_bind ht rfl fun u _ => balances_ok
  · exact balances_ok

theorem balanced_primary (h : r.IsBalanced) : Balanced [] (primary r) := by
  intro s hs
  refine (balanced_atom h s hs).bind hs fun e t ht => ?_
  exact ((balanced_trailer h).repeated t ht).bind ht fun trailers u _ => balances_ok

/-! ### Operators -/

theorem balanced_awaited (h : r.IsBalanced) : Balanced [] (awaited r) := by
  intro s hs
  unfold awaited
  split_ifs with starts
  · refine .advance hs (eq_of_beq starts) (shifts_keyword _) fun hs' => ?_
    exact (balanced_primary h _ hs').bind hs' fun e t _ => balances_ok
  · exact balanced_primary h s hs

theorem balanced_power (h : r.IsBalanced) : Balanced [] (power r) := by
  intro s hs
  refine (balanced_awaited h s hs).bind hs fun base t ht => ?_
  dsimp only
  split_ifs with double
  · refine .advance ht (eq_of_beq double) (shifts_symbol rfl) fun ht' => ?_
    exact (h.factor _ ht').bind ht' fun exponent u _ => balances_ok
  · exact balances_ok

theorem shifts_of_unaryOp? {t : Token} {op : UnaryOp} (h : unaryOp? t = some op) :
    t.Shifts stack stack := by
  unfold unaryOp? at h
  split at h
  case h_4 => cases h
  all_goals exact shifts_symbol rfl

theorem balanced_factor (h : r.IsBalanced) : Balanced [] (factor r) := by
  intro s hs
  unfold factor
  split
  · next op found =>
    refine .advance hs rfl (shifts_of_unaryOp? found) fun hs' => ?_
    exact (h.factor _ hs').bind hs' fun operand t _ => balances_ok
  · exact balanced_power h s hs

theorem shifts_of_binaryOp? {t : Token} {op : BinaryOp} (h : binaryOp? t = some op) :
    t.Shifts stack stack := by
  unfold binaryOp? at h
  split at h
  case h_13 => cases h
  all_goals exact shifts_symbol rfl

theorem balanced_operations (h : Balanced [] e) (level : Nat) :
    Balanced [] (operations level e) := by
  have operation : Balanced [] (operation level e) := by
    intro s hs
    unfold operation
    split
    · next op found =>
      have listed := (Option.filter_eq_some_iff.1 found).1
      refine .advance hs rfl (shifts_of_binaryOp? listed) fun hs' => ?_
      exact (h _ hs').bind hs' fun right t _ => balances_ok
    · exact balances_ok
  intro s hs
  refine (h s hs).bind hs fun left t ht => ?_
  exact (operation.repeated t ht).bind ht fun more u _ => balances_ok

theorem balanced_bitOr (h : r.IsBalanced) : Balanced [] (bitOr r) := by
  have within (k : Nat) : Balanced [] (operationsWithin r k) := by
    induction k with
    | zero => exact balanced_factor h
    | succ k ih => exact balanced_operations ih _
  exact within _

/-- A comparison is one word or two, none of which is a bracket. -/
theorem closes_of_comparison? {t : TokenStream} {op : CompareOp} (hs : s.HasEnd)
    (h : comparison? s = some (op, t)) : s.Closes [] t := by
  have one {u : Token} (current : s.current = u) (token : u.Shifts [] []) : s.Closes [] s.advance :=
    .of_advance hs (current ▸ token) (.refl _)
  have two {k k' : Keyword} (current : s.current = .keyword k) (found : s.ahead = .keyword k') :
      s.Closes [] s.advance.advance := by
    have hs' := ((one current (shifts_keyword k)).reaches).hasEnd hs
    have second : s.advance.current.Shifts [] [] := by
      rw [show s.advance.current = _ from found]
      exact shifts_keyword k'
    exact (one current (shifts_keyword k)).trans (.of_advance hs' second (.refl _))
  unfold comparison? at h
  split at h
  -- the last three rows but one are words, two of which look at a second one
  case h_7 current =>
    cases h
    exact one current (shifts_keyword _)
  case h_8 current =>
    split_ifs at h with found
    · cases h
      exact two current found
    · cases h
      exact one current (shifts_keyword _)
  case h_9 current =>
    split_ifs at h with found
    cases h
    exact two current found
  case h_10 => cases h
  all_goals
    next current =>
      cases h
      exact one current (shifts_symbol rfl)

theorem balanced_comparison (h : r.IsBalanced) : Balanced [] (comparison r) := by
  have comparator : Balanced [] (comparator r) := by
    intro s hs
    unfold comparator
    split
    · next op t compared =>
      have closed := closes_of_comparison? hs compared
      have ht := closed.reaches.hasEnd hs
      refine Balances.of_closes ?_ closed
      exact (balanced_bitOr h t ht).bind ht fun e u _ => balances_ok
    · exact balances_ok
  intro s hs
  refine (balanced_bitOr h s hs).bind hs fun left t ht => ?_
  refine (comparator.repeated t ht).bind ht fun more u _ => ?_
  dsimp only
  split_ifs
  · exact balances_ok
  · exact balances_ok

theorem balanced_negation (h : r.IsBalanced) : Balanced [] (negation r) := by
  intro s hs
  unfold negation
  split_ifs with starts
  · refine .advance hs (eq_of_beq starts) (shifts_keyword _) fun hs' => ?_
    exact (h.negation _ hs').bind hs' fun operand t _ => balances_ok
  · exact balanced_comparison h s hs

theorem balanced_logic (h : Balanced [] e) (op : LogicOp) (word : Keyword) :
    Balanced [] (logic op word e) := by
  have further : Balanced [] (operandAfter word e) :=
    h.optional fun _ starts => shifts_of_seesKeyword starts
  intro s hs
  refine (h s hs).bind hs fun first t ht => ?_
  refine (further.repeated t ht).bind ht fun more u _ => ?_
  dsimp only
  split_ifs
  · exact balances_ok
  · exact balances_ok

theorem balanced_disjunction (h : r.IsBalanced) : Balanced [] (disjunction r) :=
  balanced_logic (balanced_logic (balanced_negation h) _ _) _ _

theorem balanced_lambda (h : r.IsBalanced) : Balanced [] (lambda r) := by
  intro s hs
  refine (balanced_params h.test .colon false s hs).bind hs fun params t ht => ?_
  refine balances_expectSymbol_bind ht rfl fun u hu => ?_
  exact (h.test u hu).bind hu fun body v _ => balances_ok

theorem balanced_test (h : r.IsBalanced) : Balanced [] (test r) := by
  intro s hs
  unfold test
  split_ifs with starts
  · exact .advance hs (eq_of_beq starts) (shifts_keyword _) (balanced_lambda h _)
  · refine (balanced_disjunction h s hs).bind hs fun body t ht => ?_
    dsimp only
    split_ifs with starts
    · refine .advance ht (eq_of_beq starts) (shifts_keyword _) fun ht' => ?_
      refine (balanced_disjunction h _ ht').bind ht' fun test u hu => ?_
      refine balances_expectKeyword_bind hu fun v hv => ?_
      exact (h.test v hv).bind hv fun orelse w _ => balances_ok
    · exact balances_ok

/-! ### The whole grammar -/

/-- Expressions close what they open, up to any bound on their nesting. -/
theorem isBalanced_nested (n : Nat) : (nested n).IsBalanced := by
  induction n with
  | zero =>
    constructor
    all_goals exact fun s _ => balances_error
  | succ n ih =>
    exact ⟨balanced_test ih, balanced_disjunction ih, balanced_negation ih, balanced_bitOr ih,
      balanced_factor ih⟩

theorem balanced_sequence (h : Balanced [] e) : Balanced [] (Grammar.sequence e) := by
  intro s hs
  refine (h s hs).bind hs fun first t ht => ?_
  dsimp only
  split_ifs
  · exact (h.moreItems _ t ht).bind ht fun more u _ => balances_ok
  · exact balances_ok

end Grammar

end RobotCell.Script
