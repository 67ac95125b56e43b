import RobotCell.Proofs.Script.ReadDisplay

/-!
# The tokens of expressions are read as the expressions

Every legible expression is read back from its tokens. Trailers and operations are read by loops, so
their operands are told together with what the loop goes on with; all other forms are read by one
parser each.

## Main results

- `Legible.readsBack` — the tokens of a legible expression are read as it
- `Legible.parseTest_eq_ok` — a legible expression where any expression may stand
-/

namespace RobotCell.Script

open Grammar TokenStream

variable {s s' : TokenStream} {n ℓ : Nat} {e : Expr} {ts us : List Token} {r : Nested}

/-! ### Trailers -/

/-- An operand in front of a trailer. -/
theorem ReadsOwn.of_trailer {whole : Expr} (t : Trailer) (trail : List Token) (h : ReadsBack e)
    (item : e.isItem = true) (high : Level.primary ≤ whole.level)
    (tokens : whole.tokens = e.tokensAt Level.primary ++ trail) (attached : t.attach e = whole)
    (starts : ∃ u us, trail = u :: us ∧ joinLevel u ≤ Level.atom ∧ assignsName u = false)
    (read : ∀ ⦃n : Nat⦄ ⦃s : TokenStream⦄, trail.length ≤ n →
      trailer (nested n) (append trail s) = .ok (some t, s)) : ReadsOwn whole := by
  obtain ⟨u, us, rfl, plain, assigns⟩ := starts
  have leads := (h.at_ (Expr.standsAt_of_isItem item (by decide)) (by decide)
    (Nat.le_refl _)).leads
  refine .of_primary high ?_ fun n s s' trailers long _ more => ?_
  · rw [tokens]
    exact leads.append (by simpa using assigns)
  · rw [tokens, List.length_append] at long
    rw [tokens, append_append, ← attached, ← List.foldl_cons]
    refine h.primaryAt item (by omega) plain (repeated_of_some (read (by omega)) ?_ more)
    rw [append_cons, length_rest_cons, length_rest_append]
    omega

theorem readsOwn_attribute {attr : String} (h : ReadsBack e) (item : e.isItem = true) :
    ReadsOwn (.attribute e attr) := by
  refine .of_trailer (.attribute attr) [.symbol .dot, .name attr] h item (Nat.le_refl _)
    (by rw [Expr.tokens, Expr.tokensAt]) rfl ⟨_, _, rfl, by decide, rfl⟩ fun n s long => ?_
  simp [trailer]

/-! ### Subscripts -/

/-- The token may stand behind an item of a subscript. -/
def EndsSubscript (t : Token) : Prop :=
  t = .symbol .comma ∨ t = .symbol .rightBracket

namespace EndsSubscript

variable {t : Token}

theorem joinLevel_eq (h : EndsSubscript t) : joinLevel t = 0 := by
  rcases h with rfl | rfl <;> rfl

theorem endsBound (h : EndsSubscript t) : endsBound t = true := by
  rcases h with rfl | rfl <;> rfl

theorem sees_colon (h : EndsSubscript s.current) : s.sees .colon = false := by
  rw [TokenStream.sees, beq_eq_false_iff_ne]
  rintro same
  rw [same] at h
  rcases h with h | h <;> cases h

end EndsSubscript

theorem endsBound_of_prefixLevel {t : Token} (h : 0 < prefixLevel t) : endsBound t = false := by
  cases t with
  | symbol symbol => cases symbol <;> first | rfl | exact absurd h (by decide)
  | _ => rfl

/-- A bound of a slice, or none. -/
theorem bound_eq_ok {x : Option Expr} (h : ∀ e ∈ x, Reads Level.test e (e.tokensAt Level.test))
    (long : ((x.map (Expr.tokensAt Level.test)).getD []).length ≤ n)
    (last : joinLevel s.current = 0) (ends : endsBound s.current = true) :
    bound (nested (n + 1)) (append ((x.map (Expr.tokensAt Level.test)).getD []) s) = .ok (x, s) := by
  cases x with
  | none => simp [bound, ends]
  | some e =>
    have reads := h e rfl
    have starts := endsBound_of_prefixLevel (reads.leads.prefixLevel_pos (s := s))
    have read := reads.test_eq_ok long last
    simp only [Option.map_some, Option.getD_some] at starts read ⊢
    simp [bound, nested, starts, read]

theorem sliceStep_eq_ok {x : Option Expr} (h : ∀ e ∈ x, Reads Level.test e (e.tokensAt Level.test))
    (long : (partTokens .colon (x.map (Expr.tokensAt Level.test))).length ≤ n)
    (ends : EndsSubscript s.current) :
    sliceStep (nested (n + 1)) (append (partTokens .colon (x.map (Expr.tokensAt Level.test))) s) =
      .ok (x, s) := by
  cases x with
  | none => simp [sliceStep, ends.sees_colon]
  | some e =>
    have read := bound_eq_ok h (Nat.le_of_succ_le long) ends.joinLevel_eq ends.endsBound
    simp only [Option.map_some, Option.getD_some] at read
    simp [sliceStep, read]

/-- A slice behind its first colon. -/
theorem sliceAfter_eq_ok {lower upper step : Option Expr}
    (h : ∀ x ∈ [lower, upper, step], ∀ e ∈ x, Reads Level.test e (e.tokensAt Level.test))
    (long : ((upper.map (Expr.tokensAt Level.test)).getD [] ++
      partTokens .colon (step.map (Expr.tokensAt Level.test))).length ≤ n)
    (ends : EndsSubscript s.current) :
    sliceAfter (nested (n + 1)) lower (append ((upper.map (Expr.tokensAt Level.test)).getD [] ++
        partTokens .colon (step.map (Expr.tokensAt Level.test))) s) =
      .ok (.slice lower upper step, s) := by
  rw [List.length_append] at long
  have last := sliceStep_eq_ok (n := n) (h step (by simp)) (by omega) ends
  -- behind the upper bound stands the colon of the step, or the end of the item
  have follow : joinLevel (append (partTokens .colon (step.map (Expr.tokensAt Level.test)))
        s).current = 0 ∧
      endsBound (append (partTokens .colon (step.map (Expr.tokensAt Level.test))) s).current =
        true := by
    cases step with
    | none => exact ⟨ends.joinLevel_eq, ends.endsBound⟩
    | some e => exact ⟨rfl, rfl⟩
  have first := bound_eq_ok (n := n) (h upper (by simp)) (by omega) follow.1 follow.2
  rw [append_append, sliceAfter, first]
  simp [last]

theorem ReadsBack.subscriptItem_eq_ok (h : ReadsBack e) (plain : e.isSubscriptItem = true)
    (long : (e.tokensAt Level.test).length ≤ n) (ends : EndsSubscript s.current) :
    subscriptItem (nested (n + 1)) (append (e.tokensAt Level.test) s) = .ok (e, s) := by
  by_cases item : e.isItem = true
  · have reads := h.at_ (Expr.standsAt_of_isSubscriptItem item plain Level.test) (by decide)
      (by decide)
    have starts := sees_of_prefixLevel .colon (reads.leads.prefixLevel_pos (s := s))
    have read := reads.test_eq_ok long ends.joinLevel_eq
    simp [subscriptItem, nested, starts, read, ends.sees_colon]
  · cases e with
    | slice lower upper step =>
      have tokens : (Expr.slice lower upper step).tokensAt Level.test =
          (lower.map (Expr.tokensAt Level.test)).getD [] ++ .symbol .colon ::
            ((upper.map (Expr.tokensAt Level.test)).getD [] ++
              partTokens .colon (step.map (Expr.tokensAt Level.test))) := by
        rw [Expr.tokensAt_of_le (by decide : Level.test ≤ Level.atom), Expr.tokens, sliceTokens,
          optionTokens_eq, optionTokens_eq, optionTokens_eq]
      rw [tokens, List.length_append, List.length_cons] at long
      have after := sliceAfter_eq_ok (n := n) h (by omega) ends
      rw [tokens, append_append, append_cons]
      cases lower with
      | none => simpa [subscriptItem] using after
      | some l =>
        have reads := h (some l) (by simp) l rfl
        have starts (s : TokenStream) :=
          sees_of_prefixLevel .colon (reads.leads.prefixLevel_pos (s := s))
        simp only [Option.map_some, Option.getD_some] at long ⊢
        have read (s : TokenStream) : (nested (n + 1)).test
            (append (l.tokensAt Level.test) (cons (.symbol .colon) s)) =
              .ok (l, cons (.symbol .colon) s) :=
          reads.test_eq_ok (by omega) rfl
        simp [subscriptItem, starts, read, after, -append_append]
    | _ => exact absurd rfl item

/-- No item of a subscript starts with its closing bracket. -/
theorem ReadsBack.subscriptItem_starts (h : ReadsBack e) (plain : e.isSubscriptItem = true) :
    ∃ t us, e.tokensAt Level.test = t :: us ∧ (t == .symbol .rightBracket) = false := by
  by_cases item : e.isItem = true
  · obtain ⟨t, us, same, starts⟩ := h.item_starts item
    refine ⟨t, us, same, beq_eq_false_iff_ne.2 ?_⟩
    rintro rfl
    cases starts
  · cases e with
    | slice lower upper step =>
      rw [Expr.tokensAt_of_le (by decide : Level.test ≤ Level.atom), Expr.tokens, sliceTokens,
        optionTokens_eq]
      cases lower with
      | none => exact ⟨_, _, rfl, rfl⟩
      | some l =>
        obtain ⟨t, us, same, pos, -, -⟩ := (h (some l) (by simp) l rfl).leads
        simp only [Option.map_some, Option.getD_some, same]
        refine ⟨t, _, rfl, beq_eq_false_iff_ne.2 ?_⟩
        rintro rfl
        exact absurd pos (by decide)
    | _ => exact absurd rfl item

theorem readsOwn_subscript {i : Expr} (value : ReadsBack e) (item : e.isItem = true)
    (index : ReadsBack i) (single : i.isIndex = true) : ReadsOwn (.subscript e i) := by
  have plain : i.isSubscriptItem = true := by
    cases i with
    | tuple items =>
      cases items with
      | nil => rfl
      | cons => cases single
    | _ => exact single
  refine .of_trailer (.subscript i) (between .leftBracket .rightBracket (i.tokensAt Level.test))
    value item (Nat.le_refl _) (tokens_subscript_single single) rfl ⟨_, _, rfl, by decide, rfl⟩
    fun n s long => ?_
  rw [length_between] at long
  obtain ⟨m, rfl⟩ : ∃ k, n = k + 1 := ⟨n - 1, by omega⟩
  have read := index.subscriptItem_eq_ok (n := m) (s := cons (.symbol .rightBracket) s) plain
    (by omega) (.inr rfl)
  simp [append_between, trailer, subscriptIndex, read]

theorem readsOwn_subscriptMany {items : List Expr} (value : ReadsBack e) (item : e.isItem = true)
    (several : 2 ≤ items.length) (h : ∀ x ∈ items, ReadsBack x)
    (stand : ∀ x ∈ items, x.isSubscriptItem = true) : ReadsOwn (.subscript e (.tuple items)) := by
  match items with
  | x :: y :: items =>
    refine .of_trailer (.subscript (.tuple (x :: y :: items))) (between .leftBracket .rightBracket
      (commas ((x :: y :: items).map (Expr.tokensAt Level.test)))) value item (Nat.le_refl _)
      (tokens_subscript_many (by simp)) rfl ⟨_, _, rfl, by decide, rfl⟩ fun n s long => ?_
    rw [length_between] at long
    obtain ⟨m, rfl⟩ : ∃ k, n = k + 1 := ⟨n - 1, by omega⟩
    have short : ∀ z ∈ x :: y :: items, (z.tokensAt Level.test).length ≤ m := fun z hz =>
      Nat.le_trans (length_le_commas (List.mem_map_of_mem hz)) (by omega)
    obtain ⟨after, after_eq⟩ : ∃ after, afterFirst
      ((y :: items).map (Expr.tokensAt Level.test)) .rightBracket s = after := ⟨_, rfl⟩
    have comma : after.sees .comma = true := by
      rw [← after_eq]
      rfl
    have first := (h x (by simp)).subscriptItem_eq_ok (n := m) (s := after) (stand x (by simp))
      (short x (by simp)) (.inl (by rw [← after_eq]; rfl))
    have more := moreItems_append EndsSubscript (s := cons (.symbol .rightBracket) s)
      (fun z (hz : z ∈ y :: items) s ends =>
        (h z (List.mem_cons_of_mem _ hz)).subscriptItem_eq_ok (stand z (List.mem_cons_of_mem _ hz))
          (short z (List.mem_cons_of_mem _ hz)) ends)
      (fun z hz => (h z (List.mem_cons_of_mem _ hz)).subscriptItem_starts
        (stand z (List.mem_cons_of_mem _ hz))) (.inl rfl) (.inr rfl) rfl
    rw [List.map_id'] at more
    have rest : moreItems (· == .symbol .rightBracket) (subscriptItem (nested (m + 1))) after =
        .ok (y :: items, cons (.symbol .rightBracket) s) := after_eq ▸ more
    rw [append_between]
    show trailer _ (cons _ (append (commas (_ :: _)) _)) = _
    rw [append_commas, after_eq]
    simp [trailer, subscriptIndex, first, comma, rest]

/-! ### Calls -/

/-- The token may stand behind an argument of a call. -/
def EndsArg (t : Token) : Prop :=
  t = .symbol .comma ∨ t = .symbol .rightParen

theorem EndsArg.joinLevel_eq {t : Token} (h : EndsArg t) : joinLevel t = 0 := by
  rcases h with rfl | rfl <;> rfl

/-- The argument is read back. -/
inductive ReadsArg : CallArg → Prop where
  | positional {e : Expr} (reads : ReadsBack e) (item : e.isItem = true) : ReadsArg (.inl e)
  | keyword {k : Argument Expr} (reads : ReadsBack k.value)
      (stands : k.value.standsAt (argumentLevel k.name) = true) : ReadsArg (.inr k)

theorem ReadsBack.callArg_eq_ok (h : ReadsBack e) (item : e.isItem = true)
    (long : (e.tokensAt Level.test).length ≤ n) (ends : EndsArg s.current) :
    callArg (nested (n + 1)) (append (e.tokensAt Level.test) s) = .ok (.inl e, s) := by
  by_cases plain : e.isSubscriptItem = true
  · have reads := h.at_ (Expr.standsAt_of_isSubscriptItem item plain Level.test) (by decide)
      (by decide)
    have pos := reads.leads.prefixLevel_pos (s := s)
    have assigns : (append (e.tokensAt Level.test) s).ahead ≠ .symbol .assign :=
      reads.leads.ahead_ne rfl (by rcases ends with h | h <;> rw [h] <;> simp)
    have forks : s.seesKeyword .forKw = false := by
      rcases ends with h | h <;> rw [TokenStream.seesKeyword, h] <;> rfl
    have read : namedTest (nested (n + 1)).test (append (e.tokensAt Level.test) s) = .ok (e, s) :=
      reads.namedTest_eq_ok long ends.joinLevel_eq (by rcases ends with h | h <;> rw [h] <;> simp)
    rw [callArg, sees_of_prefixLevel .doubleStar pos, sees_of_prefixLevel .star pos]
    simp only [Bool.false_eq_true, if_false, read, ok_bind, forks]
    split
    · rw [if_neg assigns]
      rfl
    · rfl
  · cases e with
    | starred value =>
      rw [Expr.tokensAt_of_le (by decide : Level.test ≤ Level.bitOr), Expr.tokens] at long ⊢
      have reads : Reads Level.test value (value.tokensAt Level.bitOr) :=
        Reads.of_le h (by decide)
      have read : (nested (n + 1)).test (append (value.tokensAt Level.bitOr) s) = .ok (value, s) :=
        reads.test_eq_ok (Nat.le_of_succ_le long) ends.joinLevel_eq
      rw [append_cons, ← Expr.tokensAt]
      simp [callArg, read]
    | _ => exact absurd rfl plain

theorem ReadsArg.callArg_eq_ok {a : CallArg} (h : ReadsArg a) (long : (argTokens a).length ≤ n)
    (ends : EndsArg s.current) :
    callArg (nested (n + 1)) (append (argTokens a) s) = .ok (a, s) := by
  cases h with
  | positional reads item => exact reads.callArg_eq_ok item long ends
  | @keyword k reads stands =>
    obtain ⟨name, value⟩ := k
    cases name with
    | none =>
      change value.standsAt Level.bitOr = true at stands
      have reads := (reads.at_ stands (by decide) (by decide)).of_le
        (by decide : Level.test ≤ Level.bitOr)
      have read : (nested (n + 1)).test (append (value.tokensAt Level.bitOr) s) = .ok (value, s) :=
        reads.test_eq_ok (Nat.le_of_succ_le long) ends.joinLevel_eq
      simp [argTokens, Argument.tokens, argumentTokens, argumentLevel, callArg, read]
    | some name =>
      change value.standsAt Level.test = true at stands
      have reads := reads.at_ stands (by decide) (by decide)
      have read : (nested (n + 1)).test (append (value.tokensAt Level.test) s) = .ok (value, s) :=
        reads.test_eq_ok (Nat.le_of_succ_le (Nat.le_of_succ_le long)) ends.joinLevel_eq
      simp [argTokens, Argument.tokens, argumentTokens, argumentLevel, callArg, read]

theorem ReadsArg.starts {a : CallArg} (h : ReadsArg a) :
    ∃ t us, argTokens a = t :: us ∧ (t == .symbol .rightParen) = false := by
  cases h with
  | positional reads item =>
    exact reads.item_starts_ne item .rightParen rfl
  | @keyword k _ _ =>
    obtain ⟨name, value⟩ := k
    cases name <;> exact ⟨_, _, rfl, rfl⟩

/-- The arguments of a call and its closing parenthesis. -/
theorem callArgs_eq_ok {args : List CallArg} (h : ∀ a ∈ args, ReadsArg a)
    (long : (commas (args.map argTokens)).length ≤ n) (s : TokenStream) :
    callArgs (nested (n + 1)) (append (commas (args.map argTokens)) (cons (.symbol .rightParen) s)) =
      .ok (args, s) := by
  cases args with
  | nil => rfl
  | cons a args =>
    obtain ⟨t, us, same, starts⟩ := (h a List.mem_cons_self).starts
    have read := oneOrMore_append EndsArg (s := cons (.symbol .rightParen) s) (by simp)
      (fun b (hb : b ∈ a :: args) s ends => (h b hb).callArg_eq_ok
        (Nat.le_trans (length_le_commas (List.mem_map_of_mem hb)) long) ends)
      (fun b hb => (h b hb).starts) (.inl rfl) (.inr rfl) rfl
    rw [List.map_id'] at read
    have closed : (append (commas ((a :: args).map argTokens))
        (cons (.symbol .rightParen) s)).sees .rightParen = false := by
      rw [List.map_cons, commas, separatedBy, same]
      exact starts
    rw [callArgs, itemsUpTo, closed]
    simp only [Bool.false_eq_true, if_false, read, ok_bind, expectSymbol_cons]
    rfl

theorem positionals_argsOf (args : List Expr) (kws : List (Argument Expr)) :
    positionals (argsOf args kws) = args := by
  simp [positionals, argsOf, List.filterMap_map, Function.comp_def]

theorem keywords_argsOf (args : List Expr) (kws : List (Argument Expr)) :
    keywords (argsOf args kws) = kws := by
  simp [keywords, argsOf, List.filterMap_map, Function.comp_def]

theorem readsOwn_call {args : List Expr} {kws : List (Argument Expr)} (func : ReadsBack e)
    (item : e.isItem = true) (h : ∀ a ∈ argsOf args kws, ReadsArg a) :
    ReadsOwn (.call e args kws) := by
  refine .of_trailer (.call args kws)
    (between .leftParen .rightParen (commas ((argsOf args kws).map argTokens))) func item
    (Nat.le_refl _) (by rw [Expr.tokens, argTokens_eq, Expr.tokensAt]) rfl
    ⟨_, _, rfl, by decide, rfl⟩ fun n s long => ?_
  rw [length_between] at long
  obtain ⟨m, rfl⟩ : ∃ k, n = k + 1 := ⟨n - 1, by omega⟩
  have read := callArgs_eq_ok (n := m) h (by omega) s
  simp [append_between, trailer, read, positionals_argsOf, keywords_argsOf]

/-! ### Operators -/

/-- A token in front of an operand. -/
theorem Leads.cons {t : Token} {m : Nat} (pos : 0 < prefixLevel t) (high : ℓ ≤ prefixLevel t)
    (h : Leads m ts) : Leads ℓ (t :: ts) := by
  obtain ⟨u, us, rfl, starts, -, -⟩ := h
  refine ⟨t, u :: us, rfl, pos, high, fun v hv => ?_⟩
  cases hv
  exact assignsName_of_startsExpression (startsExpression_of_prefixLevel starts)

theorem readsOwn_unary {op : UnaryOp} (h : ReadsBack e) (stands : e.standsAt op.level = true) :
    ReadsOwn (.unary op e) := by
  have reads := h.at_ stands (by cases op <;> decide) (by cases op <;> decide)
  have tokens : (Expr.unary op e).tokens = op.token :: e.tokensAt op.level := by
    rw [Expr.tokens, Expr.tokensAt]
  refine .of_reads (by cases op <;> first | exact .inl (by decide : Level.negation < _) |
    exact .inr (by decide : _ ≤ Level.unary)) op.level_lt_primary ⟨?_, fun n s long last => ?_⟩
  · rw [tokens]
    cases op <;> exact reads.leads.cons (by decide) (Nat.le_refl _)
  · rw [tokens, List.length_cons] at long
    obtain ⟨m, rfl⟩ : ∃ k, n = k + 1 := ⟨n - 1, by omega⟩
    have read := reads.reads (n := m) (by omega) last
    rw [tokens, append_cons]
    cases op with
    | not =>
      have read : (nested (m + 1)).negation (append (e.tokensAt Level.negation) s) = .ok (e, s) :=
        read
      change readerAt _ Level.negation _ = _
      simp [readerAt_negation, negation, UnaryOp.token, UnaryOp.level, read]
    | neg | pos | invert =>
      have read : (nested (m + 1)).factor (append (e.tokensAt Level.unary) s) = .ok (e, s) := read
      change readerAt _ Level.unary _ = _
      simp [readerAt_unary, factor, UnaryOp.token, UnaryOp.level, unaryOp?, read]

theorem readsOwn_await (h : ReadsBack e) (item : e.isItem = true) : ReadsOwn (.await e) := by
  have reads := h.at_ (Expr.standsAt_of_isItem item (by decide)) (by decide) (Nat.le_refl _)
  have tokens : (Expr.await e).tokens = .keyword .awaitKw :: e.tokensAt Level.primary := by
    rw [Expr.tokens, Expr.tokensAt]
  refine .of_reads (.inr (by decide : Level.unary ≤ Level.await))
    (by decide : Level.await < Level.primary) ⟨?_, fun n s long last => ?_⟩
  · rw [tokens]
    exact reads.leads.cons (by decide) (by decide : Level.await ≤ Level.await)
  · rw [tokens, List.length_cons] at long
    have read : primary (nested n) (append (e.tokensAt Level.primary) s) = .ok (e, s) :=
      reads.reads (by omega) (Nat.lt_trans last (by decide : Level.await < Level.primary))
    rw [tokens, append_cons]
    change readerAt _ Level.await _ = _
    simp [readerAt_await, awaited, read]

theorem readsOwn_pow {l r : Expr} (left : ReadsBack l) (right : ReadsBack r)
    (standsLeft : l.standsAt Level.await = true) (standsRight : r.standsAt Level.unary = true) :
    ReadsOwn (.binary l .pow r) := by
  have leftReads := left.at_ standsLeft (by decide) (by decide)
  have rightReads := right.at_ standsRight (by decide) (by decide)
  have tokens : (Expr.binary l .pow r).tokens =
      l.tokensAt Level.await ++ .symbol .doubleStar :: r.tokensAt Level.unary := by
    rw [Expr.tokens, Expr.tokensAt, Expr.tokensAt]
    rfl
  refine .of_reads (.inr (by decide : Level.unary ≤ Level.power))
    (by decide : Level.power < Level.primary) ⟨?_, fun n s long last => ?_⟩
  · rw [tokens]
    exact (leftReads.leads.append (by simp [assignsName])).mono
      (by decide : Level.power ≤ Level.await)
  · rw [tokens, List.length_append, List.length_cons] at long
    obtain ⟨m, rfl⟩ : ∃ k, n = k + 1 := ⟨n - 1, by omega⟩
    have first : awaited (nested (m + 1)) (append (l.tokensAt Level.await)
        (cons (.symbol .doubleStar) (append (r.tokensAt Level.unary) s))) =
        .ok (l, cons (.symbol .doubleStar) (append (r.tokensAt Level.unary) s)) :=
      leftReads.reads (by omega) (by decide : Level.power < Level.await)
    -- no operator has the level between the power and its exponent
    have tighter : joinLevel s.current < Level.unary := by
      have := joinLevel_ne_unary s.current
      change joinLevel s.current < Level.unary + 1 at last
      omega
    have second : (nested (m + 1)).factor (append (r.tokensAt Level.unary) s) = .ok (r, s) :=
      rightReads.reads (n := m) (by omega) tighter
    rw [tokens, append_append, append_cons]
    change readerAt _ Level.power _ = _
    simp [readerAt_power, power, first, second]

/-- The operators that are grouped from the left. -/
theorem BinaryOp.levels_of_ne_pow {op : BinaryOp} (h : op ≠ .pow) :
    op.leftLevel = op.level ∧ op.rightLevel = op.level + 1 ∧ Level.bitOr ≤ op.level ∧
      op.level < Level.unary ∧ binaryOpAt? op.level (.symbol op.sign) = some op ∧
      joinLevel (.symbol op.sign) = op.level := by
  cases op <;> first | exact absurd rfl h | decide

theorem readsOwn_binary {l r : Expr} {op : BinaryOp} (left : ReadsBack l) (right : ReadsBack r)
    (standsLeft : l.standsAt op.leftLevel = true) (standsRight : r.standsAt op.rightLevel = true) :
    ReadsOwn (.binary l op r) := by
  by_cases pow : op = .pow
  · subst pow
    exact readsOwn_pow left right standsLeft standsRight
  obtain ⟨leftLevel, rightLevel, low, high, sign, joins⟩ := BinaryOp.levels_of_ne_pow pow
  rw [leftLevel] at standsLeft
  rw [rightLevel] at standsRight
  have below : op.level + 1 ≤ Level.primary := Nat.le_trans high (by decide)
  have leftReads := left.at_ standsLeft (Nat.le_trans (by decide) low) (by omega)
  have rightReads := right.at_ standsRight (Nat.le_trans (by decide) (Nat.le_succ_of_le low)) below
  have tokens : (Expr.binary l op r).tokens =
      l.tokensAt op.level ++ .symbol op.sign :: r.tokensAt (op.level + 1) := by
    rw [Expr.tokens, leftLevel, rightLevel, Expr.tokensAt, Expr.tokensAt]
  refine .of_grouped low high ?_ fun n s s' more long last found => ?_
  · rw [tokens]
    exact leftReads.leads.append (by cases op <;> simp [assignsName, BinaryOp.sign])
  · rw [tokens, List.length_append, List.length_cons] at long
    have operand : operationsWithin (nested n) (Level.unary - (op.level + 1))
        (append (r.tokensAt (op.level + 1)) s) = .ok (r, s) := by
      have := rightReads.reads (n := n) (by omega) (Nat.lt_succ_of_le last)
      rwa [readerAt_operations (by omega) high] at this
    have step : operation op.level (operationsWithin (nested n) (Level.unary - (op.level + 1)))
        (cons (.symbol op.sign) (append (r.tokensAt (op.level + 1)) s)) = .ok (some (op, r), s) := by
      simp [operation, sign, operand]
    have grouped := left.groupedAt standsLeft low high (n := n) (by omega)
      (s := cons (.symbol op.sign) (append (r.tokensAt (op.level + 1)) s))
      (by rw [current_cons, joins])
      (repeated_of_some step (by simp only [length_rest_cons, length_rest_append]; omega) found)
    rw [tokens, append_append, append_cons]
    exact grouped

/-! ### Conditions -/

/-- Two or more operands with a word between neighbours. -/
theorem logic_append {op : LogicOp} {word : Keyword} {operand : Parser Expr} {values : List Expr}
    {m : Nat} {tokens : Expr → List Token} (several : 2 ≤ values.length)
    (h : ∀ x ∈ values, ∀ s, joinLevel s.current < m → operand (append (tokens x) s) = .ok (x, s))
    (joins : joinLevel (.keyword word) < m) (last : joinLevel s.current < joinLevel (.keyword word)) :
    logic op word operand (append (separatedBy (.keyword word) (values.map tokens)) s) =
      .ok (.logic op values, s) := by
  match values with
  | x :: y :: values =>
    have more := repeated_append (fun t => joinLevel t < m)
      (fun z (hz : z ∈ y :: values) s follow =>
        show operandAfter word operand (append (.keyword word :: tokens z) s) = .ok (some z, s) by
          simp [operandAfter, h z (List.mem_cons_of_mem _ hz) s follow])
      (fun z _ => ⟨.keyword word, tokens z, rfl, joins⟩) (Nat.lt_trans last joins)
      (operandAfter_of_joinLevel last)
    rw [List.map_id'] at more
    have first := h x List.mem_cons_self
      (append ((y :: values).flatMap fun z => .keyword word :: tokens z) s) joins
    rw [List.map_cons, separatedBy, append_append, List.flatMap_map, logic, first]
    simp only [ok_bind, more]
    rfl

theorem readsOwn_logic {op : LogicOp} {values : List Expr} (several : 2 ≤ values.length)
    (h : ∀ x ∈ values, ReadsBack x) (stand : ∀ x ∈ values, x.standsAt (op.level + 1) = true) :
    ReadsOwn (.logic op values) := by
  have reads : ∀ x ∈ values, Reads (op.level + 1) x (x.tokensAt (op.level + 1)) := fun x hx =>
    (h x hx).at_ (stand x hx) (by cases op <;> decide) (by cases op <;> decide)
  have tokens : (Expr.logic op values).tokens =
      separatedBy (.keyword op.keyword) (values.map (Expr.tokensAt (op.level + 1))) := by
    rw [Expr.tokens, itemTokens_eq]
  have low : op.level < Level.bitOr := by cases op <;> decide
  refine .of_reads (.inl low)
    op.level_lt_primary ⟨?_, fun n s long last => ?_⟩
  · rw [tokens]
    cases values with
    | nil => simp at several
    | cons x values =>
      refine ((reads x (by simp)).leads.append ?_).mono (Nat.le_succ _)
      cases values with
      | nil => simp
      | cons y values =>
        intro u hu
        cases hu
        rfl
  · rw [tokens] at long ⊢
    have short : ∀ x ∈ values, (x.tokensAt (op.level + 1)).length ≤ n := fun x hx =>
      Nat.le_trans (length_le_separatedBy (List.mem_map_of_mem hx)) long
    cases op with
    | and =>
      exact logic_append several
        (fun x hx s follow => (reads x hx).reads (short x hx) follow) (by decide) last
    | or =>
      exact logic_append several
        (fun x hx s follow => (reads x hx).reads (short x hx) follow) (by decide) last

/-- The tokens of a comparison operator and of the operand behind it. -/
def comparandTokens (c : CompareOp × Expr) : List Token :=
  c.1.tokens ++ c.2.tokensAt Level.bitOr

theorem comparisonTokens_eq {ops : List CompareOp} {operands : List Expr}
    (even : ops.length = operands.length) :
    comparisonTokens ops (operands.map (Expr.tokensAt Level.bitOr)) =
      (ops.zip operands).flatMap comparandTokens := by
  induction ops generalizing operands with
  | nil => rfl
  | cons op ops ih =>
    cases operands with
    | nil => cases even
    | cons x operands =>
      rw [List.map_cons, comparisonTokens, ih (by simpa using even), List.zip_cons_cons,
        List.flatMap_cons, comparandTokens, List.append_assoc]

theorem head_compareOp (op : CompareOp) :
    ∃ t us, op.tokens = t :: us ∧ joinLevel t = Level.comparison ∧ assignsName t = false := by
  cases op <;> exact ⟨_, _, rfl, rfl, rfl⟩

/-- The operator is read as itself: the operand behind it does not make it longer. -/
theorem comparison?_append (op : CompareOp) (leads : Leads Level.bitOr ts) (s : TokenStream) :
    comparison? (append op.tokens (append ts s)) = some (op, append ts s) := by
  have next : (append ts s).current ≠ .keyword .notKw := by
    intro same
    have := leads.le_prefixLevel (s := s)
    rw [same] at this
    exact absurd this (by decide)
  cases op <;> simp [comparison?, CompareOp.tokens, next]

theorem comparator_eq_ok {op : CompareOp} (h : Reads Level.bitOr e (e.tokensAt Level.bitOr))
    (long : (comparandTokens (op, e)).length ≤ n) (last : joinLevel s.current < Level.bitOr) :
    comparator (nested n) (append (comparandTokens (op, e)) s) = .ok (some (op, e), s) := by
  simp only [comparandTokens, List.length_append] at long
  have read : bitOr (nested n) (append (e.tokensAt Level.bitOr) s) = .ok (e, s) :=
    h.reads (by omega) last
  simp [comparandTokens, comparator, comparison?_append op h.leads, read]

theorem readsOwn_compare {ops : List CompareOp} {operands : List Expr} (left : ReadsBack e)
    (stands : e.standsAt Level.bitOr = true) (filled : ops ≠ [])
    (even : ops.length = operands.length) (h : ∀ x ∈ operands, ReadsBack x)
    (stand : ∀ x ∈ operands, x.standsAt Level.bitOr = true) :
    ReadsOwn (.compare e ops operands) := by
  have leftReads := left.at_ stands (by decide) (by decide)
  have tokens : (Expr.compare e ops operands).tokens =
      e.tokensAt Level.bitOr ++ (ops.zip operands).flatMap comparandTokens := by
    rw [Expr.tokens, itemTokens_eq, comparisonTokens_eq even, Expr.tokensAt]
  have pairs : ops.zip operands ≠ [] := by
    rw [Ne, List.zip_eq_nil_iff, not_or]
    refine ⟨filled, fun empty => filled ?_⟩
    rw [← List.length_eq_zero_iff, even, empty, List.length_nil]
  obtain ⟨first, rest, same⟩ := List.exists_cons_of_ne_nil pairs
  obtain ⟨t, us, htokens, joins, assigns⟩ := head_compareOp first.1
  have chain : ∃ vs, (ops.zip operands).flatMap comparandTokens = t :: vs := by
    rw [same, List.flatMap_cons, comparandTokens, htokens]
    exact ⟨_, rfl⟩
  obtain ⟨vs, chain⟩ := chain
  refine .of_reads (.inl (by decide : Level.comparison < Level.bitOr))
    (by decide : Level.comparison < Level.primary) ⟨?_, fun n s long last => ?_⟩
  · rw [tokens, chain]
    exact (leftReads.leads.append (by simpa using assigns)).mono (by decide : Level.comparison ≤ _)
  · rw [tokens, List.length_append] at long
    have more := repeated_append (fun t => joinLevel t < Level.bitOr)
      (fun c (hc : c ∈ ops.zip operands) s follow => comparator_eq_ok
        ((h c.2 (List.of_mem_zip hc).2).at_ (stand c.2 (List.of_mem_zip hc).2) (by decide)
          (by decide))
        (Nat.le_trans (length_le_flatMap hc) (Nat.le_trans (Nat.le_add_left _ _) long)) follow)
      (fun c _ => by
        obtain ⟨t, us, htokens, joins, -⟩ := head_compareOp c.1
        exact ⟨t, us ++ c.2.tokensAt Level.bitOr, by rw [comparandTokens, htokens]; rfl,
          by rw [joins]; decide⟩)
      (Nat.lt_trans last (by decide : Level.comparison < Level.bitOr)) (comparator_of_joinLevel last)
    rw [List.map_id'] at more
    have read : bitOr (nested n) (append (e.tokensAt Level.bitOr)
        (append ((ops.zip operands).flatMap comparandTokens) s)) =
        .ok (e, append ((ops.zip operands).flatMap comparandTokens) s) := by
      refine leftReads.reads (by omega) ?_
      rw [chain]
      show joinLevel t < _
      rw [joins]
      decide
    rw [tokens, append_append]
    change readerAt _ Level.comparison _ = _
    simp [readerAt_comparison, comparison, read, more, pairs, List.map_fst_zip (Nat.le_of_eq even),
      List.map_snd_zip (Nat.le_of_eq even.symm)]

theorem readsOwn_conditional {t b o : Expr} (test : ReadsBack t) (body : ReadsBack b)
    (orelse : ReadsBack o) (standsTest : t.standsAt Level.disjunction = true)
    (standsBody : b.standsAt Level.disjunction = true) (standsElse : o.standsAt Level.test = true) :
    ReadsOwn (.conditional t b o) := by
  have testReads := test.at_ standsTest (by decide) (by decide)
  have bodyReads := body.at_ standsBody (by decide) (by decide)
  have elseReads := orelse.at_ standsElse (by decide) (by decide)
  have tokens : (Expr.conditional t b o).tokens = b.tokensAt Level.disjunction ++
      .keyword .ifKw :: (t.tokensAt Level.disjunction ++
        .keyword .elseKw :: o.tokensAt Level.test) := by
    rw [Expr.tokens, Expr.tokensAt, Expr.tokensAt, Expr.tokensAt]
  refine .of_reads (.inl (by decide : Level.conditional < Level.bitOr))
    (by decide : Level.conditional < Level.primary) ⟨?_, fun n s long last => ?_⟩
  · rw [tokens]
    exact (bodyReads.leads.append (by simp [assignsName])).mono (by decide : Level.conditional ≤ _)
  · simp only [tokens, List.length_append, List.length_cons] at long
    obtain ⟨m, rfl⟩ : ∃ k, n = k + 1 := ⟨n - 1, by omega⟩
    have first (s : TokenStream) : disjunction (nested (m + 1)) (append
        (b.tokensAt Level.disjunction) (cons (.keyword .ifKw) s)) =
        .ok (b, cons (.keyword .ifKw) s) :=
      bodyReads.reads (by omega) (by decide : Level.conditional < Level.disjunction)
    have second (s : TokenStream) : disjunction (nested (m + 1)) (append
        (t.tokensAt Level.disjunction) (cons (.keyword .elseKw) s)) =
        .ok (t, cons (.keyword .elseKw) s) :=
      testReads.reads (by omega) (by decide : 0 < Level.disjunction)
    -- no operator has the level of functions, so none stands behind the last part
    have ends : joinLevel s.current = 0 := by
      have := joinLevel_ne_test s.current
      change joinLevel s.current < 2 at last
      change joinLevel s.current ≠ 1 at this
      omega
    have third : (nested (m + 1)).test (append (o.tokensAt Level.test) s) = .ok (o, s) :=
      elseReads.test_eq_ok (by omega) ends
    have lambda := seesKeyword_of_prefixLevel .lambdaKw
      (Nat.lt_of_lt_of_le (by decide) (bodyReads.leads.le_prefixLevel
        (s := cons (.keyword .ifKw) (append (t.tokensAt Level.disjunction)
          (cons (.keyword .elseKw) (append (o.tokensAt Level.test) s))))))
    rw [tokens]
    change readerAt _ Level.conditional _ = _
    simp [readerAt_test, Grammar.test, lambda, first, second, third]

/-! ### Parameters -/

/-- The parts of a parameter are read back. -/
structure ReadsParam (annotated : Bool) (p : Param Expr) : Prop where
  hint : ∀ e ∈ p.hint, ReadsBack e
  preset : ∀ e ∈ p.preset, ReadsBack e
  stands : p.stands annotated = true

/-- The token may stand behind a parameter in front of the given closing one. -/
def EndsParam (closing : Symbol) (t : Token) : Prop :=
  t = .symbol .comma ∨ t = .symbol closing

/-- The symbols that end a list of parameters: behind annotated ones, no colon. -/
def closesParams (annotated : Bool) (closing : Symbol) : Bool :=
  closing = .rightParen || closing = .colon && !annotated

theorem EndsParam.cases {annotated : Bool} {closing : Symbol} {t : Token}
    (close : closesParams annotated closing = true) (h : EndsParam closing t) :
    joinLevel t = 0 ∧ t ≠ .symbol .assign ∧ (annotated && t == .symbol .colon) = false := by
  simp only [closesParams, Bool.or_eq_true, decide_eq_true_eq, Bool.and_eq_true,
    Bool.not_eq_true'] at close
  rcases h with rfl | rfl
  · cases annotated <;> decide
  · rcases close with rfl | ⟨rfl, rfl⟩
    · cases annotated <;> decide
    · decide

section Params

variable {annotated : Bool} {p : Param Expr}

theorem hint_eq_ok (h : ReadsParam annotated p)
    (long : (partTokens .colon (p.hint.map (Expr.tokensAt Level.test))).length ≤ n)
    (last : joinLevel s.current = 0) (ends : (annotated && s.sees .colon) = false) :
    Grammar.hint annotated (nested (n + 1)).test
        (append (partTokens .colon (p.hint.map (Expr.tokensAt Level.test))) s) = .ok (p.hint, s) := by
  have stands := h.stands
  simp only [Param.stands, Bool.and_eq_true, Option.all_eq_true] at stands
  cases hint : p.hint with
  | none => simp [Grammar.hint, ends]
  | some e =>
    obtain ⟨allowed, standsHint⟩ := stands.1 e hint
    rw [hint] at long
    have read : (nested (n + 1)).test (append (e.tokensAt Level.test) s) = .ok (e, s) :=
      ((h.hint e hint).at_ standsHint (by decide) (by decide)).test_eq_ok
        (Nat.le_of_succ_le long) last
    simp [Grammar.hint, allowed, read]

theorem preset_eq_ok (h : ReadsParam annotated p)
    (long : (partTokens .assign (p.preset.map (Expr.tokensAt Level.test))).length ≤ n)
    (last : joinLevel s.current = 0) (ends : s.current ≠ .symbol .assign) :
    Grammar.preset (nested (n + 1)).test
        (append (partTokens .assign (p.preset.map (Expr.tokensAt Level.test))) s) =
      .ok (p.preset, s) := by
  have stands := Param.standsAt_preset h.stands
  cases preset : p.preset with
  | none =>
    have : s.sees .assign = false := beq_eq_false_iff_ne.2 ends
    simp [Grammar.preset, this]
  | some e =>
    rw [preset] at long
    have read : (nested (n + 1)).test (append (e.tokensAt Level.test) s) = .ok (e, s) :=
      ((h.preset e preset).at_ (stands e preset) (by decide) (by decide)).test_eq_ok
        (Nat.le_of_succ_le long) last
    simp [Grammar.preset, read]

/-- The tokens of a parameter as it stands in a list. -/
theorem tokens_param (h : ReadsParam annotated p) :
    (ParamEntry.param p.plain).tokens annotated = p.plain.kind.starTokens ++ .name p.name ::
      (partTokens .colon (p.hint.map (Expr.tokensAt Level.test)) ++
        partTokens .assign (p.preset.map (Expr.tokensAt Level.test))) := by
  have hint : (if annotated then p.hint.map (Expr.tokensAt Level.test) else none) =
      p.hint.map (Expr.tokensAt Level.test) := by
    have stands := h.stands
    simp only [Param.stands, Bool.and_eq_true, Option.all_eq_true] at stands
    cases annotated with
    | true => rfl
    | false =>
      cases hint : p.hint with
      | none => rfl
      | some e => exact absurd (stands.1 e hint).1 (by decide)
  rw [ParamEntry.tokens, p.name_plain, p.hint_plain, p.preset_plain, hint, paramTokens]

theorem Param.preset_eq_none (h : p.stands annotated = true)
    (star : p.kind = .varArgs ∨ p.kind = .varKeywords) : p.preset = none := by
  simp only [stands, Bool.and_eq_true, Option.all_eq_true] at h
  cases preset : p.preset with
  | none => rfl
  | some e =>
    have := (h.2 e preset).1
    rcases star with star | star <;> rw [star] at this <;> cases this

theorem paramEntry_eq_ok {closing : Symbol} (close : closesParams annotated closing = true)
    (h : ReadsParam annotated p)
    (long : ((ParamEntry.param p.plain).tokens annotated).length ≤ n)
    (ends : EndsParam closing s.current) :
    paramEntry annotated (nested (n + 1)).test
        (append ((ParamEntry.param p.plain).tokens annotated) s) = .ok (.param p.plain, s) := by
  obtain ⟨last, assigns, colon⟩ := ends.cases close
  rw [tokens_param h] at long ⊢
  simp only [List.length_append, List.length_cons] at long
  have preset := preset_eq_ok (n := n) h (by omega) last assigns
  -- behind the annotation stands a default value, or the end of the parameter
  have follow : joinLevel (append (partTokens .assign
        (p.preset.map (Expr.tokensAt Level.test))) s).current = 0 ∧
      (annotated && (append (partTokens .assign (p.preset.map (Expr.tokensAt Level.test)))
        s).sees .colon) = false := by
    cases p.preset with
    | none => exact ⟨last, colon⟩
    | some e => exact ⟨rfl, Bool.and_false _⟩
  have hint := hint_eq_ok (n := n) h (by omega) follow.1 follow.2
  have noPreset := Param.preset_eq_none h.stands
  obtain ⟨name, kind, hintValue, presetValue⟩ := p
  cases kind with
  | positional | keywordOnly =>
    simp [paramEntry, Param.plain, ParamKind.starTokens, hint, preset]
  | varArgs =>
    obtain rfl : presetValue = none := noPreset (.inl rfl)
    simp only [Option.map_none, partTokens_none, append_nil] at hint
    simp [paramEntry, Param.plain, ParamKind.starTokens, hint]
  | varKeywords =>
    obtain rfl : presetValue = none := noPreset (.inr rfl)
    simp only [Option.map_none, partTokens_none, append_nil] at hint
    simp [paramEntry, Param.plain, ParamKind.starTokens, hint]

end Params

/-- No entry of a list of parameters starts with a token that ends the list. -/
theorem head_entry {annotated : Bool} {closing : Symbol}
    (close : closesParams annotated closing = true) (entry : ParamEntry) :
    ∃ t us, entry.tokens annotated = t :: us ∧ (t == .symbol closing) = false ∧
      assignsName t = false := by
  have apart : closing ≠ .star ∧ closing ≠ .doubleStar := by
    constructor
    all_goals
      rintro rfl
      cases close
  cases entry with
  | loneStar => exact ⟨_, _, rfl, by simpa using apart.1.symm, rfl⟩
  | param p =>
    obtain ⟨name, kind, hint, preset⟩ := p
    cases kind with
    | positional | keywordOnly => exact ⟨_, _, rfl, rfl, rfl⟩
    | varArgs => exact ⟨_, _, rfl, by simpa using apart.1.symm, rfl⟩
    | varKeywords => exact ⟨_, _, rfl, by simpa using apart.2.symm, rfl⟩

/-- A star of its own, which is followed by a comma. -/
theorem paramEntry_loneStar {annotated : Bool} {test : Parser Expr} (comma : s.sees .comma = true) :
    paramEntry annotated test (cons (.symbol .star) s) = .ok (.loneStar, s) := by
  simp [paramEntry, comma]

/-- Behind an entry stands a comma, or the end of the list. -/
theorem endsParam_afterFirst (more : List (List Token)) (closing : Symbol) (s : TokenStream) :
    EndsParam closing (afterFirst more closing s).current := by
  cases more with
  | nil => exact .inr rfl
  | cons ts more => exact .inl rfl

section Entries

variable {annotated : Bool} {closing : Symbol} (close : closesParams annotated closing = true)
include close

/-- A parameter behind a comma, and the ones behind it. -/
theorem moreEntries_param {p : Param Expr} {entries : List ParamEntry} (h : ReadsParam annotated p)
    (long : ((ParamEntry.param p.plain).tokens annotated).length ≤ n)
    (ends : EndsParam closing s.current)
    (more : moreItems (· == .symbol closing) (paramEntry annotated (nested (n + 1)).test) s =
      .ok (entries, s')) :
    moreItems (· == .symbol closing) (paramEntry annotated (nested (n + 1)).test)
        (append (.symbol .comma :: (ParamEntry.param p.plain).tokens annotated) s) =
      .ok (.param p.plain :: entries, s') := by
  obtain ⟨t, us, same, starts, -⟩ := head_entry close (.param p.plain)
  rw [append_cons]
  refine moreItems_of_some ?_ (paramEntry_eq_ok close h long ends) ?_ more
  · rw [same]
    exact starts
  · rw [length_rest_append]
    omega

/-- The entries of a list of parameters, each behind a comma. -/
theorem moreEntries_eq_ok {params : List (Param Expr)} (h : ∀ p ∈ params, ReadsParam annotated p)
    (long : ∀ p ∈ params, ((ParamEntry.param p.plain).tokens annotated).length ≤ n)
    (starSeen : Bool) (s : TokenStream) :
    moreItems (· == .symbol closing) (paramEntry annotated (nested (n + 1)).test)
        (afterFirst ((entriesOf starSeen params).map (ParamEntry.tokens annotated)) closing s) =
      .ok (entriesOf starSeen params, cons (.symbol closing) s) := by
  induction params generalizing starSeen with
  | nil =>
    refine repeated_of_none ?_
    have : closing ≠ .comma := by
      rintro rfl
      cases close
    simp [afterFirst, entriesOf, this]
  | cons p params ih =>
    have later := ih (fun q hq => h q (List.mem_cons_of_mem _ hq))
      (fun q hq => long q (List.mem_cons_of_mem _ hq)) (starAfter starSeen p.kind)
    have rest := moreEntries_param close (h p List.mem_cons_self) (long p List.mem_cons_self)
      (endsParam_afterFirst _ closing s) later
    rw [entriesOf]
    split
    · rw [List.singleton_append, List.map_cons, List.map_cons, afterFirst_cons, afterFirst_cons]
      refine moreItems_of_some ?_ (paramEntry_loneStar rfl) (Nat.le_succ _) rest
      obtain ⟨t, us, same, starts, -⟩ := head_entry close .loneStar
      cases same
      exact starts
    · rw [List.nil_append, List.map_cons, afterFirst_cons]
      exact rest

/-- A list of parameters up to its closing symbol. -/
theorem itemsUpTo_entries {params : List (Param Expr)} (h : ∀ p ∈ params, ReadsParam annotated p)
    (long : (commas ((entriesOf false params).map (ParamEntry.tokens annotated))).length ≤ n)
    (s : TokenStream) :
    itemsUpTo closing (paramEntry annotated (nested (n + 1)).test)
        (append (commas ((entriesOf false params).map (ParamEntry.tokens annotated)))
          (cons (.symbol closing) s)) =
      .ok (entriesOf false params, cons (.symbol closing) s) := by
  cases params with
  | nil => simp [itemsUpTo, entriesOf, separatedBy]
  | cons p params =>
    have short : ∀ q ∈ p :: params, ((ParamEntry.param q.plain).tokens annotated).length ≤ n :=
      fun q hq => Nat.le_trans
        (length_le_commas (List.mem_map_of_mem (param_mem_entriesOf hq))) long
    have later := moreEntries_eq_ok close (fun q hq => h q (List.mem_cons_of_mem _ hq))
      (fun q hq => short q (List.mem_cons_of_mem _ hq)) (starAfter false p.kind) s
    have ends := endsParam_afterFirst ((entriesOf (starAfter false p.kind) params).map
      (ParamEntry.tokens annotated)) closing s
    have first := paramEntry_eq_ok close (h p List.mem_cons_self) (short p List.mem_cons_self) ends
    rw [itemsUpTo, if_neg, oneOrMore, entriesOf]
    · split
      · -- the star is the first entry
        have rest := moreEntries_param close (h p List.mem_cons_self) (short p List.mem_cons_self)
          ends later
        rw [List.singleton_append, List.map_cons, List.map_cons, append_commas, afterFirst_cons]
        rw [ParamEntry.tokens, append_cons, append_nil, paramEntry_loneStar rfl]
        simp only [ok_bind, rest]
        rfl
      · rw [List.nil_append, List.map_cons, append_commas, first]
        simp only [ok_bind, later]
        rfl
    · obtain ⟨entry, entries, same⟩ : ∃ entry entries,
          entriesOf false (p :: params) = entry :: entries :=
        List.exists_cons_of_ne_nil (by simp [entriesOf])
      obtain ⟨t, us, htokens, starts, -⟩ := head_entry close entry
      rw [same, List.map_cons, append_commas, htokens]
      simpa using starts

end Entries

/-- The entries of a list of parameters stand for the parameters. -/
theorem paramsOf_entriesOf {starSeen : Bool} {params : List (Param Expr)}
    (h : kindsStand starSeen params = true) :
    paramsOf starSeen (entriesOf starSeen params) = params := by
  induction params generalizing starSeen with
  | nil => rfl
  | cons p params ih =>
    obtain ⟨name, kind, hint, preset⟩ := p
    simp only [kindsStand, Bool.and_eq_true, Bool.or_eq_true, bne_iff_ne, Bool.not_eq_true'] at h
    have later := ih h.2
    cases kind <;> cases starSeen <;>
      simp_all [entriesOf, paramsOf, Param.plain, starAfter]

theorem params_eq_ok {annotated : Bool} {closing : Symbol} {params : List (Param Expr)}
    (close : closesParams annotated closing = true) (h : ∀ p ∈ params, ReadsParam annotated p)
    (kinds : kindsStand false params = true)
    (long : (commas (parameterTokens annotated false params)).length ≤ n) (s : TokenStream) :
    Grammar.params closing annotated (nested (n + 1)).test
        (append (commas (parameterTokens annotated false params)) (cons (.symbol closing) s)) =
      .ok (params, cons (.symbol closing) s) := by
  rw [parameterTokens_eq] at long ⊢
  simp [Grammar.params, itemsUpTo_entries close h long s, paramsOf_entriesOf kinds]

theorem readsOwn_lambda {params : List (Param Expr)} (kinds : kindsStand false params = true)
    (h : ∀ p ∈ params, ReadsParam false p) (body : ReadsBack e)
    (stands : e.standsAt Level.test = true) : ReadsOwn (.lambda params e) := by
  have bodyReads := body.at_ stands (by decide) (by decide)
  have close : closesParams false .colon = true := rfl
  have tokens : (Expr.lambda params e).tokens = .keyword .lambdaKw ::
      (commas (parameterTokens false false params) ++ .symbol .colon :: e.tokensAt Level.test) := by
    rw [Expr.tokens, Expr.tokensAt]
  refine .of_reads (.inl (by decide : Level.test < Level.bitOr))
    (by decide : Level.test < Level.primary) ⟨?_, fun n s long last => ?_⟩
  · rw [tokens, parameterTokens_eq]
    refine ⟨_, _, rfl, by decide, Nat.le_refl _, fun u hu => ?_⟩
    cases entries : entriesOf false params with
    | nil =>
      rw [entries] at hu
      cases hu
      rfl
    | cons entry more =>
      obtain ⟨t, us, same, -, assigns⟩ := head_entry close entry
      rw [entries, List.map_cons, commas, separatedBy, same] at hu
      cases hu
      exact assigns
  · simp only [tokens, List.length_append, List.length_cons] at long
    obtain ⟨m, rfl⟩ : ∃ k, n = k + 1 := ⟨n - 1, by omega⟩
    have read := params_eq_ok (n := m) close h kinds (by omega) (append (e.tokensAt Level.test) s)
    have bodyRead : (nested (m + 1)).test (append (e.tokensAt Level.test) s) = .ok (e, s) :=
      bodyReads.reads (n := m) (by omega) last
    rw [tokens]
    change readerAt _ Level.test _ = _
    simp [readerAt_test (by decide : Level.test ≤ Level.conditional), test, lambda, read, bodyRead]

/-! ### All expressions -/

/-- The tokens of a legible expression are read as it. -/
theorem Legible.readsBack (h : Legible e) : ReadsBack e := by
  induction h with
  | name => exact readsOwn_name _
  | constant legible => exact readsOwn_constant legible
  | dotted _ item _ _ ih => exact readsOwn_attribute ih item
  | subscript _ item _ single ihValue ihIndex => exact readsOwn_subscript ihValue item ihIndex single
  | subscriptMany _ item several _ stand ihValue ihItems =>
    exact readsOwn_subscriptMany ihValue item several ihItems stand
  | slice _ stand ih =>
    exact fun x hx e he => (ih x hx e he).at_ (stand x hx e he) (by decide) (by decide)
  | call _ item _ items _ _ stand ihFunc ihArgs ihValues =>
    refine readsOwn_call ihFunc item fun a ha => ?_
    rcases List.mem_append.1 ha with ha | ha
    · obtain ⟨x, hx, rfl⟩ := List.mem_map.1 ha
      exact .positional (ihArgs x hx) (items x hx)
    · obtain ⟨k, hk, rfl⟩ := List.mem_map.1 ha
      exact .keyword (ihValues k hk) (stand k hk)
  | starred _ stands ih => exact ih.at_ stands (by decide) (by decide)
  | list _ stand ih => exact readsOwn_list ih stand
  | tuple _ stand ih => exact readsOwn_tuple ih stand
  | set filled _ stand ih => exact readsOwn_set filled ih stand
  | dict _ _ first more stand ihKeys ihValues =>
    exact readsOwn_dict ihKeys ihValues first more stand
  | comprehension _ item filled _ _ _ stand ihElement ihTargets ihIters ihConditions =>
    exact readsOwn_comprehension filled
      (fun c hc => ⟨ihTargets c hc, ihIters c hc, ihConditions c hc, stand c hc⟩) ihElement item
  | dictComprehension _ item _ stands filled _ _ _ stand ihKey ihValue ihTargets ihIters
      ihConditions =>
    exact readsOwn_dictComprehension filled
      (fun c hc => ⟨ihTargets c hc, ihIters c hc, ihConditions c hc, stand c hc⟩) ihKey item ihValue
      stands
  | unary _ stands ih => exact readsOwn_unary ih stands
  | binary _ _ standsLeft standsRight ihLeft ihRight =>
    exact readsOwn_binary ihLeft ihRight standsLeft standsRight
  | logic several _ stand ih => exact readsOwn_logic several ih stand
  | compare _ stands filled even _ stand ihLeft ih =>
    exact readsOwn_compare ihLeft stands filled even ih stand
  | conditional _ _ _ standsTest standsBody standsElse ihTest ihBody ihElse =>
    exact readsOwn_conditional ihTest ihBody ihElse standsTest standsBody standsElse
  | lambda _ kinds _ stand _ stands ihPresets ihBody =>
    refine readsOwn_lambda kinds (fun p hp => ⟨fun e he => ?_, ihPresets p hp, stand p hp⟩) ihBody
      stands
    -- parameters without annotations
    have := stand p hp
    simp only [Param.stands, Bool.and_eq_true, Option.all_eq_true] at this
    exact absurd (this.1 e he).1 (by decide)
  | await _ item ih => exact readsOwn_await ih item
  | named _ _ stands ih => exact ih.at_ stands (by decide) (by decide)

/-- A legible expression where any expression may stand. -/
theorem Legible.parseTest_eq_ok (h : Legible e) (stands : e.standsAt Level.test = true)
    (last : joinLevel s.current = 0) :
    parseTest (append (e.tokensAt Level.test) s) = .ok (e, s) := by
  refine (h.readsBack.at_ stands (by decide) (by decide)).test_eq_ok ?_ last
  rw [length_rest_append]
  omega

end RobotCell.Script
