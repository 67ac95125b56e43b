import RobotCell.Proofs.Script.ProgressExpr
import RobotCell.Proofs.Script.Spans
import RobotCell.Script.StmtGrammar

/-!
# Scripts are read up to their end

The parsers of statements pass tokens as those of expressions do. So every list of tokens that ends a
script has an answer, which no bound on loops or nesting decides; a script that is read is read up to
its end, and nothing behind the end is touched.

## Main definitions

- `EndsOnce` — the tokens end a script, once
- `Grammar.scriptWithin` — a script that is read with other bounds
- `Grammar.LoopPart` — one round of each loop of the grammar
- `Grammar.Advances`, `Grammar.GoesThrough` — how the grammar goes through a stream

## Main results

- `Grammar.goesThrough` — reading a script ends, at the end of the script
- `endsOnce_of_tokenize` — the tokens of a text end a script once
-/

namespace RobotCell.Script

open TokenStream

/-- The parsers for inner blocks of two records do the same on streams with fewer than `n` tokens
before the end, and pass at least one of them. A condition takes its first token as it is, so that
must not be the end. -/
structure Blocks.Agrees (n : Nat) (b b' : Blocks) : Prop where
  block : Takes n b.block b'.block
  condition : ∀ s, s.HasEnd → s.left < n → s.current ≠ .endOfInput →
    Settles (fun _ => s.left) s (b.condition s) (b'.condition s)

namespace Grammar

variable {α : Type} {n : Nat} {p q : Parser α} {r r' : Nested} {b b' : Blocks} {s : TokenStream}

/-! ### Statements without blocks -/

theorem takes_testList (h : r.Agrees n r') : Takes (n + 1) (testList r) (testList r') :=
  takes_sequence (takes_test h)

theorem takes_starList (h : r.Agrees n r') : Takes (n + 1) (starList r) (starList r') :=
  takes_sequence (takes_starItem (takes_bitOr h) (takes_test h))

theorem tries_partAfter (h : Takes n p q) (symbol : Symbol) :
    Tries (n + 1) (partAfter symbol p) (partAfter symbol q) :=
  h.keeps.optional fun _ starts => ne_end_of_sees starts

theorem tries_partAfterKeyword (h : Takes n p q) (k : Keyword) :
    Tries (n + 1) (partAfterKeyword k p) (partAfterKeyword k q) :=
  h.keeps.optional fun _ starts => ne_end_of_seesKeyword starts

theorem takes_dottedName (n : Nat) : Takes n dottedName dottedName := by
  intro s hs less
  refine (takes_expectName n s hs less).bind hs fun first t ht less₁ => ?_
  have more := (tries_partAfter (takes_expectName n) .dot).repeated
  exact (more t ht (by omega)).bind ht fun more u hu less₂ => settles_ok (by omega)

theorem takes_aliasWith {name name' : Parser String} (h : Takes n name name') :
    Takes n (aliasWith name) (aliasWith name') := by
  intro s hs less
  refine (h s hs less).bind hs fun name t ht less₁ => ?_
  have asName := (tries_partAfterKeyword (takes_expectName n) .asKw).keeps
  exact (asName t ht (by omega)).bind ht fun asName u hu less₂ => settles_ok (by omega)

theorem tries_levelPart (n : Nat) : Tries n levelPart levelPart := by
  intro s hs less
  unfold levelPart
  split_ifs with dot dots
  · exact .advance hs (ne_end_of_sees dot) fun hs' less' => settles_some (by omega)
  · exact .advance hs (ne_end_of_sees dots) fun hs' less' => settles_some (by omega)
  · exact settles_none (Nat.le_refl _)

theorem takes_importedNames (n : Nat) : Takes n importedNames importedNames := by
  have name := takes_aliasWith (takes_expectName n)
  intro s hs less
  unfold importedNames
  split_ifs with star paren
  · exact .advance hs (ne_end_of_sees star) fun hs' less' => settles_ok (by omega)
  · refine .advance hs (ne_end_of_sees paren) fun hs' less' => ?_
    refine (name.oneOrMore _ _ hs' (by omega)).bind hs' fun names t ht less₁ => ?_
    exact settles_expectSymbol_bind ht fun u hu less₂ => settles_ok (by omega)
  · exact name.oneOrMore never s hs less

theorem takes_importFrom (n : Nat) : Takes n importFrom importFrom := by
  intro s hs less
  refine ((tries_levelPart n).repeated s hs less).bind hs fun levels t ht less₁ => ?_
  -- the path may be left out behind the points, so it counts for no token
  have path : Settles (fun _ => s.left + 1) t
      (if t.seesKeyword .importKw then .ok ("", t) else dottedName t)
      (if t.seesKeyword .importKw then .ok ("", t) else dottedName t) := by
    split_ifs
    · exact settles_ok less₁
    · exact (takes_dottedName n t ht (by omega)).mono fun _ => by omega
  dsimp only
  refine path.ite_bind ht fun path u hu less₂ => ?_
  refine settles_expectKeyword_bind hu fun v hv less₃ => ?_
  refine (takes_importedNames n v hv (by omega)).bind hv fun names w hw less₄ => ?_
  exact settles_ok (by omega)

theorem keeps_assignedValues (h : r.Agrees n r') :
    Keeps (n + 1) (assignedValues r) (assignedValues r') :=
  ((tries_partAfter (takes_starList h) .assign).mono (by omega)).repeated

theorem takes_expressionStatement (h : r.Agrees n r') :
    Takes (n + 1) (expressionStatement r) (expressionStatement r') := by
  intro s hs less
  refine (takes_starList h s hs less).bind hs fun first t ht less₁ => ?_
  dsimp only
  split
  · next current =>
    refine .advance ht (by simp [current]) fun ht' less' => ?_
    refine (takes_test h _ ht' (by omega)).bind ht' fun hint u hu less₂ => ?_
    have value := (tries_partAfter (takes_testList h) .assign).keeps
    exact (value u hu (by omega)).bind hu fun value v hv less₃ => settles_ok (by omega)
  · next op current =>
    refine .advance ht (by simp [current]) fun ht' less' => ?_
    exact (takes_testList h _ ht' (by omega)).bind ht' fun value u hu less₂ => settles_ok (by omega)
  · refine (keeps_assignedValues h t ht (by omega)).bind ht fun values u hu less₂ => ?_
    dsimp only
    split
    · exact settles_ok (by omega)
    · exact settles_ok (by omega)

theorem keeps_returned (h : r.Agrees n r') : Keeps (n + 1) (returned r) (returned r') := by
  intro s hs less
  unfold returned
  split_ifs
  · exact settles_ok (Nat.lt_succ_self _)
  · exact (takes_testList h s hs less).bind hs fun value t ht less₁ => settles_ok (by omega)

theorem keeps_raised (h : r.Agrees n r') : Keeps (n + 1) (raised r) (raised r') := by
  intro s hs less
  unfold raised
  split_ifs
  · exact settles_ok (Nat.lt_succ_self _)
  · refine (takes_test h s hs less).bind hs fun exception t ht less₁ => ?_
    have cause := (tries_partAfterKeyword (takes_test h) .fromKw).keeps
    exact (cause t ht (by omega)).bind ht fun cause u hu less₂ => settles_ok (by omega)

theorem takes_asserted (h : r.Agrees n r') : Takes (n + 1) (asserted r) (asserted r') := by
  intro s hs less
  refine (takes_test h s hs less).bind hs fun test_ t ht less₁ => ?_
  have message := (tries_partAfter (takes_test h) .comma).keeps
  exact (message t ht (by omega)).bind ht fun message u hu less₂ => settles_ok (by omega)

theorem takes_smallStatement (h : r.Agrees n r') :
    Takes (n + 1) (smallStatement r) (smallStatement r') := by
  intro s hs less
  have single {stmt : Stmt} (inside : s.current ≠ .endOfInput) :
      Settles (fun _ => s.left) s (.ok (stmt, s.advance)) (.ok (stmt, s.advance)) :=
    .advance hs inside fun hs' less' => settles_ok (by omega)
  unfold smallStatement
  split
  · next current => exact single (by simp [current])
  · next current => exact single (by simp [current])
  · next current => exact single (by simp [current])
  · next current => exact (keeps_returned h).behind hs (by omega) (by simp [current])
  · next current => exact (keeps_raised h).behind hs (by omega) (by simp [current])
  · next current => exact (takes_asserted h).keeps.behind hs (by omega) (by simp [current])
  · next current =>
    refine .advance hs (by simp [current]) fun hs' less' => ?_
    have targets := takes_targetList (takes_bitOr h)
    exact (targets _ hs' (by omega)).bind hs' fun targets t ht less₁ => settles_ok (by omega)
  · next current =>
    refine .advance hs (by simp [current]) fun hs' less' => ?_
    have names := (takes_expectName n).oneOrMore never
    exact (names _ hs' (by omega)).bind hs' fun names t ht less₁ => settles_ok (by omega)
  · next current =>
    refine .advance hs (by simp [current]) fun hs' less' => ?_
    have names := (takes_aliasWith (takes_dottedName n)).oneOrMore never
    exact (names _ hs' (by omega)).bind hs' fun names t ht less₁ => settles_ok (by omega)
  · next current => exact (takes_importFrom n).keeps.behind hs less (by simp [current])
  · exact settles_unexpected _
  · exact settles_unexpected _
  · exact takes_expressionStatement h s hs less

theorem tries_furtherStatement (h : r.Agrees n r') :
    Tries (n + 1) (furtherStatement r) (furtherStatement r') := by
  intro s hs less
  unfold furtherStatement
  dsimp only
  split_ifs with semicolon
  · exact .advance hs (ne_end_of_sees semicolon) fun hs' less' => settles_none (by omega)
  · refine .advance hs (ne_end_of_sees semicolon) fun hs' less' => ?_
    refine (takes_smallStatement h _ hs' (by omega)).bind hs' fun stmt t ht less₁ => ?_
    exact settles_some (by omega)
  · exact settles_none (Nat.le_refl _)

theorem takes_simpleStatements (h : r.Agrees n r') :
    Takes (n + 1) (simpleStatements r) (simpleStatements r') := by
  intro s hs less
  refine (takes_smallStatement h s hs less).bind hs fun first t ht less₁ => ?_
  refine ((tries_furtherStatement h).repeated t ht (by omega)).bind ht fun more u hu less₂ => ?_
  dsimp only
  split_ifs with line
  · exact .advance hu (by simp [line]) fun hu' less' => settles_ok (by omega)
  · -- the end of the script ends the line too, and stays where it is
    exact settles_ok (by omega)
  · exact settles_unexpected _

/-! ### Statements with blocks -/

theorem keeps_blockAfter (hb : b.Agrees n b') (k : Keyword) :
    Keeps (n + 1) (blockAfter b k) (blockAfter b' k) := by
  intro s hs less
  unfold blockAfter
  split_ifs with starts
  · exact (hb.block.keeps.behind hs less (ne_end_of_seesKeyword starts)).mono fun _ => by omega
  · exact settles_ok (Nat.lt_succ_self _)

theorem settles_condition (h : r.Agrees n r') (hb : b.Agrees n b') (hs : s.HasEnd)
    (less : s.left < n + 1) (inside : s.current ≠ .endOfInput) :
    Settles (fun _ => s.left) s (condition r b s) (condition r' b' s) := by
  refine .advance hs inside fun hs' less' => ?_
  refine (takes_namedTest (takes_test h) _ hs' (by omega)).bind hs' fun test_ t ht less₁ => ?_
  refine (hb.block t ht (by omega)).bind ht fun body u hu less₂ => ?_
  dsimp only
  split_ifs with starts
  · refine (hb.condition u hu (by omega) (ne_end_of_seesKeyword starts)).bind hu
      fun other v hv less₃ => ?_
    exact settles_ok (by omega)
  · refine (keeps_blockAfter hb .elseKw u hu (by omega)).bind hu fun orelse v hv less₃ => ?_
    exact settles_ok (by omega)

theorem takes_whileLoop (h : r.Agrees n r') (hb : b.Agrees n b') :
    Takes (n + 1) (whileLoop r b) (whileLoop r' b') := by
  intro s hs less
  refine (takes_namedTest (takes_test h) s hs less).bind hs fun test_ t ht less₁ => ?_
  refine (hb.block t ht (by omega)).bind ht fun body u hu less₂ => ?_
  refine (keeps_blockAfter hb .elseKw u hu (by omega)).bind hu fun orelse v hv less₃ => ?_
  exact settles_ok (by omega)

theorem takes_forLoop (h : r.Agrees n r') (hb : b.Agrees n b') :
    Takes (n + 1) (forLoop r b) (forLoop r' b') := by
  intro s hs less
  refine (takes_target (takes_bitOr h) s hs less).bind hs fun target t ht less₁ => ?_
  refine settles_expectKeyword_bind ht fun u hu less₂ => ?_
  refine (takes_testList h u hu (by omega)).bind hu fun iter v hv less₃ => ?_
  refine (hb.block v hv (by omega)).bind hv fun body w hw less₄ => ?_
  refine (keeps_blockAfter hb .elseKw w hw (by omega)).bind hw fun orelse x hx less₅ => ?_
  exact settles_ok (by omega)

theorem keeps_handlerHead (h : r.Agrees n r') :
    Keeps (n + 1) (handlerHead r) (handlerHead r') := by
  intro s hs less
  unfold handlerHead
  split_ifs
  · exact settles_ok (Nat.lt_succ_self _)
  · refine (takes_test h s hs less).bind hs fun kind t ht less₁ => ?_
    have name := (tries_partAfterKeyword (takes_expectName n) .asKw).keeps
    exact (name t ht (by omega)).bind ht fun name u hu less₂ => settles_ok (by omega)

theorem tries_handler (h : r.Agrees n r') (hb : b.Agrees n b') :
    Tries (n + 1) (handler r b) (handler r' b') := by
  intro s hs less
  unfold handler
  split_ifs with starts
  · refine .advance hs (ne_end_of_seesKeyword starts) fun hs' less' => ?_
    refine (keeps_handlerHead h _ hs' (by omega)).bind hs' fun head t ht less₁ => ?_
    exact (hb.block t ht (by omega)).bind ht fun body u hu less₂ => settles_some (by omega)
  · exact settles_none (Nat.le_refl _)

theorem takes_tryBlock (h : r.Agrees n r') (hb : b.Agrees n b') :
    Takes n (tryBlock r b) (tryBlock r' b') := by
  intro s hs less
  refine (hb.block s hs less).bind hs fun body t ht less₁ => ?_
  refine ((tries_handler h hb).repeated t ht (by omega)).bind ht fun handlers u hu less₂ => ?_
  refine (keeps_blockAfter hb .elseKw u hu (by omega)).bind hu fun orelse v hv less₃ => ?_
  refine (keeps_blockAfter hb .finallyKw v hv (by omega)).bind hv fun finalBody w hw less₄ => ?_
  dsimp only
  split_ifs
  · exact settles_fail (by simp)
  · exact settles_ok (by omega)

theorem takes_withItem (h : r.Agrees n r') : Takes (n + 1) (withItem r) (withItem r') := by
  intro s hs less
  refine (takes_test h s hs less).bind hs fun context t ht less₁ => ?_
  have target := (tries_partAfterKeyword (takes_starOperand (takes_bitOr h)) .asKw).keeps
  exact (target t ht (by omega)).bind ht fun target u hu less₂ => settles_ok (by omega)

theorem takes_withBlock (h : r.Agrees n r') (hb : b.Agrees n b') :
    Takes (n + 1) (withBlock r b) (withBlock r' b') := by
  intro s hs less
  refine ((takes_withItem h).oneOrMore never s hs less).bind hs fun items t ht less₁ => ?_
  exact (hb.block t ht (by omega)).bind ht fun body u hu less₂ => settles_ok (by omega)

theorem takes_functionDef (h : r.Agrees n r') (hb : b.Agrees n b') (decorators : List Expr) :
    Takes (n + 1) (functionDef r b decorators) (functionDef r' b' decorators) := by
  intro s hs less
  -- the keyword of a coroutine is skipped, so the stream may start one token later
  obtain ⟨start, hstart, reached, le⟩ : ∃ start,
      (if s.seesKeyword .asyncKw then s.advance else s) = start ∧ s.Reaches start ∧
        start.left ≤ s.left := by
    refine ⟨_, rfl, ?_⟩
    split_ifs with starts
    · have inside := ne_end_of_seesKeyword starts
      exact ⟨reaches_advance hs inside, by have := left_advance hs inside; omega⟩
    · exact ⟨.refl s, Nat.le_refl _⟩
  unfold functionDef
  dsimp only
  rw [hstart]
  refine (settles_expectKeyword_bind (reached.hasEnd hs) fun t ht less₁ => ?_).of_reaches reached
  refine (takes_expectName n t ht (by omega)).bind ht fun name u hu less₂ => ?_
  refine settles_expectSymbol_bind hu fun v hv less₃ => ?_
  refine (keeps_params (takes_test h) .rightParen true v hv (by omega)).bind hv
    fun params w hw less₄ => ?_
  refine settles_expectSymbol_bind hw fun x hx less₅ => ?_
  refine ((tries_partAfter (takes_test h) .arrow).keeps x hx (by omega)).bind hx
    fun returns y hy less₆ => ?_
  exact (hb.block y hy (by omega)).bind hy fun body z hz less₇ => settles_ok (by omega)

theorem takes_classDef (h : r.Agrees n r') (hb : b.Agrees n b') (decorators : List Expr) :
    Takes (n + 1) (classDef r b decorators) (classDef r' b' decorators) := by
  intro s hs less
  refine (takes_expectName (n + 1) s hs less).bind hs fun name t ht less₁ => ?_
  have arguments : Settles (fun _ => s.left) t
      (if t.sees .leftParen then callArgs r t.advance else .ok ([], t))
      (if t.sees .leftParen then callArgs r' t.advance else .ok ([], t)) := by
    split_ifs with paren
    · exact ((takes_callArgs h).keeps.behind ht (by omega) (ne_end_of_sees paren)).mono
        fun _ => by omega
    · exact settles_ok less₁
  dsimp only
  refine arguments.ite_bind ht fun args u hu less₂ => ?_
  exact (hb.block u hu (by omega)).bind hu fun body v hv less₃ => settles_ok (by omega)

theorem tries_decorator (h : r.Agrees n r') : Tries (n + 1) (decorator r) (decorator r') := by
  intro s hs less
  unfold decorator
  split_ifs with atSign
  · refine .advance hs (ne_end_of_sees atSign) fun hs' less' => ?_
    refine (takes_test h _ hs' (by omega)).bind hs' fun e t ht less₁ => ?_
    exact settles_expect_bind ht (by simp) fun u hu less₂ => settles_some (by omega)
  · exact settles_none (Nat.le_refl _)

theorem takes_decorated (h : r.Agrees n r') (hb : b.Agrees n b') :
    Takes (n + 1) (decorated r b) (decorated r' b') := by
  intro s hs less
  refine ((tries_decorator h).repeated s hs less).bind hs fun decorators t ht less₁ => ?_
  have function := takes_functionDef h hb decorators t ht (by omega)
  dsimp only
  split
  · exact function.mono fun _ => by omega
  · exact function.mono fun _ => by omega
  · next current =>
    refine ((takes_classDef h hb decorators).keeps.behind ht (by omega) (by simp [current])).mono ?_
    exact fun _ => by omega
  · exact settles_unexpected _

theorem takes_single {p q : Parser Stmt} (h : Takes n p q) : Takes n (single p) (single q) := by
  intro s hs less
  exact (h s hs less).bind hs fun stmt t ht less₁ => settles_ok less₁

theorem takes_statement (h : r.Agrees n r') (hb : b.Agrees n b') :
    Takes (n + 1) (statement r b) (statement r' b') := by
  intro s hs less
  have behind {p q : Parser Stmt} (body : Takes n p q) (inside : s.current ≠ .endOfInput) :
      Settles (fun _ => s.left) s (single p s.advance) (single q s.advance) :=
    (takes_single body).keeps.behind hs less inside
  -- a function looks at its own first token, since that may be the word for a coroutine
  have function := takes_single (takes_functionDef h hb []) s hs less
  unfold statement
  split
  · next current =>
    exact (settles_condition h hb hs less (by simp [current])).bind hs
      fun stmt t ht less₁ => settles_ok less₁
  · next current => exact behind ((takes_whileLoop h hb).mono (by omega)) (by simp [current])
  · next current => exact behind ((takes_forLoop h hb).mono (by omega)) (by simp [current])
  · next current => exact behind (takes_tryBlock h hb) (by simp [current])
  · next current => exact behind ((takes_withBlock h hb).mono (by omega)) (by simp [current])
  · exact function
  · split_ifs
    · exact function
    · exact settles_fail (by simp)
  · next current => exact behind ((takes_classDef h hb []).mono (by omega)) (by simp [current])
  · exact takes_single (takes_decorated h hb) s hs less
  · exact takes_simpleStatements h s hs less

theorem tries_blockPart (h : r.Agrees n r') (hb : b.Agrees n b') :
    Tries (n + 1) (blockPart r b) (blockPart r' b') := by
  intro s hs less
  unfold blockPart
  split
  · next current =>
    exact .advance hs (by simp [current]) fun hs' less' => settles_none (by omega)
  · exact settles_fail (by simp)
  · next current =>
    exact .advance hs (by simp [current]) fun hs' less' => settles_some (by omega)
  · exact (takes_statement h hb s hs less).bind hs fun stmts t ht less₁ => settles_some less₁

theorem takes_block (h : r.Agrees n r') (hb : b.Agrees n b') :
    Takes (n + 1) (block r b) (block r' b') := by
  intro s hs less
  refine settles_expectSymbol_bind hs fun t ht less₁ => ?_
  split_ifs with line
  · refine .advance ht (by simp [line]) fun ht' less' => ?_
    refine settles_expect_bind ht' (by simp) fun u hu less₂ => ?_
    refine ((tries_blockPart h hb).repeated u hu (by omega)).bind hu fun parts v hv less₃ => ?_
    exact settles_ok (by omega)
  · exact (takes_simpleStatements h t ht (by omega)).mono fun _ => by omega

/-! ### Scripts -/

/-- The bound on the nesting of blocks makes no difference to streams with fewer tokens before the
end. -/
theorem agrees_blocks (h : r.Agrees n r') {k m m' : Nat} (hn : k ≤ n) (hm : k ≤ m) (hm' : k ≤ m') :
    (blocks r m).Agrees k (blocks r' m') := by
  -- a block passes its colon, and a condition its keyword, before an inner block is asked for
  induction k generalizing m m' with
  | zero =>
    exact ⟨fun s _ less => absurd less (Nat.not_lt_zero _),
      fun s _ less => absurd less (Nat.not_lt_zero _)⟩
  | succ k ih =>
    obtain ⟨m, rfl⟩ : ∃ i, m = i + 1 := ⟨m - 1, by omega⟩
    obtain ⟨m', rfl⟩ : ∃ i, m' = i + 1 := ⟨m' - 1, by omega⟩
    have h' : r.Agrees k r' := h.mono (by omega)
    have inner := ih (by omega) (Nat.le_of_succ_le_succ hm) (Nat.le_of_succ_le_succ hm')
    exact ⟨takes_block h' inner, fun s hs less => settles_condition h' inner hs less⟩

theorem tries_scriptPart (h : r.Agrees n r') (hb : b.Agrees n b') :
    Tries (n + 1) (scriptPart r b) (scriptPart r' b') := by
  intro s hs less
  unfold scriptPart
  split
  · exact settles_none (Nat.le_refl _)
  · next current =>
    exact .advance hs (by simp [current]) fun hs' less' => settles_some (by omega)
  · exact (takes_statement h hb s hs less).bind hs fun stmts t ht less₁ => settles_some less₁

/-- A whole script, read with the bound `n` on the nesting of expressions and `m` on that of
blocks. -/
def scriptWithin (n m : Nat) : Parser Block := fun s => do
  let (parts, s) ← repeated (scriptPart (nested n) (blocks (nested n) m)) s
  return (parts.flatten, s)

theorem script_eq_scriptWithin (s : TokenStream) :
    script s = scriptWithin (s.rest.length + 2) (s.rest.length + 2) s := rfl

/-- Bounds that are not below the number of tokens before the end make no difference to a script. -/
theorem settles_scriptWithin {n m n' m' : Nat} (hs : s.HasEnd) (hn : s.left ≤ n) (hm : s.left ≤ m)
    (hn' : s.left ≤ n') (hm' : s.left ≤ m') :
    Settles (fun _ => s.left + 1) s (scriptWithin n m s) (scriptWithin n' m' s) := by
  have expressions := agrees_nested hn hn'
  have parts := tries_scriptPart expressions (agrees_blocks expressions (Nat.le_refl _) hm hm')
  refine (parts.repeated s hs (Nat.lt_succ_self _)).bind hs fun parts t ht less => ?_
  exact settles_ok less

/-- The loop over the parts of a script stops at its end only. -/
theorem current_of_script {body : Block} {t : TokenStream} (h : script s = .ok (body, t)) :
    t.current = .endOfInput := by
  obtain ⟨⟨parts, u⟩, read, same⟩ := bind_eq_ok_iff.1 h
  cases same
  obtain ⟨v, last⟩ := exists_of_repeatedWithin read
  unfold scriptPart at last
  split at last
  · next current =>
    cases last
    exact current
  · cases last
  · obtain ⟨_, -, same⟩ := bind_eq_ok_iff.1 last
    cases same

/-! ### The parts of a run -/

/-- The items of the lists with commas. -/
inductive ListItem (r : Nested) : {α : Type} → Parser α → Prop where
  | param (annotated : Bool) : ListItem r (paramEntry annotated (test r))
  | innerParam (annotated : Bool) : ListItem r (paramEntry annotated r.test)
  | display : ListItem r (starItem r.bitOr r.test)
  | entry : ListItem r (entry r)
  | argument : ListItem r (callArg r)
  | subscript : ListItem r (subscriptItem r)
  | value : ListItem r (test r)
  | starred : ListItem r (starItem (bitOr r) (test r))
  | name : ListItem r expectName
  | imported : ListItem r (aliasWith expectName)
  | importedModule : ListItem r (aliasWith dottedName)
  | context : ListItem r (withItem r)

/-- One round of each loop of the grammar. -/
inductive LoopPart (r : Nested) (b : Blocks) : {α : Type} → Parser (Option α) → Prop where
  | literal : LoopPart r b stringPart
  | target : LoopPart r b (targetAfterComma (bitOr r))
  | innerTarget : LoopPart r b (targetAfterComma r.bitOr)
  | condition : LoopPart r b (clauseCondition r)
  | clause : LoopPart r b (clause r)
  | item {α : Type} {item : Parser α} (h : ListItem r item) (stop : Token → Bool) :
    LoopPart r b (itemAfterComma stop item)
  | trailer : LoopPart r b (trailer r)
  | operation (level k : Nat) : LoopPart r b (operation level (operationsWithin r k))
  | comparator : LoopPart r b (comparator r)
  | conjunct : LoopPart r b (operandAfter .andKw (negation r))
  | disjunct : LoopPart r b (operandAfter .orKw (conjunction r))
  | dotted : LoopPart r b (partAfter .dot expectName)
  | level : LoopPart r b levelPart
  | assigned : LoopPart r b (partAfter .assign (starList r))
  | further : LoopPart r b (furtherStatement r)
  | handler : LoopPart r b (handler r b)
  | decorator : LoopPart r b (decorator r)
  | block : LoopPart r b (blockPart r b)
  | script : LoopPart r b (scriptPart r b)

theorem ListItem.takes (h : r.Agrees n r) {item : Parser α} (listed : ListItem r item) :
    Takes n item item := by
  cases listed with
  | param annotated => exact (takes_paramEntry (takes_test h) annotated).mono (by omega)
  | innerParam annotated => exact (takes_paramEntry h.test annotated).mono (by omega)
  | display => exact takes_starItem h.bitOr h.test
  | entry => exact takes_entry h
  | argument => exact takes_callArg h
  | subscript => exact takes_subscriptItem h
  | value => exact (takes_test h).mono (by omega)
  | starred => exact (takes_starItem (takes_bitOr h) (takes_test h)).mono (by omega)
  | name => exact takes_expectName n
  | imported => exact takes_aliasWith (takes_expectName n)
  | importedModule => exact takes_aliasWith (takes_dottedName n)
  | context => exact (takes_withItem h).mono (by omega)

theorem LoopPart.tries (h : r.Agrees n r) (hb : b.Agrees n b) {part : Parser (Option α)}
    (listed : LoopPart r b part) : Tries (n + 1) part part := by
  cases listed with
  | literal => exact tries_stringPart _
  | target => exact (tries_targetAfterComma (takes_bitOr h)).mono (by omega)
  | innerTarget => exact tries_targetAfterComma h.bitOr
  | condition => exact tries_clauseCondition h
  | clause => exact tries_clause h
  | item listed stop => exact (listed.takes h).keeps.itemAfterComma stop
  | trailer => exact tries_trailer h
  | operation level k =>
    exact (tries_operation (takes_operationsWithin h k) level).mono (by omega)
  | comparator => exact tries_comparator h
  | conjunct => exact (tries_operandAfter (takes_negation h) _).mono (by omega)
  | disjunct => exact (tries_operandAfter (takes_conjunction h) _).mono (by omega)
  | dotted => exact tries_partAfter (takes_expectName n) _
  | level => exact tries_levelPart _
  | assigned => exact (tries_partAfter (takes_starList h) _).mono (by omega)
  | further => exact tries_furtherStatement h
  | handler => exact tries_handler h hb
  | decorator => exact tries_decorator h
  | block => exact tries_blockPart h hb
  | script => exact tries_scriptPart h hb

/-- What is read at a position of a stream is at least one token before the end, and so is each round
of a loop that is not its last. -/
structure Advances (r : Nested) (b : Blocks) (s : TokenStream) : Prop where
  atom : ∀ e t, Grammar.atom r s = .ok (e, t) → s.Passes t
  test : ∀ e t, Grammar.test r s = .ok (e, t) → s.Passes t
  smallStatement : ∀ stmt t, Grammar.smallStatement r s = .ok (stmt, t) → s.Passes t
  statement : ∀ stmts t, Grammar.statement r b s = .ok (stmts, t) → s.Passes t
  block : ∀ body t, Grammar.block r b s = .ok (body, t) → s.Passes t
  loops : ∀ {α : Type} {part : Parser (Option α)}, LoopPart r b part →
    ∀ a t, part s = .ok (some a, t) → s.Passes t

theorem advances (hs : s.HasEnd) (h : r.Agrees s.left r) (hb : b.Agrees s.left b) :
    Advances r b s := by
  have passes {α : Type} {p : Parser α} (taken : Takes (s.left + 1) p p) (a : α) (t : TokenStream)
      (read : p s = .ok (a, t)) : s.Passes t := by
    obtain ⟨reached, less⟩ := (taken s hs (Nat.lt_succ_self _)).reads a t read
    exact reached.passes less
  refine ⟨passes (takes_atom h), passes (takes_test h), passes (takes_smallStatement h),
    passes (takes_statement h hb), passes (takes_block h hb), fun listed a t read => ?_⟩
  obtain ⟨reached, less⟩ := (listed.tries h hb s hs (Nat.lt_succ_self _)).reads _ t read
  exact reached.passes less

/-- How the grammar goes through a stream in which the script ends before the tokens `extra`. -/
structure GoesThrough (s : TokenStream) (extra : List Token) : Prop where
  /-- A script is read up to its end, and not beyond. -/
  script : ∀ body t, Grammar.script s = .ok (body, t) → t = ⟨.endOfInput, extra⟩
  /-- An expression is one or more tokens before the end. -/
  test : ∀ e t, parseTest s = .ok (e, t) → s.Passes t
  /-- A failure is found before the end or at it, and never that tokens are read without end. -/
  fails : ∀ f, Grammar.script s = .error f ∨ parseTest s = .error f →
    f.fault ≠ .endless ∧ ∃ t, s.Reaches t ∧ t.HasEnd ∧ f.behind = t.rest.length
  /-- No bound decides an outcome. -/
  bounds : ∀ n m, s.left ≤ n → s.left ≤ m →
    scriptWithin n m s = Grammar.script s ∧ Grammar.test (nested n) s = parseTest s
  /-- All that is read on the way, and each round of a loop, is one or more tokens. -/
  parts : ∀ t, s.Reaches t → ∀ n m, t.left ≤ n → t.left ≤ m →
    Advances (nested n) (blocks (nested n) m) t

theorem goesThrough {extra : List Token} (h : s.Reaches ⟨.endOfInput, extra⟩) :
    GoesThrough s extra := by
  have hs : s.HasEnd := by
    obtain ⟨front, -, rfl⟩ := h
    rw [HasEnd, tokens_append]
    simp
  have le : s.left ≤ s.rest.length + 2 := Nat.le_add_right_of_le (left_le_length hs)
  have scripts {n m : Nat} (hn : s.left ≤ n) (hm : s.left ≤ m) :
      Settles (fun _ => s.left + 1) s (scriptWithin n m s) (Grammar.script s) := by
    rw [script_eq_scriptWithin]
    exact settles_scriptWithin hs hn hm le le
  have tests {n : Nat} (hn : s.left ≤ n) :=
    takes_test (agrees_nested hn le) s hs (Nat.lt_succ_self _)
  refine ⟨fun body t read => ?_, fun e t read => ?_, ?_, fun n m hn hm => ?_, ?_⟩
  · have ended := current_of_script read
    rw [← (scripts le le).same] at read
    exact ((scripts le le).reads body t read).1.eq_of_current h ended
  · obtain ⟨reached, less⟩ := (tests le).reads e t read
    exact reached.passes less
  · rintro f (failed | failed)
    · rw [← (scripts le le).same] at failed
      obtain ⟨fault, t, reached, behind⟩ := (scripts le le).fails f failed
      exact ⟨fault, t, reached, reached.hasEnd hs, behind⟩
    · obtain ⟨fault, t, reached, behind⟩ := (tests le).fails f failed
      exact ⟨fault, t, reached, reached.hasEnd hs, behind⟩
  · exact ⟨(scripts hn hm).same, (tests hn).same⟩
  · intro t reached n m hn hm
    have expressions := agrees_nested hn hn
    exact advances (reached.hasEnd hs) expressions
      (agrees_blocks expressions (Nat.le_refl _) hm hm)

end Grammar

/-! ### Tokens of texts -/

/-- The tokens end a script, once. -/
def EndsOnce (tokens : List Token) : Prop :=
  ∃ front : List Token, .endOfInput ∉ front ∧ tokens = front ++ [.endOfInput]

namespace Lexer

/-- The step yields the end of the script exactly if it closes the machine, as its last token. -/
def Step.EndsRight (r : Step) : Prop :=
  if r.state.closed then EndsOnce (r.tokens.map (·.token)) else
    .endOfInput ∉ r.tokens.map (·.token)

theorem endsRight_close (s : Lexer) : s.close.EndsRight := by
  refine ⟨(if s.lineUsed then [.newline] else []) ++ s.indents.map fun _ => .dedent, ?_, ?_⟩
  · split_ifs <;> simp
  · unfold close placed
    split_ifs <;> simp

theorem endsRight_step {s : Lexer} (opened : s.closed = false) : s.step.EndsRight := by
  have open_ {r : Step} (h : r.state.closed = false)
      (other : .endOfInput ∉ r.tokens.map (·.token)) : r.EndsRight := by
    rw [Step.EndsRight, if_neg (by simp [h])]
    exact other
  unfold step
  split_ifs
  · unfold stepMargin
    dsimp only
    split_ifs
    · exact endsRight_close _
    · unfold alignTo
      dsimp only
      split
      · exact open_ opened (by simp [placed])
      · exact open_ opened (by simp [placed])
  · unfold stepLine
    split
    · exact open_ opened (by simp)
    · dsimp only
      split
      · exact endsRight_close _
      · split_ifs
        · refine open_ opened ?_
          unfold endLine
          dsimp only
          split_ifs <;> simp [placed]
        · unfold readLexeme
          split
          · next lexeme read =>
            obtain ⟨text, -, -, -, spelled⟩ := Lexeme.isSpelledIn_read read
            refine open_ opened ?_
            have other : Token.endOfInput ≠ lexeme.token := by
              intro same
              rw [← same] at spelled
              cases spelled.isLayout_eq_false
            simpa [placed] using other
          · exact open_ opened (by simp)

theorem endsOnce_run {s : Lexer} {tokens : List PlacedToken} (opened : s.closed = false)
    (h : s.run = .ok tokens) : EndsOnce (tokens.map (·.token)) := by
  fun_induction run s generalizing tokens with
  | case1 => cases h
  | case2 s ok closed =>
    cases h
    have ends := endsRight_step opened
    rwa [Step.EndsRight, if_pos closed] at ends
  | case3 s ok open_ ih =>
    cases later : s.step.state.run with
    | error e =>
      rw [later] at h
      cases h
    | ok more =>
      rw [later] at h
      cases h
      have first := endsRight_step opened
      rw [Step.EndsRight, if_neg open_] at first
      obtain ⟨front, inside, ends⟩ := ih (by simpa using open_) later
      refine ⟨s.step.tokens.map (·.token) ++ front, ?_, ?_⟩
      · rw [List.mem_append, not_or]
        exact ⟨first, inside⟩
      · rw [List.map_append, ends, List.append_assoc]

end Lexer

theorem endsOnce_of_tokenize {source : String} {tokens : List PlacedToken}
    (h : tokenize source = .ok tokens) : EndsOnce (tokens.map (·.token)) :=
  Lexer.endsOnce_run rfl h

/-! ### Lists of tokens -/

theorem TokenStream.ofTokens_append_cons (ts : List Token) (t : Token) (rest : List Token) :
    ofTokens (ts ++ t :: rest) = append ts ⟨t, rest⟩ := by
  induction ts with
  | nil => rfl
  | cons u ts ih =>
    rw [List.cons_append, append_cons, ← ih]
    cases ts <;> rfl

theorem EndsOnce.reaches {tokens : List Token} (h : EndsOnce tokens) (extra : List Token) :
    (ofTokens (tokens ++ extra)).Reaches ⟨.endOfInput, extra⟩ := by
  obtain ⟨front, inside, rfl⟩ := h
  refine ⟨front, inside, ?_⟩
  rw [List.append_assoc, List.singleton_append, ofTokens_append_cons]

theorem Failure.place_mem {tokens : List PlacedToken} {f : Failure}
    (h : f.behind < tokens.length) : f.place tokens ∈ tokens.map (·.place) := by
  have inside : f.behind < tokens.reverse.length := by rwa [List.length_reverse]
  rw [place, List.getElem?_eq_getElem inside]
  exact List.mem_map_of_mem (List.mem_reverse.1 (List.getElem_mem _))

/-- What a parser fails with is a fault at one of the tokens. -/
theorem runParser_eq_error {α : Type} {p : Parser α} {tokens : List PlacedToken} {e : SyntaxError}
    (h : runParser p tokens = .error e) :
    ∃ f, p (ofTokens (tokens.map (·.token))) = .error f ∧ e = ⟨f.place tokens, f.fault⟩ := by
  unfold runParser at h
  split at h
  · cases h
  · next f failed =>
    cases h
    exact ⟨f, failed, rfl⟩

/-- The tokens of every text end a script once, and reading any tokens that do so ends: with a
script, an expression, or a fault at one of the tokens that is not an endless repetition. No bound on
loops or nesting decides the outcome. Each part that is read and each round of a loop is one or more
tokens; a script is read up to its end, and whatever stands behind the end is not touched. -/
theorem parseTokens_goesThrough :
    (∀ source tokens, tokenize source = .ok tokens → EndsOnce (tokens.map (·.token))) ∧
    ∀ tokens : List PlacedToken, EndsOnce (tokens.map (·.token)) →
      (∀ e, parseTokens tokens = .error e ∨ parseTestTokens tokens = .error e →
        e.fault ≠ .endless ∧ e.place ∈ tokens.map (·.place)) ∧
      ∀ extra, Grammar.GoesThrough (.ofTokens (tokens.map (·.token) ++ extra)) extra := by
  refine ⟨fun source tokens read => endsOnce_of_tokenize read, fun tokens ended => ⟨?_, ?_⟩⟩
  · have alone := Grammar.goesThrough (ended.reaches [])
    rw [List.append_nil] at alone
    have failed {f : Failure} (h : Grammar.script (ofTokens (tokens.map (·.token))) = .error f ∨
        parseTest (ofTokens (tokens.map (·.token))) = .error f) :
        f.fault ≠ .endless ∧ f.place tokens ∈ tokens.map (·.place) := by
      obtain ⟨fault, t, reached, -, behind⟩ := alone.fails f h
      refine ⟨fault, Failure.place_mem ?_⟩
      -- the stream holds one token and those behind it
      have length : (ofTokens (tokens.map (·.token))).rest.length < tokens.length := by
        obtain ⟨front, -, same⟩ := ended
        have total := congrArg List.length same
        rw [same, ofTokens_append_cons, length_rest_append]
        simp only [List.length_map, List.length_append, List.length_singleton] at total
        simp only [List.length_nil]
        omega
      have le := reached.length_rest_le
      omega
    rintro e (h | h)
    · obtain ⟨f, failure, rfl⟩ := runParser_eq_error h
      exact failed (.inl failure)
    · obtain ⟨f, failure, rfl⟩ := runParser_eq_error h
      exact failed (.inr failure)
  · exact fun extra => Grammar.goesThrough (ended.reaches extra)

/-- The tokens of a loop with an indented block, each in a column of its own. -/
def loopTokens : List PlacedToken :=
  [⟨.keyword .whileKw, ⟨1, 1⟩⟩, ⟨.name "x", ⟨1, 7⟩⟩, ⟨.symbol .colon, ⟨1, 8⟩⟩, ⟨.newline, ⟨1, 9⟩⟩,
    ⟨.indent, ⟨2, 3⟩⟩, ⟨.name "y", ⟨2, 3⟩⟩, ⟨.symbol .assign, ⟨2, 5⟩⟩, ⟨.str "z", ⟨2, 7⟩⟩,
    ⟨.newline, ⟨2, 10⟩⟩, ⟨.dedent, ⟨3, 1⟩⟩, ⟨.endOfInput, ⟨3, 1⟩⟩]

theorem script_loopTokens :
    EndsOnce (loopTokens.map (·.token)) ∧
      ∃ body, Grammar.script (.ofTokens (loopTokens.map (·.token) ++ [.name "x", .newline])) =
        .ok (body, ⟨.endOfInput, [.name "x", .newline]⟩) := by
  have ended : EndsOnce (loopTokens.map (·.token)) :=
    ⟨loopTokens.dropLast.map (·.token), by decide, by decide⟩
  refine ⟨ended, ?_⟩
  have through := (parseTokens_goesThrough.2 loopTokens ended).2 [.name "x", .newline]
  cases h : Grammar.script (.ofTokens (loopTokens.map (·.token) ++ [.name "x", .newline])) with
  | error f =>
    have ok : (Grammar.script (.ofTokens
        (loopTokens.map (·.token) ++ [.name "x", .newline]))).toOption.isSome = true := by
      decide +kernel
    rw [h] at ok
    cases ok
  | ok r => exact ⟨r.1, by rw [← through.script r.1 r.2 h]⟩

end RobotCell.Script
