import RobotCell.Proofs.Script.BracketExpr
import RobotCell.Proofs.Script.ProgressStmt

/-!
# Scripts have nested brackets

The parsers of statements close what they open, as those of expressions do. A script is read up to
its end, so all of its tokens are nested; then the count of the lexer is exact at every point of the
text, and what it skips inside of brackets is inside of pairs.

## Main definitions

- `Lexer.Tracks` — how the count of a state fits the tokens before and behind it

## Main results

- `Grammar.balanced_script` — a script closes what it opens
- `Lexer.tracks_of_openAfter` — the count is exact in tokens that leave no bracket open
- `isNested_of_parse` — the brackets of a text that is a script
-/

namespace RobotCell.Script

open TokenStream

/-- The parsers for inner blocks close what they open. A condition takes its first token as it is,
so that must be neither a bracket nor the end. -/
structure Blocks.IsBalanced (b : Blocks) : Prop where
  block : Balanced [] b.block
  condition : ∀ s, s.HasEnd → s.current.Shifts [] [] → Balances [] s (b.condition s)

namespace Grammar

variable {α : Type} {p : Parser α} {r : Nested} {b : Blocks} {s : TokenStream}

/-! ### Statements without blocks -/

theorem balanced_testList (h : r.IsBalanced) : Balanced [] (testList r) :=
  balanced_sequence (balanced_test h)

theorem balanced_starList (h : r.IsBalanced) : Balanced [] (starList r) :=
  balanced_sequence (balanced_starItem (balanced_bitOr h) (balanced_test h))

theorem balanced_partAfter (h : Balanced [] p) {symbol : Symbol}
    (token : openBehind [] (.symbol symbol) = some []) : Balanced [] (partAfter symbol p) :=
  h.optional fun _ starts => shifts_of_sees starts token

theorem balanced_partAfterKeyword (h : Balanced [] p) (k : Keyword) :
    Balanced [] (partAfterKeyword k p) :=
  h.optional fun _ starts => shifts_of_seesKeyword starts

theorem balanced_dottedName : Balanced [] dottedName := by
  intro s hs
  refine (balanced_expectName s hs).bind hs fun first t ht => ?_
  have further : Balanced [] (partAfter .dot expectName) := balanced_partAfter balanced_expectName rfl
  exact (further.repeated t ht).bind ht fun more u _ => balances_ok

theorem balanced_aliasWith {name : Parser String} (h : Balanced [] name) :
    Balanced [] (aliasWith name) := by
  intro s hs
  refine (h s hs).bind hs fun name t ht => ?_
  exact (balanced_partAfterKeyword balanced_expectName .asKw t ht).bind ht
    fun asName u _ => balances_ok

theorem balanced_levelPart : Balanced [] levelPart := by
  intro s hs
  unfold levelPart
  split_ifs with dot dots
  · exact .advance hs (eq_of_beq dot) (shifts_symbol rfl) fun _ => balances_ok
  · exact .advance hs (eq_of_beq dots) (shifts_symbol rfl) fun _ => balances_ok
  · exact balances_ok

theorem balanced_importedNames : Balanced [] importedNames := by
  have name := balanced_aliasWith balanced_expectName
  intro s hs
  unfold importedNames
  split_ifs with star paren
  · exact .advance hs (eq_of_beq star) (shifts_symbol rfl) fun _ => balances_ok
  · refine .advance hs (eq_of_beq paren) (shifts_symbol rfl) fun hs' => ?_
    refine (name.oneOrMore _ _ hs').bind hs' fun names t ht => ?_
    exact balances_expectSymbol_bind ht rfl fun u _ => balances_ok
  · exact name.oneOrMore never s hs

theorem balanced_importFrom : Balanced [] importFrom := by
  intro s hs
  refine (balanced_levelPart.repeated s hs).bind hs fun levels t ht => ?_
  have path : Balances [] t (if t.seesKeyword .importKw then .ok ("", t) else dottedName t) := by
    split_ifs
    · exact balances_ok
    · exact balanced_dottedName t ht
  dsimp only
  refine path.ite_bind ht fun path u hu => ?_
  refine balances_expectKeyword_bind hu fun v hv => ?_
  exact (balanced_importedNames v hv).bind hv fun names w _ => balances_ok

theorem balanced_assignedValues (h : r.IsBalanced) : Balanced [] (assignedValues r) :=
  (balanced_partAfter (balanced_starList h) rfl).repeated

theorem balanced_expressionStatement (h : r.IsBalanced) :
    Balanced [] (expressionStatement r) := by
  intro s hs
  refine (balanced_starList h s hs).bind hs fun first t ht => ?_
  dsimp only
  split
  · next current =>
    refine .advance ht current (shifts_symbol rfl) fun ht' => ?_
    refine (balanced_test h _ ht').bind ht' fun hint u hu => ?_
    exact (balanced_partAfter (balanced_testList h) rfl u hu).bind hu fun value v _ => balances_ok
  · next op current =>
    refine .advance ht current ⟨by simp, rfl⟩ fun ht' => ?_
    exact (balanced_testList h _ ht').bind ht' fun value u _ => balances_ok
  · refine (balanced_assignedValues h t ht).bind ht fun values u _ => ?_
    dsimp only
    split
    · exact balances_ok
    · exact balances_ok

theorem balanced_returned (h : r.IsBalanced) : Balanced [] (returned r) := by
  intro s hs
  unfold returned
  split_ifs
  · exact balances_ok
  · exact (balanced_testList h s hs).bind hs fun value t _ => balances_ok

theorem balanced_raised (h : r.IsBalanced) : Balanced [] (raised r) := by
  intro s hs
  unfold raised
  split_ifs
  · exact balances_ok
  · refine (balanced_test h s hs).bind hs fun exception t ht => ?_
    exact (balanced_partAfterKeyword (balanced_test h) .fromKw t ht).bind ht
      fun cause u _ => balances_ok

theorem balanced_asserted (h : r.IsBalanced) : Balanced [] (asserted r) := by
  intro s hs
  refine (balanced_test h s hs).bind hs fun test_ t ht => ?_
  exact (balanced_partAfter (balanced_test h) rfl t ht).bind ht fun message u _ => balances_ok

theorem balanced_smallStatement (h : r.IsBalanced) : Balanced [] (smallStatement r) := by
  intro s hs
  have single {k : Keyword} {stmt : Stmt} (current : s.current = .keyword k) :
      Balances [] s (.ok (stmt, s.advance)) :=
    .advance hs current (shifts_keyword k) fun _ => balances_ok
  have behind {k : Keyword} {p : Parser Stmt} (current : s.current = .keyword k)
      (body : Balanced [] p) : Balances [] s (p s.advance) :=
    .advance hs current (shifts_keyword k) (body _)
  unfold smallStatement
  split
  · next current => exact single current
  · next current => exact single current
  · next current => exact single current
  · next current => exact behind current (balanced_returned h)
  · next current => exact behind current (balanced_raised h)
  · next current => exact behind current (balanced_asserted h)
  · next current =>
    refine .advance hs current (shifts_keyword _) fun hs' => ?_
    have targets := balanced_targetList (balanced_bitOr h)
    exact (targets _ hs').bind hs' fun targets t _ => balances_ok
  · next current =>
    refine .advance hs current (shifts_keyword _) fun hs' => ?_
    exact (balanced_expectName.oneOrMore never _ hs').bind hs' fun names t _ => balances_ok
  · next current =>
    refine .advance hs current (shifts_keyword _) fun hs' => ?_
    have names := (balanced_aliasWith balanced_dottedName).oneOrMore never
    exact (names _ hs').bind hs' fun names t _ => balances_ok
  · next current => exact behind current balanced_importFrom
  · exact balances_error
  · exact balances_error
  · exact balanced_expressionStatement h s hs

theorem balanced_furtherStatement (h : r.IsBalanced) : Balanced [] (furtherStatement r) := by
  intro s hs
  unfold furtherStatement
  dsimp only
  split_ifs with semicolon
  · exact .advance hs (eq_of_beq semicolon) (shifts_symbol rfl) fun _ => balances_ok
  · refine .advance hs (eq_of_beq semicolon) (shifts_symbol rfl) fun hs' => ?_
    exact (balanced_smallStatement h _ hs').bind hs' fun stmt t _ => balances_ok
  · exact balances_ok

theorem balanced_simpleStatements (h : r.IsBalanced) : Balanced [] (simpleStatements r) := by
  intro s hs
  refine (balanced_smallStatement h s hs).bind hs fun first t ht => ?_
  refine ((balanced_furtherStatement h).repeated t ht).bind ht fun more u hu => ?_
  dsimp only
  split_ifs with line
  · exact .advance hu line ⟨by simp, rfl⟩ fun _ => balances_ok
  · exact balances_ok
  · exact balances_error

/-! ### Statements with blocks -/

theorem balanced_blockAfter (hb : b.IsBalanced) (k : Keyword) : Balanced [] (blockAfter b k) := by
  intro s hs
  unfold blockAfter
  split_ifs with starts
  · exact .advance hs (eq_of_beq starts) (shifts_keyword k) (hb.block _)
  · exact balances_ok

theorem balances_condition (h : r.IsBalanced) (hb : b.IsBalanced) (hs : s.HasEnd)
    (token : s.current.Shifts [] []) : Balances [] s (condition r b s) := by
  refine .advance hs rfl token fun hs' => ?_
  refine (balanced_namedTest (balanced_test h) _ hs').bind hs' fun test_ t ht => ?_
  refine (hb.block t ht).bind ht fun body u hu => ?_
  dsimp only
  split_ifs with starts
  · exact (hb.condition u hu (shifts_of_seesKeyword starts)).bind hu fun other v _ => balances_ok
  · exact (balanced_blockAfter hb .elseKw u hu).bind hu fun orelse v _ => balances_ok

theorem balanced_whileLoop (h : r.IsBalanced) (hb : b.IsBalanced) :
    Balanced [] (whileLoop r b) := by
  intro s hs
  refine (balanced_namedTest (balanced_test h) s hs).bind hs fun test_ t ht => ?_
  refine (hb.block t ht).bind ht fun body u hu => ?_
  exact (balanced_blockAfter hb .elseKw u hu).bind hu fun orelse v _ => balances_ok

theorem balanced_forLoop (h : r.IsBalanced) (hb : b.IsBalanced) : Balanced [] (forLoop r b) := by
  intro s hs
  refine (balanced_target (balanced_bitOr h) s hs).bind hs fun target t ht => ?_
  refine balances_expectKeyword_bind ht fun u hu => ?_
  refine (balanced_testList h u hu).bind hu fun iter v hv => ?_
  refine (hb.block v hv).bind hv fun body w hw => ?_
  exact (balanced_blockAfter hb .elseKw w hw).bind hw fun orelse x _ => balances_ok

theorem balanced_handlerHead (h : r.IsBalanced) : Balanced [] (handlerHead r) := by
  intro s hs
  unfold handlerHead
  split_ifs
  · exact balances_ok
  · refine (balanced_test h s hs).bind hs fun kind t ht => ?_
    exact (balanced_partAfterKeyword balanced_expectName .asKw t ht).bind ht
      fun name u _ => balances_ok

theorem balanced_handler (h : r.IsBalanced) (hb : b.IsBalanced) : Balanced [] (handler r b) := by
  intro s hs
  unfold handler
  split_ifs with starts
  · refine .advance hs (eq_of_beq starts) (shifts_keyword _) fun hs' => ?_
    refine (balanced_handlerHead h _ hs').bind hs' fun head t ht => ?_
    exact (hb.block t ht).bind ht fun body u _ => balances_ok
  · exact balances_ok

theorem balanced_tryBlock (h : r.IsBalanced) (hb : b.IsBalanced) : Balanced [] (tryBlock r b) := by
  intro s hs
  refine (hb.block s hs).bind hs fun body t ht => ?_
  refine ((balanced_handler h hb).repeated t ht).bind ht fun handlers u hu => ?_
  refine (balanced_blockAfter hb .elseKw u hu).bind hu fun orelse v hv => ?_
  refine (balanced_blockAfter hb .finallyKw v hv).bind hv fun finalBody w _ => ?_
  dsimp only
  split_ifs
  · exact balances_error
  · exact balances_ok

theorem balanced_withItem (h : r.IsBalanced) : Balanced [] (withItem r) := by
  intro s hs
  refine (balanced_test h s hs).bind hs fun context t ht => ?_
  have target := balanced_partAfterKeyword (balanced_starOperand (balanced_bitOr h)) .asKw
  exact (target t ht).bind ht fun target u _ => balances_ok

theorem balanced_withBlock (h : r.IsBalanced) (hb : b.IsBalanced) :
    Balanced [] (withBlock r b) := by
  intro s hs
  refine ((balanced_withItem h).oneOrMore never s hs).bind hs fun items t ht => ?_
  exact (hb.block t ht).bind ht fun body u _ => balances_ok

theorem balanced_functionDef (h : r.IsBalanced) (hb : b.IsBalanced) (decorators : List Expr) :
    Balanced [] (functionDef r b decorators) := by
  intro s hs
  -- the keyword of a coroutine is skipped, so the stream may start one token later
  obtain ⟨start, hstart, closed⟩ : ∃ start,
      (if s.seesKeyword .asyncKw then s.advance else s) = start ∧ s.Closes [] start := by
    refine ⟨_, rfl, ?_⟩
    split_ifs with starts
    · exact .of_advance hs (shifts_of_seesKeyword starts) (.refl _)
    · exact .refl s
  unfold functionDef
  dsimp only
  rw [hstart]
  refine Balances.of_closes ?_ closed
  refine balances_expectKeyword_bind (closed.reaches.hasEnd hs) fun t ht => ?_
  refine (balanced_expectName t ht).bind ht fun name u hu => ?_
  refine balances_expectSymbol_bind hu rfl fun v hv => ?_
  refine (balanced_params (balanced_test h) .rightParen true v hv).bind hv fun params w hw => ?_
  refine balances_expectSymbol_bind hw rfl fun x hx => ?_
  refine (balanced_partAfter (balanced_test h) rfl x hx).bind hx fun returns y hy => ?_
  exact (hb.block y hy).bind hy fun body z _ => balances_ok

theorem balanced_classDef (h : r.IsBalanced) (hb : b.IsBalanced) (decorators : List Expr) :
    Balanced [] (classDef r b decorators) := by
  intro s hs
  refine (balanced_expectName s hs).bind hs fun name t ht => ?_
  have arguments :
      Balances [] t (if t.sees .leftParen then callArgs r t.advance else .ok ([], t)) := by
    split_ifs with paren
    · exact .advance ht (eq_of_beq paren) (shifts_symbol rfl) (balanced_callArgs h _)
    · exact balances_ok
  dsimp only
  refine arguments.ite_bind ht fun args u hu => ?_
  exact (hb.block u hu).bind hu fun body v _ => balances_ok

theorem balanced_decorator (h : r.IsBalanced) : Balanced [] (decorator r) := by
  intro s hs
  unfold decorator
  split_ifs with atSign
  · refine .advance hs (eq_of_beq atSign) (shifts_symbol rfl) fun hs' => ?_
    refine (balanced_test h _ hs').bind hs' fun e t ht => ?_
    exact balances_expect_bind ht ⟨by simp, rfl⟩ fun u _ => balances_ok
  · exact balances_ok

theorem balanced_decorated (h : r.IsBalanced) (hb : b.IsBalanced) :
    Balanced [] (decorated r b) := by
  intro s hs
  refine ((balanced_decorator h).repeated s hs).bind hs fun decorators t ht => ?_
  dsimp only
  split
  · exact balanced_functionDef h hb decorators t ht
  · exact balanced_functionDef h hb decorators t ht
  · next current =>
    exact .advance ht current (shifts_keyword _) (balanced_classDef h hb decorators _)
  · exact balances_error

theorem balanced_statement (h : r.IsBalanced) (hb : b.IsBalanced) :
    Balanced [] (statement r b) := by
  intro s hs
  have single {p : Parser Stmt} {t : TokenStream} (ht : t.HasEnd) (body : Balances [] t (p t)) :
      Balances [] t (single p t) :=
    body.bind ht fun stmt u _ => balances_ok
  have behind {k : Keyword} {p : Parser Stmt} (current : s.current = .keyword k)
      (body : Balanced [] p) : Balances [] s (Grammar.single p s.advance) :=
    .advance hs current (shifts_keyword k) fun hs' => single hs' (body _ hs')
  have function := balanced_functionDef h hb [] s hs
  unfold statement
  split
  · next current =>
    exact single hs (balances_condition h hb hs (current ▸ shifts_keyword _))
  · next current => exact behind current (balanced_whileLoop h hb)
  · next current => exact behind current (balanced_forLoop h hb)
  · next current => exact behind current (balanced_tryBlock h hb)
  · next current => exact behind current (balanced_withBlock h hb)
  · exact single hs function
  · split_ifs
    · exact single hs function
    · exact balances_error
  · next current => exact behind current (balanced_classDef h hb [])
  · exact single hs (balanced_decorated h hb s hs)
  · exact balanced_simpleStatements h s hs

theorem balanced_blockPart (h : r.IsBalanced) (hb : b.IsBalanced) :
    Balanced [] (blockPart r b) := by
  intro s hs
  unfold blockPart
  split
  · next current => exact .advance hs current ⟨by simp, rfl⟩ fun _ => balances_ok
  · exact balances_error
  · next current => exact .advance hs current ⟨by simp, rfl⟩ fun _ => balances_ok
  · exact (balanced_statement h hb s hs).bind hs fun stmts t _ => balances_ok

theorem balanced_block (h : r.IsBalanced) (hb : b.IsBalanced) : Balanced [] (block r b) := by
  intro s hs
  refine balances_expectSymbol_bind hs rfl fun t ht => ?_
  split_ifs with line
  · refine .advance ht line ⟨by simp, rfl⟩ fun ht' => ?_
    refine balances_expect_bind ht' ⟨by simp, rfl⟩ fun u hu => ?_
    exact ((balanced_blockPart h hb).repeated u hu).bind hu fun parts v _ => balances_ok
  · exact balanced_simpleStatements h t ht

/-! ### Scripts -/

/-- Blocks close what they open, up to any bound on their nesting. -/
theorem isBalanced_blocks (h : r.IsBalanced) (n : Nat) : (blocks r n).IsBalanced := by
  induction n with
  | zero => exact ⟨fun s _ => balances_error, fun s _ _ => balances_error⟩
  | succ n ih => exact ⟨balanced_block h ih, fun s hs token => balances_condition h ih hs token⟩

/-- A script closes what it opens. -/
theorem balanced_script : Balanced [] script := by
  intro s hs
  have expressions := isBalanced_nested (s.rest.length + 2)
  have statements := isBalanced_blocks expressions (s.rest.length + 2)
  have part :
      Balanced [] (scriptPart (nestedFor s) (blocks (nestedFor s) (s.rest.length + 2))) := by
    intro t ht
    unfold scriptPart
    split
    · exact balances_ok
    · next current => exact .advance ht current ⟨by simp, rfl⟩ fun _ => balances_ok
    · exact (balanced_statement expressions statements t ht).bind ht fun stmts u _ => balances_ok
  exact (part.repeated s hs).bind hs fun parts t _ => balances_ok

end Grammar

/-! ### Texts -/

/-- The tokens of a script leave no bracket open. -/
theorem openAfter_of_script {tokens : List Token} {body : Block} {t : TokenStream}
    (ended : EndsOnce tokens) (h : Grammar.script (ofTokens tokens) = .ok (body, t)) :
    openAfter [] tokens = some [] := by
  have last := ended.reaches []
  rw [List.append_nil] at last
  obtain rfl := (Grammar.goesThrough last).script body t h
  obtain ⟨front, inside, rfl⟩ := ended
  rw [ofTokens_append_cons] at h
  have hs : (append front ⟨.endOfInput, []⟩).HasEnd := by
    rw [HasEnd, tokens_append]
    simp
  obtain ⟨passed, -, same, closed⟩ := Grammar.balanced_script _ hs body _ h
  -- what was passed is all but the end
  have tokens := tokens_append passed ⟨.endOfInput, []⟩
  rw [← same, tokens_append] at tokens
  rw [tokens, openAfter_append, closed]
  rfl

namespace Lexer

/-- The count of open brackets at a state, where `front` is what was found before it and `back` is
what comes behind it. -/
structure Tracks (s : Lexer) (front back : List Token) : Prop where
  /-- The count is what was opened and not closed: it was never stopped at zero. -/
  count : front.countP Token.opens = front.countP Token.closes + s.depth
  /-- A bracket that is about to close something finds the count above zero. -/
  closing : s.closed = false → ∀ t ∈ s.step.tokens, t.token.closes = true → 0 < s.depth
  /-- Where line ends count, no bracket goes from one side to the other. -/
  outside : s.depth = 0 → IsNested front ∧ IsNested back
  /-- Where line ends are skipped, there is a bracket around that is closed. -/
  inside : 0 < s.depth → Encloses front back
  /-- At the end of the text nothing is open. -/
  ended : s.closed = true → s.depth = 0

/-- A step that closes a bracket closes the innermost open one. -/
theorem length_pos_of_closes {s : Lexer} {r : Step} {stack stack' : List BracketKind} {t : Token}
    (h : Moves s r) (left : openAfter stack (r.tokens.map (·.token)) = some stack')
    (ht : t ∈ r.tokens.map (·.token)) (closes : t.closes = true) : 0 < stack.length := by
  rcases tokens_of_moves h with ⟨layout, -⟩ | ⟨u, single, -⟩
  · rw [Token.closes, bracket?_of_isLayout (layout t ht)] at closes
    cases closes
  · rw [single] at ht left
    obtain rfl := List.mem_singleton.1 ht
    rw [openAfter_cons] at left
    obtain ⟨_, first, -⟩ := Option.bind_eq_some_iff.1 left
    rcases openBehind_cases first with ⟨plain, -⟩ | ⟨kind, opening, -⟩ | ⟨kind, -, rfl⟩
    · rw [Token.closes, plain] at closes
      cases closes
    · rw [Token.closes, opening] at closes
      cases closes
    · exact Nat.succ_pos _

/-- Tokens that leave no bracket open are tracked by the machine that finds them. -/
theorem tracks_of_openAfter {source : List Char} {s u : Lexer} {front back : List PlacedToken}
    (before : Leads (start source) front s) (behind : Leads s back u) (closed : u.closed = true)
    (h : openAfter [] ((front ++ back).map (·.token)) = some []) :
    s.Tracks (front.map (·.token)) (back.map (·.token)) := by
  rw [List.map_append, openAfter_append] at h
  obtain ⟨stack, opened, left⟩ := Option.bind_eq_some_iff.1 h
  have height : s.depth = stack.length := by
    rw [depth_of_leads before]
    exact length_of_openAfter opened
  refine ⟨?_, fun going t ht closes => ?_, fun zero => ?_, fun positive => ?_, fun done => ?_⟩
  · rw [height]
    exact countP_opens_of_openAfter opened
  · have found : ∃ more, back = s.step.tokens ++ more := by
      cases behind with
      | refl => exact absurd closed (Bool.eq_false_iff.1 going)
      | step => exact ⟨_, rfl⟩
    obtain ⟨more, rfl⟩ := found
    rw [List.map_append, openAfter_append] at left
    obtain ⟨stack', step, -⟩ := Option.bind_eq_some_iff.1 left
    rw [height]
    exact length_pos_of_closes (moves_step s) step (List.mem_map_of_mem ht) closes
  · obtain rfl := List.eq_nil_of_length_eq_zero (height.symm.trans zero)
    exact ⟨isNested_of_openAfter opened, isNested_of_openAfter left⟩
  · cases stack with
    | nil => exact absurd height (Nat.ne_of_gt positive)
    | cons kind stack => exact encloses_of_openAfter opened left
  · cases behind with
    | refl =>
      cases left
      exact height
    | step going => exact absurd done (Bool.eq_false_iff.1 going)

end Lexer

/-- A text that is a script has nested brackets, matched by kind. At every state of the lexer on its
way through the text, the count of open brackets is exact: it is never stopped at zero, line ends
are skipped inside of pairs only, and the count is zero at the end. -/
theorem isNested_of_parse {source : String} {script : Block} (h : parse source = .ok script) :
    ∃ tokens, tokenize source = .ok tokens ∧ IsNested (tokens.map (·.token)) ∧
      ∀ front s, Lexer.Leads (.start source.toList) front s →
        ∃ back, tokens = front ++ back ∧
          s.Tracks (front.map (·.token)) (back.map (·.token)) := by
  obtain ⟨tokens, read, parsed⟩ := bind_eq_ok_iff.1 h
  have nested : openAfter [] (tokens.map (·.token)) = some [] := by
    unfold parseTokens runParser at parsed
    split at parsed
    · next body t ok => exact openAfter_of_script (endsOnce_of_tokenize read) ok
    · cases parsed
  obtain ⟨u, closed, whole⟩ := Lexer.exists_leads_of_run_eq_ok rfl read
  refine ⟨tokens, read, isNested_of_openAfter nested, fun front s before => ?_⟩
  obtain ⟨back, rfl, behind⟩ := before.exists_later whole closed
  exact ⟨back, rfl, Lexer.tracks_of_openAfter before behind closed nested⟩

/-- A script with a call that has brackets of all kinds over several lines. -/
def spreadSource : String := "f(a[\n\x7b1: (2,\n)\x7d])\nx = []\n"

theorem isNested_spreadSource :
    ∃ script tokens, parse spreadSource = .ok script ∧ tokenize spreadSource = .ok tokens ∧
      (tokens.map (·.token)).countP Token.opens = 5 ∧ IsNested (tokens.map (·.token)) ∧
      ∀ front s, Lexer.Leads (.start spreadSource.toList) front s →
        ∃ back, tokens = front ++ back ∧
          s.Tracks (front.map (·.token)) (back.map (·.token)) := by
  have parsed : (parse spreadSource).toOption.isSome = true := by decide +kernel
  have brackets : (tokenize spreadSource).toOption.map
      (fun tokens => (tokens.map (·.token)).countP Token.opens) = some 5 := by
    decide +kernel
  cases h : parse spreadSource with
  | error e =>
    rw [h] at parsed
    cases parsed
  | ok script =>
    obtain ⟨tokens, read, nested, tracked⟩ := isNested_of_parse h
    rw [read] at brackets
    exact ⟨script, tokens, rfl, read, Option.some.inj brackets, nested, tracked⟩

end RobotCell.Script
