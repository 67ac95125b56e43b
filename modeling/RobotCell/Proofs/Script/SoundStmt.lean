import RobotCell.Proofs.Script.SoundExpr
import RobotCell.Proofs.Script.SpellStmt
import RobotCell.Proofs.Text.Split

/-!
# Scripts that are read are formed

The parsers of statements are sound as those of expressions are. So every statement of a script that
was read from a text is formed.

## Main results

- `formedStmt_of_parse` — the statements of a script that was read are formed
- `formed_of_parseExpr` — an expression that was read is formed
-/

namespace RobotCell.Script

open RobotCell.Text (joinWith)

/-- The parsers for inner blocks are sound. -/
structure Blocks.IsSound (b : Blocks) : Prop where
  block : Sound (fun body => ∀ s ∈ body, FormedStmt s) b.block
  condition : Sound FormedStmt b.condition

namespace Grammar

variable {α : Type} {P : α → Prop} {r : Nested} {b : Blocks}

/-! ### Statements without blocks -/

theorem sound_testList (h : r.IsSound) : Sound Formed (testList r) :=
  sound_sequence (sound_test h)

theorem sound_starList (h : r.IsSound) : Sound Formed (starList r) :=
  sound_sequence (sound_starItem (sound_bitOr h) (sound_test h))

theorem sound_partAfter {part : Parser α} (h : Sound P part) (symbol : Symbol) :
    Sound (fun x => ∀ a ∈ x, P a) (partAfter symbol part) :=
  h.optional

theorem sound_partAfterKeyword {part : Parser α} (h : Sound P part) (k : Keyword) :
    Sound (fun x => ∀ a ∈ x, P a) (partAfterKeyword k part) :=
  h.optional

/-- Identifiers with points between them are a path. -/
theorem isPath_joinWith {word : String} {words : List String}
    (h : ∀ w ∈ word :: words, isIdentifier w = true) :
    isPath (joinWith "." (word :: words)) = true := by
  induction words generalizing word with
  | nil => exact isPath_of_isIdentifier (h word List.mem_cons_self)
  | cons next words ih =>
    obtain ⟨hword, hwords⟩ := List.forall_mem_cons.1 h
    rw [Text.joinWith_cons (List.cons_ne_nil _ _), isPath_append, isPath_of_isIdentifier hword]
    exact ih hwords

theorem sound_dottedName : Sound (fun path => isPath path = true) dottedName := by
  intro s hs
  refine (sound_expectName s hs).bind fun first s hfirst hs => ?_
  refine ((sound_partAfter sound_expectName _).repeated s hs).bind fun more s hmore hs => ?_
  exact gives_ok (isPath_joinWith (List.forall_mem_cons.2 ⟨hfirst, hmore⟩)) hs

theorem sound_aliasWith {name : Parser String} {P : String → Prop} (h : Sound P name) :
    Sound (fun a => P a.name ∧ ∀ n ∈ a.asName, isIdentifier n = true) (aliasWith name) := by
  intro s hs
  refine (h s hs).bind fun name s hname hs => ?_
  refine (sound_partAfterKeyword sound_expectName _ s hs).bind fun asName s hasName hs => ?_
  exact gives_ok ⟨hname, hasName⟩ hs

theorem areImported_of_forall {names : List Alias} (h : names ≠ [] ∧
    ∀ a ∈ names, isIdentifier a.name = true ∧ ∀ n ∈ a.asName, isIdentifier n = true) :
    areImported names = true := by
  have listed : (names.all fun a => isIdentifier a.name && a.asName.all isIdentifier) = true := by
    simpa [Option.all_eq_true] using h.2
  simp [areImported, h.1, listed]

theorem sound_importedNames : Sound (fun names => areImported names = true) importedNames := by
  have names := sound_aliasWith sound_expectName
  intro s hs
  unfold importedNames
  split_ifs
  · exact gives_ok rfl hs.advance
  · refine (names.oneOrMore _ _ hs.advance).bind fun names s hnames hs => ?_
    exact gives_expectSymbol_bind hs fun s hs => gives_ok (areImported_of_forall hnames) hs
  · intro names' s' read
    obtain ⟨hnames, hs'⟩ := names.oneOrMore _ s hs names' s' read
    exact ⟨areImported_of_forall hnames, hs'⟩

theorem sound_importFrom : Sound FormedStmt importFrom := by
  have levels : Sound (fun x => ∀ _ ∈ x, True) levelPart := by
    intro s hs
    unfold levelPart
    split_ifs
    · exact gives_ok (forall_mem_some trivial) hs.advance
    · exact gives_ok (forall_mem_some trivial) hs.advance
    · exact gives_ok forall_mem_none hs
  intro s hs
  refine (levels.repeated s hs).bind fun levels s _ hs => ?_
  -- without a path the import is one from the package itself
  have module : Gives (fun m => m = "" ∨ isPath m = true)
      (if s.seesKeyword .importKw then .ok ("", s) else dottedName s) := by
    split_ifs
    · exact gives_ok (.inl rfl) hs
    · intro path s' read
      obtain ⟨hpath, hs'⟩ := sound_dottedName s hs path s' read
      exact ⟨.inr hpath, hs'⟩
  dsimp only
  refine module.ite_bind fun module s hmodule hs => ?_
  refine gives_expectKeyword_bind hs fun s hs => ?_
  refine (sound_importedNames s hs).bind fun names s hnames hs => ?_
  exact gives_ok (.importFrom _ hmodule hnames) hs

theorem sound_expressionStatement (h : r.IsSound) : Sound FormedStmt (expressionStatement r) := by
  intro s hs
  refine (sound_starList h s hs).bind fun first s hfirst hs => ?_
  dsimp only
  split
  · refine (sound_test h _ hs.advance).bind fun hint s hhint hs => ?_
    refine (sound_partAfter (sound_testList h) _ s hs).bind fun value s hvalue hs => ?_
    exact gives_ok (.annAssign hfirst hhint hvalue) hs
  · refine (sound_testList h _ hs.advance).bind fun value s hvalue hs => ?_
    exact gives_ok (.augAssign hfirst hvalue) hs
  · have assigned := (sound_partAfter (sound_starList h) .assign).repeated
    refine (assigned s hs).bind fun values s hvalues hs => ?_
    dsimp only
    split
    · -- the last of the values is assigned, and all before it are targets
      next value last =>
      refine gives_ok (.assign (List.cons_ne_nil _ _) ?_ (hvalues _ (List.mem_of_getLast? last))) hs
      refine List.forall_mem_cons.2 ⟨hfirst, fun t ht => hvalues t (List.dropLast_subset _ ht)⟩
    · exact gives_ok (.expr hfirst) hs

theorem sound_returned (h : r.IsSound) : Sound FormedStmt (returned r) := by
  intro s hs
  unfold returned
  split_ifs
  · exact gives_ok (.ret forall_mem_none) hs
  · refine (sound_testList h s hs).bind fun value s hvalue hs => ?_
    exact gives_ok (.ret (forall_mem_some hvalue)) hs

theorem sound_raised (h : r.IsSound) : Sound FormedStmt (raised r) := by
  intro s hs
  unfold raised
  split_ifs
  · refine gives_ok (.raise (by simp) ?_) hs
    exact List.forall_mem_cons.2 ⟨forall_mem_none, List.forall_mem_singleton.2 forall_mem_none⟩
  · refine (sound_test h s hs).bind fun exception s hexception hs => ?_
    refine (sound_partAfterKeyword (sound_test h) _ s hs).bind fun cause s hcause hs => ?_
    refine gives_ok (.raise (fun _ => rfl) ?_) hs
    exact List.forall_mem_cons.2 ⟨forall_mem_some hexception, List.forall_mem_singleton.2 hcause⟩

theorem sound_asserted (h : r.IsSound) : Sound FormedStmt (asserted r) := by
  intro s hs
  refine (sound_test h s hs).bind fun test_ s htest hs => ?_
  refine (sound_partAfter (sound_test h) _ s hs).bind fun message s hmessage hs => ?_
  exact gives_ok (.assertion htest hmessage) hs

theorem sound_smallStatement (h : r.IsSound) : Sound FormedStmt (smallStatement r) := by
  intro s hs
  unfold smallStatement
  split
  · exact gives_ok .pass hs.advance
  · exact gives_ok .breakLoop hs.advance
  · exact gives_ok .continueLoop hs.advance
  · exact sound_returned h _ hs.advance
  · exact sound_raised h _ hs.advance
  · exact sound_asserted h _ hs.advance
  · refine (sound_targetList (sound_bitOr h) _ hs.advance).bind fun targets s htargets hs => ?_
    exact gives_ok (.delete htargets.1 htargets.2) hs
  · refine (sound_expectName.oneOrMore _ _ hs.advance).bind fun names s hnames hs => ?_
    exact gives_ok (.global hnames.1 hnames.2) hs
  · have names := (sound_aliasWith sound_dottedName).oneOrMore never
    refine (names _ hs.advance).bind fun names s hnames hs => gives_ok ?_ hs
    exact .importModules hnames.1 (fun a ha => (hnames.2 a ha).1) (fun a ha => (hnames.2 a ha).2)
  · exact sound_importFrom _ hs.advance
  · exact gives_error _
  · exact gives_error _
  · exact sound_expressionStatement h s hs

theorem sound_furtherStatement (h : r.IsSound) :
    Sound (fun x => ∀ t ∈ x, FormedStmt t) (furtherStatement r) := by
  intro s hs
  unfold furtherStatement
  dsimp only
  split_ifs
  · exact gives_ok forall_mem_none hs.advance
  · refine (sound_smallStatement h _ hs.advance).bind fun stmt s hstmt hs => ?_
    exact gives_ok (forall_mem_some hstmt) hs
  · exact gives_ok forall_mem_none hs

theorem sound_simpleStatements (h : r.IsSound) :
    Sound (fun body => ∀ t ∈ body, FormedStmt t) (simpleStatements r) := by
  intro s hs
  refine (sound_smallStatement h s hs).bind fun first s hfirst hs => ?_
  refine ((sound_furtherStatement h).repeated s hs).bind fun more s hmore hs => ?_
  have all := List.forall_mem_cons.2 ⟨hfirst, hmore⟩
  dsimp only
  split_ifs
  · exact gives_ok all hs.advance
  · exact gives_ok all hs
  · exact gives_error _

/-! ### Statements with blocks -/

theorem sound_blockAfter (hb : b.IsSound) (k : Keyword) :
    Sound (fun body => ∀ t ∈ body, FormedStmt t) (blockAfter b k) := by
  intro s hs
  unfold blockAfter
  split_ifs
  · exact hb.block _ hs.advance
  · exact gives_ok (List.forall_mem_nil _) hs

theorem sound_condition (h : r.IsSound) (hb : b.IsSound) : Sound FormedStmt (condition r b) := by
  intro s hs
  refine (sound_namedTest (sound_test h) _ hs.advance).bind fun test_ s htest hs => ?_
  refine (hb.block s hs).bind fun body s hbody hs => ?_
  dsimp only
  split_ifs
  · refine (hb.condition s hs).bind fun other s hother hs => ?_
    exact gives_ok (.ifElse htest hbody (List.forall_mem_singleton.2 hother)) hs
  · refine (sound_blockAfter hb _ s hs).bind fun orelse s horelse hs => ?_
    exact gives_ok (.ifElse htest hbody horelse) hs

theorem sound_whileLoop (h : r.IsSound) (hb : b.IsSound) : Sound FormedStmt (whileLoop r b) := by
  intro s hs
  refine (sound_namedTest (sound_test h) s hs).bind fun test_ s htest hs => ?_
  refine (hb.block s hs).bind fun body s hbody hs => ?_
  refine (sound_blockAfter hb _ s hs).bind fun orelse s horelse hs => ?_
  exact gives_ok (.whileLoop htest hbody horelse) hs

theorem sound_forLoop (h : r.IsSound) (hb : b.IsSound) : Sound FormedStmt (forLoop r b) := by
  intro s hs
  refine (sound_target (sound_bitOr h) s hs).bind fun target s htarget hs => ?_
  refine gives_expectKeyword_bind hs fun s hs => ?_
  refine (sound_testList h s hs).bind fun iter s hiter hs => ?_
  refine (hb.block s hs).bind fun body s hbody hs => ?_
  refine (sound_blockAfter hb _ s hs).bind fun orelse s horelse hs => ?_
  exact gives_ok (.forLoop htarget hiter hbody horelse) hs

/-- The type and the name of a handler: there is no name without a type. -/
def FormedHead (head : Option Expr × Option String) : Prop :=
  (∀ e ∈ head.1, Formed e) ∧ ∀ n ∈ head.2, head.1.isSome = true ∧ isIdentifier n = true

theorem sound_handlerHead (h : r.IsSound) : Sound FormedHead (handlerHead r) := by
  intro s hs
  unfold handlerHead
  split_ifs
  · exact gives_ok ⟨forall_mem_none, forall_mem_none⟩ hs
  · refine (sound_test h s hs).bind fun kind s hkind hs => ?_
    refine (sound_partAfterKeyword sound_expectName _ s hs).bind fun name s hname hs => ?_
    exact gives_ok ⟨forall_mem_some hkind, fun n hn => ⟨rfl, hname n hn⟩⟩ hs

theorem sound_handler (h : r.IsSound) (hb : b.IsSound) :
    Sound (fun x => ∀ c ∈ x, FormedHead (c.kind, c.name) ∧ ∀ t ∈ c.body, FormedStmt t)
      (handler r b) := by
  intro s hs
  unfold handler
  split_ifs
  · refine (sound_handlerHead h _ hs.advance).bind fun head s hhead hs => ?_
    refine (hb.block s hs).bind fun body s hbody hs => gives_ok ?_ hs
    exact forall_mem_some ⟨hhead, hbody⟩
  · exact gives_ok forall_mem_none hs

theorem sound_tryBlock (h : r.IsSound) (hb : b.IsSound) : Sound FormedStmt (tryBlock r b) := by
  intro s hs
  refine (hb.block s hs).bind fun body s hbody hs => ?_
  refine ((sound_handler h hb).repeated s hs).bind fun handlers s hhandlers hs => ?_
  refine (sound_blockAfter hb _ s hs).bind fun orelse s horelse hs => ?_
  refine (sound_blockAfter hb _ s hs).bind fun finalBody s hfinal hs => ?_
  dsimp only
  split_ifs with bare
  · exact gives_error _
  · -- a block without handlers and without a final block was refused
    have ends : handlers ≠ [] ∨ finalBody ≠ [] := by
      rwa [Bool.and_eq_true, List.isEmpty_iff, List.isEmpty_iff, not_and_or] at bare
    exact gives_ok (.tryBlock ends (fun c hc => (hhandlers c hc).1.1)
      (fun c hc => (hhandlers c hc).1.2) hbody (fun c hc => (hhandlers c hc).2) horelse hfinal) hs

theorem sound_withItem (h : r.IsSound) :
    Sound (fun x => Formed x.context ∧ ∀ e ∈ x.target, Formed e) (withItem r) := by
  have operand := sound_starOperand (sound_bitOr h)
  intro s hs
  refine (sound_test h s hs).bind fun context s hcontext hs => ?_
  refine (sound_partAfterKeyword operand _ s hs).bind fun target s htarget hs => ?_
  exact gives_ok ⟨hcontext, htarget⟩ hs

theorem sound_withBlock (h : r.IsSound) (hb : b.IsSound) : Sound FormedStmt (withBlock r b) := by
  intro s hs
  refine ((sound_withItem h).oneOrMore _ s hs).bind fun items s hitems hs => ?_
  refine (hb.block s hs).bind fun body s hbody hs => ?_
  exact gives_ok (.withBlock hitems.1 (fun x hx => (hitems.2 x hx).1)
    (fun x hx => (hitems.2 x hx).2) hbody) hs

theorem sound_functionDef (h : r.IsSound) (hb : b.IsSound) {decorators : List Expr}
    (decorated : ∀ e ∈ decorators, Formed e) : Sound FormedStmt (functionDef r b decorators) := by
  intro s hs
  -- the keyword of a coroutine is skipped, so the stream may start one token later
  have start : (if s.seesKeyword .asyncKw then s.advance else s).IsSpelled := by
    split_ifs
    · exact hs.advance
    · exact hs
  refine gives_expectKeyword_bind start fun s hs => ?_
  refine (sound_expectName s hs).bind fun name s hname hs => ?_
  refine gives_expectSymbol_bind hs fun s hs => ?_
  refine (sound_params (sound_test h) _ _ s hs).bind fun params s hparams hs => ?_
  refine gives_expectSymbol_bind hs fun s hs => ?_
  refine (sound_partAfter (sound_test h) _ s hs).bind fun returns s hreturns hs => ?_
  refine (hb.block s hs).bind fun body s hbody hs => ?_
  exact gives_ok (.functionDef decorated hname (fun p hp => (hparams.1 p hp).name) hparams.2
    (fun p hp => (hparams.1 p hp).shaped) (fun p hp => (hparams.1 p hp).hint)
    (fun p hp => (hparams.1 p hp).preset) hreturns hbody) hs

theorem sound_classDef (h : r.IsSound) (hb : b.IsSound) {decorators : List Expr}
    (decorated : ∀ e ∈ decorators, Formed e) : Sound FormedStmt (classDef r b decorators) := by
  intro s hs
  refine (sound_expectName s hs).bind fun name s hname hs => ?_
  have arguments : Gives (fun as => ∀ a ∈ as, FormedArg a)
      (if s.sees .leftParen then callArgs r s.advance else .ok ([], s)) := by
    split_ifs
    · exact sound_callArgs h _ hs.advance
    · exact gives_ok (List.forall_mem_nil _) hs
  dsimp only
  refine arguments.ite_bind fun args s hargs hs => ?_
  refine (hb.block s hs).bind fun body s hbody hs => ?_
  have named := formed_of_mem_keywords hargs
  exact gives_ok (.classDef decorated hname (formed_of_mem_positionals hargs)
    (fun k hk => (named k hk).1) (fun k hk => (named k hk).2) hbody) hs

theorem sound_decorator (h : r.IsSound) :
    Sound (fun x => ∀ e ∈ x, Formed e) (decorator r) := by
  intro s hs
  unfold decorator
  split_ifs
  · refine (sound_test h _ hs.advance).bind fun e s he hs => ?_
    exact gives_expect_bind hs fun s hs => gives_ok (forall_mem_some he) hs
  · exact gives_ok forall_mem_none hs

theorem sound_decorated (h : r.IsSound) (hb : b.IsSound) : Sound FormedStmt (decorated r b) := by
  intro s hs
  refine ((sound_decorator h).repeated s hs).bind fun decorators s hdecorators hs => ?_
  dsimp only
  split
  · exact sound_functionDef h hb hdecorators s hs
  · exact sound_functionDef h hb hdecorators s hs
  · exact sound_classDef h hb hdecorators _ hs.advance
  · exact gives_error _

theorem sound_single {statement : Parser Stmt} (h : Sound FormedStmt statement) :
    Sound (fun body => ∀ t ∈ body, FormedStmt t) (single statement) := by
  intro s hs
  refine (h s hs).bind fun stmt s hstmt hs => ?_
  exact gives_ok (List.forall_mem_singleton.2 hstmt) hs

theorem sound_statement (h : r.IsSound) (hb : b.IsSound) :
    Sound (fun body => ∀ t ∈ body, FormedStmt t) (statement r b) := by
  have plain := sound_functionDef h hb (List.forall_mem_nil _)
  intro s hs
  unfold statement
  split
  · exact sound_single (sound_condition h hb) s hs
  · exact sound_single (sound_whileLoop h hb) _ hs.advance
  · exact sound_single (sound_forLoop h hb) _ hs.advance
  · exact sound_single (sound_tryBlock h hb) _ hs.advance
  · exact sound_single (sound_withBlock h hb) _ hs.advance
  · exact sound_single plain s hs
  · split_ifs
    · exact sound_single plain s hs
    · exact gives_error _
  · exact sound_single (sound_classDef h hb (List.forall_mem_nil _)) _ hs.advance
  · exact sound_single (sound_decorated h hb) s hs
  · exact sound_simpleStatements h s hs

theorem sound_blockPart (h : r.IsSound) (hb : b.IsSound) :
    Sound (fun x => ∀ body ∈ x, ∀ t ∈ body, FormedStmt t) (blockPart r b) := by
  intro s hs
  unfold blockPart
  split
  · exact gives_ok forall_mem_none hs.advance
  · exact gives_error _
  · exact gives_ok (forall_mem_some (List.forall_mem_nil _)) hs.advance
  · refine (sound_statement h hb s hs).bind fun stmts s hstmts hs => ?_
    exact gives_ok (forall_mem_some hstmts) hs

theorem forall_mem_flatten {parts : List Block} (h : ∀ body ∈ parts, ∀ t ∈ body, FormedStmt t) :
    ∀ t ∈ parts.flatten, FormedStmt t := by
  intro t ht
  obtain ⟨body, hbody, ht⟩ := List.mem_flatten.1 ht
  exact h body hbody t ht

theorem sound_block (h : r.IsSound) (hb : b.IsSound) :
    Sound (fun body => ∀ t ∈ body, FormedStmt t) (block r b) := by
  intro s hs
  refine gives_expectSymbol_bind hs fun s hs => ?_
  split_ifs
  · refine gives_expect_bind hs.advance fun s hs => ?_
    refine ((sound_blockPart h hb).repeated s hs).bind fun parts s hparts hs => ?_
    exact gives_ok (forall_mem_flatten hparts) hs
  · exact sound_simpleStatements h s hs

/-! ### Scripts -/

/-- The blocks that are read are formed, whatever the length of the stream. -/
theorem isSound_blocks (h : r.IsSound) (n : Nat) : (blocks r n).IsSound := by
  induction n with
  | zero => exact ⟨fun s _ => gives_error _, fun s _ => gives_error _⟩
  | succ n ih => exact ⟨sound_block h ih, sound_condition h ih⟩

theorem sound_scriptPart (h : r.IsSound) (hb : b.IsSound) :
    Sound (fun x => ∀ body ∈ x, ∀ t ∈ body, FormedStmt t) (scriptPart r b) := by
  intro s hs
  unfold scriptPart
  split
  · exact gives_ok forall_mem_none hs
  · exact gives_ok (forall_mem_some (List.forall_mem_nil _)) hs.advance
  · refine (sound_statement h hb s hs).bind fun stmts s hstmts hs => ?_
    exact gives_ok (forall_mem_some hstmts) hs

theorem sound_script : Sound (fun body => ∀ t ∈ body, FormedStmt t) script := by
  intro s hs
  have expressions := isSound_nested (s.rest.length + 2)
  have parts := sound_scriptPart expressions (isSound_blocks expressions (s.rest.length + 2))
  refine (parts.repeated s hs).bind fun parts s hparts hs => ?_
  exact gives_ok (forall_mem_flatten hparts) hs

end Grammar

/-- A parser that is sound for a property reads from a text only what has it. -/
theorem Sound.of_runParser {α : Type} {P : α → Prop} {parser : Parser α} (h : Sound P parser)
    {source : String} {tokens : List PlacedToken} (lexed : tokenize source = .ok tokens) {a : α}
    (read : runParser parser tokens = .ok a) : P a := by
  have spelled : (TokenStream.ofTokens (tokens.map (·.token))).IsSpelled :=
    TokenStream.isSpelled_ofTokens (List.forall_mem_map.2 (isSpelled_of_tokenize lexed))
  unfold runParser at read
  split at read
  · next a' s found =>
    obtain rfl := Except.ok.inj read
    exact (h _ spelled a' s found).1
  · cases read

/-- The statements of a script that was read from a text are formed. -/
theorem formedStmt_of_parse {source : String} {script : Block} (h : parse source = .ok script) :
    ∀ t ∈ script, FormedStmt t := by
  obtain ⟨tokens, lexed, read⟩ := bind_eq_ok_iff.1 h
  exact Grammar.sound_script.of_runParser lexed read

/-- An expression that was read from the start of a text is formed. -/
theorem formed_of_parseExpr {source : String} {e : Expr} (h : parseExpr source = .ok e) :
    Formed e := by
  obtain ⟨tokens, lexed, read⟩ := bind_eq_ok_iff.1 h
  have sound : Sound Formed parseTest := fun s hs =>
    Grammar.sound_test (Grammar.isSound_nested _) s hs
  exact sound.of_runParser lexed read

end RobotCell.Script
