import RobotCell.Proofs.Script.ReadExpr
import RobotCell.Proofs.Script.SpellStmt
import RobotCell.Script.StmtGrammar

/-!
# The tokens of statements are read back

Statements on one line are read up to the end of the line, and statements with blocks up to a token
that starts no further clause. Blocks are read with the parsers of a record, whose number of levels
is bounded by the tokens; as every block is shorter than its statement, the bound is never met.

## Main definitions

- `ReadsSmall`, `ReadsStmt` — statements that are read back

## Main results

- `LegibleStmt.readsStmt` — the tokens of a legible statement are read as it
- `parse_blockText` — the text of a legible script is read as it, also below a header of comments
-/

namespace RobotCell.Script

open Grammar TokenStream
open RobotCell.Text (joinWith splitAtChar joinWith_splitAtChar)

variable {r : Nested} {s s' : TokenStream} {n : Nat} {e : Expr} {ts us : List Token}

/-! ### Lists of expressions -/

/-- The token may stand behind a list of expressions. -/
def EndsList (t : Token) : Prop :=
  EndsItem t ∧ t ≠ .symbol .comma ∧ startsExpression t = false

instance (t : Token) : Decidable (EndsList t) :=
  inferInstanceAs (Decidable (_ ∧ _ ∧ _))

theorem sequence_of_item {item : Parser Expr} (h : item s = .ok (e, s'))
    (last : s'.sees .comma = false) : Grammar.sequence item s = .ok (e, s') := by
  simp [Grammar.sequence, h, last]

/-- Items without parentheses around them are read as the tuple that they are written for. -/
theorem sequence_eq_ok {item : Parser Expr}
    (h : ∀ x ∈ e.bareItems, ∀ s, EndsItem s.current →
      item (append (x.tokensAt Level.test) s) = .ok (x, s))
    (starts : ∀ x ∈ e.bareItems, ∃ t us, x.tokensAt Level.test = t :: us ∧
      startsExpression t = true) (ends : EndsList s.current) :
    Grammar.sequence item (append e.bareTokens s) = .ok (e, s) := by
  obtain ⟨item_, comma, stops⟩ := ends
  have last : s.sees .comma = false := beq_eq_false_iff_ne.2 comma
  rcases bareTokens_cases e with ⟨items, tokens⟩ | ⟨x, rfl, tokens⟩ | ⟨x, y, items, rfl, tokens⟩
  · rw [tokens]
    exact sequence_of_item (h e (by rw [items]; exact List.mem_cons_self) s item_) last
  · have first := h x List.mem_cons_self (cons (.symbol .comma) s)
      (by decide : EndsItem (.symbol .comma))
    have more : moreItems (fun t => !startsExpression t) item (cons (.symbol .comma) s) =
        .ok ([], s) := by
      refine repeated_of_none ?_
      simp [stops]
    simp [tokens, Grammar.sequence, first, more]
  · have first := h x List.mem_cons_self
      (append (((y :: items).map (Expr.tokensAt Level.test)).flatMap (.symbol .comma :: ·)) s)
      (by decide : EndsItem (.symbol .comma))
    have more : moreItems (fun t => !startsExpression t) item
        (append (((y :: items).map (Expr.tokensAt Level.test)).flatMap (.symbol .comma :: ·)) s) =
        .ok ((y :: items).map fun z => z, s) := by
      refine moreItems_append EndsItem (fun z hz s ends => h z (List.mem_cons_of_mem _ hz) s ends)
        (fun z hz => ?_) (by decide) item_ last
      obtain ⟨t, us, same, start⟩ := starts z (List.mem_cons_of_mem _ hz)
      exact ⟨t, us, same, by simp [start]⟩
    have goes : (append (((y :: items).map (Expr.tokensAt Level.test)).flatMap
        (.symbol .comma :: ·)) s).sees .comma = true := rfl
    rw [List.map_id'] at more
    rw [tokens, List.map_cons, commas, separatedBy, append_append, Grammar.sequence, first]
    simp only [ok_bind, goes, if_true, more]
    rfl

theorem Legible.isItem_bareItems (h : Legible e) (item : e.isItem = true) :
    ∀ x ∈ e.bareItems, x.isItem = true := by
  by_cases tuple : ∃ items, e = .tuple items
  · obtain ⟨items, rfl⟩ := tuple
    cases items with
    | nil => exact fun x hx => List.mem_singleton.1 hx ▸ item
    | cons x items =>
      cases h with
      | tuple _ stand => exact stand
  · intro x hx
    rw [Expr.bareItems_of_ne fun items same => tuple ⟨items, same⟩, List.mem_singleton] at hx
    exact hx ▸ item

theorem length_le_bareTokens {x : Expr} (h : x ∈ e.bareItems) :
    (x.tokensAt Level.test).length ≤ e.bareTokens.length := by
  rcases bareTokens_cases e with ⟨items, tokens⟩ | ⟨y, rfl, tokens⟩ | ⟨y, z, items, rfl, tokens⟩
  · rw [items, List.mem_singleton] at h
    rw [tokens, h]
  · rw [tokens, List.mem_singleton.1 h, List.length_append]
    omega
  · rw [tokens]
    exact length_le_commas (List.mem_map_of_mem h)

namespace Legible

theorem starList_eq_ok (h : Legible e) (item : e.isItem = true) (long : e.bareTokens.length ≤ n)
    (ends : EndsList s.current) : starList (nested n) (append e.bareTokens s) = .ok (e, s) := by
  have items := h.isItem_bareItems item
  refine sequence_eq_ok (fun x hx s ends => ?_) (fun x hx => ?_) ends
  · exact (h.bareItems x hx).readsBack.item_eq_ok (items x hx)
      (Nat.le_trans (length_le_bareTokens hx) long) ends
  · exact (h.bareItems x hx).readsBack.item_starts (items x hx)

theorem testAt_eq_ok (h : Legible e) (stands : e.standsAt Level.test = true)
    (long : (e.tokensAt Level.test).length ≤ n) (last : joinLevel s.current = 0) :
    test (nested n) (append (e.tokensAt Level.test) s) = .ok (e, s) :=
  (h.readsBack.at_ stands (by decide) (by decide)).test_eq_ok long last

theorem testList_eq_ok (h : Legible e) (list : e.isTestList = true)
    (long : e.bareTokens.length ≤ n) (ends : EndsList s.current) :
    testList (nested n) (append e.bareTokens s) = .ok (e, s) := by
  have stand : ∀ x ∈ e.bareItems, x.standsAt Level.test = true := List.all_eq_true.1 list
  refine sequence_eq_ok (fun x hx s ends => ?_) (fun x hx => ?_) ends
  · exact (h.bareItems x hx).testAt_eq_ok (stand x hx)
      (Nat.le_trans (length_le_bareTokens hx) long) ends.1
  · exact (h.bareItems x hx).readsBack.item_starts (Expr.isItem_of_standsAt (stand x hx))

/-- The first token of a list of expressions. -/
theorem bareTokens_starts (h : Legible e) (item : e.isItem = true) :
    ∃ t us, e.bareTokens = t :: us ∧ startsExpression t = true := by
  have first {x : Expr} (hx : x ∈ e.bareItems) :
      ∃ t us, x.tokensAt Level.test = t :: us ∧ startsExpression t = true :=
    (h.bareItems x hx).readsBack.item_starts (h.isItem_bareItems item x hx)
  rcases bareTokens_cases e with ⟨items, tokens⟩ | ⟨x, rfl, tokens⟩ | ⟨x, y, items, rfl, tokens⟩
  · rw [tokens]
    exact first (by rw [items]; exact List.mem_cons_self)
  · obtain ⟨t, us, same, starts⟩ := first List.mem_cons_self
    exact ⟨t, us ++ [.symbol .comma], by rw [tokens, same]; rfl, starts⟩
  · obtain ⟨t, us, same, starts⟩ := first List.mem_cons_self
    rw [tokens, List.map_cons, commas, separatedBy, same]
    exact ⟨t, _, rfl, starts⟩

end Legible

/-! ### Parts behind symbols and words -/

section

variable {α : Type} {part : Parser α} {a : α}

theorem partAfter_cons (symbol : Symbol) (h : part s = .ok (a, s')) :
    partAfter symbol part (cons (.symbol symbol) s) = .ok (some a, s') := by
  simp [partAfter, h]

theorem partAfter_of_not_sees {symbol : Symbol} (h : s.sees symbol = false) :
    partAfter symbol part s = .ok (none, s) := by
  simp [partAfter, h]

theorem partAfterKeyword_cons (k : Keyword) (h : part s = .ok (a, s')) :
    partAfterKeyword k part (cons (.keyword k) s) = .ok (some a, s') := by
  simp [partAfterKeyword, h]

theorem partAfterKeyword_of_not_sees {k : Keyword} (h : s.seesKeyword k = false) :
    partAfterKeyword k part s = .ok (none, s) := by
  simp [partAfterKeyword, h]

/-- An optional part behind a symbol. -/
theorem partAfter_partTokens {β : Type} {symbol : Symbol} {part : Parser β} {x : Option β}
    {tokens : β → List Token} (h : ∀ b ∈ x, part (append (tokens b) s) = .ok (b, s))
    (last : s.sees symbol = false) :
    partAfter symbol part (append (partTokens symbol (x.map tokens)) s) = .ok (x, s) := by
  cases x with
  | none => exact partAfter_of_not_sees last
  | some b => exact partAfter_cons symbol (h b rfl)

/-- An optional part behind a keyword. -/
theorem partAfterKeyword_wordTokens {β : Type} {k : Keyword} {part : Parser β} {x : Option β}
    {tokens : β → List Token} (h : ∀ b ∈ x, part (append (tokens b) s) = .ok (b, s))
    (last : s.seesKeyword k = false) :
    partAfterKeyword k part (append (wordTokens k (x.map tokens)) s) = .ok (x, s) := by
  cases x with
  | none => exact partAfterKeyword_of_not_sees last
  | some b => exact partAfterKeyword_cons k (h b rfl)

end

/-! ### Imports -/

theorem dottedName_eq_ok (path : String) (last : s.sees .dot = false) :
    dottedName (append (pathTokens path) s) = .ok (path, s) := by
  have whole : joinWith "." (splitAtChar '.' path) = path := joinWith_splitAtChar '.' path
  rw [pathTokens]
  cases pieces : splitAtChar '.' path with
  | nil =>
    exact absurd pieces (by simpa [splitAtChar] using Text.splitChars_ne_nil '.' path.toList)
  | cons p parts =>
    have more : repeated (partAfter .dot expectName)
        (append (parts.flatMap fun q => [.symbol .dot, .name q]) s) = .ok (parts.map id, s) :=
      repeated_append (fun _ => True) (fun q _ s _ => partAfter_cons _ rfl)
        (fun q _ => ⟨_, _, rfl, trivial⟩) trivial (partAfter_of_not_sees last)
    have tokens_eq : separatedBy (.symbol .dot) ((p :: parts).map fun q => [.name q]) =
        .name p :: parts.flatMap fun q => [.symbol .dot, .name q] := by
      simp [separatedBy, List.flatMap_map]
    rw [tokens_eq, append_cons, dottedName]
    simp [more, ← pieces, whole]

theorem pathTokens_of_isIdentifier {id : String} (h : isIdentifier id = true) :
    pathTokens id = [.name id] := by
  simp [pathTokens, splitAtChar_of_isIdentifier h, separatedBy]

/-- The token may stand behind an imported name. -/
def EndsAlias (t : Token) : Prop :=
  t ≠ .symbol .dot ∧ t ≠ .keyword .asKw

instance (t : Token) : Decidable (EndsAlias t) :=
  inferInstanceAs (Decidable (_ ∧ _))

theorem aliasWith_eq_ok {a : Alias} {name : Parser String} (ends : EndsAlias s.current)
    (h : ∀ s, TokenStream.sees s .dot = false →
      name (append (pathTokens a.name) s) = .ok (a.name, s)) :
    aliasWith name (append a.tokens s) = .ok (a, s) := by
  have renamed : partAfterKeyword .asKw expectName
      (append (wordTokens .asKw (a.asName.map fun n => [.name n])) s) = .ok (a.asName, s) :=
    partAfterKeyword_wordTokens (fun _ _ => rfl) (beq_eq_false_iff_ne.2 ends.2)
  have apart : (append (wordTokens .asKw (a.asName.map fun n => [.name n])) s).sees .dot = false := by
    cases a.asName with
    | none => exact beq_eq_false_iff_ne.2 ends.1
    | some n => rfl
  rw [Alias.tokens, append_append, aliasWith, h _ apart]
  simp [renamed]

theorem pathTokens_starts (path : String) : ∃ p us, pathTokens path = .name p :: us := by
  cases pieces : splitAtChar '.' path with
  | nil =>
    exact absurd pieces (by simpa [splitAtChar] using Text.splitChars_ne_nil '.' path.toList)
  | cons p parts => exact ⟨p, _, by rw [pathTokens, pieces]; rfl⟩

theorem Alias.starts (a : Alias) : ∃ p us, a.tokens = .name p :: us := by
  obtain ⟨p, us, same⟩ := pathTokens_starts a.name
  exact ⟨p, _, by rw [Alias.tokens, same]; rfl⟩

/-- Imported names with commas between them, up to the end of the line. -/
theorem aliases_eq_ok {names : List Alias} {name : Parser String} (filled : names ≠ [])
    (h : ∀ a ∈ names, ∀ s, TokenStream.sees s .dot = false →
      name (append (pathTokens a.name) s) = .ok (a.name, s)) (s : TokenStream) :
    oneOrMore never (aliasWith name) (append (commas (names.map Alias.tokens)) (cons .newline s)) =
      .ok (names, cons .newline s) := by
  have starts : ∀ a ∈ names, ∃ t us, a.tokens = t :: us ∧ never t = false := by
    intro a _
    obtain ⟨p, us, same⟩ := a.starts
    exact ⟨_, us, same, rfl⟩
  have read := oneOrMore_append EndsAlias filled
    (fun a ha s ends => aliasWith_eq_ok ends (h a ha)) starts (by decide)
    (by decide : EndsAlias .newline) (s := cons .newline s) rfl
  rwa [List.map_id'] at read

theorem importedNames_eq_ok {names : List Alias} (h : areImported names = true)
    (s : TokenStream) :
    importedNames (append (importedTokens names) (cons .newline s)) =
      .ok (names, cons .newline s) := by
  simp only [areImported, Bool.or_eq_true, beq_iff_eq, Bool.and_eq_true, List.all_eq_true,
    Option.all_eq_true, Bool.not_eq_true', List.isEmpty_eq_false_iff] at h
  rcases h with rfl | ⟨filled, identifiers⟩
  · rfl
  · have tokens_eq : importedTokens names = commas (names.map Alias.tokens) := by
      cases names with
      | nil => exact absurd rfl filled
      | cons a names =>
        cases names with
        | nil =>
          have star : a.name ≠ "*" := by
            intro star
            exact absurd (star ▸ (identifiers a List.mem_cons_self).1) (by decide)
          simp [importedTokens, star, separatedBy]
        | cons b names => rfl
    have named : ∀ a ∈ names, ∀ s, TokenStream.sees s .dot = false →
        expectName (append (pathTokens a.name) s) = .ok (a.name, s) := by
      intro a ha s _
      rw [pathTokens_of_isIdentifier (identifiers a ha).1]
      rfl
    have read := aliases_eq_ok filled named s
    rw [tokens_eq, importedNames, ← read]
    cases names with
    | nil => exact absurd rfl filled
    | cons a names =>
      obtain ⟨p, us, same⟩ := a.starts
      simp [separatedBy, same]

theorem repeated_levelPart {t : Token} {k m : Nat} {levels : List Nat}
    (read : ∀ s, levelPart (cons t s) = .ok (some k, s))
    (h : repeated levelPart s = .ok (levels, s')) :
    repeated levelPart (append (List.replicate m t) s) =
      .ok (List.replicate m k ++ levels, s') := by
  induction m with
  | zero => exact h
  | succ m ih =>
    exact repeated_of_some (read _) (Nat.lt_succ_self _) ih

theorem foldr_add_replicate (m k start : Nat) :
    (List.replicate m k).foldr Nat.add start = m * k + start := by
  induction m with
  | zero => simp
  | succ m ih =>
    rw [List.replicate_succ, List.foldr_cons, ih, Nat.succ_mul]
    show k + (m * k + start) = m * k + k + start
    omega

/-- The dots before the path of an import count its levels. -/
theorem levels_eq_ok (level : Nat) (dot : s.sees .dot = false)
    (ellipsis : s.sees .ellipsis = false) :
    ∃ levels, repeated levelPart (append (levelTokens level) s) = .ok (levels, s) ∧
      levels.foldr Nat.add 0 = level := by
  have none : repeated levelPart s = .ok ([], s) :=
    repeated_of_none (by simp [levelPart, dot, ellipsis])
  have dots := repeated_levelPart (m := level % 3)
    (fun s => (rfl : levelPart (cons (.symbol .dot) s) = _)) none
  have all := repeated_levelPart (m := level / 3)
    (fun s => (rfl : levelPart (cons (.symbol .ellipsis) s) = _)) dots
  rw [← append_append] at all
  refine ⟨_, all, ?_⟩
  rw [List.foldr_append, List.foldr_append, foldr_add_replicate, foldr_add_replicate, List.foldr_nil]
  omega

theorem importFrom_eq_ok {module : String} {names : List Alias} (level : Nat)
    (path : module = "" ∨ isPath module = true) (imported : areImported names = true)
    (s : TokenStream) :
    importFrom (append (levelTokens level ++ ((if module.isEmpty then [] else pathTokens module) ++
        .keyword .importKw :: importedTokens names)) (cons .newline s)) =
      .ok (.importFrom module names level, cons .newline s) := by
  have read := importedNames_eq_ok imported s
  rcases path with rfl | path
  · obtain ⟨levels, dots, sum⟩ := levels_eq_ok level
      (s := cons (.keyword .importKw) (append (importedTokens names) (cons .newline s))) rfl rfl
    simp [importFrom, dots, read, sum]
  · -- the first token of the path is a name, so the path is not left out
    obtain ⟨p, us, same⟩ := pathTokens_starts module
    have named := dottedName_eq_ok module
      (s := cons (.keyword .importKw) (append (importedTokens names) (cons .newline s))) rfl
    rw [same, append_cons] at named
    obtain ⟨levels, dots, sum⟩ := levels_eq_ok level (s := cons (.name p) (append us
      (cons (.keyword .importKw) (append (importedTokens names) (cons .newline s))))) rfl rfl
    simp [importFrom, isEmpty_of_isPath path, same, dots, named, read, sum]

/-! ### Statements on one line -/

/-- The tokens of the statement up to the end of the line are read as it. -/
def ReadsSmall (stmt : Stmt) : Prop :=
  ∀ ⦃n : Nat⦄ (s : TokenStream), (simpleTokens stmt).length ≤ n →
    smallStatement (nested n) (append (simpleTokens stmt) (cons .newline s)) =
      .ok (stmt, cons .newline s)

theorem smallStatement_of_startsExpression (h : startsExpression s.current = true) :
    smallStatement r s = expressionStatement r s := by
  unfold smallStatement
  split <;> first | rfl | next same => rw [same] at h; cases h

theorem statement_of_startsExpression {b : Blocks} (h : startsExpression s.current = true) :
    statement r b s = simpleStatements r s := by
  unfold statement
  split <;> first | rfl | next same => rw [same] at h; cases h

/-- A statement that starts with a list of expressions. -/
theorem ReadsSmall.of_expression {stmt : Stmt} {t : Token} {us : List Token}
    (starts : simpleTokens stmt = t :: us) (start : startsExpression t = true)
    (h : ∀ ⦃n : Nat⦄ (s : TokenStream), (simpleTokens stmt).length ≤ n →
      expressionStatement (nested n) (append (simpleTokens stmt) (cons .newline s)) =
        .ok (stmt, cons .newline s)) : ReadsSmall stmt := by
  intro n s long
  rw [smallStatement_of_startsExpression]
  · exact h s long
  · rw [starts]
    exact start

theorem readsSmall_expr (value : Legible e) (item : e.isItem = true) : ReadsSmall (.expr e) := by
  obtain ⟨t, us, same, start⟩ := value.bareTokens_starts item
  refine .of_expression same start fun n s long => ?_
  have first := value.starList_eq_ok (s := cons .newline s) item long (by decide : EndsList .newline)
  have none : assignedValues (nested n) (cons .newline s) = .ok ([], cons .newline s) :=
    repeated_of_none (partAfter_of_not_sees rfl)
  simp [simpleTokens, expressionStatement, first, none]

/-- An equals sign and the tokens of a value. -/
def valueTokens (e : Expr) : List Token :=
  .symbol .assign :: e.bareTokens

/-- Equals signs stand behind the targets of an assignment, or before all but the first of them. -/
theorem simpleTokens_assign (t : Expr) (targets : List Expr) (v : Expr) :
    simpleTokens (.assign (t :: targets) v) =
      t.bareTokens ++ (targets ++ [v]).flatMap valueTokens := by
  rw [simpleTokens]
  induction targets generalizing t with
  | nil => simp [valueTokens]
  | cons u targets ih =>
    rw [List.flatMap_cons, List.append_assoc, ih u]
    simp [valueTokens]

theorem readsSmall_assign {targets : List Expr} {v : Expr} (filled : targets ≠ [])
    (legible : ∀ t ∈ targets, Legible t) (items : ∀ t ∈ targets, t.isItem = true)
    (value : Legible v) (item : v.isItem = true) : ReadsSmall (.assign targets v) := by
  cases targets with
  | nil => exact absurd rfl filled
  | cons t targets =>
    have target := legible t List.mem_cons_self
    have later : ∀ x ∈ targets ++ [v], Legible x ∧ x.isItem = true := by
      intro x hx
      rcases List.mem_append.1 hx with hx | hx
      · exact ⟨legible x (List.mem_cons_of_mem _ hx), items x (List.mem_cons_of_mem _ hx)⟩
      · exact List.mem_singleton.1 hx ▸ ⟨value, item⟩
    obtain ⟨u, us, same, start⟩ := target.bareTokens_starts (items t List.mem_cons_self)
    refine .of_expression (by rw [simpleTokens_assign, same]; rfl) start fun n s long => ?_
    rw [simpleTokens_assign, List.length_append] at long
    have values : assignedValues (nested n)
        (append ((targets ++ [v]).flatMap valueTokens) (cons .newline s)) =
        .ok ((targets ++ [v]).map fun x => x, cons .newline s) := by
      refine repeated_append EndsList (fun x hx s ends => ?_)
        (fun x _ => ⟨_, _, rfl, by decide⟩) (by decide : EndsList .newline)
        (partAfter_of_not_sees rfl)
      have short : (valueTokens x).length ≤ ((targets ++ [v]).flatMap valueTokens).length :=
        length_le_flatMap hx
      rw [valueTokens, List.length_cons] at short
      exact partAfter_cons .assign ((later x hx).1.starList_eq_ok (later x hx).2 (by omega) ends)
    have sign : (append ((targets ++ [v]).flatMap valueTokens) (cons .newline s)).current =
        .symbol .assign := by
      cases targets <;> rfl
    rw [simpleTokens_assign, append_append]
    generalize append ((targets ++ [v]).flatMap valueTokens) (cons .newline s) = rest at values sign
    have first := target.starList_eq_ok (items t List.mem_cons_self) (by omega : _ ≤ n)
      (by rw [sign]; decide : EndsList rest.current)
    simp [expressionStatement, first, sign, values]

theorem readsSmall_annAssign {t h : Expr} {v : Option Expr} (target : Legible t)
    (item : t.isItem = true) (hint : Legible h) (stands : h.standsAt Level.test = true)
    (value : ∀ e ∈ v, Legible e) (list : ∀ e ∈ v, e.isTestList = true) :
    ReadsSmall (.annAssign t h v) := by
  obtain ⟨u, us, same, start⟩ := target.readsBack.item_starts item
  refine .of_expression (by rw [simpleTokens, same]; rfl) start fun n s long => ?_
  simp only [simpleTokens, List.length_append, List.length_cons] at long
  have assigned : partAfter .assign (testList (nested n))
      (append (partTokens .assign (v.map Expr.bareTokens)) (cons .newline s)) =
      .ok (v, cons .newline s) := by
    refine partAfter_partTokens (fun e he => ?_) rfl
    rw [he, Option.map_some, partTokens_some, List.length_cons] at long
    exact (value e he).testList_eq_ok (list e he) (by omega) (by decide : EndsList .newline)
  have next : joinLevel (append (partTokens .assign (v.map Expr.bareTokens))
      (cons .newline s)).current = 0 := by
    cases v <;> rfl
  have second := hint.testAt_eq_ok stands (by omega : _ ≤ n) next
  have first := sequence_of_item (target.readsBack.item_eq_ok item (by omega : _ ≤ n)
    (s := cons (.symbol .colon) (append (h.tokensAt Level.test)
      (append (partTokens .assign (v.map Expr.bareTokens)) (cons .newline s))))
    (by decide : EndsItem (.symbol .colon))) rfl
  simp [simpleTokens, expressionStatement, starList, first, second, assigned]

theorem readsSmall_augAssign {t v : Expr} (op : BinaryOp) (target : Legible t)
    (item : t.isItem = true) (value : Legible v) (list : v.isTestList = true) :
    ReadsSmall (.augAssign t op v) := by
  obtain ⟨u, us, same, start⟩ := target.bareTokens_starts item
  refine .of_expression (by rw [simpleTokens, same]; rfl) start fun n s long => ?_
  simp only [simpleTokens, List.length_append, List.length_cons] at long
  have ends : EndsList (.augAssign op) := ⟨⟨rfl, by simp⟩, by simp, rfl⟩
  have first := target.starList_eq_ok (s := cons (.augAssign op) (append v.bareTokens
    (cons .newline s))) item (by omega : _ ≤ n) ends
  have second := value.testList_eq_ok (s := cons .newline s) list (by omega : _ ≤ n)
    (by decide : EndsList .newline)
  simp [simpleTokens, expressionStatement, first, second]

theorem endsStatement_of_startsExpression {t : Token} (h : startsExpression t = true) :
    endsStatement t = false := by
  cases t with
  | symbol symbol => cases symbol <;> first | rfl | cases h
  | newline => cases h
  | endOfInput => cases h
  | _ => rfl

theorem readsSmall_ret {v : Option Expr} (value : ∀ e ∈ v, Legible e)
    (list : ∀ e ∈ v, e.isTestList = true) : ReadsSmall (.ret v) := by
  intro n s long
  cases v with
  | none => rfl
  | some e =>
    simp only [simpleTokens, Option.elim_some, List.length_cons] at long
    obtain ⟨t, us, same, start⟩ := (value e rfl).bareTokens_starts
      (Expr.isItem_of_isTestList (list e rfl))
    have read := (value e rfl).testList_eq_ok (s := cons .newline s) (list e rfl)
      (by omega : _ ≤ n) (by decide : EndsList .newline)
    have goes : endsStatement (append e.bareTokens (cons .newline s)).current = false := by
      rw [same]
      exact endsStatement_of_startsExpression start
    simp [simpleTokens, smallStatement, returned, goes, read]

theorem readsSmall_raise {exception cause : Option Expr}
    (given : cause.isSome = true → exception.isSome = true)
    (legible : ∀ x ∈ [exception, cause], ∀ e ∈ x, Legible e)
    (stand : ∀ x ∈ [exception, cause], ∀ e ∈ x, e.standsAt Level.test = true) :
    ReadsSmall (.raise exception cause) := by
  intro n s long
  cases exception with
  | none =>
    cases cause with
    | none => rfl
    | some c => exact absurd (given rfl) (by decide)
  | some e =>
    simp only [simpleTokens, Option.elim_some, List.length_cons, List.length_append] at long
    have thrown := legible _ List.mem_cons_self e rfl
    have stands := stand _ List.mem_cons_self e rfl
    obtain ⟨t, us, same, start⟩ := thrown.readsBack.item_starts (Expr.isItem_of_standsAt stands)
    have caused : partAfterKeyword .fromKw (test (nested n))
        (append (wordTokens .fromKw (cause.map (Expr.tokensAt Level.test))) (cons .newline s)) =
        .ok (cause, cons .newline s) := by
      refine partAfterKeyword_wordTokens (fun c hc => ?_) rfl
      rw [hc, Option.map_some, wordTokens_some, List.length_cons] at long
      exact (legible cause (by simp) c hc).testAt_eq_ok (stand cause (by simp) c hc) (by omega) rfl
    have next : joinLevel (append (wordTokens .fromKw (cause.map (Expr.tokensAt Level.test)))
        (cons .newline s)).current = 0 := by
      cases cause <;> rfl
    have read := thrown.testAt_eq_ok stands (by omega : _ ≤ n) next
    have goes : endsStatement (append (e.tokensAt Level.test) (append (wordTokens .fromKw
        (cause.map (Expr.tokensAt Level.test))) (cons .newline s))).current = false := by
      rw [same]
      exact endsStatement_of_startsExpression start
    simp [simpleTokens, smallStatement, raised, goes, read, caused]

theorem readsSmall_assertion {t : Expr} {message : Option Expr} (tested : Legible t)
    (stands : t.standsAt Level.test = true) (legible : ∀ e ∈ message, Legible e)
    (stand : ∀ e ∈ message, e.standsAt Level.test = true) : ReadsSmall (.assertion t message) := by
  intro n s long
  simp only [simpleTokens, List.length_cons, List.length_append] at long
  have told : partAfter .comma (test (nested n))
      (append (partTokens .comma (message.map (Expr.tokensAt Level.test))) (cons .newline s)) =
      .ok (message, cons .newline s) := by
    refine partAfter_partTokens (fun m hm => ?_) rfl
    rw [hm, Option.map_some, partTokens_some, List.length_cons] at long
    exact (legible m hm).testAt_eq_ok (stand m hm) (by omega) rfl
  have next : joinLevel (append (partTokens .comma (message.map (Expr.tokensAt Level.test)))
      (cons .newline s)).current = 0 := by
    cases message <;> rfl
  have read := tested.testAt_eq_ok stands (by omega : _ ≤ n) next
  simp [simpleTokens, smallStatement, asserted, read, told]

theorem readsSmall_delete {targets : List Expr} (filled : targets ≠ [])
    (legible : ∀ t ∈ targets, Legible t) (items : ∀ t ∈ targets, t.isItem = true) :
    ReadsSmall (.delete targets) := by
  intro n s long
  simp only [simpleTokens, List.length_cons] at long
  cases targets with
  | nil => exact absurd rfl filled
  | cons t targets =>
    have read := ReadsTarget.targetList_eq_ok (n := n) (s := cons .newline s)
      ⟨fun x hx => (legible x hx).readsBack, items, fun x hx =>
        Nat.le_trans (length_le_commas (List.mem_map_of_mem hx)) (by omega)⟩
      (by decide : joinLevel .newline < Level.bitOr) rfl
    simp only [simpleTokens, append_cons, smallStatement, current_cons, advance_cons, read]
    rfl

theorem readsSmall_global {names : List String} (filled : names ≠ []) :
    ReadsSmall (.global names) := by
  intro n s long
  have starts : ∀ n ∈ names, ∃ t us, [Token.name n] = t :: us ∧ never t = false :=
    fun n _ => ⟨_, _, rfl, rfl⟩
  have read := oneOrMore_append (fun _ => True) filled
    (fun (n : String) _ s _ => (rfl : expectName (append [.name n] s) = .ok (n, s))) starts
    trivial trivial (s := cons .newline s) rfl
  rw [List.map_id'] at read
  simp only [simpleTokens, append_cons, smallStatement, current_cons, advance_cons, read]
  rfl

theorem readsSmall_importModules {names : List Alias} (filled : names ≠ []) :
    ReadsSmall (.importModules names) := by
  intro n s long
  have read := aliases_eq_ok filled (fun a _ s last => dottedName_eq_ok a.name last) s
  simp only [simpleTokens, append_cons, smallStatement, current_cons, advance_cons, read]
  rfl

theorem readsSmall_importFrom {module : String} {names : List Alias} (level : Nat)
    (path : module = "" ∨ isPath module = true) (imported : areImported names = true) :
    ReadsSmall (.importFrom module names level) := by
  intro n s long
  rw [simpleTokens, append_cons]
  exact importFrom_eq_ok level path imported s

/-! ### Statements and blocks -/

/-- The token goes on with the statement before it. -/
def continuesStatement : Token → Bool
  | .keyword .elseKw | .keyword .elifKw | .keyword .exceptKw | .keyword .finallyKw => true
  | _ => false

/-- The token may be the first one of a statement. -/
def opensStatement : Token → Bool
  | .dedent | .endOfInput | .newline => false
  | t => !continuesStatement t

theorem seesKeyword_of_not_continues (k : Keyword) (h : continuesStatement s.current = false)
    (continues : continuesStatement (.keyword k) = true) : s.seesKeyword k = false := by
  rw [TokenStream.seesKeyword, beq_eq_false_iff_ne]
  intro same
  rw [same, continues] at h
  cases h

theorem continuesStatement_of_opensStatement {t : Token} (h : opensStatement t = true) :
    continuesStatement t = false := by
  unfold opensStatement at h
  split at h <;> first | cases h | simpa using h

theorem opensStatement_of_startsExpression {t : Token} (h : startsExpression t = true) :
    opensStatement t = true := by
  cases t with
  | keyword k => cases k <;> first | rfl | cases h
  | newline | dedent | endOfInput => cases h
  | _ => rfl

/-- The tokens of the statement are read as it, in front of any token that does not go on with it.
A condition is also read as the next branch of another one. -/
structure ReadsStmt (stmt : Stmt) : Prop where
  reads : ∀ ⦃n k : Nat⦄ ⦃s : TokenStream⦄, (stmt.tokens .ifKw).length ≤ n →
    (stmt.tokens .ifKw).length ≤ k → continuesStatement s.current = false →
    statement (nested n) (blocks (nested n) k) (append (stmt.tokens .ifKw) s) = .ok ([stmt], s)
  chains : stmt.isCondition = true → ∀ (word : Keyword) ⦃n k : Nat⦄ ⦃s : TokenStream⦄,
    (stmt.tokens word).length ≤ n → (stmt.tokens word).length ≤ k →
    continuesStatement s.current = false →
    condition (nested n) (blocks (nested n) k) (append (stmt.tokens word) s) = .ok (stmt, s)
  opens : ∃ t us, stmt.tokens .ifKw = t :: us ∧ opensStatement t = true

/-- The statement of a line and the end of the line. -/
theorem simpleStatements_of_small {stmt : Stmt}
    (h : smallStatement r s = .ok (stmt, cons .newline s')) :
    simpleStatements r s = .ok ([stmt], s') := by
  have none : repeated (furtherStatement r) (cons .newline s') = .ok ([], cons .newline s') :=
    repeated_of_none (by simp [furtherStatement])
  simp [simpleStatements, h, none]

/-- The token starts no statement with blocks. -/
def opensLine (t : Token) : Prop :=
  opensStatement t = true ∧ ∀ r b rest, statement r b ⟨t, rest⟩ = simpleStatements r ⟨t, rest⟩

theorem opensLine_of_startsExpression {t : Token} (h : startsExpression t = true) : opensLine t :=
  ⟨opensStatement_of_startsExpression h, fun _ _ _ => statement_of_startsExpression h⟩

/-- A statement on one line. -/
theorem ReadsSmall.readsStmt {stmt : Stmt} (h : ReadsSmall stmt) (simple : stmt.isSimple = true)
    (opens : ∃ t us, simpleTokens stmt = t :: us ∧ opensLine t) : ReadsStmt stmt := by
  obtain ⟨t, us, same, line⟩ := opens
  refine ⟨fun n k s long _ _ => ?_, fun chain => ?_, ?_⟩
  · rw [Stmt.tokens_of_isSimple simple, List.length_append] at long
    have read := h s (by omega : _ ≤ n)
    rw [Stmt.tokens_of_isSimple simple, append_append]
    refine Eq.trans ?_ (simpleStatements_of_small read)
    rw [same]
    exact line.2 _ _ _
  · have blocks : stmt.isSimple = false := by cases stmt <;> first | rfl | cases chain
    rw [blocks] at simple
    cases simple
  · rw [Stmt.tokens_of_isSimple simple, same]
    exact ⟨t, _, rfl, line.1⟩

theorem blockPart_of_statement {b : Blocks} {stmts : Block} (opens : opensStatement s.current = true)
    (h : statement r b s = .ok (stmts, s')) : blockPart r b s = .ok (some stmts, s') := by
  unfold blockPart
  split
  · next same => rw [same] at opens; cases opens
  · next same => rw [same] at opens; cases opens
  · next same => rw [same] at opens; cases opens
  · simp [h]

theorem scriptPart_of_statement {b : Blocks} {stmts : Block}
    (opens : opensStatement s.current = true) (h : statement r b s = .ok (stmts, s')) :
    scriptPart r b s = .ok (some stmts, s') := by
  unfold scriptPart
  split
  · next same => rw [same] at opens; cases opens
  · next same => rw [same] at opens; cases opens
  · simp [h]

/-- Statements one behind the other, as the parts of a block or a script. -/
theorem repeated_statements {part : Parser (Option Block)} {body : Block} {k : Nat}
    (h : ∀ x ∈ body, ReadsStmt x) (long : (blockTokens body).length ≤ n)
    (long' : (blockTokens body).length ≤ k)
    (parts : ∀ stmts s s', opensStatement (TokenStream.current s) = true →
      statement (nested n) (blocks (nested n) k) s = .ok (stmts, s') →
      part s = .ok (some stmts, s'))
    (next : continuesStatement s.current = false) (last : part s = .ok (none, s')) :
    repeated part (append (blockTokens body) s) = .ok (body.map fun x => [x], s') := by
  rw [blockTokens_eq] at long long' ⊢
  refine repeated_append (fun t => continuesStatement t = false) (fun x hx s follow => ?_)
    (fun x hx => ?_) next last
  · obtain ⟨t, us, same, opens⟩ := (h x hx).opens
    refine parts _ _ _ ?_ ((h x hx).reads (Nat.le_trans (length_le_flatMap hx) long)
      (Nat.le_trans (length_le_flatMap hx) long') follow)
    rw [same]
    exact opens
  · obtain ⟨t, us, same, opens⟩ := (h x hx).opens
    exact ⟨t, us, same, continuesStatement_of_opensStatement opens⟩

/-- A block is read where one level more may be open. -/
theorem block_eq_ok {body : Block} {k : Nat} (h : ∀ x ∈ body, ReadsStmt x)
    (long : (suiteTokens (blockTokens body)).length ≤ n)
    (long' : (suiteTokens (blockTokens body)).length ≤ k) (s : TokenStream) :
    (blocks (nested n) k).block (append (suiteTokens (blockTokens body)) s) = .ok (body, s) := by
  simp only [suiteTokens, List.length_cons, List.length_append, List.length_nil] at long long'
  obtain ⟨m, rfl⟩ : ∃ m, k = m + 1 := ⟨k - 1, by omega⟩
  have parts : repeated (blockPart (nested n) (blocks (nested n) m))
      (append (blockTokens body) (cons .dedent s)) = .ok (body.map fun x => [x], s) :=
    repeated_statements h (by omega) (by omega) (fun _ _ _ opens => blockPart_of_statement opens)
      rfl rfl
  have flat : (body.map fun x => [x]).flatten = body := by
    rw [← List.flatMap_def, List.flatMap_singleton']
  simp [blocks, block, suiteTokens, parts, flat]

/-- A further clause, which may be missing. -/
theorem blockAfter_eq_ok {body : Block} {m : Nat} (k : Keyword) (h : ∀ x ∈ body, ReadsStmt x)
    (long : (clauseTokens k body (blockTokens body)).length ≤ n)
    (long' : (clauseTokens k body (blockTokens body)).length ≤ m)
    (last : s.seesKeyword k = false) :
    blockAfter (blocks (nested n) m) k (append (clauseTokens k body (blockTokens body)) s) =
      .ok (body, s) := by
  cases body with
  | nil => simp [clauseTokens, blockAfter, last]
  | cons x body =>
    simp only [clauseTokens, List.isEmpty_cons, Bool.false_eq_true, if_false, List.length_cons]
      at long long' ⊢
    have read := block_eq_ok h (by omega : _ ≤ n) (by omega : _ ≤ m) s
    simp [blockAfter, read]

theorem current_clauseTokens (k : Keyword) (body : Block) (ts : List Token) (s : TokenStream) :
    (append (clauseTokens k body ts) s).current = if body.isEmpty then s.current else .keyword k := by
  cases body <;> rfl

/-! ### Definitions -/

section

variable {body : Block} {k : Nat}

theorem functionDef_eq_ok (name : String) {params : List (Param Expr)} {returns : Option Expr}
    (isAsync : Bool) (decorators : List Expr) (kinds : kindsStand false params = true)
    (hints : ∀ p ∈ params, ∀ e ∈ p.hint, Legible e)
    (presets : ∀ p ∈ params, ∀ e ∈ p.preset, Legible e)
    (stand : ∀ p ∈ params, p.stands true = true) (result : ∀ e ∈ returns, Legible e)
    (stands : ∀ e ∈ returns, e.standsAt Level.test = true) (h : ∀ x ∈ body, ReadsStmt x)
    (long : (functionTokens isAsync name params returns ++
      suiteTokens (blockTokens body)).length ≤ n)
    (long' : (functionTokens isAsync name params returns ++
      suiteTokens (blockTokens body)).length ≤ k) (s : TokenStream) :
    Grammar.functionDef (nested n) (blocks (nested n) k) decorators
        (append (functionTokens isAsync name params returns ++ suiteTokens (blockTokens body)) s) =
      .ok (.functionDef ⟨name, params, body, decorators, returns, isAsync⟩, s) := by
  simp only [functionTokens, between, List.length_append, List.length_cons] at long long'
  have inner := block_eq_ok h (by omega : _ ≤ n) (by omega : _ ≤ k) s
  have arrow : partAfter .arrow (test (nested n))
      (append (partTokens .arrow (returns.map (Expr.tokensAt Level.test)))
        (append (suiteTokens (blockTokens body)) s)) =
      .ok (returns, append (suiteTokens (blockTokens body)) s) := by
    refine partAfter_partTokens (fun e he => ?_) rfl
    rw [he, Option.map_some, partTokens_some, List.length_cons] at long
    exact (result e he).testAt_eq_ok (stands e he) (by omega) rfl
  have read : Grammar.params .rightParen true (test (nested n)) _ = _ :=
    params_eq_ok (rfl : closesParams true .rightParen = true)
      (fun p hp => ⟨fun e he => (hints p hp e he).readsBack,
        fun e he => (presets p hp e he).readsBack, stand p hp⟩) kinds (by omega : _ ≤ n)
      (append (partTokens .arrow (returns.map (Expr.tokensAt Level.test)))
        (append (suiteTokens (blockTokens body)) s))
  cases isAsync <;>
    simp [Grammar.functionDef, functionTokens, between, read, arrow, inner]

theorem classDef_eq_ok {name : String} {bases : List Expr} {keywords : List (Argument Expr)}
    (decorators : List Expr) (legible : ∀ x ∈ bases, Legible x)
    (items : ∀ x ∈ bases, x.isItem = true) (values : ∀ k ∈ keywords, Legible k.value)
    (stand : ∀ k ∈ keywords, k.value.standsAt (argumentLevel k.name) = true)
    (h : ∀ x ∈ body, ReadsStmt x)
    (long : (classTokens name bases keywords ++ suiteTokens (blockTokens body)).length ≤ n)
    (long' : (classTokens name bases keywords ++ suiteTokens (blockTokens body)).length ≤ k)
    (s : TokenStream) :
    Grammar.classDef (nested n) (blocks (nested n) k) decorators
        (append (classTokens name bases keywords ++ suiteTokens (blockTokens body)) s).advance =
      .ok (.classDef ⟨name, bases, keywords, body, decorators⟩, s) := by
  have arguments : ∀ a ∈ argsOf bases keywords, ReadsArg a := by
    intro a ha
    rcases mem_argsOf ha with ⟨x, hx, rfl⟩ | ⟨k, hk, rfl⟩
    · exact .positional (legible x hx).readsBack (items x hx)
    · exact .keyword (values k hk).readsBack (stand k hk)
  simp only [classTokens, List.length_append, List.length_cons] at long long'
  have inner := block_eq_ok h (by omega : _ ≤ n) (by omega : _ ≤ k) s
  by_cases none : argsOf bases keywords = []
  · obtain ⟨rfl, rfl⟩ : bases = [] ∧ keywords = [] := by simpa [argsOf] using none
    have plain : (append (suiteTokens (blockTokens body)) s).sees .leftParen = false := rfl
    simp [Grammar.classDef, classTokens, argsOf, plain, inner, positionals, Grammar.keywords]
  · have filled : (argsOf bases keywords).isEmpty = false := by simpa using none
    simp only [filled, Bool.false_eq_true, if_false, between, List.length_cons, List.length_append]
      at long
    obtain ⟨m, rfl⟩ : ∃ m, n = m + 1 := ⟨n - 1, by omega⟩
    have read := callArgs_eq_ok arguments (by omega : _ ≤ m)
      (append (suiteTokens (blockTokens body)) s)
    simp [Grammar.classDef, classTokens, filled, between, read, inner, positionals_argsOf,
      keywords_argsOf]

theorem decorators_eq_ok {decorators : List Expr} (legible : ∀ e ∈ decorators, Legible e)
    (stand : ∀ e ∈ decorators, e.standsAt Level.test = true)
    (long : (decoratorTokens decorators).length ≤ n) (last : s.sees .atSign = false) :
    repeated (decorator (nested n)) (append (decoratorTokens decorators) s) =
      .ok (decorators, s) := by
  have read : repeated (decorator (nested n)) (append (decorators.flatMap decoratorLine) s) =
      .ok (decorators.map fun e => e, s) := by
    refine repeated_append (fun _ => True) (fun e he s _ => ?_) (fun e _ => ⟨_, _, rfl, trivial⟩)
      trivial ?_
    · have short := Nat.le_trans (length_le_flatMap he) long
      rw [decoratorLine, List.length_cons, List.length_append] at short
      have test := (legible e he).testAt_eq_ok (s := cons .newline s) (stand e he)
        (by omega : _ ≤ n) rfl
      simp [decorator, decoratorLine, test]
    · simp [decorator, last]
  rwa [List.map_id'] at read

/-- The definition behind its decorators. -/
def afterDecorators (r : Nested) (b : Blocks) (decorators : List Expr) : Parser Stmt := fun s =>
  match s.current with
  | .keyword .defKw | .keyword .asyncKw => Grammar.functionDef r b decorators s
  | .keyword .classKw => Grammar.classDef r b decorators s.advance
  | _ => .error (s.unexpected .decorated)

theorem decorated_eq (r : Nested) (b : Blocks) (s : TokenStream) :
    decorated r b s = repeated (decorator r) s >>= fun x => afterDecorators r b x.1 x.2 := rfl

/-- A definition is read alike with and without decorators. -/
theorem ReadsStmt.of_definition {stmt : Stmt} {decorators : List Expr} {t : Token}
    (tokens_eq : ∀ word, stmt.tokens word = decoratorTokens decorators ++ t :: ts)
    (definition : stmt.isCondition = false) (opens : opensStatement t = true)
    (sign : t ≠ .symbol .atSign) (legible : ∀ e ∈ decorators, Legible e)
    (stand : ∀ e ∈ decorators, e.standsAt Level.test = true)
    (bare : ∀ r b s, statement r b (append (t :: ts) s) =
      single (afterDecorators r b []) (append (t :: ts) s))
    (read : ∀ ⦃n k : Nat⦄ (s : TokenStream), (t :: ts).length ≤ n → (t :: ts).length ≤ k →
      afterDecorators (nested n) (blocks (nested n) k) decorators (append (t :: ts) s) =
        .ok (stmt, s)) : ReadsStmt stmt := by
  refine ⟨fun n k s long long' _ => ?_, fun chain => ?_, ?_⟩
  · rw [tokens_eq, List.length_append] at long long'
    have whole := read s (by omega : _ ≤ n) (by omega : _ ≤ k)
    have last : (append (t :: ts) s).sees .atSign = false := beq_eq_false_iff_ne.2 sign
    have above := decorators_eq_ok legible stand (by omega : _ ≤ n) last
    rw [tokens_eq, append_append]
    cases decorators with
    | nil =>
      rw [decoratorTokens, List.flatMap_nil, append_nil, bare]
      simp only [single, whole, ok_bind]
      rfl
    | cons e decorators =>
      have first : statement (nested n) (blocks (nested n) k)
          (append (decoratorTokens (e :: decorators)) (append (t :: ts) s)) =
          single (decorated (nested n) (blocks (nested n) k))
            (append (decoratorTokens (e :: decorators)) (append (t :: ts) s)) := rfl
      rw [first]
      simp only [single, decorated_eq, above, whole, ok_bind]
      rfl
  · rw [definition] at chain
    cases chain
  · rw [tokens_eq]
    cases decorators with
    | nil => exact ⟨t, ts, rfl, opens⟩
    | cons e decorators => exact ⟨_, _, rfl, rfl⟩

end

theorem readsStmt_functionDef {name : String} {params : List (Param Expr)} {body : Block}
    {decorators : List Expr} {returns : Option Expr} {isAsync : Bool}
    (decorated : ∀ e ∈ decorators, Legible e)
    (standDecorators : ∀ e ∈ decorators, e.standsAt Level.test = true)
    (kinds : kindsStand false params = true) (hints : ∀ p ∈ params, ∀ e ∈ p.hint, Legible e)
    (presets : ∀ p ∈ params, ∀ e ∈ p.preset, Legible e)
    (stand : ∀ p ∈ params, p.stands true = true) (result : ∀ e ∈ returns, Legible e)
    (stands : ∀ e ∈ returns, e.standsAt Level.test = true) (h : ∀ x ∈ body, ReadsStmt x) :
    ReadsStmt (.functionDef ⟨name, params, body, decorators, returns, isAsync⟩) := by
  cases isAsync with
  | false =>
    refine .of_definition (fun _ => by rw [Stmt.tokens]; rfl) rfl rfl (by decide) decorated
      standDecorators (fun _ _ _ => rfl) fun n k s long long' => ?_
    exact functionDef_eq_ok name false decorators kinds hints presets stand result stands h long
      long' s
  | true =>
    refine .of_definition (fun _ => by rw [Stmt.tokens]; rfl) rfl rfl (by decide) decorated
      standDecorators (fun _ _ _ => rfl) fun n k s long long' => ?_
    exact functionDef_eq_ok name true decorators kinds hints presets stand result stands h long
      long' s

theorem readsStmt_classDef {name : String} {bases : List Expr} {keywords : List (Argument Expr)}
    {body : Block} {decorators : List Expr} (decorated : ∀ e ∈ decorators, Legible e)
    (standDecorators : ∀ e ∈ decorators, e.standsAt Level.test = true)
    (legible : ∀ x ∈ bases, Legible x) (items : ∀ x ∈ bases, x.isItem = true)
    (values : ∀ k ∈ keywords, Legible k.value)
    (stand : ∀ k ∈ keywords, k.value.standsAt (argumentLevel k.name) = true)
    (h : ∀ x ∈ body, ReadsStmt x) :
    ReadsStmt (.classDef ⟨name, bases, keywords, body, decorators⟩) := by
  refine .of_definition (fun _ => by rw [Stmt.tokens]; rfl) rfl rfl (by decide) decorated
    standDecorators (fun _ _ _ => rfl) fun n k s long long' => ?_
  exact classDef_eq_ok decorators legible items values stand h long long' s

/-! ### Conditions, loops and other statements with blocks -/

/-- A statement with blocks that is no condition, told from the parser behind its first word. -/
theorem ReadsStmt.of_keyword (parser : Nested → Blocks → Parser Stmt) {stmt : Stmt} {k : Keyword}
    (tokens_eq : ∀ word, stmt.tokens word = .keyword k :: ts)
    (other : stmt.isCondition = false) (opens : opensStatement (.keyword k) = true)
    (dispatch : ∀ r b s, statement r b (cons (.keyword k) s) = single (parser r b) s)
    (read : ∀ ⦃n m : Nat⦄ (s : TokenStream), ts.length ≤ n → ts.length ≤ m →
      continuesStatement s.current = false →
      parser (nested n) (blocks (nested n) m) (append ts s) = .ok (stmt, s)) : ReadsStmt stmt := by
  refine ⟨fun n m s long long' follow => ?_, fun chain => ?_, ?_⟩
  · rw [tokens_eq, List.length_cons] at long long'
    rw [tokens_eq, append_cons, dispatch, single, read s (by omega) (by omega) follow]
    rfl
  · rw [other] at chain
    cases chain
  · exact ⟨_, _, tokens_eq .ifKw, opens⟩

section

variable {body orelse : Block}

/-- A test in front of a block. -/
theorem Legible.namedTest_suite (h : Legible e) (stands : e.standsAt Level.test = true)
    (long : (e.tokensAt Level.test).length ≤ n) (ts : List Token) (s : TokenStream) :
    namedTest (test (nested n)) (append (e.tokensAt Level.test) (append (suiteTokens ts) s)) =
      .ok (e, append (suiteTokens ts) s) :=
  (h.readsBack.at_ stands (by decide) (by decide)).namedTest_eq_ok long rfl
    (by decide : Token.symbol .colon ≠ .symbol .colonEq)

theorem readsStmt_ifElse (tested : Legible e) (stands : e.standsAt Level.test = true)
    (h : ∀ x ∈ body, ReadsStmt x) (hElse : ∀ x ∈ orelse, ReadsStmt x) :
    ReadsStmt (.ifElse e body orelse) := by
  have chains (word : Keyword) ⦃n k : Nat⦄ ⦃s : TokenStream⦄
      (long : ((Stmt.ifElse e body orelse).tokens word).length ≤ n)
      (long' : ((Stmt.ifElse e body orelse).tokens word).length ≤ k)
      (follow : continuesStatement s.current = false) :
      condition (nested n) (blocks (nested n) k)
        (append ((Stmt.ifElse e body orelse).tokens word) s) =
          .ok (.ifElse e body orelse, s) := by
    simp only [Stmt.tokens, List.length_cons, List.length_append] at long long'
    have first := tested.namedTest_suite stands (by omega : _ ≤ n) (blockTokens body)
      (append (orelseTokens orelse) s)
    have inner := block_eq_ok h (by omega : _ ≤ n) (by omega : _ ≤ k)
      (append (orelseTokens orelse) s)
    simp only [Stmt.tokens, append_cons, append_append, condition, advance_cons, first, inner,
      ok_bind]
    rcases orelse_cases orelse with ⟨x, rfl, chain, tokens_eq, -⟩ | ⟨tokens_eq, -⟩
    · -- the next branch is read by the condition parser one level further in
      rw [tokens_eq] at long long' ⊢
      obtain ⟨m, rfl⟩ : ∃ m, k = m + 1 := ⟨k - 1, by omega⟩
      have other := (hElse x List.mem_cons_self).chains chain .elifKw (by omega : _ ≤ n)
        (by omega : _ ≤ m) follow
      have elif : (append (x.tokens .elifKw) s).seesKeyword .elifKw = true := by
        cases x with
        | ifElse =>
          rw [Stmt.tokens]
          rfl
        | _ => cases chain
      simp [elif, blocks, other]
    · rw [tokens_eq] at long long' ⊢
      have other := blockAfter_eq_ok .elseKw hElse (by omega : _ ≤ n) (by omega : _ ≤ k)
        (seesKeyword_of_not_continues .elseKw follow rfl)
      have elif : (append (clauseTokens .elseKw orelse (blockTokens orelse)) s).seesKeyword .elifKw =
          false := by
        rw [TokenStream.seesKeyword, current_clauseTokens]
        split
        · exact seesKeyword_of_not_continues .elifKw follow rfl
        · rfl
      simp [elif, other]
  refine ⟨fun n k s long long' follow => ?_, fun _ => chains, ?_⟩
  · have read := chains .ifKw long long' follow
    have first : statement (nested n) (blocks (nested n) k)
        (append ((Stmt.ifElse e body orelse).tokens .ifKw) s) =
        single (condition (nested n) (blocks (nested n) k))
          (append ((Stmt.ifElse e body orelse).tokens .ifKw) s) := by
      rw [Stmt.tokens]
      rfl
    rw [first, single, read]
    rfl
  · rw [Stmt.tokens]
    exact ⟨_, _, rfl, rfl⟩

theorem readsStmt_whileLoop (tested : Legible e) (stands : e.standsAt Level.test = true)
    (h : ∀ x ∈ body, ReadsStmt x) (hElse : ∀ x ∈ orelse, ReadsStmt x) :
    ReadsStmt (.whileLoop e body orelse) := by
  refine .of_keyword Grammar.whileLoop (fun _ => by rw [Stmt.tokens]) rfl rfl
    (fun _ _ _ => rfl) fun n k s long long' follow => ?_
  simp only [List.length_append] at long long'
  have first := tested.namedTest_suite stands (by omega : _ ≤ n) (blockTokens body)
    (append (clauseTokens .elseKw orelse (blockTokens orelse)) s)
  have inner := block_eq_ok h (by omega : _ ≤ n) (by omega : _ ≤ k)
    (append (clauseTokens .elseKw orelse (blockTokens orelse)) s)
  have other := blockAfter_eq_ok .elseKw hElse (by omega : _ ≤ n) (by omega : _ ≤ k)
    (seesKeyword_of_not_continues .elseKw follow rfl)
  simp [Grammar.whileLoop, first, inner, other]

theorem readsStmt_forLoop {t i : Expr} (targets : ∀ x ∈ t.bareItems, Legible x)
    (isTarget : t.isTarget = true) (iter : Legible i) (list : i.isTestList = true)
    (h : ∀ x ∈ body, ReadsStmt x) (hElse : ∀ x ∈ orelse, ReadsStmt x) :
    ReadsStmt (.forLoop t i body orelse) := by
  have tokens_eq (word : Keyword) : (Stmt.forLoop t i body orelse).tokens word =
      .keyword .forKw :: (t.bareTokens ++ .keyword .inKw :: (i.bareTokens ++
        (suiteTokens (blockTokens body) ++ clauseTokens .elseKw orelse (blockTokens orelse)))) := by
    simp [Stmt.tokens, forTokens]
  refine .of_keyword Grammar.forLoop tokens_eq rfl rfl (fun _ _ _ => rfl)
    fun n k s long long' follow => ?_
  simp only [List.length_append, List.length_cons] at long long'
  have first := target_eq_ok (fun x hx => (targets x hx).readsBack) (List.all_eq_true.1 isTarget)
    (by omega : _ ≤ n) (append i.bareTokens (append (suiteTokens (blockTokens body))
      (append (clauseTokens .elseKw orelse (blockTokens orelse)) s)))
  have second := iter.testList_eq_ok (s := append (suiteTokens (blockTokens body))
      (append (clauseTokens .elseKw orelse (blockTokens orelse)) s)) list (by omega : _ ≤ n)
    (by decide : EndsList (.symbol .colon))
  have inner := block_eq_ok h (by omega : _ ≤ n) (by omega : _ ≤ k)
    (append (clauseTokens .elseKw orelse (blockTokens orelse)) s)
  have other := blockAfter_eq_ok .elseKw hElse (by omega : _ ≤ n) (by omega : _ ≤ k)
    (seesKeyword_of_not_continues .elseKw follow rfl)
  simp [Grammar.forLoop, first, second, inner, other]

theorem withItem_eq_ok {x : WithItem} (context : Legible x.context)
    (stands : x.context.standsAt Level.test = true) (targets : ∀ e ∈ x.target, Legible e)
    (items : ∀ e ∈ x.target, e.isItem = true) (long : x.tokens.length ≤ n)
    (ends : EndsItem s.current) (last : s.current ≠ .keyword .asKw) :
    withItem (nested n) (append x.tokens s) = .ok (x, s) := by
  rw [WithItem.tokens, List.length_append] at long
  have bound : partAfterKeyword .asKw (starOperand (bitOr (nested n)))
      (append (wordTokens .asKw (x.target.map (Expr.tokensAt Level.bitOr))) s) =
      .ok (x.target, s) := by
    refine partAfterKeyword_wordTokens (fun e he => ?_) (beq_eq_false_iff_ne.2 last)
    rw [he, Option.map_some, wordTokens_some, List.length_cons] at long
    exact (targets e he).readsBack.starOperand_eq_ok (items e he) (by omega)
      (by rw [ends.1]; decide)
  have next : joinLevel (append (wordTokens .asKw (x.target.map (Expr.tokensAt Level.bitOr)))
      s).current = 0 := by
    cases x.target with
    | none => exact ends.1
    | some => rfl
  have read := context.testAt_eq_ok stands (by omega : _ ≤ n) next
  simp [WithItem.tokens, withItem, read, bound]

theorem readsStmt_withBlock {items : List WithItem} (filled : items ≠ [])
    (contexts : ∀ x ∈ items, Legible x.context)
    (stand : ∀ x ∈ items, x.context.standsAt Level.test = true)
    (targets : ∀ x ∈ items, ∀ e ∈ x.target, Legible e)
    (isItem : ∀ x ∈ items, ∀ e ∈ x.target, e.isItem = true) (h : ∀ x ∈ body, ReadsStmt x) :
    ReadsStmt (.withBlock items body) := by
  have tokens_eq (word : Keyword) : (Stmt.withBlock items body).tokens word =
      .keyword .withKw :: (commas (items.map WithItem.tokens) ++
        suiteTokens (blockTokens body)) := by
    simp [Stmt.tokens, withTokens]
  refine .of_keyword Grammar.withBlock tokens_eq rfl rfl (fun _ _ _ => rfl)
    fun n k s long long' follow => ?_
  simp only [List.length_append] at long long'
  have inner := block_eq_ok h (by omega : _ ≤ n) (by omega : _ ≤ k) s
  have starts : ∀ x ∈ items, ∃ t us, x.tokens = t :: us ∧ never t = false := by
    intro x hx
    obtain ⟨t, us, same, -⟩ := (contexts x hx).readsBack.item_starts
      (Expr.isItem_of_standsAt (stand x hx))
    exact ⟨t, _, by rw [WithItem.tokens, same]; rfl, rfl⟩
  have read := oneOrMore_append (fun t => EndsItem t ∧ t ≠ .keyword .asKw) filled
    (fun x hx s follow => withItem_eq_ok (contexts x hx) (stand x hx) (targets x hx) (isItem x hx)
      (Nat.le_trans (length_le_commas (List.mem_map_of_mem hx)) (by omega : _ ≤ n)) follow.1
      follow.2) starts (by decide)
    (by decide : EndsItem (.symbol .colon) ∧ Token.symbol .colon ≠ .keyword .asKw)
    (s := append (suiteTokens (blockTokens body)) s) rfl
  rw [List.map_id'] at read
  simp [Grammar.withBlock, read, inner]

theorem handler_eq_ok {x : Handler Stmt} {k : Nat} (kinds : ∀ e ∈ x.kind, Legible e)
    (stand : ∀ e ∈ x.kind, e.standsAt Level.test = true)
    (named : ∀ n ∈ x.name, x.kind.isSome = true) (h : ∀ y ∈ x.body, ReadsStmt y)
    (long : x.tokens.length ≤ n) (long' : x.tokens.length ≤ k) (s : TokenStream) :
    handler (nested n) (blocks (nested n) k) (append x.tokens s) = .ok (some x, s) := by
  obtain ⟨kind, name, body⟩ := x
  replace h : ∀ y ∈ body, ReadsStmt y := h
  simp only [Handler.tokens, handlerTokens, List.length_append, List.length_cons] at long long'
  have inner : (blocks (nested n) k).block (append (suiteTokens (blockTokens body)) s) =
      .ok (body, s) := block_eq_ok h (by omega) (by omega) s
  have head : handlerHead (nested n) (append (kind.elim [] fun e => e.tokensAt Level.test ++
      wordTokens .asKw (name.map fun n => [.name n])) (append (suiteTokens (blockTokens body)) s)) =
      .ok ((kind, name), append (suiteTokens (blockTokens body)) s) := by
    cases kind with
    | none =>
      cases name with
      | none => rfl
      | some n => cases named n rfl
    | some e =>
      simp only [Option.elim_some, List.length_append] at long
      have renamed : partAfterKeyword .asKw expectName
          (append (wordTokens .asKw (name.map fun n => [.name n]))
            (append (suiteTokens (blockTokens body)) s)) =
          .ok (name, append (suiteTokens (blockTokens body)) s) :=
        partAfterKeyword_wordTokens (fun _ _ => rfl) rfl
      have next : joinLevel (append (wordTokens .asKw (name.map fun n => [.name n]))
          (append (suiteTokens (blockTokens body)) s)).current = 0 := by
        cases name <;> rfl
      have read := (kinds e rfl).testAt_eq_ok (stand e rfl) (by omega : _ ≤ n) next
      have typed := (kinds e rfl).readsBack.sees_of_item (Expr.isItem_of_standsAt (stand e rfl))
        (append (wordTokens .asKw (name.map fun n => [.name n]))
          (append (suiteTokens (blockTokens body)) s)) .colon rfl
      simp [handlerHead, typed, read, renamed]
  simp [Handler.tokens, handlerTokens, handler, head, inner]

theorem readsStmt_tryBlock {handlers : List (Handler Stmt)} {finalBody : Block}
    (ends : handlers ≠ [] ∨ finalBody ≠ []) (kinds : ∀ x ∈ handlers, ∀ e ∈ x.kind, Legible e)
    (stand : ∀ x ∈ handlers, ∀ e ∈ x.kind, e.standsAt Level.test = true)
    (named : ∀ x ∈ handlers, ∀ n ∈ x.name, x.kind.isSome = true)
    (h : ∀ x ∈ body, ReadsStmt x) (hHandlers : ∀ x ∈ handlers, ∀ y ∈ x.body, ReadsStmt y)
    (hElse : ∀ x ∈ orelse, ReadsStmt x) (hFinal : ∀ x ∈ finalBody, ReadsStmt x) :
    ReadsStmt (.tryBlock body handlers orelse finalBody) := by
  refine .of_keyword Grammar.tryBlock (fun _ => by rw [Stmt.tokens]) rfl rfl (fun _ _ _ => rfl)
    fun n k s long long' follow => ?_
  simp only [List.length_append, handlersTokens_eq] at long long'
  -- what stands behind each clause starts with the word of a later one or is no clause at all
  have last := blockAfter_eq_ok .finallyKw hFinal (by omega : _ ≤ n) (by omega : _ ≤ k)
    (seesKeyword_of_not_continues .finallyKw follow rfl)
  generalize hfinal : append (clauseTokens .finallyKw finalBody (blockTokens finalBody)) s = s₁
    at last
  have notElse : s₁.seesKeyword .elseKw = false := by
    rw [← hfinal, TokenStream.seesKeyword, current_clauseTokens]
    split
    · exact seesKeyword_of_not_continues .elseKw follow rfl
    · rfl
  have notExcept₁ : s₁.seesKeyword .exceptKw = false := by
    rw [← hfinal, TokenStream.seesKeyword, current_clauseTokens]
    split
    · exact seesKeyword_of_not_continues .exceptKw follow rfl
    · rfl
  have other := blockAfter_eq_ok .elseKw hElse (by omega : _ ≤ n) (by omega : _ ≤ k) notElse
  generalize helse : append (clauseTokens .elseKw orelse (blockTokens orelse)) s₁ = s₂ at other
  have notExcept : s₂.seesKeyword .exceptKw = false := by
    rw [← helse, TokenStream.seesKeyword, current_clauseTokens]
    split
    · exact notExcept₁
    · rfl
  have rescue : repeated (handler (nested n) (blocks (nested n) k))
      (append (handlers.flatMap Handler.tokens) s₂) = .ok (handlers.map fun x => x, s₂) := by
    refine repeated_append (fun _ => True) (fun x hx s _ => ?_) (fun x _ => ⟨_, _, rfl, trivial⟩)
      trivial (by simp [handler, notExcept])
    have short : x.tokens.length ≤ (handlers.flatMap Handler.tokens).length := length_le_flatMap hx
    exact handler_eq_ok (kinds x hx) (stand x hx) (named x hx) (hHandlers x hx) (by omega)
      (by omega) s
  have inner := block_eq_ok h (by omega : _ ≤ n) (by omega : _ ≤ k)
    (append (handlers.flatMap Handler.tokens) s₂)
  have given : (handlers.isEmpty && finalBody.isEmpty) = false := by
    rcases ends with some | some
    · simp [some]
    · simp [some]
  rw [List.map_id'] at rescue
  simp only [append_append, hfinal, helse, handlersTokens_eq, Grammar.tryBlock, inner, rescue, other,
    last, given, ok_bind]
  rfl

end

/-! ### Scripts -/

/-- The tokens of a legible statement are read as it. -/
theorem LegibleStmt.readsStmt {stmt : Stmt} (h : LegibleStmt stmt) : ReadsStmt stmt := by
  induction h with
  | @expr e value item =>
    obtain ⟨t, us, same, start⟩ := value.bareTokens_starts item
    exact (readsSmall_expr value item).readsStmt rfl
      ⟨t, us, same, opensLine_of_startsExpression start⟩
  | @assign targets v filled legible items value item =>
    refine (readsSmall_assign filled legible items value item).readsStmt rfl ?_
    cases targets with
    | nil => exact absurd rfl filled
    | cons t targets =>
      obtain ⟨u, us, same, start⟩ := (legible t List.mem_cons_self).bareTokens_starts
        (items t List.mem_cons_self)
      exact ⟨u, _, by rw [simpleTokens_assign, same]; rfl, opensLine_of_startsExpression start⟩
  | @annAssign t h v target item hint stands value list =>
    obtain ⟨u, us, same, start⟩ := target.readsBack.item_starts item
    exact (readsSmall_annAssign target item hint stands value list).readsStmt rfl
      ⟨u, _, by rw [simpleTokens, same]; rfl, opensLine_of_startsExpression start⟩
  | @augAssign t v op target item value list =>
    obtain ⟨u, us, same, start⟩ := target.bareTokens_starts item
    exact (readsSmall_augAssign op target item value list).readsStmt rfl
      ⟨u, _, by rw [simpleTokens, same]; rfl, opensLine_of_startsExpression start⟩
  | ret value list =>
    exact (readsSmall_ret value list).readsStmt rfl ⟨_, _, rfl, rfl, fun _ _ _ => rfl⟩
  | pass => exact ReadsSmall.readsStmt (fun _ _ _ => rfl) rfl ⟨_, _, rfl, rfl, fun _ _ _ => rfl⟩
  | breakLoop =>
    exact ReadsSmall.readsStmt (fun _ _ _ => rfl) rfl ⟨_, _, rfl, rfl, fun _ _ _ => rfl⟩
  | continueLoop =>
    exact ReadsSmall.readsStmt (fun _ _ _ => rfl) rfl ⟨_, _, rfl, rfl, fun _ _ _ => rfl⟩
  | raise given legible stand =>
    exact (readsSmall_raise given legible stand).readsStmt rfl ⟨_, _, rfl, rfl, fun _ _ _ => rfl⟩
  | assertion test stands legible stand =>
    exact (readsSmall_assertion test stands legible stand).readsStmt rfl
      ⟨_, _, rfl, rfl, fun _ _ _ => rfl⟩
  | delete filled legible items =>
    exact (readsSmall_delete filled legible items).readsStmt rfl
      ⟨_, _, rfl, rfl, fun _ _ _ => rfl⟩
  | global filled identifiers =>
    exact (readsSmall_global filled).readsStmt rfl ⟨_, _, rfl, rfl, fun _ _ _ => rfl⟩
  | importModules filled paths identifiers =>
    exact (readsSmall_importModules filled).readsStmt rfl ⟨_, _, rfl, rfl, fun _ _ _ => rfl⟩
  | importFrom level path imported =>
    exact (readsSmall_importFrom level path imported).readsStmt rfl
      ⟨_, _, rfl, rfl, fun _ _ _ => rfl⟩
  | functionDef decorated stand identifier names kinds hints presets paramsStand result stands suite
      block ih =>
    exact readsStmt_functionDef decorated stand kinds hints presets paramsStand result stands ih
  | classDef decorated stand identifier legible items names values stands suite block ih =>
    exact readsStmt_classDef decorated stand legible items values stands ih
  | ifElse test stands suite other block elseBlock ih ihElse =>
    exact readsStmt_ifElse test stands ih ihElse
  | whileLoop test stands suite other block elseBlock ih ihElse =>
    exact readsStmt_whileLoop test stands ih ihElse
  | forLoop targets target iter list suite other block elseBlock ih ihElse =>
    exact readsStmt_forLoop targets target iter list ih ihElse
  | withBlock filled contexts stand targets isItem suite block ih =>
    exact readsStmt_withBlock filled contexts stand targets isItem ih
  | tryBlock ends suite kinds stand names suites other final block handled elseBlock finalBlock ih
      ihHandled ihElse ihFinal =>
    exact readsStmt_tryBlock ends kinds stand (fun x hx n hn => (names x hx n hn).1) ih ihHandled
      ihElse ihFinal

/-- The tokens of statements up to the end of the input are read as the statements. -/
theorem script_eq_ok {body : Block} (h : ∀ x ∈ body, ReadsStmt x) :
    script (append (blockTokens body) ⟨.endOfInput, []⟩) = .ok (body, ⟨.endOfInput, []⟩) := by
  have long : (blockTokens body).length ≤
      (append (blockTokens body) ⟨.endOfInput, []⟩).rest.length + 2 := by
    rw [length_rest_append]
    exact Nat.le_add_right _ _
  have parts := repeated_statements h long long
    (fun _ _ _ opens => scriptPart_of_statement opens) (s := ⟨.endOfInput, []⟩) rfl rfl
  have flat : (body.map fun x => [x]).flatten = body := by
    rw [← List.flatMap_def, List.flatMap_singleton']
  rw [script, nestedFor, parts]
  simp [flat]

/-- The text of a legible script is read as the script, also below lines without statements. -/
theorem parse_blockText {block : Block} (h : ∀ x ∈ block, LegibleStmt x) {header : String}
    (blank : IsBlankLines header.toList) : parse (header ++ blockText 0 none block) = .ok block := by
  have lines : ResumesAt 0 (header ++ blockText 0 none block).toList
      (blockTokens block ++ [.endOfInput]) := by
    cases block with
    | nil => simpa [blockText, blockTokens] using resumesAt_end blank
    | cons x block =>
      have text := startsAt_blockText (List.cons_ne_nil x block) (fun no => absurd no (Nat.lt_irrefl 0))
        (fun x hx => (h x hx).linesSpell)
        (resumesAt_end isBlankLines_nil)
      rw [List.append_nil] at text
      rw [String.toList_append]
      exact (text.skip blank).resumesAt
  obtain ⟨placed, tokens, hplaced⟩ := tokenize_of_resumesAt lines
  have read := script_eq_ok fun x hx => (h x hx).readsStmt
  rw [← ofTokens_append_singleton, ← hplaced] at read
  rw [parse, tokens, ok_bind, parseTokens, runParser]
  simp [read]

end RobotCell.Script
