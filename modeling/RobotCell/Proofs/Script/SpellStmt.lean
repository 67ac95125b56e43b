import RobotCell.Proofs.Script.SpellExpr
import RobotCell.Proofs.Script.StmtTokens
import RobotCell.Proofs.Text.Split

/-!
# The lines of statements stand for their tokens

For every legible statement the lexer reads the lines as the tokens of the statement, at whatever
depth they stand. Lines without blocks are texts inside a line; a header opens a block, and what
stands below the statement closes it.

## Main definitions

- `LinesSpell` — the lines of a statement stand for its tokens

## Main results

- `LegibleStmt.linesSpell` — the lines of a legible statement stand for its tokens
- `startsAt_blockText` — the same for the lines of a block
-/

namespace RobotCell.Script

open Grammar
open RobotCell.Text (joinWith splitAtChar joinWith_splitAtChar)

variable {stop : Char → Prop} {text more : List Char} {ts us : List Token} {e : Expr}

/-! ### Paths and imported names -/

theorem spells_path {path : String} (h : isPath path = true) :
    SpellsUpTo Delimits path.toList (pathTokens path) := by
  have identifiers : ∀ p ∈ splitAtChar '.' path, isIdentifier p = true := List.all_eq_true.1 h
  have filled : splitAtChar '.' path ≠ [] := by
    simpa [splitAtChar] using Text.splitChars_ne_nil '.' path.toList
  have joined := spells_joined "." (.symbol .dot) filled id (fun p => [.name p])
    (fun p hp => spells_identifier (identifiers p hp)) ⟨'.', [], rfl, by decide⟩
    (fun p tail us hp spells => spells.dotted (identifiers p hp))
  rwa [List.map_id, show "." = String.singleton '.' from rfl, joinWith_splitAtChar] at joined

theorem isWord_of_isIdentifier {id : String} (h : isIdentifier id = true) :
    isWord id.toList = true := by
  simp only [isIdentifier, Bool.and_eq_true] at h
  exact h.1

theorem head_of_isPath {path : String} (h : isPath path = true) :
    ∃ c tail, path.toList = c :: tail ∧ isNameStart c = true := by
  have identifiers : ∀ p ∈ splitAtChar '.' path, isIdentifier p = true := List.all_eq_true.1 h
  have whole : joinWith "." (splitAtChar '.' path) = path := joinWith_splitAtChar '.' path
  cases pieces : splitAtChar '.' path with
  | nil =>
    exact absurd pieces (by simpa [splitAtChar] using Text.splitChars_ne_nil '.' path.toList)
  | cons p rest =>
    have word := isWord_of_isIdentifier (identifiers p (by rw [pieces]; exact List.mem_cons_self))
    cases htext : p.toList with
    | nil => simp [htext, isWord] at word
    | cons c tail =>
      simp only [htext, isWord, Bool.and_eq_true] at word
      rw [← whole, pieces]
      cases rest with
      | nil => exact ⟨c, tail, by simp [joinWith, htext], word.1⟩
      | cons q rest => exact ⟨c, _, by simp [joinWith, htext]; rfl, word.1⟩

theorem isEmpty_of_isPath {path : String} (h : isPath path = true) : path.isEmpty = false := by
  obtain ⟨c, tail, head, -⟩ := head_of_isPath h
  rw [← Bool.not_eq_true, String.isEmpty_iff]
  rintro rfl
  cases head

theorem spells_alias {a : Alias} (path : isPath a.name = true)
    (identifiers : ∀ n ∈ a.asName, isIdentifier n = true) :
    SpellsUpTo Closes a.text.toList a.tokens := by
  obtain ⟨name, asName⟩ := a
  have named := (spells_path path).mono fun _ => Closes.delimits
  cases asName with
  | none => simpa [Alias.text, Alias.tokens] using named
  | some n =>
    have := named.between .asKw " as " rfl
      ((spells_identifier (identifiers n rfl)).mono fun _ => Closes.delimits)
    simpa [Alias.text, Alias.tokens] using this

theorem point_notMem_of_isIdentifier {id : String} (h : isIdentifier id = true) :
    '.' ∉ id.toList := by
  intro hc
  have whole := isWord_of_isIdentifier h
  have point : ¬isNameChar '.' = true := by decide
  cases htext : id.toList with
  | nil => simp [htext] at hc
  | cons d tail =>
    simp only [htext, isWord, Bool.and_eq_true, List.all_eq_true] at whole
    rcases List.mem_cons.1 (htext ▸ hc) with rfl | later
    · exact point (isNameChar_of_isNameStart whole.1)
    · exact point (whole.2 _ later)

theorem splitAtChar_of_isIdentifier {id : String} (h : isIdentifier id = true) :
    splitAtChar '.' id = [id] := by
  rw [splitAtChar, Text.splitChars_of_notMem (point_notMem_of_isIdentifier h)]
  simp

theorem isPath_of_isIdentifier {id : String} (h : isIdentifier id = true) : isPath id = true := by
  simp [isPath, splitAtChar_of_isIdentifier h, h]

/-- Two paths with a point between them. -/
theorem isPath_append (path more : String) :
    isPath (path ++ "." ++ more) = (isPath path && isPath more) := by
  rw [isPath, show "." = String.singleton '.' from rfl, Text.splitAtChar_append, List.all_append]
  rfl

/-- The character makes no dot before it longer. -/
def EndsDots (c : Char) : Prop :=
  extendsSymbol ['.'] c = false

theorem Closes.endsDots {c : Char} (h : Closes c) : EndsDots c := by
  have ends := h.of_all (fun c => !extendsSymbol ['.'] c) (by decide)
  rwa [Bool.not_eq_true'] at ends

variable {rest : List Char}

theorem Lexeme.read_two_dots (h : ∀ c ∈ rest.head?, EndsDots c) :
    read '.' ('.' :: rest) = .ok ⟨.symbol .dot, 0⟩ := by
  have symbol : symbol? ('.' :: '.' :: rest) = some ⟨.symbol .dot, 0⟩ := by
    cases rest with
    | nil => decide
    | cons c rest =>
      have point : ('.' == c) = false := by
        rw [beq_eq_false_iff_ne]
        rintro rfl
        exact absurd (h '.' rfl) (by decide : ¬extendsSymbol ['.'] '.' = false)
      simp [symbol?, Token.spellings, List.find?, List.isPrefixOf, point]
  rw [read, symbol]
  rfl

theorem toList_levelDots (level : Nat) : (levelDots level).toList = List.replicate level '.' :=
  String.toList_ofList

/-- Three dots in a row are one token; only what is left of them at the end are single dots. -/
theorem spells_levelDots {level : Nat} (pos : 0 < level) :
    SpellsUpTo EndsDots (levelDots level).toList (levelTokens level) := by
  rw [toList_levelDots]
  intro indents depth used rest us next inLine
  have one (used : Bool) : InLine indents depth used ('.' :: rest) (.symbol .dot :: us) :=
    InLine.symbol ['.'] _ (by decide) next inLine
  induction level using Nat.strongRecOn generalizing used with
  | ind level ih =>
    match level with
    | 1 => exact one used
    | 2 =>
      show InLine indents depth used ('.' :: ([] ++ '.' :: rest)) (.symbol .dot :: .symbol .dot :: us)
      exact InLine.lexeme rfl (Lexeme.read_two_dots next) (one true)
    | level + 3 =>
      have tokens_eq : levelTokens (level + 3) = .symbol .ellipsis :: levelTokens level := by
        simp [levelTokens, List.replicate_succ]
      rw [tokens_eq]
      refine InLine.solid ['.', '.', '.'] _ (by decide) (by decide) ?_
      by_cases none : level = 0
      · subst none
        exact inLine
      · apply ih level (by omega) (by omega)

/-- The dots and the path of the module that names are imported from. -/
theorem spells_origin {module : String} (level : Nat) (path : module = "" ∨ isPath module = true) :
    SpellsInside (levelDots level ++ module).toList
      (levelTokens level ++ if module.isEmpty then [] else pathTokens module) := by
  rw [String.toList_append]
  rcases path with rfl | path
  · rcases Nat.eq_zero_or_pos level with rfl | pos
    · exact .inl ⟨rfl, rfl⟩
    · have dots := (spells_levelDots pos).mono fun _ => Closes.endsDots
      exact .inr (by simpa using dots)
  · obtain ⟨c, tail, head, letter⟩ := head_of_isPath path
    have named := (spells_path path).mono fun _ => Closes.delimits
    rw [isEmpty_of_isPath path, if_neg (by decide)]
    rcases Nat.eq_zero_or_pos level with rfl | pos
    · exact .inr named
    · refine .inr ((spells_levelDots pos).append named ⟨c, tail, head, ?_⟩)
      exact (isLead_of_isNameStart letter).2 _ (by simp)

theorem spells_imported {names : List Alias} (h : areImported names = true) :
    SpellsUpTo Closes (importedText names).toList (importedTokens names) := by
  simp only [areImported, Bool.or_eq_true, beq_iff_eq, Bool.and_eq_true, List.all_eq_true,
    Option.all_eq_true, Bool.not_eq_true', List.isEmpty_eq_false_iff] at h
  rcases h with rfl | ⟨filled, identifiers⟩
  · exact spells_symbol ['*'] (.symbol .star) (by decide) (fun _ => rfl) (by decide)
  · have aliases : ∀ a ∈ names, SpellsUpTo Closes a.text.toList a.tokens := fun a ha =>
      spells_alias (isPath_of_isIdentifier (identifiers a ha).1) (identifiers a ha).2
    match names with
    | [a] =>
      have star : a.name ≠ "*" := by
        intro star
        exact absurd (star ▸ (identifiers a List.mem_cons_self).1) (by decide)
      rw [importedText, importedTokens, if_neg star, if_neg star]
      exact aliases a List.mem_cons_self
    | a :: b :: names => exact spells_separated (by simp) _ _ aliases

/-- An import from a module, also from the one without a name. -/
theorem spells_importFrom {module : String} {names : List Alias} (level : Nat) (opening : Bool)
    (path : module = "" ∨ isPath module = true) (imported : areImported names = true) :
    SpellsUpTo Closes (simpleText opening (.importFrom module names level)).toList
      (simpleTokens (.importFrom module names level)) := by
  have list := spells_imported imported
  have text_eq : (simpleText opening (.importFrom module names level)).toList = "from ".toList ++
      ((levelDots level ++ module).toList ++ (" import ".toList ++ (importedText names).toList)) := by
    simp [simpleText]
  have tokens_eq : simpleTokens (.importFrom module names level) = .keyword .fromKw ::
      ((levelTokens level ++ if module.isEmpty then [] else pathTokens module) ++
        .keyword .importKw :: importedTokens names) := by
    simp [simpleTokens]
  rw [text_eq, tokens_eq]
  refine SpellsUpTo.word .fromKw "from " rfl ?_
  rcases spells_origin level path with ⟨none, none'⟩ | origin
  · -- two blanks stand between the keywords
    rw [none, none']
    exact (list.word .importKw "import " rfl).blank
  · exact origin.between .importKw " import " rfl list

/-! ### Expressions as lines -/

theorem Opens.hasInk (h : Opens text) : HasInk text := by
  obtain ⟨c, more, rfl, opener⟩ := h
  exact ⟨c, more, rfl, isInk_of_isOpener opener⟩

theorem hasInk_cons {c : Char} (h : isInk c = true) (more : List Char) : HasInk (c :: more) :=
  ⟨c, more, rfl, h⟩

theorem Spelt.hasInk (h : Spelt e) (least : Nat) : HasInk (e.textAt least).toList := by
  by_cases low : e.level < least
  · rw [Expr.textAt_of_lt low]
    exact ⟨'(', e.text.toList ++ [')'], by simp, rfl⟩
  · rw [Expr.textAt_of_le (by omega)]
    by_cases plain : e.isSubscriptItem = true
    · exact (h.opens plain).hasInk
    · cases e with
      | starred value =>
        rw [Expr.text, String.toList_append]
        exact ⟨'*', _, rfl, rfl⟩
      | _ => exact absurd rfl plain

theorem hasInk_bare (h : ∀ x ∈ e.bareItems, Spelt x) : HasInk e.bareText.toList := by
  by_cases tuple : ∃ items, e = .tuple items
  · obtain ⟨items, rfl⟩ := tuple
    rw [bareText_tuple]
    match items with
    | [] => exact ⟨'(', [')'], rfl, rfl⟩
    | [x] =>
      rw [List.map_singleton, tupleText, String.toList_append]
      exact ((h x List.mem_cons_self).hasInk Level.test).append _
    | x :: y :: items =>
      rw [tupleText_of_two_le (by simp), List.map_cons, List.map_cons, joinWith,
        String.append_assoc, String.toList_append]
      exact ((h x List.mem_cons_self).hasInk Level.test).append _
  · have apart : ∀ items, e ≠ .tuple items := fun items same => tuple ⟨items, same⟩
    rw [bareText_of_ne apart]
    exact (h e (by simp [Expr.bareItems_of_ne apart])).hasInk Level.test

theorem Legible.spelt_bareItems (h : Legible e) : ∀ x ∈ e.bareItems, Spelt x :=
  fun x hx => (h.bareItems x hx).spelt

theorem Legible.spells_bare (h : Legible e) : SpellsUpTo Closes e.bareText.toList e.bareTokens :=
  Script.spells_bare h.spelt_bareItems

/-- The text of a line stands for the tokens. -/
structure SpellsLine (content : String) (ts : List Token) : Prop where
  ink : HasInk content.toList
  spells : SpellsUpTo Closes content.toList ts

theorem Legible.spellsLine_bare (h : Legible e) : SpellsLine e.bareText e.bareTokens :=
  ⟨hasInk_bare h.spelt_bareItems, h.spells_bare⟩

/-- An expression as a statement, which may be a text between triple quotes. -/
theorem spellsLine_exprText {opening : Bool} (value : Legible e)
    (opens : opening = true → e.endsDoc = true) :
    SpellsLine (exprText opening e) e.bareTokens := by
  rw [exprText]
  split
  · next s string =>
    split
    · next doc =>
      simp only [Bool.and_eq_true] at doc
      have ends := opens doc.1
      simp only [Expr.endsDoc, string, Option.all_some, doc.2, Bool.not_true, Bool.false_or] at ends
      have tokens_eq : e.bareTokens = [.str s] := by
        cases e with
        | constant c =>
          cases c with
          | str text =>
            cases string
            rfl
          | _ => cases string
        | _ => cases string
      rw [tokens_eq]
      refine ⟨?_, (spells_docLiteral ends).mono (by simp)⟩
      simpa [Literal.docLiteral] using hasInk_cons (c := '"') rfl _
    · exact value.spellsLine_bare
  · exact value.spellsLine_bare

/-! ### Statements without blocks -/

section

variable {opening : Bool}

/-- An optional part behind an equals sign. -/
theorem spells_assigned {value : Option Expr} (h : ∀ e ∈ value, Legible e)
    (left : SpellsUpTo Closes text ts) :
    SpellsUpTo Closes (text ++ (value.elim "" fun v => " = " ++ v.bareText).toList)
      (ts ++ partTokens .assign (value.map Expr.bareTokens)) := by
  cases value with
  | none => simpa using left
  | some v =>
    simpa using spells_infix ['='] (.symbol .assign) (by decide) (fun _ => rfl) left
      (h v rfl).spells_bare

theorem spellsLine_assign {targets : List Expr} {v : Expr} (filled : targets ≠ [])
    (legible : ∀ t ∈ targets, Legible t) (value : Legible v) :
    SpellsLine (simpleText opening (.assign targets v)) (simpleTokens (.assign targets v)) := by
  have whole : SpellsUpTo Closes (targetsText targets ++ v.bareText).toList
      ((targets.flatMap fun t => t.bareTokens ++ [.symbol .assign]) ++ v.bareTokens) := by
    clear filled
    induction targets with
    | nil => simpa [targetsText] using value.spells_bare
    | cons t targets ih =>
      have later := ih fun x hx => legible x (List.mem_cons_of_mem _ hx)
      have := spells_infix ['='] (.symbol .assign) (by decide) (fun _ => rfl)
        (legible t List.mem_cons_self).spells_bare later
      simpa [targetsText] using this
  refine ⟨?_, whole⟩
  cases targets with
  | nil => exact absurd rfl filled
  | cons t targets =>
    have ink := hasInk_bare (legible t List.mem_cons_self).spelt_bareItems
    simpa [simpleText, targetsText] using ink.append _

theorem spellsLine_annAssign {t h : Expr} {v : Option Expr} (target : Legible t) (hint : Legible h)
    (value : ∀ e ∈ v, Legible e) :
    SpellsLine (simpleText opening (.annAssign t h v)) (simpleTokens (.annAssign t h v)) := by
  have left := spells_colon (target.spelt.at_ Level.test) (hint.spelt.at_ Level.test)
  have whole := spells_assigned value left
  refine ⟨?_, by simpa [simpleText, simpleTokens] using whole⟩
  simpa [simpleText] using (target.spelt.hasInk Level.test).append _

theorem spellsLine_augAssign {t v : Expr} (op : BinaryOp) (target : Legible t) (value : Legible v) :
    SpellsLine (simpleText opening (.augAssign t op v)) (simpleTokens (.augAssign t op v)) := by
  have mem : ((op.symbol ++ "=").toList, .augAssign op) ∈ Token.spellings := by
    cases op <;> decide
  have whole := spells_infix _ (.augAssign op) mem (fun _ => rfl) target.spells_bare
    value.spells_bare
  refine ⟨?_, by simpa [simpleText, simpleTokens] using whole⟩
  simpa [simpleText] using (hasInk_bare target.spelt_bareItems).append _

theorem spellsLine_ret {v : Option Expr} (value : ∀ e ∈ v, Legible e) :
    SpellsLine (simpleText opening (.ret v)) (simpleTokens (.ret v)) := by
  refine ⟨by simpa [simpleText] using hasInk_cons (c := 'r') rfl _, ?_⟩
  cases v with
  | none => exact (spells_keyword .returnKw).mono fun _ => Closes.delimits
  | some e =>
    simpa [simpleText, simpleTokens] using (value e rfl).spells_bare.word .returnKw "return " rfl

theorem spellsLine_raise {exception cause : Option Expr}
    (given : cause.isSome = true → exception.isSome = true)
    (legible : ∀ x ∈ [exception, cause], ∀ e ∈ x, Legible e) :
    SpellsLine (simpleText opening (.raise exception cause))
      (simpleTokens (.raise exception cause)) := by
  refine ⟨by simpa [simpleText] using hasInk_cons (c := 'r') rfl _, ?_⟩
  cases exception with
  | none =>
    cases cause with
    | none => exact (spells_keyword .raiseKw).mono fun _ => Closes.delimits
    | some c => exact absurd (given rfl) (by decide)
  | some e =>
    have raised := ((legible _ (by simp) e rfl).spelt.at_ Level.test).word .raiseKw "raise " rfl
    cases cause with
    | none => simpa [simpleText, simpleTokens] using raised
    | some c =>
      have := raised.between .fromKw " from " rfl
        ((legible (some c) (by simp) c rfl).spelt.at_ Level.test)
      simpa [simpleText, simpleTokens] using this

theorem spellsLine_assertion {t : Expr} {message : Option Expr} (test : Legible t)
    (legible : ∀ e ∈ message, Legible e) :
    SpellsLine (simpleText opening (.assertion t message)) (simpleTokens (.assertion t message)) := by
  refine ⟨by simpa [simpleText] using hasInk_cons (c := 'a') rfl _, ?_⟩
  have asserted := (test.spelt.at_ Level.test).word .assertKw "assert " rfl
  cases message with
  | none => simpa [simpleText, simpleTokens] using asserted
  | some m =>
    have told := ((legible m rfl).spelt.at_ Level.test).symbol [','] (.symbol .comma) (by decide)
      fun _ => rfl
    simpa [simpleText, simpleTokens] using asserted.append told ⟨',', _, rfl, by decide⟩

theorem spellsLine_delete {targets : List Expr} (filled : targets ≠ [])
    (legible : ∀ t ∈ targets, Legible t) :
    SpellsLine (simpleText opening (.delete targets)) (simpleTokens (.delete targets)) := by
  refine ⟨by simpa [simpleText] using hasInk_cons (c := 'd') rfl _, ?_⟩
  have list := spells_separated filled (Expr.textAt Level.bitOr) (Expr.tokensAt Level.bitOr)
    fun t ht => (legible t ht).spelt.at_ Level.bitOr
  simpa [simpleText, simpleTokens, textsAt_eq] using list.word .delKw "del " rfl

theorem spellsLine_global {names : List String} (filled : names ≠ [])
    (identifiers : ∀ n ∈ names, isIdentifier n = true) :
    SpellsLine (simpleText opening (.global names)) (simpleTokens (.global names)) := by
  refine ⟨by simpa [simpleText] using hasInk_cons (c := 'g') rfl _, ?_⟩
  have list := spells_separated filled id (fun n => [.name n])
    fun n hn => (spells_identifier (identifiers n hn)).mono fun _ => Closes.delimits
  simpa [simpleText, simpleTokens] using list.word .globalKw "global " rfl

theorem spellsLine_importModules {names : List Alias} (filled : names ≠ [])
    (paths : ∀ a ∈ names, isPath a.name = true)
    (identifiers : ∀ a ∈ names, ∀ n ∈ a.asName, isIdentifier n = true) :
    SpellsLine (simpleText opening (.importModules names)) (simpleTokens (.importModules names)) := by
  refine ⟨by simpa [simpleText] using hasInk_cons (c := 'i') rfl _, ?_⟩
  have list := spells_separated filled Alias.text Alias.tokens
    fun a ha => spells_alias (paths a ha) (identifiers a ha)
  simpa [simpleText, simpleTokens] using list.word .importKw "import " rfl

end

/-! ### Headers -/

theorem spellsLine_word (k : Keyword) (word : String) (spelt : word.toList = k.spelling.toList) :
    SpellsLine word [.keyword k] := by
  refine ⟨?_, ?_⟩
  · rw [spelt]
    exact (opens_keyword k).hasInk
  · rw [spelt]
    exact (spells_keyword k).mono fun _ => Closes.delimits

/-- A keyword, a blank and a text. -/
theorem spellsLine_after (k : Keyword) (word : String) {content : String}
    (spelt : word.toList = k.spelling.toList ++ " ".toList)
    (h : SpellsUpTo Closes content.toList ts) :
    SpellsLine (word ++ content) (.keyword k :: ts) := by
  refine ⟨?_, ?_⟩
  · rw [String.toList_append, spelt, List.append_assoc]
    exact (opens_keyword k).hasInk.append _
  · rw [String.toList_append]
    exact h.word k word spelt

theorem spellsLine_function {name : String} {params : List (Param Expr)} {returns : Option Expr}
    (isAsync : Bool) (identifier : isIdentifier name = true)
    (names : ∀ p ∈ params, isIdentifier p.name = true)
    (hints : ∀ p ∈ params, ∀ e ∈ p.hint, Legible e)
    (presets : ∀ p ∈ params, ∀ e ∈ p.preset, Legible e)
    (stand : ∀ p ∈ params, p.stands true = true) (result : ∀ e ∈ returns, Legible e) :
    SpellsLine (functionHeader isAsync name params returns)
      (functionTokens isAsync name params returns) := by
  have entries := spells_entry true false names
    (fun p hp _ e he => (hints p hp e he).spelt) (fun p hp e he => (presets p hp e he).spelt) stand
  have inner := spells_list (entriesOf false params) _ _ entries
  rw [← paramTexts_eq, ← parameterTokens_eq] at inner
  have called := (spells_identifier identifier).append (spells_parens Closes inner)
    ⟨'(', _, rfl, by decide⟩
  have typed : SpellsUpTo Closes
      ((name.toList ++ '(' :: ((joinWith ", " (paramTexts true false params)).toList ++ [')'])) ++
        (returns.elim "" fun e => " -> " ++ e.textAt Level.test).toList)
      ((.name name :: between .leftParen .rightParen (commas (parameterTokens true false params))) ++
        partTokens .arrow (returns.map (Expr.tokensAt Level.test))) := by
    cases returns with
    | none => simpa using called
    | some e =>
      simpa using spells_infix ['-', '>'] (.symbol .arrow) (by decide) (fun _ => rfl) called
        ((result e rfl).spelt.at_ Level.test)
  have defined := typed.word .defKw "def " rfl
  cases isAsync with
  | false =>
    refine ⟨?_, by simpa [functionHeader, functionTokens] using defined⟩
    simpa [functionHeader] using hasInk_cons (c := 'd') rfl _
  | true =>
    refine ⟨?_, by simpa [functionHeader, functionTokens] using defined.word .asyncKw "async " rfl⟩
    simpa [functionHeader] using hasInk_cons (c := 'a') rfl _

theorem hasInk_argument {k : Argument Expr} (names : ∀ n ∈ k.name, isIdentifier n = true) :
    HasInk k.text.toList := by
  obtain ⟨name, value⟩ := k
  cases name with
  | none => simpa [Argument.text, argumentText] using hasInk_cons (c := '*') rfl _
  | some n =>
    simpa [Argument.text, argumentText] using (opens_identifier (names n rfl)).hasInk.append _

theorem spellsLine_class {name : String} {bases : List Expr} {keywords : List (Argument Expr)}
    (identifier : isIdentifier name = true) (legible : ∀ x ∈ bases, Legible x)
    (names : ∀ k ∈ keywords, ∀ n ∈ k.name, isIdentifier n = true)
    (values : ∀ k ∈ keywords, Legible k.value)
    (stand : ∀ k ∈ keywords, k.value.standsAt (argumentLevel k.name) = true) :
    SpellsLine (classHeader name bases keywords) (classTokens name bases keywords) := by
  have spells := spells_args (fun x hx => (legible x hx).spelt) names
    (fun k hk => (values k hk).spelt) stand
  have named := spells_identifier identifier
  rw [classHeader, classTokens, argTexts_eq]
  cases args : argsOf bases keywords with
  | nil => exact spellsLine_after .classKw "class " rfl (named.mono fun _ => Closes.delimits)
  | cons a rest =>
    have inner := spells_list _ argText argTokens spells
    have whole := named.append (spells_parens Closes inner) ⟨'(', _, rfl, by decide⟩
    rw [args] at whole
    -- no argument is an empty text, so the parentheses are written
    have ink : HasInk (argText a).toList := by
      rcases mem_argsOf (args ▸ List.mem_cons_self : a ∈ argsOf bases keywords) with
        ⟨x, hx, rfl⟩ | ⟨k, hk, rfl⟩
      · exact (legible x hx).spelt.hasInk Level.test
      · exact hasInk_argument (names k hk)
    have filled : (joinWith ", " ((a :: rest).map argText)).isEmpty = false := by
      obtain ⟨c, more, head, -⟩ := ink
      rw [← Bool.not_eq_true, String.isEmpty_iff]
      intro none
      cases rest <;> simp [joinWith, ← String.toList_inj, head] at none
    simp only [filled, List.isEmpty_cons, Bool.false_eq_true, if_false]
    rw [String.append_assoc, String.append_assoc, String.append_assoc]
    refine spellsLine_after .classKw "class " rfl ?_
    simpa using whole

theorem spellsLine_handler {kind : Option Expr} {name : Option String}
    (legible : ∀ e ∈ kind, Legible e)
    (identifiers : ∀ n ∈ name, isIdentifier n = true) :
    SpellsLine (handlerHeader kind name) (handlerTokens kind name) := by
  cases kind with
  | none => exact spellsLine_word .exceptKw "except" rfl
  | some e =>
    have typed := (legible e rfl).spelt.at_ Level.test
    cases name with
    | none =>
      simpa [handlerHeader, handlerTokens] using spellsLine_after .exceptKw "except " rfl typed
    | some n =>
      have named := typed.between .asKw " as " rfl
        ((spells_identifier (identifiers n rfl)).mono fun _ => Closes.delimits)
      rw [← String.toList_append, ← String.toList_append] at named
      simpa [handlerHeader, handlerTokens, String.append_assoc] using
        spellsLine_after .exceptKw "except " rfl named

theorem spellsLine_condition (k : Keyword) (test : Legible e) :
    SpellsLine (conditionHeader k.spelling e) (.keyword k :: e.tokensAt Level.test) := by
  have := spellsLine_after k (k.spelling ++ " ") (String.toList_append)
    (test.spelt.at_ Level.test)
  simpa [conditionHeader] using this

theorem spellsLine_while (test : Legible e) :
    SpellsLine (whileHeader e) (.keyword .whileKw :: e.tokensAt Level.test) :=
  spellsLine_after .whileKw "while " rfl (test.spelt.at_ Level.test)

theorem spellsLine_for {t i : Expr} (targets : ∀ x ∈ t.bareItems, Legible x) (iter : Legible i) :
    SpellsLine (forHeader t i) (forTokens t i) := by
  have looped := (Script.spells_bare fun x hx => (targets x hx).spelt).between .inKw " in " rfl
    iter.spells_bare
  rw [← String.toList_append, ← String.toList_append] at looped
  simpa [forHeader, forTokens, String.append_assoc] using
    spellsLine_after .forKw "for " rfl looped

theorem spellsLine_with {items : List WithItem} (filled : items ≠ [])
    (contexts : ∀ x ∈ items, Legible x.context)
    (targets : ∀ x ∈ items, ∀ e ∈ x.target, Legible e) :
    SpellsLine (withHeader items) (withTokens items) := by
  refine spellsLine_after .withKw "with " rfl (spells_separated filled _ _ fun x hx => ?_)
  have context := (contexts x hx).spelt.at_ Level.test
  have bound := targets x hx
  rw [WithItem.text, WithItem.tokens]
  cases htarget : x.target with
  | none => simpa using context
  | some t =>
    simpa using context.between .asKw " as " rfl ((bound t htarget).spelt.at_ Level.bitOr)

/-! ### Lines and blocks -/

variable {d : Nat} {rest : List Char}

/-- A line at depth `d`, given what stands below it. -/
theorem SpellsLine.startsAt {content : String} (h : SpellsLine content ts)
    (below : ResumesAt d rest us) :
    StartsAt d ((Script.line d content).toList ++ rest) (ts ++ .newline :: us) :=
  StartsAt.line h.ink (h.spells (head_cons _ (by decide)) (InLine.newline below.atLine))

/-- The header of a block at depth `d`, given the block. -/
theorem SpellsLine.startsAt_header {header : String} (h : SpellsLine header ts)
    (block : StartsAt (d + 1) rest us) :
    StartsAt d ((headerLine d header).toList ++ rest)
      (ts ++ .symbol .colon :: .newline :: .indent :: us) := by
  have colon : (header ++ ":").toList ++ '\n' :: rest = header.toList ++ (':' :: '\n' :: rest) := by
    simp
  refine StartsAt.line ?_ ?_
  · rw [String.toList_append]
    exact h.ink.append _
  · rw [colon]
    refine h.spells (head_cons _ (by decide)) (InLine.symbol [':'] _ (by decide) ?_ ?_)
    · exact fun c hc => by cases hc; decide
    · exact InLine.newline block.atLine_indent

theorem isBlankLines_separation (d : Nat) (before : Option Stmt) (s : Stmt) :
    IsBlankLines (separation d before s).toList := by
  cases before with
  | none => exact isBlankLines_nil
  | some b =>
    rw [separation]
    split
    · exact isBlankLines_blankLines (spacing d)
    · exact isBlankLines_nil

theorem isBlankLines_classOpening (body : List Stmt) : IsBlankLines (classOpening body).toList := by
  cases body with
  | nil => exact isBlankLines_nil
  | cons s body =>
    rw [classOpening]
    split
    · exact isBlankLines_blankLines 1
    · exact isBlankLines_nil

/-- The lines of the statement, at any depth, stand for its tokens. -/
def LinesSpell (s : Stmt) : Prop :=
  ∀ (word : Keyword) (opening : Bool), (opening = true → s.opensBlock = true) →
    ∀ ⦃d : Nat⦄ ⦃rest : List Char⦄ ⦃us : List Token⦄, ResumesAt d rest us →
      StartsAt d ((s.text d opening word.spelling).toList ++ rest) (s.tokens word ++ us)

/-- The lines of a block behind one of its statements. -/
theorem resumesAt_blockText {body : List Stmt} (h : ∀ s ∈ body, LinesSpell s) (before : Stmt)
    (below : ResumesAt d rest us) :
    ResumesAt d ((blockText d (some before) body).toList ++ rest) (blockTokens body ++ us) := by
  induction body generalizing before with
  | nil => simpa [blockText, blockTokens] using below
  | cons s body ih =>
    have later := ih (fun t ht => h t (List.mem_cons_of_mem _ ht)) s
    have first := h s List.mem_cons_self .ifKw false (fun no => by cases no) later
    have lines := (first.skip (isBlankLines_separation d (some before) s)).resumesAt
    simpa [blockText, blockTokens, Keyword.spelling] using lines

/-- The lines of a whole block; the first statement opens it if it is not the script. -/
theorem startsAt_blockText {body : List Stmt} (filled : body ≠ [])
    (opens : 0 < d → isSuite body = true) (h : ∀ s ∈ body, LinesSpell s)
    (below : ResumesAt d rest us) :
    StartsAt d ((blockText d none body).toList ++ rest) (blockTokens body ++ us) := by
  cases body with
  | nil => exact absurd rfl filled
  | cons s body =>
    have later := resumesAt_blockText (fun t ht => h t (List.mem_cons_of_mem _ ht)) s below
    have first := h s List.mem_cons_self .ifKw (decide (0 < d))
      (fun deep => opens (of_decide_eq_true deep)) later
    simpa [blockText, blockTokens, separation, Keyword.spelling] using first

/-- A header with a block below it, which what stands below the statement ends. -/
theorem SpellsLine.startsAt_suite {header : String} {lead : List Char} {body : Block}
    (h : SpellsLine header ts) (blank : IsBlankLines lead) (suite : isSuite body = true)
    (block : ∀ s ∈ body, LinesSpell s) (below : ResumesAt d rest us) :
    StartsAt d ((headerLine d header).toList ++ (lead ++
        ((blockText (d + 1) none body).toList ++ rest)))
      (ts ++ (suiteTokens (blockTokens body) ++ us)) := by
  have inner := startsAt_blockText (ne_nil_of_isSuite suite) (fun _ => suite) block below.dedent
  simpa [suiteTokens] using h.startsAt_header (inner.skip blank)

/-- A further clause, which may be missing. -/
theorem resumesAt_clauseText {body : Block} (k : Keyword) (suite : body ≠ [] → isSuite body = true)
    (block : ∀ s ∈ body, LinesSpell s) (below : ResumesAt d rest us) :
    ResumesAt d
      ((clauseText d k.spelling body (blockText (d + 1) none body)).toList ++ rest)
      (clauseTokens k body (blockTokens body) ++ us) := by
  cases body with
  | nil => simpa [clauseText, clauseTokens] using below
  | cons s body =>
    have clause := (spellsLine_word k k.spelling rfl).startsAt_suite isBlankLines_nil
      (suite (by simp)) block below
    simpa [clauseText, clauseTokens] using clause.resumesAt

theorem resumesAt_handlersText {handlers : List (Handler Stmt)}
    (kinds : ∀ h ∈ handlers, ∀ e ∈ h.kind, Legible e)
    (names : ∀ h ∈ handlers, ∀ n ∈ h.name, isIdentifier n = true)
    (suites : ∀ h ∈ handlers, isSuite h.body = true)
    (blocks : ∀ h ∈ handlers, ∀ s ∈ h.body, LinesSpell s) (below : ResumesAt d rest us) :
    ResumesAt d ((handlersText d handlers).toList ++ rest) (handlersTokens handlers ++ us) := by
  induction handlers with
  | nil => simpa [handlersText, handlersTokens] using below
  | cons h handlers ih =>
    have later := ih (fun x hx => kinds x (List.mem_cons_of_mem _ hx))
      (fun x hx => names x (List.mem_cons_of_mem _ hx))
      (fun x hx => suites x (List.mem_cons_of_mem _ hx))
      (fun x hx => blocks x (List.mem_cons_of_mem _ hx))
    have header := spellsLine_handler (kinds h List.mem_cons_self) (names h List.mem_cons_self)
    have first := header.startsAt_suite isBlankLines_nil (suites h List.mem_cons_self)
      (blocks h List.mem_cons_self) later
    simpa [handlersText, handlersTokens] using first.resumesAt

/-- The lines of decorators above a definition. -/
theorem startsAt_decoratorLines {decorators : List Expr} (legible : ∀ e ∈ decorators, Legible e)
    (stand : ∀ e ∈ decorators, e.standsAt Level.test = true) (below : StartsAt d rest us) :
    StartsAt d ((decoratorLines d decorators).toList ++ rest)
      (decoratorTokens decorators ++ us) := by
  induction decorators with
  | nil => simpa [decoratorLines, decoratorTokens] using below
  | cons e decorators ih =>
    have later := ih (fun x hx => legible x (List.mem_cons_of_mem _ hx))
      (fun x hx => stand x (List.mem_cons_of_mem _ hx))
    have spelt := (legible e List.mem_cons_self).spelt
    have sign := (spelt.at_ Level.test).prefixed ['@'] (.symbol .atSign) (by decide) (by decide)
      (fun _ => rfl) (spelt.opensAt (stand e List.mem_cons_self))
    have line : SpellsLine ("@" ++ e.textAt Level.test)
        (.symbol .atSign :: e.tokensAt Level.test) :=
      ⟨by simpa using hasInk_cons (c := '@') rfl _, by simpa using sign⟩
    simpa [decoratorLines, decoratorTokens, decoratorLine] using line.startsAt later.resumesAt

/-- A statement on one line. -/
theorem LinesSpell.of_simple {s : Stmt} (simple : s.isSimple = true)
    (h : ∀ opening, (opening = true → s.opensBlock = true) →
      SpellsLine (simpleText opening s) (simpleTokens s)) : LinesSpell s := by
  intro word opening opens d rest us below
  rw [Stmt.text_of_isSimple simple, Stmt.tokens_of_isSimple simple, List.append_assoc]
  exact (h opening opens).startsAt below

/-- The lines of a legible statement stand for its tokens. -/
theorem LegibleStmt.linesSpell {s : Stmt} (h : LegibleStmt s) : LinesSpell s := by
  induction h with
  | expr value item => exact .of_simple rfl fun _ opens => spellsLine_exprText value opens
  | assign filled legible items value item =>
    exact .of_simple rfl fun _ _ => spellsLine_assign filled legible value
  | annAssign target item hint stands value list =>
    exact .of_simple rfl fun _ _ => spellsLine_annAssign target hint value
  | augAssign target item value list =>
    exact .of_simple rfl fun _ _ => spellsLine_augAssign _ target value
  | ret value list => exact .of_simple rfl fun _ _ => spellsLine_ret value
  | pass => exact .of_simple rfl fun _ _ => spellsLine_word .passKw "pass" rfl
  | breakLoop => exact .of_simple rfl fun _ _ => spellsLine_word .breakKw "break" rfl
  | continueLoop => exact .of_simple rfl fun _ _ => spellsLine_word .continueKw "continue" rfl
  | raise given legible stand => exact .of_simple rfl fun _ _ => spellsLine_raise given legible
  | assertion test stands legible stand =>
    exact .of_simple rfl fun _ _ => spellsLine_assertion test legible
  | delete filled legible items => exact .of_simple rfl fun _ _ => spellsLine_delete filled legible
  | global filled identifiers =>
    exact .of_simple rfl fun _ _ => spellsLine_global filled identifiers
  | importModules filled paths identifiers =>
    exact .of_simple rfl fun _ _ => spellsLine_importModules filled paths identifiers
  | importFrom level path imported =>
    exact .of_simple rfl fun opening _ => ⟨by simpa [simpleText] using hasInk_cons (c := 'f') rfl _,
        spells_importFrom level opening path imported⟩
  | @functionDef name params body decorators returns isAsync decorated stand identifier names kinds
      hints presets paramsStand result stands suite block ih =>
    intro word opening _ d rest us below
    have header := spellsLine_function isAsync identifier names hints presets paramsStand result
    have definition := header.startsAt_suite isBlankLines_nil suite ih below
    simpa [Stmt.text, Stmt.tokens] using startsAt_decoratorLines decorated stand definition
  | @classDef name bases keywords body decorators decorated stand identifier legible items names
      values stands suite block ih =>
    intro word opening _ d rest us below
    have header := spellsLine_class identifier legible names values stands
    have definition := header.startsAt_suite (isBlankLines_classOpening body) suite ih below
    simpa [Stmt.text, Stmt.tokens] using startsAt_decoratorLines decorated stand definition
  | @ifElse t body orelse test stands suite other block elseBlock ih ihElse =>
    intro word opening _ d rest us below
    have branch : ResumesAt d ((orelseText d orelse).toList ++ rest) (orelseTokens orelse ++ us) := by
      rcases orelse_cases orelse with ⟨s, rfl, -, tokens_eq, text_eq⟩ | ⟨tokens_eq, text_eq⟩
      · rw [tokens_eq, text_eq]
        exact (ihElse s List.mem_cons_self .elifKw false (fun no => by cases no) below).resumesAt
      · rw [tokens_eq, text_eq]
        exact resumesAt_clauseText .elseKw other ihElse below
    have lines := (spellsLine_condition word test).startsAt_suite isBlankLines_nil suite ih branch
    simpa [Stmt.text, Stmt.tokens] using lines
  | whileLoop test stands suite other block elseBlock ih ihElse =>
    intro word opening _ d rest us below
    have branch := resumesAt_clauseText .elseKw other ihElse below
    have lines := (spellsLine_while test).startsAt_suite isBlankLines_nil suite ih branch
    simpa [Stmt.text, Stmt.tokens, Keyword.spelling] using lines
  | forLoop targets target iter list suite other block elseBlock ih ihElse =>
    intro word opening _ d rest us below
    have branch := resumesAt_clauseText .elseKw other ihElse below
    have lines := (spellsLine_for targets iter).startsAt_suite isBlankLines_nil suite ih branch
    simpa [Stmt.text, Stmt.tokens, Keyword.spelling] using lines
  | withBlock filled contexts stand targets isItem suite block ih =>
    intro word opening _ d rest us below
    have lines := (spellsLine_with filled contexts targets).startsAt_suite isBlankLines_nil suite
      ih below
    simpa [Stmt.text, Stmt.tokens] using lines
  | tryBlock ends suite kinds stand names suites other final block handled elseBlock finalBlock ih
      ihHandled ihElse ihFinal =>
    intro word opening _ d rest us below
    have last := resumesAt_clauseText .finallyKw final ihFinal below
    have branch := resumesAt_clauseText .elseKw other ihElse last
    have rescue := resumesAt_handlersText kinds (fun h hh n hn => (names h hh n hn).2) suites
      ihHandled branch
    have lines := (spellsLine_word .tryKw "try" rfl).startsAt_suite isBlankLines_nil suite ih rescue
    simpa [Stmt.text, Stmt.tokens, Keyword.spelling] using lines

end RobotCell.Script
