import RobotCell.Proofs.Script.Legible

/-!
# The texts of expressions stand for their tokens

For every legible expression the lexer reads the text as the tokens of the expression, wherever the
text stands inside a line. The proof goes through the forms of expressions; what they have in common
are parts in places, parts between brackets and parts behind words or symbols, and each of these has
one statement.

## Main results

- `Legible.spelt` — the text of a legible expression stands for its tokens
-/

namespace RobotCell.Script

open Grammar
open RobotCell.Text (joinWith)

variable {stop : Char → Prop} {text more : List Char} {ts us : List Token} {e : Expr}

/-! ### Brackets -/

/-- What stands between brackets: nothing, or a text that stands for the tokens. -/
def SpellsInside (text : List Char) (ts : List Token) : Prop :=
  text = [] ∧ ts = [] ∨ SpellsUpTo Closes text ts

theorem spells_parens (stop : Char → Prop) (h : SpellsInside text ts) :
    SpellsUpTo stop ('(' :: (text ++ [')'])) (between .leftParen .rightParen ts) :=
  .bracketed '(' ')' _ _ (by decide) rfl (by decide) rfl (fun _ => rfl) (fun _ => rfl) (by decide) h

theorem spells_brackets (stop : Char → Prop) (h : SpellsInside text ts) :
    SpellsUpTo stop ('[' :: (text ++ [']'])) (between .leftBracket .rightBracket ts) :=
  .bracketed '[' ']' _ _ (by decide) rfl (by decide) rfl (fun _ => rfl) (fun _ => rfl) (by decide) h

theorem spells_braces (stop : Char → Prop) (h : SpellsInside text ts) :
    SpellsUpTo stop ('\x7b' :: (text ++ ['\x7d'])) (between .leftBrace .rightBrace ts) :=
  .bracketed '\x7b' '\x7d' _ _ (by decide) rfl (by decide) rfl (fun _ => rfl) (fun _ => rfl)
    (by decide) h

/-- A text behind a colon and a blank. -/
theorem spells_colon (h : SpellsUpTo Closes text ts) (hmore : SpellsUpTo stop more us) :
    SpellsUpTo stop (text ++ (": ".toList ++ more)) (ts ++ .symbol .colon :: us) :=
  h.append (hmore.symbol [':'] _ (by decide) fun _ => rfl) ⟨':', _, rfl, by decide⟩

/-- A symbol with blanks around it. -/
theorem spells_infix (spelling : List Char) (sign : Token)
    (mem : (spelling, sign) ∈ Token.spellings)
    (flat : ∀ depth, Lexer.depthAfter depth sign = depth) (h : SpellsUpTo Closes text ts)
    (hmore : SpellsUpTo stop more us) :
    SpellsUpTo stop (text ++ (" ".toList ++ (spelling ++ (" ".toList ++ more))))
      (ts ++ sign :: us) :=
  h.spaced (hmore.symbol spelling sign mem flat)

/-! ### Constants -/

theorem Grammar.StringPart.spells {p : StringPart} (h : p.IsLegible) :
    SpellsUpTo Delimits p.text.toList [p.token] := by
  cases p with
  | plain s => exact spells_quoted s
  | verbatim text => exact IsVerbatim.spells h

theorem Grammar.StringPart.opens {p : StringPart} (h : p.IsLegible) : Opens p.text.toList := by
  cases p with
  | plain s => exact opens_quoted s
  | verbatim text => exact IsVerbatim.opens h

section Parts

variable {parts : List StringPart} (filled : parts ≠ []) (h : ∀ p ∈ parts, p.IsLegible)
include filled h

theorem spells_parts :
    SpellsUpTo Delimits (joinWith " " (parts.map StringPart.text)).toList
      (parts.map StringPart.token) := by
  induction parts with
  | nil => exact absurd rfl filled
  | cons p parts ih =>
    have first := StringPart.spells (h p List.mem_cons_self)
    cases parts with
    | nil => exact first
    | cons q parts =>
      have later := ih (by simp) fun x hx => h x (List.mem_cons_of_mem _ hx)
      have := (first.mono fun _ => Closes.delimits).spaced later
      simpa [joinWith] using this

theorem opens_parts : Opens (joinWith " " (parts.map StringPart.text)).toList :=
  opens_joined " " filled _ fun p hp => StringPart.opens (h p hp)

/-- The literals of a text are read off the text. -/
theorem literalTokens_parts :
    literalTokens (joinWith " " (parts.map StringPart.text)) = parts.map StringPart.token := by
  obtain ⟨c, tail, htext, opener⟩ := opens_parts filled h
  obtain ⟨placed, htokens, tokens⟩ := tokenize_of_spells (spells_parts filled h)
    ⟨c, tail, htext, isInk_of_isOpener opener⟩
  have literals : ∀ t ∈ parts.map StringPart.token, t.isLiteral = true := by
    intro t ht
    obtain ⟨p, -, rfl⟩ := List.mem_map.1 ht
    cases p <;> rfl
  rw [literalTokens, htokens]
  show (placed.map PlacedToken.token).filter Token.isLiteral = _
  rw [tokens, List.filter_append, List.filter_eq_self.2 literals]
  exact List.append_nil _

end Parts

/-- The characters that may stand behind the text of an expression: those that stand behind any, and
a point if it starts an attribute of the whole expression. -/
def Expr.Stops (e : Expr) (c : Char) : Prop :=
  Closes c ∨ c = '.' ∧ e.takesPoint = true ∧ Level.primary ≤ e.level

theorem Expr.Stops.delimits {c : Char} (h : e.Stops c) : Delimits c := by
  rcases h with close | ⟨rfl, -⟩
  · exact close.delimits
  · decide

theorem Expr.Stops.closes {c : Char} (h : e.Stops c)
    (apart : e.level < Level.primary ∨ e.takesPoint = false) : Closes c := by
  rcases h with close | ⟨-, point, high⟩
  · exact close
  · rcases apart with low | apart
    · omega
    · exact absurd (point.symm.trans apart) (by decide)

theorem Constant.spells {c : Constant} (h : c.IsLegible) :
    SpellsUpTo (Expr.constant c).Stops c.text.toList c.tokens := by
  have number {text : String} (number : IsNumber text)
      (same : (Expr.constant c).takesPoint = takesPoint text) :
      SpellsUpTo (Expr.constant c).Stops text.toList [.number text] := by
    refine number.spells.mono fun d hd => hd.imp_right ?_
    rintro ⟨rfl, point, -⟩
    exact ⟨rfl, same ▸ point⟩
  cases c with
  | none => exact (spells_keyword .noneKw).mono fun _ => Expr.Stops.delimits
  | bool value =>
    cases value with
    | true => exact (spells_keyword .trueKw).mono fun _ => Expr.Stops.delimits
    | false => exact (spells_keyword .falseKw).mono fun _ => Expr.Stops.delimits
  | int text => exact number h.1 rfl
  | float text => exact number h.1 rfl
  | str s => exact (spells_quoted s).mono fun _ => Expr.Stops.delimits
  | verbatim text =>
    obtain ⟨parts, filled, legible, rfl, -⟩ := h
    rw [Constant.tokens, literalTokens_parts filled legible]
    exact (spells_parts filled legible).mono fun _ => Expr.Stops.delimits
  | ellipsis =>
    intro indents depth used rest us _ inLine
    exact InLine.solid ['.', '.', '.'] (.symbol .ellipsis) (by decide) rfl inLine

theorem Constant.opens {c : Constant} (h : c.IsLegible) : Opens c.text.toList := by
  cases c with
  | none => exact opens_keyword .noneKw
  | bool value =>
    cases value with
    | true => exact opens_keyword .trueKw
    | false => exact opens_keyword .falseKw
  | int text => exact h.1.opens
  | float text => exact h.1.opens
  | str s => exact opens_quoted s
  | verbatim text =>
    obtain ⟨parts, filled, legible, rfl, -⟩ := h
    exact opens_parts filled legible
  | ellipsis => exact opens_cons rfl _

/-! ### Parts in their places -/

/-- The text of the expression stands for its tokens, and it may follow an operator unless it starts
with a star. -/
structure Spelt (e : Expr) : Prop where
  spells : SpellsUpTo e.Stops e.text.toList e.tokens
  opens : e.isSubscriptItem = true → Opens e.text.toList

namespace Spelt

theorem at_ (h : Spelt e) (least : Nat) :
    SpellsUpTo Closes (e.textAt least).toList (e.tokensAt least) := by
  by_cases low : e.level < least
  · rw [Expr.textAt_of_lt low, Expr.tokensAt_of_lt low]
    simpa using spells_parens Closes (.inr (h.spells.mono fun _ => .inl))
  · rw [Expr.textAt_of_le (by omega), Expr.tokensAt_of_le (by omega)]
    exact h.spells.mono fun _ => .inl

theorem opensAt (h : Spelt e) {least : Nat} (stands : e.standsAt least = true) :
    Opens (e.textAt least).toList := by
  by_cases low : e.level < least
  · rw [Expr.textAt_of_lt low]
    simpa using opens_cons (c := '(') rfl (e.text.toList ++ [')'])
  · rw [Expr.textAt_of_le (by omega)]
    apply h.opens
    -- a star would stand bare here
    cases e with
    | starred value => exact absurd (of_decide_eq_true stands) low
    | _ => rfl

/-- An operand in front of an attribute. -/
theorem beforePoint (h : Spelt e) (point : e.takesPoint = true) :
    SpellsUpTo (fun c => Closes c ∨ c = '.') (e.textAt Level.primary).toList
      (e.tokensAt Level.primary) := by
  by_cases low : e.level < Level.primary
  · rw [Expr.textAt_of_lt low, Expr.tokensAt_of_lt low]
    simpa using spells_parens (fun c => Closes c ∨ c = '.') (.inr (h.spells.mono fun _ => .inl))
  · rw [Expr.textAt_of_le (by omega), Expr.tokensAt_of_le (by omega)]
    refine h.spells.mono fun c hc => hc.imp_right fun hc => ⟨hc, point, by omega⟩

/-- A form of expression that ends with one of its parts. -/
theorem of_open (low : e.level < Level.primary ∨ e.takesPoint = false)
    (spells : SpellsUpTo Closes e.text.toList e.tokens)
    (opens : e.isSubscriptItem = true → Opens e.text.toList) : Spelt e :=
  ⟨spells.mono fun _ hc => hc.closes low, opens⟩

end Spelt

/-! ### Lists of parts -/

/-- Parts with commas between them. -/
theorem spells_list {α : Type} (items : List α) (text : α → String) (tokens : α → List Token)
    (h : ∀ a ∈ items, SpellsUpTo Closes (text a).toList (tokens a)) :
    SpellsInside (joinWith ", " (items.map text)).toList (commas (items.map tokens)) := by
  cases items with
  | nil => exact .inl ⟨rfl, rfl⟩
  | cons a items => exact .inr (spells_separated (by simp) text tokens h)

/-- Items of a tuple without its parentheses. -/
theorem spells_tuple {items : List Expr} (h : ∀ x ∈ items, Spelt x) :
    SpellsUpTo Closes (tupleText (items.map (Expr.textAt Level.test))).toList
      (tupleTokens (items.map (Expr.tokensAt Level.test))) := by
  match items with
  | [] => exact spells_parens _ (.inl ⟨rfl, rfl⟩)
  | [e] =>
    have comma := spells_symbol [','] (.symbol .comma) (by decide) (fun _ => rfl) (by decide)
    have := ((h e (by simp)).at_ Level.test).append comma ⟨',', [], rfl, by decide⟩
    simpa [tupleText, tupleTokens] using this
  | e :: x :: items =>
    rw [tupleText_of_two_le (by simp), tupleTokens_of_two_le (by simp)]
    exact spells_separated (by simp) _ _ fun a ha => (h a ha).at_ Level.test

/-- An expression where a tuple needs no parentheses. -/
theorem spells_bare (h : ∀ x ∈ e.bareItems, Spelt x) :
    SpellsUpTo Closes e.bareText.toList e.bareTokens := by
  by_cases tuple : ∃ items, e = .tuple items
  · obtain ⟨items, rfl⟩ := tuple
    rw [bareText_tuple, bareTokens_tuple]
    cases items with
    | nil => exact spells_parens _ (.inl ⟨rfl, rfl⟩)
    | cons x items => exact spells_tuple h
  · have apart : ∀ items, e ≠ .tuple items := fun items same => tuple ⟨items, same⟩
    rw [bareText_of_ne apart, bareTokens_of_ne apart]
    exact (h e (by simp [Expr.bareItems_of_ne apart])).at_ Level.test

/-- Operands with a word between neighbours. -/
theorem spells_logic (op : LogicOp) {values : List Expr} (filled : values ≠ []) (least : Nat)
    (h : ∀ x ∈ values, Spelt x) :
    SpellsUpTo Closes (joinWith op.word (values.map (Expr.textAt least))).toList
      (separatedBy (.keyword op.keyword) (values.map (Expr.tokensAt least))) := by
  have spelt : op.word.toList = " ".toList ++ (op.keyword.spelling.toList ++ " ".toList) := by
    cases op <;> decide
  refine spells_joined op.word _ filled _ _ (fun x hx => (h x hx).at_ least) ?_ ?_
  · rw [spelt]
    exact ⟨' ', _, rfl, by decide⟩
  · intro x tail us _ spells
    rw [spelt, List.append_assoc, List.append_assoc]
    exact ((spells_keyword op.keyword).append spells.blank ⟨' ', _, rfl, by decide⟩).blank

/-! ### Comparisons -/

/-- A comparison operator in front of a blank and another text. -/
theorem spells_compareOp (op : CompareOp) (h : SpellsUpTo stop text ts) :
    SpellsUpTo stop (op.symbol.toList ++ (" ".toList ++ text)) (op.tokens ++ ts) := by
  cases op with
  | eq => exact h.symbol ['=', '='] _ (by decide) fun _ => rfl
  | notEq => exact h.symbol ['!', '='] _ (by decide) fun _ => rfl
  | lt => exact h.symbol ['<'] _ (by decide) fun _ => rfl
  | ltE => exact h.symbol ['<', '='] _ (by decide) fun _ => rfl
  | gt => exact h.symbol ['>'] _ (by decide) fun _ => rfl
  | gtE => exact h.symbol ['>', '='] _ (by decide) fun _ => rfl
  | is => exact h.word .isKw "is " rfl
  | isNot => exact (h.word .notKw "not " rfl).word .isKw "is " rfl
  | mem => exact h.word .inKw "in " rfl
  | notMem => exact (h.word .inKw "in " rfl).word .notKw "not " rfl

theorem spells_comparison (ops : List CompareOp) {operands : List Expr} (least : Nat)
    (h : ∀ x ∈ operands, Spelt x) (left : SpellsUpTo Closes text ts) :
    SpellsUpTo Closes
      (text ++ (comparisonText ops (operands.map (Expr.textAt least))).toList)
      (ts ++ comparisonTokens ops (operands.map (Expr.tokensAt least))) := by
  induction operands generalizing ops text ts with
  | nil => cases ops <;> simpa [comparisonText, comparisonTokens] using left
  | cons x operands ih =>
    cases ops with
    | nil => simpa [comparisonText, comparisonTokens] using left
    | cons op ops =>
      -- the operand joins the text to the left of the other comparisons
      have right := spells_compareOp op ((h x List.mem_cons_self).at_ least)
      have := ih ops (fun y hy => h y (List.mem_cons_of_mem _ hy)) (left.spaced right)
      simpa [comparisonText, comparisonTokens] using this

/-! ### Slices -/

theorem SpellsInside.append (h : SpellsInside text ts) (hmore : SpellsInside more us)
    (next : ∀ c ∈ more.head?, Closes c) : SpellsInside (text ++ more) (ts ++ us) := by
  rcases h with ⟨rfl, rfl⟩ | h
  · exact hmore
  rcases hmore with ⟨rfl, rfl⟩ | hmore
  · rw [List.append_nil, List.append_nil]
    exact .inr h
  · refine .inr fun indents depth used rest vs follow inLine => ?_
    rw [List.append_assoc, List.append_assoc]
    refine h ?_ (hmore follow inLine)
    cases more with
    | nil => exact follow
    | cons c more => exact next

/-- A part that may be missing, behind a colon. -/
theorem SpellsInside.afterColon (h : SpellsInside text ts) (opens : text = [] ∨ Opens text) :
    SpellsUpTo Closes (':' :: text) (.symbol .colon :: ts) := by
  have alone := spells_symbol [':'] (.symbol .colon) (by decide) (fun _ => rfl) (by decide)
  rcases h with ⟨rfl, rfl⟩ | h
  · exact alone
  · rcases opens with rfl | opens
    · exact fun _ _ _ _ _ next inLine => alone next (h next inLine)
    · exact h.prefixed [':'] _ (by decide) (by decide) (fun _ => rfl) opens

section Bounds

variable (x : Option Expr)

theorem spellsInside_bound (h : ∀ e ∈ x, Spelt e) :
    SpellsInside ((x.map (Expr.textAt Level.test)).getD "").toList
      ((x.map (Expr.tokensAt Level.test)).getD []) := by
  cases x with
  | none => exact .inl ⟨rfl, rfl⟩
  | some e => exact .inr ((h e rfl).at_ _)

theorem opens_bound (h : ∀ e ∈ x, Spelt e) (stand : ∀ e ∈ x, e.standsAt Level.test = true) :
    ((x.map (Expr.textAt Level.test)).getD "").toList = [] ∨
      Opens ((x.map (Expr.textAt Level.test)).getD "").toList := by
  cases x with
  | none => exact .inl rfl
  | some e => exact .inr ((h e rfl).opensAt (stand e rfl))

end Bounds

theorem spells_slice {lower upper step : Option Expr}
    (h : ∀ x ∈ [lower, upper, step], ∀ e ∈ x, Spelt e)
    (stand : ∀ x ∈ [lower, upper, step], ∀ e ∈ x, e.standsAt Level.test = true) :
    SpellsUpTo Closes (Expr.slice lower upper step).text.toList
      (Expr.slice lower upper step).tokens := by
  -- from the end: the step with its colon, the upper bound, the first colon, the lower bound
  obtain ⟨last, lastTokens, last_eq, lastTokens_eq, spells, next, opens⟩ :
      ∃ text ts, (step.elim "" fun s => ":" ++ s.textAt Level.test).toList = text ∧
        partTokens .colon (step.map (Expr.tokensAt Level.test)) = ts ∧ SpellsInside text ts ∧
        (∀ c ∈ text.head?, Closes c) ∧ (text = [] ∨ Opens text) := by
    cases step with
    | none => exact ⟨_, _, rfl, rfl, .inl ⟨rfl, rfl⟩, by simp, .inl rfl⟩
    | some e =>
      have spelt := h (some e) (by simp) e rfl
      have colon := SpellsInside.afterColon (.inr (spelt.at_ Level.test))
        (.inr (spelt.opensAt (stand (some e) (by simp) e rfl)))
      refine ⟨_, _, rfl, rfl, .inr (by simpa [partTokens] using colon), ?_, .inr ?_⟩
      · simpa using show Closes ':' by decide
      · simpa using opens_cons (c := ':') rfl _
  have second := (spellsInside_bound upper (h upper (by simp))).append spells next
  have colon := second.afterColon (by
    rcases opens_bound upper (h upper (by simp)) (stand upper (by simp)) with empty | opens'
    · rw [empty]
      exact opens
    · exact .inr (opens'.append _))
  have whole := (spellsInside_bound lower (h lower (by simp))).append (.inr colon)
    (head_cons _ (by decide))
  rcases whole with ⟨empty, -⟩ | whole
  · simp at empty
  · simpa [Expr.text, Expr.tokens, optionText_eq, optionTokens_eq, sliceText, sliceTokens,
      Function.comp_def, last_eq, lastTokens_eq] using whole

theorem opens_slice {lower upper step : Option Expr}
    (h : ∀ x ∈ [lower, upper, step], ∀ e ∈ x, Spelt e)
    (stand : ∀ x ∈ [lower, upper, step], ∀ e ∈ x, e.standsAt Level.test = true) :
    Opens (Expr.slice lower upper step).text.toList := by
  simp only [Expr.text, sliceText, optionText_eq, String.toList_append, List.append_assoc]
  rcases opens_bound lower (h lower (by simp)) (stand lower (by simp)) with empty | opens
  · rw [empty]
    exact opens_cons (c := ':') rfl _
  · exact opens.append _

/-! ### Arguments and parameters -/

theorem spells_argument {k : Argument Expr} (names : ∀ n ∈ k.name, isIdentifier n = true)
    (h : Spelt k.value) (stands : k.value.standsAt (argumentLevel k.name) = true) :
    SpellsUpTo Closes k.text.toList k.tokens := by
  obtain ⟨name, value⟩ := k
  have opens := h.opensAt stands
  have spells := h.at_ (argumentLevel name)
  cases name with
  | none =>
    have := spells.prefixed ['*', '*'] (.symbol .doubleStar) (by decide) (by decide) (fun _ => rfl) opens
    simpa [Argument.text, Argument.tokens, argumentText, argumentTokens] using this
  | some n =>
    have value := spells.prefixed ['='] (.symbol .assign) (by decide) (by decide) (fun _ => rfl) opens
    have := (spells_identifier (names n rfl)).append value ⟨'=', _, rfl, by decide⟩
    simpa [Argument.text, Argument.tokens, argumentText, argumentTokens] using this

theorem mem_argsOf {args : List Expr} {keywords : List (Argument Expr)} {a : CallArg}
    (h : a ∈ argsOf args keywords) : (∃ x ∈ args, a = .inl x) ∨ ∃ k ∈ keywords, a = .inr k := by
  rcases List.mem_append.1 h with h | h
  · obtain ⟨x, hx, rfl⟩ := List.mem_map.1 h
    exact .inl ⟨x, hx, rfl⟩
  · obtain ⟨k, hk, rfl⟩ := List.mem_map.1 h
    exact .inr ⟨k, hk, rfl⟩

theorem spells_args {args : List Expr} {keywords : List (Argument Expr)}
    (h : ∀ x ∈ args, Spelt x) (names : ∀ k ∈ keywords, ∀ n ∈ k.name, isIdentifier n = true)
    (values : ∀ k ∈ keywords, Spelt k.value)
    (stand : ∀ k ∈ keywords, k.value.standsAt (argumentLevel k.name) = true) :
    ∀ a ∈ argsOf args keywords, SpellsUpTo Closes (argText a).toList (argTokens a) := by
  intro a ha
  rcases mem_argsOf ha with ⟨x, hx, rfl⟩ | ⟨k, hk, rfl⟩
  · exact (h x hx).at_ Level.test
  · exact spells_argument (names k hk) (values k hk) (stand k hk)

/-- A default value behind a name or an annotation. -/
theorem spells_preset {name : String} (identifier : isIdentifier name = true)
    (hint preset : Option Expr) (hints : ∀ e ∈ hint, Spelt e) (presets : ∀ e ∈ preset, Spelt e)
    (stand : ∀ e ∈ preset, e.standsAt Level.test = true) :
    SpellsUpTo Closes
      (paramText name .positional (hint.map (Expr.textAt Level.test))
        (preset.map (Expr.textAt Level.test))).toList
      (paramTokens name .positional (hint.map (Expr.tokensAt Level.test))
        (preset.map (Expr.tokensAt Level.test))) := by
  have named := spells_identifier identifier
  have closed := named.mono fun _ => Closes.delimits
  cases hint with
  | none =>
    cases preset with
    | none => simpa [paramText, paramTokens, ParamKind.stars, ParamKind.starTokens, partTokens]
        using closed
    | some d =>
      have value := ((presets d rfl).at_ Level.test).prefixed ['='] (.symbol .assign) (by decide) (by decide)
        (fun _ => rfl) ((presets d rfl).opensAt (stand d rfl))
      have := named.append value ⟨'=', _, rfl, by decide⟩
      simpa [paramText, paramTokens, ParamKind.stars, ParamKind.starTokens, partTokens] using this
  | some a =>
    have annotated := spells_colon closed ((hints a rfl).at_ Level.test)
    cases preset with
    | none =>
      simpa [paramText, paramTokens, ParamKind.stars, ParamKind.starTokens, partTokens]
        using annotated
    | some d =>
      have := spells_infix ['='] (.symbol .assign) (by decide) (fun _ => rfl) annotated
        ((presets d rfl).at_ Level.test)
      simpa [paramText, paramTokens, ParamKind.stars, ParamKind.starTokens, partTokens] using this

/-- A parameter may have stars in front. -/
theorem spells_param {name : String} (kind : ParamKind) (identifier : isIdentifier name = true)
    (hint preset : Option Expr) (hints : ∀ e ∈ hint, Spelt e) (presets : ∀ e ∈ preset, Spelt e)
    (stand : ∀ e ∈ preset, e.standsAt Level.test = true) :
    SpellsUpTo Closes
      (paramText name kind (hint.map (Expr.textAt Level.test))
        (preset.map (Expr.textAt Level.test))).toList
      (paramTokens name kind (hint.map (Expr.tokensAt Level.test))
        (preset.map (Expr.tokensAt Level.test))) := by
  have plain := spells_preset identifier hint preset hints presets stand
  have opens : Opens (paramText name .positional (hint.map (Expr.textAt Level.test))
      (preset.map (Expr.textAt Level.test))).toList := by
    simpa [paramText, ParamKind.stars] using (opens_identifier identifier).append _
  cases kind with
  | positional => exact plain
  | keywordOnly => exact plain
  | varArgs =>
    have := plain.prefixed ['*'] (.symbol .star) (by decide) (by decide) (fun _ => rfl) opens
    simpa [paramText, paramTokens, ParamKind.stars, ParamKind.starTokens] using this
  | varKeywords =>
    have := plain.prefixed ['*', '*'] (.symbol .doubleStar) (by decide) (by decide) (fun _ => rfl)
      opens
    simpa [paramText, paramTokens, ParamKind.stars, ParamKind.starTokens] using this

theorem Param.name_plain (p : Param Expr) : p.plain.name = p.name := by
  rw [plain]
  split <;> rfl

theorem Param.hint_plain (p : Param Expr) : p.plain.hint = p.hint := by
  rw [plain]
  split <;> rfl

theorem Param.preset_plain (p : Param Expr) : p.plain.preset = p.preset := by
  rw [plain]
  split <;> rfl

theorem Param.standsAt_preset {annotated : Bool} {p : Param Expr} (h : p.stands annotated = true) :
    ∀ e ∈ p.preset, e.standsAt Level.test = true := by
  intro e he
  simp only [stands, Bool.and_eq_true, Option.all_eq_true] at h
  exact (h.2 e he).2

/-- The entries of a list of parameters, its stars included. -/
theorem spells_entry (annotated starSeen : Bool) {params : List (Param Expr)}
    (names : ∀ p ∈ params, isIdentifier p.name = true)
    (hints : ∀ p ∈ params, annotated = true → ∀ e ∈ p.hint, Spelt e)
    (presets : ∀ p ∈ params, ∀ e ∈ p.preset, Spelt e)
    (stand : ∀ p ∈ params, p.stands annotated = true) :
    ∀ entry ∈ entriesOf starSeen params,
      SpellsUpTo Closes (entry.text annotated).toList (entry.tokens annotated) := by
  intro entry mem
  rcases mem_entriesOf mem with rfl | ⟨p, hp, rfl⟩
  · have := spells_symbol ['*'] (.symbol .star) (by decide) (fun _ => rfl) (by decide)
    simpa [ParamEntry.text, ParamEntry.tokens] using this
  · simp only [ParamEntry.text, ParamEntry.tokens, p.name_plain, p.hint_plain, p.preset_plain]
    have stands := Param.standsAt_preset (stand p hp)
    cases annotated with
    | false =>
      exact spells_param _ (names p hp) none _ (fun _ h => by cases h) (presets p hp) stands
    | true => exact spells_param _ (names p hp) _ _ (hints p hp rfl) (presets p hp) stands

/-! ### Clauses -/

theorem spells_conditions {conditions : List Expr} (h : ∀ x ∈ conditions, Spelt x)
    (left : SpellsUpTo Closes text ts) :
    SpellsUpTo Closes (text ++ (conditionsText conditions).toList)
      (ts ++ conditionsTokens conditions) := by
  induction conditions generalizing text ts with
  | nil => simpa [conditionsText, conditionsTokens] using left
  | cons x conditions ih =>
    have right := (h x List.mem_cons_self).at_ Level.disjunction
    have := ih (fun y hy => h y (List.mem_cons_of_mem _ hy)) (left.between .ifKw " if " rfl right)
    simpa [conditionsText_cons, conditionsTokens_eq] using this

theorem spells_clauses {clauses : List (Clause Expr)}
    (targets : ∀ c ∈ clauses, ∀ x ∈ c.target.bareItems, Spelt x)
    (iters : ∀ c ∈ clauses, Spelt c.iter)
    (conditions : ∀ c ∈ clauses, ∀ x ∈ c.conditions, Spelt x)
    (left : SpellsUpTo Closes text ts) :
    SpellsUpTo Closes (text ++ (clausesText clauses).toList) (ts ++ clausesTokens clauses) := by
  induction clauses generalizing text ts with
  | nil => simpa [clausesText, clausesTokens] using left
  | cons c clauses ih =>
    have target := spells_bare (targets c List.mem_cons_self)
    have iter := (iters c List.mem_cons_self).at_ Level.disjunction
    have first := spells_conditions (conditions c List.mem_cons_self)
      (left.between .forKw " for " rfl (target.between .inKw " in " rfl iter))
    have := ih (fun d hd => targets d (List.mem_cons_of_mem _ hd))
      (fun d hd => iters d (List.mem_cons_of_mem _ hd))
      (fun d hd => conditions d (List.mem_cons_of_mem _ hd)) first
    simpa [clausesText_cons, clausesTokens_eq, Clause.tokens] using this

/-! ### Expressions -/

theorem Spelt.opensPrimary (h : Spelt e) (item : e.isItem = true) :
    Opens (e.textAt Level.primary).toList :=
  h.opensAt (Expr.standsAt_of_isItem item (by decide))

theorem UnaryOp.level_lt_primary (op : UnaryOp) : op.level < Level.primary := by
  cases op <;> decide

theorem BinaryOp.level_lt_primary (op : BinaryOp) : op.level < Level.primary := by
  cases op <;> decide

theorem LogicOp.level_lt_primary (op : LogicOp) : op.level < Level.primary := by
  cases op <;> decide

/-- A form of expression between brackets. -/
theorem spelt_enclosed {c : Char} (opener : isOpener c = true)
    (head : e.text.toList = c :: text) (spells : ∀ stop, SpellsUpTo stop (c :: text) e.tokens) :
    Spelt e := by
  refine ⟨?_, fun _ => ?_⟩
  · rw [head]
    exact spells _
  · rw [head]
    exact opens_cons opener _

/-- A point in front of a text that starts with an identifier. -/
theorem SpellsUpTo.dotted {id : String} (identifier : isIdentifier id = true)
    (h : SpellsUpTo stop (id.toList ++ text) ts) :
    SpellsUpTo stop ('.' :: (id.toList ++ text)) (.symbol .dot :: ts) := by
  intro indents depth used rest us next inLine
  refine InLine.symbol ['.'] (.symbol .dot) (by decide) ?_ (h next inLine)
  have word : isWord id.toList = true := by
    simp only [isIdentifier, Bool.and_eq_true] at identifier
    exact identifier.1
  cases htext : id.toList with
  | nil => simp [htext, isWord] at word
  | cons c tail =>
    simp only [htext, isWord, Bool.and_eq_true] at word
    exact head_cons _ ((isLead_of_isNameStart word.1).2 _ (by simp))

theorem spells_attribute {attr : String} (identifier : isIdentifier attr = true) :
    SpellsUpTo Delimits ('.' :: attr.toList) [.symbol .dot, .name attr] := by
  have spells := spells_identifier identifier
  rw [← List.append_nil attr.toList] at spells ⊢
  exact spells.dotted identifier

theorem spelt_subscript {index : Expr} {inner : String} (value : Spelt e) (item : e.isItem = true)
    (text_eq : (Expr.subscript e index).text = e.textAt Level.primary ++ "[" ++ inner ++ "]")
    (tokens_eq : (Expr.subscript e index).tokens =
      e.tokensAt Level.primary ++ between .leftBracket .rightBracket ts)
    (spells : SpellsUpTo Closes inner.toList ts) : Spelt (.subscript e index) := by
  have brackets := spells_brackets (Expr.subscript e index).Stops (.inr spells)
  have whole := (value.at_ Level.primary).append brackets ⟨'[', _, rfl, by decide⟩
  refine ⟨?_, fun _ => ?_⟩
  · simpa [text_eq, tokens_eq] using whole
  · rw [text_eq]
    simpa using (value.opensPrimary item).append _

theorem text_subscript_single {i : Expr} (single : i.isIndex = true) :
    (Expr.subscript e i).text =
      e.textAt Level.primary ++ "[" ++ i.textAt Level.test ++ "]" := by
  cases i with
  | tuple items =>
    cases items with
    | nil => simp only [Expr.text, Expr.textAt]
    | cons => cases single
  | _ => simp only [Expr.text, Expr.textAt]

theorem tokens_subscript_single {i : Expr} (single : i.isIndex = true) :
    (Expr.subscript e i).tokens = e.tokensAt Level.primary ++
      between .leftBracket .rightBracket (i.tokensAt Level.test) := by
  cases i with
  | tuple items =>
    cases items with
    | nil => simp only [Expr.tokens, Expr.tokensAt]
    | cons => cases single
  | _ => simp only [Expr.tokens, Expr.tokensAt]

theorem spells_unary (op : UnaryOp) (h : SpellsUpTo Closes text ts) (opens : Opens text) :
    SpellsUpTo Closes (op.lead.toList ++ text) (op.token :: ts) := by
  cases op with
  | not => exact h.word .notKw "not " rfl
  | neg => exact h.prefixed ['-'] _ (by decide) (by decide) (fun _ => rfl) opens
  | pos => exact h.prefixed ['+'] _ (by decide) (by decide) (fun _ => rfl) opens
  | invert => exact h.prefixed ['~'] _ (by decide) (by decide) (fun _ => rfl) opens

theorem spells_lambda {params : List (Param Expr)} (body : Spelt e)
    (entries : ∀ entry ∈ entriesOf false params,
      SpellsUpTo Closes (entry.text false).toList (entry.tokens false)) :
    SpellsUpTo Closes (Expr.lambda params e).text.toList (Expr.lambda params e).tokens := by
  have after := (body.at_ Level.test).symbol [':'] (.symbol .colon) (by decide) fun _ => rfl
  cases params with
  | nil =>
    have := (spells_keyword .lambdaKw).append after ⟨':', _, rfl, by decide⟩
    simpa [Expr.text, Expr.tokens, parameterTokens, separatedBy, Expr.textAt, Expr.tokensAt,
      Keyword.spelling] using this
  | cons p params =>
    have filled : entriesOf false (p :: params) ≠ [] := by simp [entriesOf]
    have inner := spells_separated filled _ _ entries
    rw [← paramTexts_eq, ← parameterTokens_eq] at inner
    have := (inner.append after ⟨':', _, rfl, by decide⟩).word .lambdaKw "lambda " rfl
    simpa [Expr.text, Expr.tokens, Expr.textAt, Expr.tokensAt] using this

theorem opens_lambda (params : List (Param Expr)) (e : Expr) :
    Opens (Expr.lambda params e).text.toList := by
  cases params with
  | nil => simpa [Expr.text] using opens_cons (c := 'l') rfl _
  | cons p params => simpa [Expr.text] using opens_cons (c := 'l') rfl _

theorem spelt_dotted {attr : String} (value : Spelt e) (item : e.isItem = true)
    (point : e.takesPoint = true) (identifier : isIdentifier attr = true) :
    Spelt (.attribute e attr) := by
  have whole := (value.beforePoint point).append (spells_attribute identifier) ⟨'.', _, rfl, .inr rfl⟩
  refine ⟨?_, fun _ => ?_⟩
  · simpa [Expr.text, Expr.tokens, Expr.textAt, Expr.tokensAt] using
      whole.mono fun _ => Expr.Stops.delimits
  · simpa [Expr.text, Expr.textAt] using (value.opensPrimary item).append _

theorem spelt_call {args : List Expr} {keywords : List (Argument Expr)} (func : Spelt e)
    (item : e.isItem = true)
    (spells : ∀ a ∈ argsOf args keywords, SpellsUpTo Closes (argText a).toList (argTokens a)) :
    Spelt (.call e args keywords) := by
  have inner := spells_list (argsOf args keywords) argText argTokens spells
  have whole := (func.at_ Level.primary).append
    (spells_parens (Expr.call e args keywords).Stops inner) ⟨'(', _, rfl, by decide⟩
  refine ⟨?_, fun _ => ?_⟩
  · simpa [Expr.text, Expr.tokens, argTexts_eq, argTokens_eq, Expr.textAt, Expr.tokensAt] using whole
  · simpa [Expr.text, Expr.textAt] using (func.opensPrimary item).append _

/-! ### Displays -/

section Displays

variable {items : List Expr}

theorem spells_items (h : ∀ x ∈ items, Spelt x) :
    SpellsInside (joinWith ", " (items.map (Expr.textAt Level.test))).toList
      (commas (items.map (Expr.tokensAt Level.test))) :=
  spells_list items (Expr.textAt Level.test) (Expr.tokensAt Level.test)
    fun x hx => (h x hx).at_ Level.test

theorem spelt_list (h : ∀ x ∈ items, Spelt x) : Spelt (.list items) := by
  refine spelt_enclosed (c := '[') rfl (by simp [Expr.text, textsAt_eq]; rfl) fun stop => ?_
  simpa [Expr.tokens, itemTokens_eq] using spells_brackets stop (spells_items h)

theorem spelt_tuple (h : ∀ x ∈ items, Spelt x) : Spelt (.tuple items) := by
  cases items with
  | nil =>
    refine spelt_enclosed (c := '(') rfl (by simp [Expr.text]; rfl) fun stop => ?_
    simpa [Expr.tokens] using spells_parens stop (.inl ⟨rfl, rfl⟩)
  | cons x items =>
    refine spelt_enclosed (c := '(') rfl (by simp [Expr.text, textsAt_eq]; rfl) fun stop => ?_
    simpa [Expr.tokens, itemTokens_eq] using spells_parens stop (.inr (spells_tuple h))

theorem spelt_set (filled : items ≠ []) (h : ∀ x ∈ items, Spelt x) : Spelt (.set items) := by
  have inner := spells_items h
  obtain ⟨x, items, rfl⟩ := List.exists_cons_of_ne_nil filled
  refine spelt_enclosed (c := '\x7b') rfl (by simp [Expr.text, textsAt_eq]; rfl) fun stop => ?_
  simpa [Expr.tokens, itemTokens_eq] using spells_braces stop inner

theorem spelt_dict {entries : List (Expr × Expr)} (keys : ∀ x ∈ entries, Spelt x.1)
    (values : ∀ x ∈ entries, Spelt x.2) : Spelt (.dict entries) := by
  have inner := spells_list entries entryText pairTokens fun x hx => by
    simpa [entryText, pairTokens] using
      spells_colon ((keys x hx).at_ Level.test) ((values x hx).at_ Level.test)
  refine spelt_enclosed (c := '\x7b') rfl (by simp [Expr.text, entryTexts_eq]; rfl) fun stop => ?_
  simpa [Expr.tokens, entryTokens_eq] using spells_braces stop inner

end Displays

section Comprehensions

variable {clauses : List (Clause Expr)}

theorem spelt_comprehension (kind : ComprehensionKind) (element : Spelt e)
    (targets : ∀ c ∈ clauses, ∀ x ∈ c.target.bareItems, Spelt x)
    (iters : ∀ c ∈ clauses, Spelt c.iter)
    (conditions : ∀ c ∈ clauses, ∀ x ∈ c.conditions, Spelt x) :
    Spelt (.comprehension kind e clauses) := by
  have inner := spells_clauses targets iters conditions (element.at_ Level.test)
  cases kind with
  | list =>
    refine spelt_enclosed (c := '[') rfl
      (by simp [Expr.text, ComprehensionKind.wrap]; rfl) fun stop => ?_
    simpa [Expr.tokens, ComprehensionKind.between, Expr.textAt, Expr.tokensAt] using
      spells_brackets stop (.inr inner)
  | set =>
    refine spelt_enclosed (c := '\x7b') rfl
      (by simp [Expr.text, ComprehensionKind.wrap]; rfl) fun stop => ?_
    simpa [Expr.tokens, ComprehensionKind.between, Expr.textAt, Expr.tokensAt] using
      spells_braces stop (.inr inner)
  | generator =>
    refine spelt_enclosed (c := '(') rfl
      (by simp [Expr.text, ComprehensionKind.wrap]; rfl) fun stop => ?_
    simpa [Expr.tokens, ComprehensionKind.between, Expr.textAt, Expr.tokensAt] using
      spells_parens stop (.inr inner)

theorem spelt_dictComprehension {k v : Expr} (key : Spelt k) (value : Spelt v)
    (targets : ∀ c ∈ clauses, ∀ x ∈ c.target.bareItems, Spelt x)
    (iters : ∀ c ∈ clauses, Spelt c.iter)
    (conditions : ∀ c ∈ clauses, ∀ x ∈ c.conditions, Spelt x) :
    Spelt (.dictComprehension k v clauses) := by
  have inner := spells_clauses targets iters conditions
    (spells_colon (key.at_ Level.test) (value.at_ Level.test))
  refine spelt_enclosed (c := '\x7b') rfl (by simp [Expr.text]; rfl) fun stop => ?_
  simpa [Expr.tokens, Expr.textAt, Expr.tokensAt] using spells_braces stop (.inr inner)

end Comprehensions

/-! ### Operators -/

theorem spelt_unary (op : UnaryOp) (operand : Spelt e) (stands : e.standsAt op.level = true) :
    Spelt (.unary op e) := by
  refine .of_open (.inl op.level_lt_primary) ?_ fun _ => ?_
  · simpa [Expr.text, Expr.tokens, Expr.textAt, Expr.tokensAt] using
      spells_unary op (operand.at_ op.level) (operand.opensAt stands)
  · have lead : Opens op.lead.toList := by cases op <;> exact opens_cons rfl _
    simpa [Expr.text] using lead.append _

theorem spelt_binary {l r : Expr} (op : BinaryOp) (left : Spelt l) (right : Spelt r)
    (stands : l.standsAt op.leftLevel = true) : Spelt (.binary l op r) := by
  have mem : (op.symbol.toList, Token.symbol op.sign) ∈ Token.spellings := by
    cases op <;> decide
  have spells := spells_infix op.symbol.toList (.symbol op.sign) mem
    (by cases op <;> exact fun _ => rfl) (left.at_ op.leftLevel) (right.at_ op.rightLevel)
  refine .of_open (.inl op.level_lt_primary) ?_ fun _ => ?_
  · simpa [Expr.text, Expr.tokens, Expr.textAt, Expr.tokensAt] using spells
  · simpa [Expr.text, Expr.textAt] using (left.opensAt stands).append _

theorem spelt_logic (op : LogicOp) {values : List Expr} (filled : values ≠ [])
    (h : ∀ x ∈ values, Spelt x) (stand : ∀ x ∈ values, x.standsAt (op.level + 1) = true) :
    Spelt (.logic op values) := by
  refine .of_open (.inl op.level_lt_primary) ?_ fun _ => ?_
  · simpa [Expr.text, Expr.tokens, textsAt_eq, itemTokens_eq] using
      spells_logic op filled (op.level + 1) h
  · simpa [Expr.text, textsAt_eq] using
      opens_joined op.word filled _ fun x hx => (h x hx).opensAt (stand x hx)

theorem spelt_compare (ops : List CompareOp) {comparators : List Expr} (left : Spelt e)
    (stands : e.standsAt Level.bitOr = true) (h : ∀ x ∈ comparators, Spelt x) :
    Spelt (.compare e ops comparators) := by
  have spells := spells_comparison ops Level.bitOr h (left.at_ Level.bitOr)
  refine .of_open (.inl (by decide : Level.comparison < Level.primary)) ?_ fun _ => ?_
  · simpa [Expr.text, Expr.tokens, Expr.textAt, Expr.tokensAt, textsAt_eq, itemTokens_eq] using
      spells
  · simpa [Expr.text, Expr.textAt] using (left.opensAt stands).append _

theorem spelt_conditional {t b o : Expr} (test : Spelt t) (body : Spelt b) (orelse : Spelt o)
    (stands : b.standsAt Level.disjunction = true) : Spelt (.conditional t b o) := by
  have spells := (body.at_ Level.disjunction).between .ifKw " if " rfl
    ((test.at_ Level.disjunction).between .elseKw " else " rfl (orelse.at_ Level.test))
  refine .of_open (.inl (by decide : Level.conditional < Level.primary)) ?_ fun _ => ?_
  · simpa [Expr.text, Expr.tokens, Expr.textAt, Expr.tokensAt] using spells
  · simpa [Expr.text, Expr.textAt] using (body.opensAt stands).append _

theorem spelt_named {target : String} (identifier : isIdentifier target = true) (value : Spelt e) :
    Spelt (.named target e) := by
  have spells := spells_infix [':', '='] (.symbol .colonEq) (by decide) (fun _ => rfl)
    ((spells_identifier identifier).mono fun _ => Closes.delimits) (value.at_ Level.test)
  refine .of_open (.inl (by decide : Level.named < Level.primary)) ?_ fun _ => ?_
  · simpa [Expr.text, Expr.tokens, Expr.textAt, Expr.tokensAt] using spells
  · simpa [Expr.text] using (opens_identifier identifier).append _

/-! ### All forms -/

/-- The text of a legible expression stands for its tokens. -/
theorem Legible.spelt (h : Legible e) : Spelt e := by
  induction h with
  | name identifier =>
    refine ⟨?_, fun _ => ?_⟩
    · simpa [Expr.text, Expr.tokens] using
        (spells_identifier identifier).mono fun _ => Expr.Stops.delimits
    · simpa [Expr.text] using opens_identifier identifier
  | constant legible =>
    refine ⟨?_, fun _ => ?_⟩
    · simpa [Expr.text, Expr.tokens] using Constant.spells legible
    · simpa [Expr.text] using Constant.opens legible
  | dotted _ item point identifier ih => exact spelt_dotted ih item point identifier
  | subscript value item index single ihValue ihIndex =>
    exact spelt_subscript ihValue item (text_subscript_single single)
      (tokens_subscript_single single) (ihIndex.at_ Level.test)
  | @subscriptMany e items value item several legible stand ihValue ihItems =>
    have filled : items ≠ [] := by
      rintro rfl
      cases several
    exact spelt_subscript ihValue item (text_subscript_many filled) (tokens_subscript_many filled)
      (spells_separated filled _ _ fun x hx => (ihItems x hx).at_ Level.test)
  | slice legible stand ih =>
    exact .of_open (.inr rfl) (spells_slice ih stand) fun _ => opens_slice ih stand
  | call _ item _ _ names _ stand ihFunc ihArgs ihValues =>
    exact spelt_call ihFunc item (spells_args ihArgs names ihValues stand)
  | starred value stands ih =>
    have spells := (ih.at_ Level.bitOr).prefixed ['*'] (.symbol .star) (by decide) (by decide)
      (fun _ => rfl) (ih.opensAt stands)
    refine .of_open (.inl (by decide : Level.bitOr < Level.primary)) ?_ (fun h => by cases h)
    simpa [Expr.text, Expr.tokens, Expr.textAt, Expr.tokensAt] using spells
  | list _ _ ih => exact spelt_list ih
  | tuple _ _ ih => exact spelt_tuple ih
  | set filled _ _ ih => exact spelt_set filled ih
  | dict _ _ _ _ _ ihKeys ihValues => exact spelt_dict ihKeys ihValues
  | @comprehension kind _ _ _ _ _ _ _ _ _ ihElement ihTargets ihIters ihConditions =>
    exact spelt_comprehension kind ihElement ihTargets ihIters ihConditions
  | dictComprehension _ _ _ _ _ _ _ _ _ ihKey ihValue ihTargets ihIters ihConditions =>
    exact spelt_dictComprehension ihKey ihValue ihTargets ihIters ihConditions
  | @unary op _ _ stands ih => exact spelt_unary op ih stands
  | @binary _ _ op _ _ standsLeft _ ihLeft ihRight => exact spelt_binary op ihLeft ihRight standsLeft
  | @logic op values several legible stand ih =>
    have filled : values ≠ [] := by
      rintro rfl
      cases several
    exact spelt_logic op filled ih stand
  | @compare _ ops _ _ stands _ _ _ _ ihLeft ih => exact spelt_compare ops ihLeft stands ih
  | conditional _ _ _ _ standsBody _ ihTest ihBody ihElse =>
    exact spelt_conditional ihTest ihBody ihElse standsBody
  | lambda names kinds presets stand body stands ihPresets ihBody =>
    exact .of_open (.inl (by decide : Level.test < Level.primary))
      (spells_lambda ihBody (spells_entry _ _ names (fun _ _ h => by cases h) ihPresets stand))
      fun _ => opens_lambda _ _
  | await value item ih =>
    have spells := (ih.at_ Level.primary).word .awaitKw "await " rfl
    refine .of_open (.inl (by decide : Level.await < Level.primary)) ?_ fun _ => ?_
    · simpa [Expr.text, Expr.tokens, Expr.textAt, Expr.tokensAt] using spells
    · simpa [Expr.text] using opens_cons (c := 'a') rfl _
  | named identifier _ _ ih => exact spelt_named identifier ih

end RobotCell.Script
