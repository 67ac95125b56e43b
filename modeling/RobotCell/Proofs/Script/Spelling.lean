import RobotCell.Proofs.Script.Layout
import RobotCell.Proofs.Script.Stream

/-!
# Texts that stand for tokens

A text stands for tokens inside any line if it is read as them whatever comes before it and behind
it, up to a condition on the next character. Texts are put together with blanks, words, symbols and
brackets between them; each way has one statement here, and the texts of expressions and statements
are told by these statements alone.

## Main definitions

- `SpellsUpTo` — a text that stands for the tokens in front of certain characters
- `Closes` — the characters that stand behind expressions
- `Opens` — a text that may follow directly behind an operator
-/

namespace RobotCell.Script

open RobotCell.Text (joinWith)

/-- Inside any line, the text stands for the tokens, if `stop` holds for the character behind it. -/
def SpellsUpTo (stop : Char → Prop) (text : List Char) (ts : List Token) : Prop :=
  ∀ ⦃indents : List Nat⦄ ⦃depth : Nat⦄ ⦃used : Bool⦄ ⦃rest : List Char⦄ ⦃us : List Token⦄,
    (∀ c ∈ rest.head?, stop c) → InLine indents depth true rest us →
    InLine indents depth used (text ++ rest) (ts ++ us)

/-- The characters that may stand behind any expression. -/
def closers : List Char :=
  [' ', '\n', ')', ']', '\x7d', ',', ':', '(', '[']

/-- The character may stand behind any expression. -/
def Closes (c : Char) : Prop :=
  c ∈ closers

instance (c : Char) : Decidable (Closes c) :=
  inferInstanceAs (Decidable (c ∈ _))

/-- What holds for each of the characters is found out by going through them. -/
theorem Closes.of_all {c : Char} (h : Closes c) (p : Char → Bool) (all : closers.all p = true) :
    p c = true :=
  List.all_eq_true.1 all c h

theorem Closes.delimits {c : Char} (h : Closes c) : Delimits c :=
  of_decide_eq_true (h.of_all (fun c => decide (Delimits c)) (by decide))

variable {stop stop' : Char → Prop} {text more : List Char} {ts us : List Token}

theorem head_cons {c : Char} (rest : List Char) (h : stop c) :
    ∀ d ∈ (c :: rest).head?, stop d := by
  intro d hd
  cases hd
  exact h

namespace SpellsUpTo

theorem mono (h : SpellsUpTo stop text ts) (weaker : ∀ c, stop' c → stop c) :
    SpellsUpTo stop' text ts :=
  fun _ _ _ _ _ next inLine => h (fun c hc => weaker c (next c hc)) inLine

/-- One text behind another. -/
theorem append (h : SpellsUpTo stop text ts) (hmore : SpellsUpTo stop' more us)
    (next : ∃ c tail, more = c :: tail ∧ stop c) : SpellsUpTo stop' (text ++ more) (ts ++ us) := by
  intro indents depth used rest vs follow inLine
  obtain ⟨c, tail, rfl, hc⟩ := next
  rw [List.append_assoc, List.append_assoc]
  exact h (head_cons _ hc) (hmore follow inLine)

theorem blank (h : SpellsUpTo stop text ts) : SpellsUpTo stop (" ".toList ++ text) ts :=
  fun _ _ _ _ _ next inLine => InLine.blank (h next inLine)

/-- A text behind an expression and a blank. -/
theorem spaced (h : SpellsUpTo Closes text ts) (hmore : SpellsUpTo stop more us) :
    SpellsUpTo stop (text ++ (" ".toList ++ more)) (ts ++ us) :=
  h.append hmore.blank ⟨' ', more, rfl, by decide⟩

end SpellsUpTo

/-! ### Words -/

theorem spells_identifier {id : String} (h : isIdentifier id = true) :
    SpellsUpTo Delimits id.toList [.name id] :=
  fun _ _ _ _ _ next inLine => InLine.name h next inLine

theorem spells_keyword (k : Keyword) : SpellsUpTo Delimits k.spelling.toList [.keyword k] :=
  fun _ _ _ _ _ next inLine => InLine.keyword k next inLine

theorem spells_quoted (s : String) :
    SpellsUpTo Delimits (Literal.quote s).toList [.str s] :=
  fun _ _ _ _ _ next inLine => InLine.quoted s next inLine

/-- A word in front of a blank and another text. -/
theorem SpellsUpTo.word (k : Keyword) (word : String)
    (spelt : word.toList = k.spelling.toList ++ " ".toList) (h : SpellsUpTo stop text ts) :
    SpellsUpTo stop (word.toList ++ text) (.keyword k :: ts) := by
  rw [spelt, List.append_assoc]
  exact (spells_keyword k).append h.blank ⟨' ', text, rfl, by decide⟩

/-- A word between two texts. -/
theorem SpellsUpTo.between (h : SpellsUpTo Closes text ts) (k : Keyword) (word : String)
    (spelt : word.toList = " ".toList ++ (k.spelling.toList ++ " ".toList))
    (hmore : SpellsUpTo stop more us) :
    SpellsUpTo stop (text ++ (word.toList ++ more)) (ts ++ .keyword k :: us) := by
  have later : SpellsUpTo stop (word.toList ++ more) (.keyword k :: us) := by
    rw [spelt, List.append_assoc, List.append_assoc]
    exact ((spells_keyword k).append hmore.blank ⟨' ', more, rfl, by decide⟩).blank
  refine h.append later ⟨' ', k.spelling.toList ++ " ".toList ++ more, ?_, by decide⟩
  rw [spelt, List.append_assoc]
  rfl

/-! ### Symbols -/

/-- The character is not the second one of a symbol. -/
def isOpener (c : Char) : Bool :=
  isInk c && !(['=', '>', '*', '<', '/'].contains c)

/-- The text starts with a lexeme that makes no symbol before it longer, a point apart. -/
def Opens (text : List Char) : Prop :=
  ∃ c more, text = c :: more ∧ isOpener c = true

theorem Opens.append (h : Opens text) (more : List Char) : Opens (text ++ more) := by
  obtain ⟨c, tail, rfl, hc⟩ := h
  exact ⟨c, tail ++ more, rfl, hc⟩

theorem opens_cons {c : Char} (h : isOpener c = true) (more : List Char) : Opens (c :: more) :=
  ⟨c, more, rfl, h⟩

theorem isOpener_of_isNameStart {c : Char} (h : isNameStart c = true) : isOpener c = true := by
  have other : ['=', '>', '*', '<', '/'].all (fun d => !isNameStart d) = true := by decide
  have apart : ¬c ∈ ['=', '>', '*', '<', '/'] := fun hc => by
    simpa [h] using List.all_eq_true.1 other c hc
  simp only [isOpener, isInk_of_isNameStart h, Bool.true_and, Bool.not_eq_true',
    List.contains_eq_mem, decide_eq_false_iff_not]
  exact apart

theorem opens_of_isWord (h : isWord text = true) : Opens text := by
  cases text with
  | nil => cases h
  | cons c more =>
    simp only [isWord, Bool.and_eq_true] at h
    exact ⟨c, more, rfl, isOpener_of_isNameStart h.1⟩

theorem opens_identifier {id : String} (h : isIdentifier id = true) : Opens id.toList := by
  simp only [isIdentifier, Bool.and_eq_true] at h
  exact opens_of_isWord h.1

theorem opens_keyword (k : Keyword) : Opens k.spelling.toList :=
  opens_of_isWord k.isWord_spelling

/-- No symbol but the point goes on with such a character. -/
theorem extendsSymbol_of_isOpener {c : Char} (h : isOpener c = true)
    {e : List Char × Token} (mem : e ∈ Token.spellings) (point : e.1 ≠ ['.']) :
    extendsSymbol e.1 c = false := by
  -- the second characters of symbols, read off the table
  have table : (Token.spellings.all fun e => e.1 == ['.'] || Token.spellings.all fun f =>
      !e.1.isPrefixOf f.1 || (f.1.drop e.1.length).head?.all fun c =>
        ['=', '>', '*', '<', '/'].contains c) = true := by
    decide +kernel
  simp only [isOpener, Bool.and_eq_true, Bool.not_eq_true'] at h
  have none : ∀ f ∈ Token.spellings, ¬(e.1 ++ [c]).isPrefixOf f.1 = true := by
    intro f hf longer
    obtain ⟨tail, longer⟩ := List.isPrefixOf_iff_prefix.1 longer
    have shorter : e.1.isPrefixOf f.1 = true :=
      List.isPrefixOf_iff_prefix.2 ⟨c :: tail, by rw [← longer]; simp⟩
    have row := List.all_eq_true.1 table e mem
    rw [Bool.or_eq_true, List.all_eq_true] at row
    have entry := (row.resolve_left (by simpa using point)) f hf
    rw [shorter, ← longer] at entry
    simp only [Bool.not_true, Bool.false_or, List.append_assoc, List.drop_left,
      List.singleton_append, List.head?_cons, Option.all_some] at entry
    rw [h.2] at entry
    cases entry
  simp only [extendsSymbol, Bool.or_eq_false_iff, List.any_eq_false]
  exact ⟨none, by simp [point]⟩

/-- A symbol directly in front of a text. -/
theorem SpellsUpTo.prefixed (spelling : List Char) (t : Token)
    (mem : (spelling, t) ∈ Token.spellings) (point : spelling ≠ ['.'])
    (flat : ∀ depth, Lexer.depthAfter depth t = depth) (opens : Opens text)
    (h : SpellsUpTo stop text ts) : SpellsUpTo stop (spelling ++ text) (t :: ts) := by
  intro indents depth used rest us next inLine
  obtain ⟨c, tail, htext, hc⟩ := opens.append rest
  rw [List.append_assoc, List.cons_append]
  refine InLine.symbol spelling t mem ?_ ?_
  · rw [htext]
    exact head_cons _ (extendsSymbol_of_isOpener hc mem point)
  · rw [flat depth]
    exact h next inLine

theorem not_extendsSymbol_blank {e : List Char × Token} (mem : e ∈ Token.spellings) :
    extendsSymbol e.1 ' ' = false := by
  have all : (Token.spellings.all fun e => !extendsSymbol e.1 ' ') = true := by decide +kernel
  simpa using List.all_eq_true.1 all e mem

/-- A symbol in front of a blank and another text. -/
theorem SpellsUpTo.symbol (spelling : List Char) (t : Token)
    (mem : (spelling, t) ∈ Token.spellings)
    (flat : ∀ depth, Lexer.depthAfter depth t = depth)
    (h : SpellsUpTo stop text ts) :
    SpellsUpTo stop (spelling ++ (" ".toList ++ text)) (t :: ts) := by
  intro indents depth used rest us next inLine
  rw [List.append_assoc, List.append_assoc, List.cons_append]
  refine InLine.symbol spelling t mem ?_ ?_
  · exact head_cons _ (not_extendsSymbol_blank mem)
  · rw [flat depth]
    exact (h next inLine).blank

/-- A symbol in front of what closes an expression. -/
theorem spells_symbol (spelling : List Char) (t : Token) (mem : (spelling, t) ∈ Token.spellings)
    (flat : ∀ depth, Lexer.depthAfter depth t = depth)
    (stops : closers.all (fun c => !extendsSymbol spelling c) = true) :
    SpellsUpTo Closes spelling [t] := by
  intro indents depth used rest us next inLine
  refine InLine.symbol spelling t mem (fun c hc => ?_) ?_
  · simpa using (next c hc).of_all _ stops
  · rw [flat depth]
    exact inLine

/-- A text between brackets. -/
theorem SpellsUpTo.bracketed (left right : Char) (opening closing : Symbol)
    (leftMem : ([left], .symbol opening) ∈ Token.spellings) (leftSolid : isSolid [left] = true)
    (rightMem : ([right], .symbol closing) ∈ Token.spellings) (rightSolid : isSolid [right] = true)
    (deeper : ∀ depth, Lexer.depthAfter depth (.symbol opening) = depth + 1)
    (back : ∀ depth, Lexer.depthAfter (depth + 1) (.symbol closing) = depth)
    (close : Closes right) (h : text = [] ∧ ts = [] ∨ SpellsUpTo Closes text ts) :
    SpellsUpTo stop (left :: (text ++ [right])) (.symbol opening :: (ts ++ [.symbol closing])) := by
  intro indents depth used rest us _ inLine
  have closed : ∀ used, InLine indents (depth + 1) used (right :: rest)
      (.symbol closing :: us) := by
    intro used
    refine InLine.solid [right] _ rightMem rightSolid ?_
    rw [back]
    exact inLine
  have inner : InLine indents (depth + 1) true (text ++ right :: rest)
      (ts ++ .symbol closing :: us) := by
    rcases h with ⟨rfl, rfl⟩ | h
    · exact closed true
    · exact h (head_cons _ close) (closed true)
  simp only [List.cons_append, List.append_assoc, List.nil_append]
  refine InLine.solid [left] _ leftMem leftSolid ?_
  rw [deeper]
  exact inner

/-! ### Lists -/

/-- Texts with a separator between neighbours stand for items with a token between neighbours, if
the separator in front of a text stands for the token. -/
theorem spells_joined {α : Type} (sep : String) (t : Token) {items : List α} (filled : items ≠ [])
    (text : α → String) (tokens : α → List Token)
    (h : ∀ a ∈ items, SpellsUpTo stop (text a).toList (tokens a))
    (next : ∃ c tail, sep.toList = c :: tail ∧ stop c)
    (joins : ∀ (a : α) (tail : List Char) (us : List Token), a ∈ items →
      SpellsUpTo stop ((text a).toList ++ tail) us →
      SpellsUpTo stop (sep.toList ++ ((text a).toList ++ tail)) (t :: us)) :
    SpellsUpTo stop (joinWith sep (items.map text)).toList
      (separatedBy t (items.map tokens)) := by
  induction items with
  | nil => exact absurd rfl filled
  | cons a items ih =>
    have first := h a List.mem_cons_self
    cases items with
    | nil => simpa [joinWith, separatedBy] using first
    | cons b items =>
      have later := ih (by simp) (fun c hc => h c (List.mem_cons_of_mem _ hc))
        (fun c tail us hc => joins c tail us (List.mem_cons_of_mem _ hc))
      -- the texts behind the first separator start with the second text
      obtain ⟨tail, htail⟩ : ∃ tail, (joinWith sep ((b :: items).map text)).toList =
          (text b).toList ++ tail := by
        cases items with
        | nil => exact ⟨[], by simp [joinWith]⟩
        | cons d items =>
          exact ⟨sep.toList ++ (joinWith sep ((d :: items).map text)).toList, by simp [joinWith]⟩
      have text_eq : (joinWith sep ((a :: b :: items).map text)).toList =
          (text a).toList ++ (sep.toList ++ ((text b).toList ++ tail)) := by
        rw [← htail]
        simp [joinWith]
      have tokens_eq : separatedBy t ((a :: b :: items).map tokens) =
          tokens a ++ (t :: separatedBy t ((b :: items).map tokens)) := by
        simp [separatedBy]
      rw [text_eq, tokens_eq]
      rw [htail] at later
      refine first.append (joins b tail _ (by simp) later) ?_
      obtain ⟨c, more, hsep, hc⟩ := next
      exact ⟨c, more ++ ((text b).toList ++ tail), by rw [hsep]; rfl, hc⟩

theorem opens_joined {α : Type} (sep : String) {items : List α} (filled : items ≠ [])
    (text : α → String) (h : ∀ a ∈ items, Opens (text a).toList) :
    Opens (joinWith sep (items.map text)).toList := by
  cases items with
  | nil => exact absurd rfl filled
  | cons a items =>
    have first := h a List.mem_cons_self
    cases items with
    | nil => exact first
    | cons b items => simpa [joinWith] using first.append _

/-- Texts with commas between them. -/
theorem spells_separated {α : Type} {items : List α} (filled : items ≠ []) (text : α → String)
    (tokens : α → List Token) (h : ∀ a ∈ items, SpellsUpTo Closes (text a).toList (tokens a)) :
    SpellsUpTo Closes (joinWith ", " (items.map text)).toList
      (separatedBy (.symbol .comma) (items.map tokens)) := by
  refine spells_joined ", " _ filled text tokens h ⟨',', [' '], rfl, by decide⟩ ?_
  exact fun a tail us ha spells => spells.symbol [','] _ (by decide) fun _ => rfl

/-! ### One line -/

/-- The text ends behind a line with tokens. -/
theorem InLine.finish : InLine [] 0 true [] [.newline, .endOfInput] := by
  intro place
  exact Lexer.Yields.of_close [⟨.newline, place⟩, ⟨.endOfInput, place⟩] rfl rfl

/-- The tokens of a text that is one line without an end. -/
theorem tokenize_of_spells {source : String} (h : SpellsUpTo stop source.toList ts)
    (lead : HasInk source.toList) : ∃ placed, tokenize source = .ok placed ∧
      placed.map PlacedToken.token = ts ++ [.newline, .endOfInput] := by
  obtain ⟨c, tail, hsource, hc⟩ := lead
  have inLine : InLine [] 0 false (source.toList ++ []) (ts ++ [.newline, .endOfInput]) :=
    h (by simp) .finish
  rw [List.append_nil] at inLine
  have starts : StartsAt 0 source.toList (ts ++ [.newline, .endOfInput]) :=
    ⟨0, c, tail, by rw [hsource, margin_of_isInk hc], hsource, hsource ▸ inLine⟩
  exact tokenize_of_resumesAt starts.resumesAt

end RobotCell.Script
