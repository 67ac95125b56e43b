import RobotCell.Proofs.Script.Quoting
import RobotCell.Script.Lexer
import Mathlib.Data.List.Find

/-!
# Reading a text token by token

What the lexer yields for a text is told from the front of the text: each statement here says how
the tokens of a text follow from the tokens of what is left of it behind one lexeme, one blank or
one line end. Places play no part in this; a text yields the same tokens wherever it starts.

## Main definitions

- `Lexer.Yields` — the tokens that a machine gives from a state on
- `InLine`, `AtLine` — the tokens of a text inside a line, and at the start of one
- `Delimits`, `extendsSymbol` — what may stand behind a word or a literal, and what may not stand
  behind a symbol
-/

namespace RobotCell.Script

namespace Lexer

/-- The machine goes through the rest of its text without a fault and gives the tokens. -/
def Yields (s : Lexer) (ts : List Token) : Prop :=
  ∃ placed, s.run = .ok placed ∧ placed.map PlacedToken.token = ts

theorem run_eq (s : Lexer) :
    s.run = match s.step.fault with
      | some e => .error e
      | none =>
        if s.step.state.closed then .ok s.step.tokens
        else s.step.state.run.map (s.step.tokens ++ ·) := by
  rw [run]
  split
  · next e fault => simp [fault]
  · next fault => simp [fault]

/-- A step that leaves the machine open puts its tokens in front of the ones to come. -/
theorem Yields.of_step {s next : Lexer} (tokens : List PlacedToken) {ts : List Token}
    (step : s.step = ⟨none, tokens, next⟩) (opened : next.closed = false) (h : next.Yields ts) :
    s.Yields (tokens.map PlacedToken.token ++ ts) := by
  obtain ⟨placed, hrun, rfl⟩ := h
  refine ⟨tokens ++ placed, ?_, List.map_append⟩
  rw [run_eq, step]
  simp [opened, hrun, Except.map]

/-- A step that closes the machine gives the last tokens. -/
theorem Yields.of_close {s next : Lexer} (tokens : List PlacedToken)
    (step : s.step = ⟨none, tokens, next⟩) (closed : next.closed = true) :
    s.Yields (tokens.map PlacedToken.token) := by
  refine ⟨tokens, ?_, rfl⟩
  rw [run_eq, step]
  simp [closed]

/-- Machines with the same first step give the same tokens. -/
theorem Yields.of_step_eq {s s' : Lexer} {ts : List Token} (same : s.step = s'.step)
    (h : s'.Yields ts) : s.Yields ts := by
  obtain ⟨placed, hrun, hts⟩ := h
  refine ⟨placed, ?_, hts⟩
  rw [run_eq] at hrun ⊢
  rw [same]
  exact hrun

end Lexer

/-! ### Inside a line -/

/-- Inside a line, the text yields the tokens: with the given blocks and the given number of
brackets open, behind other tokens of the line or not. -/
def InLine (indents : List Nat) (depth : Nat) (used : Bool) (rest : List Char)
    (ts : List Token) : Prop :=
  ∀ place, Lexer.Yields ⟨rest, place, indents, depth, false, used, false⟩ ts

/-- At the start of a line, the text yields the tokens. -/
def AtLine (indents : List Nat) (rest : List Char) (ts : List Token) : Prop :=
  ∀ place, Lexer.Yields ⟨rest, place, indents, 0, true, false, false⟩ ts

/-- The character starts a lexeme wherever it stands between two of them. -/
def isInk (c : Char) : Bool :=
  !(['\n', ' ', '\t', '\r', '\x0c', '#', '\\'].contains c)

theorem isInk_iff (c : Char) :
    isInk c = true ↔ c ≠ '\n' ∧ c ≠ ' ' ∧ c ≠ '\t' ∧ c ≠ '\r' ∧ c ≠ '\x0c' ∧ c ≠ '#' ∧
      c ≠ '\\' := by
  simp [isInk]

theorem gap_of_isInk {c : Char} (h : isInk c = true) (bracketed : Bool) (rest : List Char) :
    gap bracketed false (c :: rest) = .ok 0 := by
  obtain ⟨line, blank, tab, ret, feed, comment, slash⟩ := (isInk_iff c).1 h
  unfold gap
  simp [line, blank, tab, ret, feed, comment, slash]

variable {indents : List Nat} {depth : Nat} {used : Bool} {rest : List Char} {ts : List Token}

/-- A step inside a line that reads one lexeme. -/
theorem Lexer.step_lexeme {c : Char} {cs : List Char} {t : Token} (ink : isInk c = true)
    (read : Lexeme.read c (cs ++ rest) = .ok ⟨t, cs.length⟩) (place : Place) :
    Lexer.step ⟨c :: (cs ++ rest), place, indents, depth, false, used, false⟩ =
      ⟨none, [⟨t, place⟩], rest, place.after (c :: cs), indents, Lexer.depthAfter depth t, false,
        true, false⟩ := by
  have line : c ≠ '\n' := ((isInk_iff c).1 ink).1
  simp [Lexer.step, Lexer.stepLine, gap_of_isInk ink, Lexer.forward, line, Lexer.readLexeme, read,
    Lexer.placed, Place.after]

/-- One lexeme. -/
theorem InLine.lexeme {c : Char} {cs : List Char} {t : Token} (ink : isInk c = true)
    (read : Lexeme.read c (cs ++ rest) = .ok ⟨t, cs.length⟩)
    (h : InLine indents (Lexer.depthAfter depth t) true rest ts) :
    InLine indents depth used (c :: (cs ++ rest)) (t :: ts) := by
  intro place
  exact Lexer.Yields.of_step [⟨t, place⟩] (Lexer.step_lexeme ink read place) rfl
    (h (place.after (c :: cs)))

theorem gap_blank (bracketed : Bool) (rest : List Char) :
    gap bracketed false (' ' :: rest) =
      match gap bracketed false rest with
      | .ok n => .ok (n + 1)
      | .error n => .error (n + 1) := by
  rw [gap.eq_def]
  cases h : gap bracketed false rest with
  | ok n => simp [h]
  | error n => simp [h]

/-- A blank between lexemes. -/
theorem InLine.blank (h : InLine indents depth used rest ts) :
    InLine indents depth used (' ' :: rest) ts := by
  intro place
  refine Lexer.Yields.of_step_eq ?_ (h (place.step ' '))
  simp only [Lexer.step, Lexer.stepLine, gap_blank, Bool.false_eq_true, if_false]
  cases gap (depth > 0) false rest with
  | error n => rfl
  | ok n => rfl

/-- The end of a line with tokens. -/
theorem InLine.newline (h : AtLine indents rest ts) :
    InLine indents 0 true ('\n' :: rest) (.newline :: ts) := by
  intro place
  refine Lexer.Yields.of_step [⟨.newline, place⟩] ?_ rfl (h (place.step '\n'))
  have gapped : gap false false ('\n' :: rest) = .ok 0 := by
    unfold gap
    simp
  simp [Lexer.step, Lexer.stepLine, gapped, Lexer.forward, Lexer.endLine, Lexer.placed,
    Place.after]

/-! ### Words -/

/-- The character cannot belong to a word or a literal before it. -/
def Delimits (c : Char) : Prop :=
  isNameChar c = false ∧ isQuote c = false

instance (c : Char) : Decidable (Delimits c) :=
  inferInstanceAs (Decidable (_ ∧ _))

theorem ne_of_isNameStart {c d : Char} (hc : isNameStart c = true) (hd : isNameStart d = false) :
    c ≠ d := by
  rintro rfl
  rw [hc] at hd
  cases hd

theorem isInk_of_isNameStart {c : Char} (h : isNameStart c = true) : isInk c = true := by
  rw [isInk_iff]
  refine ⟨?_, ?_, ?_, ?_, ?_, ?_, ?_⟩
  all_goals exact ne_of_isNameStart h (by decide)

theorem isDigit_of_isNameStart {c : Char} (h : isNameStart c = true) : isDigit c = false := by
  have digits : ∀ n < 58, isDigit (Char.ofNat n) = true → isNameStart (Char.ofNat n) = false := by
    decide
  refine Bool.eq_false_iff.2 fun digit => ?_
  have small : c.toNat < 58 := by
    simp only [isDigit, Bool.and_eq_true, decide_eq_true_eq] at digit
    exact Nat.lt_succ_of_le digit.2
  have := digits c.toNat small
  rw [Char.ofNat_toNat] at this
  rw [this digit] at h
  cases h

theorem isNameChar_of_isNameStart {c : Char} (h : isNameStart c = true) : isNameChar c = true := by
  simp only [isNameStart, Bool.or_eq_true] at h
  rcases h with under | letter
  · simp [isNameChar, under]
  · simp [isNameChar, isAlphanumeric, letter]

theorem takeWhile_isNameChar_append {cs : List Char} (word : cs.all isNameChar = true)
    (delim : ∀ c ∈ rest.head?, Delimits c) :
    (cs ++ rest).takeWhile isNameChar = cs ∧ (cs ++ rest).dropWhile isNameChar = rest := by
  have all : ∀ c ∈ cs, isNameChar c = true := List.all_eq_true.1 word
  rw [List.takeWhile_append_of_pos all, List.dropWhile_append_of_pos all]
  cases rest with
  | nil => simp
  | cons c rest => simp [(delim c rfl).1]

/-- A word is read as a whole if what follows cannot belong to it. -/
theorem Lexeme.read_word {c : Char} {cs : List Char} (word : isWord (c :: cs) = true)
    (delim : ∀ c ∈ rest.head?, Delimits c) :
    Lexeme.read c (cs ++ rest) = .ok ⟨wordToken (String.ofList (c :: cs)), cs.length⟩ := by
  simp only [isWord, Bool.and_eq_true] at word
  obtain ⟨start, more⟩ := word
  have point : c ≠ '.' := ne_of_isNameStart start (by decide)
  have continues : (c :: cs).all isNameChar = true := by
    rw [List.all_cons, isNameChar_of_isNameStart start, more]
    rfl
  obtain ⟨taken, left⟩ := takeWhile_isNameChar_append continues delim
  rw [List.cons_append] at taken left
  have number : startsNumber c (cs ++ rest) = false := by
    simp [startsNumber, isDigit_of_isNameStart start, point]
  simp only [read, number, start, Lexeme.word, taken, left, Bool.false_eq_true, if_false, if_true]
  cases rest with
  | nil => simp
  | cons d rest => simp [(delim d rfl).2]

/-- Neither a name nor a keyword opens or closes a bracket. -/
theorem depthAfter_wordToken (depth : Nat) (word : String) :
    Lexer.depthAfter depth (Lexeme.wordToken word) = depth := by
  unfold Lexeme.wordToken
  split
  · rfl
  · rfl

/-- A word in front of something that cannot belong to it. -/
theorem InLine.word {cs : List Char} (word : isWord cs = true)
    (delim : ∀ c ∈ rest.head?, Delimits c) (h : InLine indents depth true rest ts) :
    InLine indents depth used (cs ++ rest) (Lexeme.wordToken (String.ofList cs) :: ts) := by
  cases cs with
  | nil => cases word
  | cons c cs =>
    have start : isNameStart c = true := by
      simp only [isWord, Bool.and_eq_true] at word
      exact word.1
    refine InLine.lexeme (isInk_of_isNameStart start) (Lexeme.read_word word delim) ?_
    rw [depthAfter_wordToken]
    exact h

/-- An identifier is the word of a name. -/
theorem wordToken_of_isIdentifier {id : String} (identifier : isIdentifier id = true) :
    Lexeme.wordToken id = .name id := by
  simp only [isIdentifier, isKeyword, Bool.and_eq_true, Bool.not_eq_true',
    Option.isSome_eq_false_iff, Option.isNone_iff_eq_none] at identifier
  rw [Lexeme.wordToken, identifier.2]

theorem InLine.name {id : String} (identifier : isIdentifier id = true)
    (delim : ∀ c ∈ rest.head?, Delimits c) (h : InLine indents depth true rest ts) :
    InLine indents depth used (id.toList ++ rest) (.name id :: ts) := by
  have token : Lexeme.wordToken (String.ofList id.toList) = .name id := by
    rw [String.ofList_toList, wordToken_of_isIdentifier identifier]
  rw [← token]
  exact InLine.word (Bool.and_eq_true_iff.1 identifier).1 delim h

theorem Keyword.isWord_spelling (k : Keyword) : isWord k.spelling.toList = true := by
  cases k <;> decide

theorem Keyword.ofSpelling?_spelling (k : Keyword) : ofSpelling? k.spelling = some k := by
  cases k <;> decide

theorem InLine.keyword (k : Keyword) (delim : ∀ c ∈ rest.head?, Delimits c)
    (h : InLine indents depth true rest ts) :
    InLine indents depth used (k.spelling.toList ++ rest) (.keyword k :: ts) := by
  have token : Lexeme.wordToken (String.ofList k.spelling.toList) = .keyword k := by
    simp [Lexeme.wordToken, k.ofSpelling?_spelling]
  rw [← token]
  exact InLine.word k.isWord_spelling delim h

/-! ### Symbols -/

/-- The character behind the spelling of a symbol would make it part of a longer lexeme. -/
def extendsSymbol (spelling : List Char) (d : Char) : Bool :=
  Token.spellings.any (fun e => (spelling ++ [d]).isPrefixOf e.1) ||
    (spelling == ['.'] && isDigit d)

theorem isPrefixOf_append_of_not_extends {spelling : List Char} {e : List Char × Token}
    (mem : e ∈ Token.spellings) (stop : ∀ d ∈ rest.head?, extendsSymbol spelling d = false) :
    e.1.isPrefixOf (spelling ++ rest) = e.1.isPrefixOf spelling := by
  rw [Bool.eq_iff_iff, List.isPrefixOf_iff_prefix, List.isPrefixOf_iff_prefix]
  refine ⟨fun h => ?_, fun h => h.trans (List.prefix_append _ _)⟩
  rcases List.prefix_or_prefix_of_prefix h (List.prefix_append spelling rest) with short | long
  · exact short
  obtain ⟨more, hmore⟩ := long
  rw [← hmore, List.prefix_append_right_inj] at h
  cases more with
  | nil => exact ⟨[], by simpa using hmore.symm⟩
  | cons d more =>
    -- the spelling of `e` goes on with the character behind the symbol
    obtain ⟨tail, rfl⟩ := h
    have stopped := stop d rfl
    simp only [extendsSymbol, Bool.or_eq_false_iff, List.any_eq_false] at stopped
    refine absurd ?_ (stopped.1 e mem)
    rw [List.isPrefixOf_iff_prefix, ← hmore]
    exact ⟨more, by simp⟩

/-- Longer spellings come first in the table, so a spelling is found as itself. -/
theorem find?_spellings {e : List Char × Token} (mem : e ∈ Token.spellings) :
    Token.spellings.find? (fun f => f.1.isPrefixOf e.1) = some e := by
  revert e
  decide

theorem head_of_mem_spellings {c : Char} {cs : List Char} {t : Token}
    (mem : (c :: cs, t) ∈ Token.spellings) :
    isInk c = true ∧ isDigit c = false ∧ isNameStart c = false ∧ isQuote c = false := by
  -- as a check of the table, since there are too many characters to go through all of them
  have all : (Token.spellings.all fun e => e.1.head?.all fun c =>
      isInk c && !isDigit c && !isNameStart c && !isQuote c) = true := by
    decide
  have first := List.all_eq_true.1 all _ mem
  simpa [and_assoc] using first

theorem Lexeme.startsNumber_of_mem_spellings {c : Char} {cs : List Char} {t : Token}
    (mem : (c :: cs, t) ∈ Token.spellings)
    (stop : ∀ d ∈ rest.head?, extendsSymbol (c :: cs) d = false) :
    startsNumber c (cs ++ rest) = false := by
  have dots : ∀ e ∈ Token.spellings, e.1.head? = some '.' →
      e.1 = ['.'] ∨ e.1 = ['.', '.', '.'] := by
    decide
  by_cases point : c = '.'
  · subst point
    rcases dots _ mem rfl with one | three
    · obtain rfl : cs = [] := by simpa using one
      cases rest with
      | nil => rfl
      | cons d rest =>
        have stopped := stop d rfl
        simp only [extendsSymbol, Bool.or_eq_false_iff] at stopped
        simpa [startsNumber, isDigit] using stopped.2
    · obtain rfl : cs = ['.', '.'] := by simpa using three
      rfl
  · simp [startsNumber, point, (head_of_mem_spellings mem).2.1]

/-- A symbol is read as itself if what follows makes it no longer lexeme. -/
theorem Lexeme.read_symbol {c : Char} {cs : List Char} {t : Token}
    (mem : (c :: cs, t) ∈ Token.spellings)
    (stop : ∀ d ∈ rest.head?, extendsSymbol (c :: cs) d = false) :
    Lexeme.read c (cs ++ rest) = .ok ⟨t, cs.length⟩ := by
  obtain ⟨-, digit, letter, quote⟩ := head_of_mem_spellings mem
  have found : Token.spellings.find? (fun f => f.1.isPrefixOf (c :: (cs ++ rest))) =
      some (c :: cs, t) := by
    rw [← find?_spellings mem]
    refine List.find?_congr fun e he => ?_
    exact isPrefixOf_append_of_not_extends he stop
  have number := startsNumber_of_mem_spellings mem stop
  simp [read, number, letter, quote, symbol?, found]

/-- A symbol in front of something that makes it no longer lexeme. -/
theorem InLine.symbol (spelling : List Char) (t : Token) (mem : (spelling, t) ∈ Token.spellings)
    (stop : ∀ d ∈ rest.head?, extendsSymbol spelling d = false)
    (h : InLine indents (Lexer.depthAfter depth t) true rest ts) :
    InLine indents depth used (spelling ++ rest) (t :: ts) := by
  have filled : ∀ e ∈ Token.spellings, e.1 ≠ [] := by
    decide
  cases spelling with
  | nil => exact absurd rfl (filled _ mem)
  | cons c cs =>
    exact InLine.lexeme (head_of_mem_spellings mem).1 (Lexeme.read_symbol mem stop) h

/-- No spelling goes on behind this one, whatever comes next. -/
def isSolid (spelling : List Char) : Bool :=
  spelling != ['.'] &&
    Token.spellings.all fun e => !spelling.isPrefixOf e.1 || e.1.length == spelling.length

theorem extendsSymbol_of_isSolid {spelling : List Char} (solid : isSolid spelling = true)
    (d : Char) : extendsSymbol spelling d = false := by
  simp only [isSolid, Bool.and_eq_true, bne_iff_ne, List.all_eq_true, Bool.or_eq_true,
    Bool.not_eq_true', beq_iff_eq] at solid
  obtain ⟨point, longest⟩ := solid
  have none : ∀ e ∈ Token.spellings, ¬(spelling ++ [d]).isPrefixOf e.1 = true := by
    intro e mem longer
    rw [List.isPrefixOf_iff_prefix] at longer
    have shorter : spelling.isPrefixOf e.1 = true :=
      List.isPrefixOf_iff_prefix.2 ((List.prefix_append _ _).trans longer)
    have length := longer.length_le
    rw [List.length_append, List.length_singleton] at length
    rcases longest e mem with not | same
    · rw [not] at shorter
      cases shorter
    · omega
  simp only [extendsSymbol, Bool.or_eq_false_iff, List.any_eq_false]
  exact ⟨none, by simp [point]⟩

/-- A symbol that nothing makes longer. -/
theorem InLine.solid (spelling : List Char) (t : Token) (mem : (spelling, t) ∈ Token.spellings)
    (solid : isSolid spelling = true)
    (h : InLine indents (Lexer.depthAfter depth t) true rest ts) :
    InLine indents depth used (spelling ++ rest) (t :: ts) :=
  InLine.symbol spelling t mem (fun d _ => extendsSymbol_of_isSolid solid d) h

/-! ### Starts of lexemes -/

/-- The character starts a lexeme, and no symbol before it goes on with it. -/
def IsLead (c : Char) : Prop :=
  isInk c = true ∧ ∀ spelling, spelling ≠ [] → extendsSymbol spelling c = false

/-- A character that is no digit and in no spelling but as its first character. -/
theorem isLead_of_notMem {c : Char} (ink : isInk c = true) (digit : isDigit c = false)
    (inner : ∀ e ∈ Token.spellings, c ∉ e.1.tail) : IsLead c := by
  refine ⟨ink, fun spelling filled => ?_⟩
  have none : ∀ e ∈ Token.spellings, ¬(spelling ++ [c]).isPrefixOf e.1 = true := by
    intro e mem longer
    rw [List.isPrefixOf_iff_prefix] at longer
    obtain ⟨more, hmore⟩ := longer
    refine inner e mem ?_
    rw [← hmore]
    cases spelling with
    | nil => exact absurd rfl filled
    | cons d spelling => simp
  simp only [extendsSymbol, Bool.or_eq_false_iff, List.any_eq_false]
  exact ⟨none, by simp [digit]⟩

theorem isLead_of_isNameStart {c : Char} (h : isNameStart c = true) : IsLead c := by
  have symbols : (Token.spellings.all fun e => e.1.tail.all fun d => !isNameStart d) = true := by
    decide
  refine isLead_of_notMem (isInk_of_isNameStart h) (isDigit_of_isNameStart h) ?_
  intro e mem inner
  have later := List.all_eq_true.1 (List.all_eq_true.1 symbols e mem) c inner
  exact ne_of_isNameStart h (by simpa using later) rfl

/-! ### Literals -/

/-- A quoted text in front of something that cannot belong to it. -/
theorem InLine.quoted (text : String) (delim : ∀ c ∈ rest.head?, Delimits c)
    (h : InLine indents depth true rest ts) :
    InLine indents depth used ((Literal.quote text).toList ++ rest) (.str text :: ts) := by
  have hmark := Lexeme.isQuote_quoteMark text.toList
  have follow : rest.head? ≠ some (Literal.quoteMark text.toList) := by
    intro same
    have := (delim _ same).2
    rw [hmark] at this
    cases this
  have ink : isInk (Literal.quoteMark text.toList) = true := by
    rcases Literal.eq_or_eq_of_isQuote hmark with mark | mark <;> rw [mark] <;> rfl
  simp only [Literal.quote, Literal.quoteChars, String.toList_ofList, List.cons_append]
  refine InLine.lexeme ink ?_ h
  rw [List.append_assoc, List.singleton_append, Lexeme.read_quoted _ follow]
  simp

end RobotCell.Script
