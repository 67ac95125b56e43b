import RobotCell.Proofs.Script.Literals
import RobotCell.Script.StmtGrammar

/-!
# The tokens of a text

Whatever text the lexer reads, the tokens that carry a text of their own are spelled by it: a name is
an identifier, a number is one number, and a literal that is kept as it is written is one literal. So
each of them is read as itself again.

## Main definitions

- `Token.IsSpelled` — the text of a token is read as the token

## Main results

- `Lexeme.isSpelled_read` — a lexeme is spelled by its text
- `isSpelled_of_tokenize` — so are all tokens of a text
-/

namespace RobotCell.Script

/-- The text that the token carries is read as the token. -/
def Token.IsSpelled : Token → Prop
  | .name id => isIdentifier id = true
  | .number text => IsNumber text
  | .verbatim text => IsVerbatim text
  | _ => True

namespace Lexeme

/-! ### Numbers -/

theorem numberText_isPrefix (cs : List Char) : numberText cs <+: cs := by
  obtain ⟨left, hleft⟩ := numberBody_isPrefix cs
  have ahead : cs.drop (numberBody cs).length = left :=
    (congrArg (List.drop _) hleft).symm.trans List.drop_left
  rw [numberText, ahead]
  nth_rewrite 2 [← hleft]
  rw [List.prefix_append_right_inj]
  cases left with
  | nil => exact List.nil_prefix
  | cons x left =>
    rw [List.head?_cons, Option.toList_some, List.filter_cons]
    split
    · exact List.cons_prefix_cons.2 ⟨rfl, List.nil_prefix⟩
    · exact List.nil_prefix

/-- A number has its first character, and its second one if a point comes first. -/
theorem startsNumber_numberText {c : Char} {rest : List Char} (h : startsNumber c rest = true) :
    ∃ cs, numberText (c :: rest) = c :: cs ∧ startsNumber c cs = true := by
  simp only [startsNumber, Bool.or_eq_true, Bool.and_eq_true, beq_iff_eq] at h
  cases rest with
  | nil =>
    rcases h with digit | ⟨-, none⟩
    · exact ⟨[], rfl, by simp [startsNumber, digit]⟩
    · cases none
  | cons d rest =>
    rcases h with digit | ⟨rfl, digit⟩
    · have first : ∃ more, numberBody (c :: d :: rest) = c :: more := by
        rw [numberBody]
        split_ifs
        · exact ⟨_, rfl⟩
        · exact ⟨_, rfl⟩
      obtain ⟨more, body⟩ := first
      exact ⟨_, by rw [numberText, body, List.cons_append], by simp [startsNumber, digit]⟩
    · -- the digit behind the point belongs to the number
      have digit : isDigit d = true := digit
      have body : numberBody ('.' :: d :: rest) = '.' :: d :: decimalRun d rest := by
        have point : ('.' == '0') = false := by decide
        rw [numberBody, point, Bool.false_and, if_neg Bool.false_ne_true, decimalRun]
        simp [digit]
      exact ⟨_, by rw [numberText, body, List.cons_append], by simp [startsNumber, digit]⟩

theorem isNumber_number {c : Char} {rest : List Char} (h : startsNumber c rest = true) :
    IsNumber (String.ofList (numberText (c :: rest))) := by
  obtain ⟨cs, text, starts⟩ := startsNumber_numberText h
  rw [text]
  refine ⟨c, cs, String.toList_ofList, starts, ?_⟩
  -- if the number were shorter when read alone, it would have been shorter in the text
  by_contra shorter
  obtain ⟨left, hleft⟩ := numberText_isPrefix (c :: rest)
  rw [text] at hleft
  have := numberText_append (List.cons_ne_nil c cs) left (.inl shorter)
  rw [hleft, text] at this
  exact shorter this.symm

/-! ### Literals with a prefix -/

theorem isPlain_mark {mark : Char} (hmark : isQuote mark = true) : mark ≠ '\\' ∧ mark ≠ '\n' := by
  rcases Literal.eq_or_eq_of_isQuote hmark with rfl | rfl
  · decide
  · decide

/-- A character that is no backslash, neither in front of the end nor of another character. -/
theorem ne_slash {c : Char} {cs : List Char} (last : c = '\\' → cs = [] → False)
    (escape : ∀ d rest, c = '\\' → cs = d :: rest → False) : c ≠ '\\' := by
  intro same
  cases cs with
  | nil => exact last same rfl
  | cons d rest => exact escape d rest same rfl

/-- Whether two quotes come first is decided before the closing quotes end. -/
theorem twoMarks_append (mark : Char) (body left rest : List Char) :
    twoMarks mark (body ++ mark :: mark :: mark :: left) =
      twoMarks mark (body ++ mark :: mark :: mark :: rest) := by
  match body with
  | [] => rfl
  | [c] => rfl
  | c :: d :: body => rfl

/-- The body of a literal on one line is found again, whatever comes behind the closing quote. -/
theorem singleBody_append {mark : Char} (hmark : isQuote mark = true) {cs body : List Char} {n : Nat}
    (h : singleBody mark cs = .ok (body, n)) (rest : List Char) :
    singleBody mark (body ++ mark :: rest) = .ok (body, body.length + 1) ∧
      body.head? ≠ some mark := by
  obtain ⟨slash, line⟩ := isPlain_mark hmark
  fun_induction singleBody mark cs generalizing body n with
  | case1 => cases h
  | case2 => cases h
  | case3 c cs body' m found ih =>
    cases h
    exact ⟨singleBody_escape (ih found).1, by simpa using slash.symm⟩
  | case4 => cases h
  | case5 => cases h
  | case6 =>
    cases h
    refine ⟨?_, by simp⟩
    rw [List.nil_append, singleBody]
    · simp [line]
    · exact fun same _ => slash same
    · exact fun _ _ same _ => slash same
  | case7 c cs single escape newline other body' m found ih =>
    cases h
    have plain : Literal.IsPlain mark c := ⟨ne_slash single escape, newline, other⟩
    exact ⟨singleBody_plain plain (ih found).1, by simpa using other⟩
  | case8 => cases h

/-- The same for a literal between triple quotes. -/
theorem tripleBody_append {mark : Char} (hmark : isQuote mark = true) {cs body : List Char} {n : Nat}
    (h : tripleBody mark cs = .ok (body, n)) :
    (∃ left, cs = body ++ mark :: mark :: mark :: left) ∧
      ∀ rest, tripleBody mark (body ++ mark :: mark :: mark :: rest) = .ok (body, body.length + 3) := by
  obtain ⟨slash, -⟩ := isPlain_mark hmark
  fun_induction tripleBody mark cs generalizing body n with
  | case1 => cases h
  | case2 => cases h
  | case3 c cs body' m found ih =>
    cases h
    obtain ⟨⟨left, rfl⟩, again⟩ := ih found
    exact ⟨⟨left, rfl⟩, fun rest => tripleBody_escape (again rest)⟩
  | case4 => cases h
  | case5 c cs _ _ fence =>
    cases h
    obtain ⟨rfl, marks⟩ := fence
    obtain ⟨left, rfl⟩ : ∃ left, cs = c :: c :: left := by
      rw [twoMarks, beq_iff_eq] at marks
      exact ⟨cs.drop 2, by rw [← List.take_append_drop 2 cs, marks]; rfl⟩
    exact ⟨⟨left, rfl⟩, fun rest => tripleBody_fence c slash rest⟩
  | case6 c cs single escape open_ body' m found ih =>
    cases h
    obtain ⟨⟨left, rfl⟩, again⟩ := ih found
    refine ⟨⟨left, rfl⟩, fun rest => tripleBody_plain (ne_slash single escape) ?_ (again rest)⟩
    rintro ⟨same, marks⟩
    exact open_ ⟨same, (twoMarks_append mark body' left rest).trans marks⟩
  | case7 => cases h

/-- A literal is found again between the same quotes, in front of what does not continue it. -/
theorem string_append {letters : List Char} {mark : Char} {cs : List Char} {l : Lexeme}
    (hmark : isQuote mark = true) (h : string letters mark cs = .ok l) :
    ∃ fence body, l.token = stringToken letters (mark :: fence) body ∧
      ∀ rest : List Char, (∀ d ∈ rest.head?, Delimits d) →
        string letters mark (fence ++ body ++ mark :: fence ++ rest) =
          .ok ⟨l.token, letters.length + (fence ++ body ++ mark :: fence).length⟩ := by
  unfold string at h
  by_cases triple : twoMarks mark cs = true
  · simp only [triple, if_true] at h
    split at h
    · next body n found =>
      cases h
      refine ⟨[mark, mark], body, rfl, fun rest _ => ?_⟩
      have again := (tripleBody_append hmark found).2 rest
      simp [string, twoMarks, again]
      omega
    · cases h
  · simp only [triple] at h
    split at h
    · next body n found =>
      cases h
      refine ⟨[], body, rfl, fun rest delim => ?_⟩
      obtain ⟨again, other⟩ := singleBody_append hmark found rest
      have single : twoMarks mark (body ++ mark :: rest) = false := by
        rw [twoMarks, beq_eq_false_iff_ne]
        cases body with
        | cons x body => exact fun same => other (congrArg List.head? same)
        | nil =>
          cases rest with
          | nil => simp
          | cons d rest =>
            intro same
            have quote : d = mark := by simpa using same
            exact Bool.false_ne_true ((delim d rfl).2.symm.trans (quote ▸ hmark))
      simp [string, single, again]
      omega
    · cases h

theorem isNameChar_of_isQuote {mark : Char} (h : isQuote mark = true) : isNameChar mark = false := by
  rcases Literal.eq_or_eq_of_isQuote h with rfl | rfl
  · decide
  · decide

/-- A word in front of a quote is the prefix of a literal. -/
theorem read_prefixed {c mark : Char} {cs rest : List Char} (word : isWord (c :: cs) = true)
    (literal : isLiteralMark (c :: cs) = true) (hmark : isQuote mark = true) :
    read c (cs ++ mark :: rest) = string (c :: cs) mark rest := by
  simp only [isWord, Bool.and_eq_true] at word
  obtain ⟨start, more⟩ := word
  have point : c ≠ '.' := ne_of_isNameStart start (by decide)
  have number : startsNumber c (cs ++ mark :: rest) = false := by
    simp [startsNumber, isDigit_of_isNameStart start, point]
  have continues : ∀ d ∈ c :: cs, isNameChar d = true :=
    List.forall_mem_cons.2 ⟨isNameChar_of_isNameStart start, List.all_eq_true.1 more⟩
  have quote := isNameChar_of_isQuote hmark
  have taken : (c :: cs ++ mark :: rest).takeWhile isNameChar = c :: cs := by
    rw [List.takeWhile_append_of_pos continues, List.takeWhile_cons, quote]
    simp
  have left : (c :: cs ++ mark :: rest).dropWhile isNameChar = mark :: rest := by
    rw [List.dropWhile_append_of_pos continues, List.dropWhile_cons, quote]
    simp
  rw [List.cons_append] at taken left
  simp only [read, number, start, Lexeme.word, taken, left, literal, hmark, Bool.false_eq_true,
    if_false, if_true, Bool.and_self]

theorem isSpelled_string {letters : List Char} {mark : Char} {cs : List Char} {l : Lexeme}
    (word : isWord letters = true) (literal : isLiteralMark letters = true)
    (hmark : isQuote mark = true) (h : string letters mark cs = .ok l) : l.token.IsSpelled := by
  obtain ⟨fence, body, token, again⟩ := string_append hmark h
  rw [stringToken] at token
  split_ifs at token with plain
  · rw [token]
    trivial
  · rw [token]
    cases letters with
    | nil => cases word
    | cons c letters =>
      refine ⟨c, letters ++ (mark :: (fence ++ body ++ mark :: fence)), by simp, ?_, ?_⟩
      · simp only [isWord, Bool.and_eq_true] at word
        exact word.1
      · intro rest delim
        rw [List.append_assoc, List.cons_append, read_prefixed word literal hmark, again rest delim,
          token]
        simp
        omega

/-! ### All lexemes -/

theorem isWord_takeWhile {c : Char} {rest : List Char} (h : isNameStart c = true) :
    isWord ((c :: rest).takeWhile isNameChar) = true := by
  rw [List.takeWhile_cons, if_pos (isNameChar_of_isNameStart h), isWord, h, Bool.true_and]
  exact List.all_takeWhile

theorem isSpelled_wordToken {word : String} (h : isWord word.toList = true) :
    (wordToken word).IsSpelled := by
  rw [wordToken]
  cases reserved : Keyword.ofSpelling? word with
  | some k => trivial
  | none =>
    show isIdentifier word = true
    rw [isIdentifier, h, isKeyword, reserved]
    rfl

theorem isSpelled_of_mem_spellings : ∀ e ∈ Token.spellings, e.2.IsSpelled := by
  have symbols : (Token.spellings.all fun e => match e.2 with
      | .name _ | .number _ | .verbatim _ => false
      | _ => true) = true := by decide
  intro e he
  have := List.all_eq_true.1 symbols e he
  revert this
  cases e.2 <;> simp [Token.IsSpelled]

theorem isSpelled_read {c : Char} {rest : List Char} {l : Lexeme} (h : read c rest = .ok l) :
    l.token.IsSpelled := by
  unfold read at h
  split_ifs at h with starts word quote
  · cases h
    exact isNumber_number starts
  · have letters : isWord ((c :: rest).takeWhile isNameChar) = true := isWord_takeWhile word
    unfold Lexeme.word at h
    dsimp only at h
    split at h
    · split_ifs at h with literal
      · rw [Bool.and_eq_true] at literal
        exact isSpelled_string letters literal.1 literal.2 h
      · cases h
        exact isSpelled_wordToken (by rwa [String.toList_ofList])
    · cases h
      exact isSpelled_wordToken (by rwa [String.toList_ofList])
  · unfold string at h
    dsimp only at h
    split at h
    · cases h
      trivial
    · cases h
  · split at h
    · next lexeme found =>
      cases h
      obtain ⟨e, he, rfl⟩ := Option.map_eq_some_iff.1 found
      exact isSpelled_of_mem_spellings e (List.mem_of_find?_eq_some he)
    · cases h

end Lexeme

/-! ### Whole texts -/

namespace Lexer

theorem isSpelled_close (s : Lexer) : ∀ t ∈ s.close.tokens, t.token.IsSpelled := by
  intro t ht
  simp only [close, List.mem_append, List.mem_map, List.mem_singleton] at ht
  rcases ht with (line | ⟨_, -, rfl⟩) | rfl
  · split_ifs at line
    · rw [List.mem_singleton.1 line]
      trivial
    · cases line
  · trivial
  · trivial

theorem isSpelled_stepMargin (s : Lexer) : ∀ t ∈ s.stepMargin.tokens, t.token.IsSpelled := by
  unfold stepMargin
  dsimp only
  split_ifs
  · exact isSpelled_close _
  · unfold alignTo
    dsimp only
    split
    · exact List.forall_mem_singleton.2 trivial
    · exact List.forall_mem_map.2 fun _ _ => trivial

theorem isSpelled_stepLine (s : Lexer) : ∀ t ∈ s.stepLine.tokens, t.token.IsSpelled := by
  unfold stepLine
  split
  · exact List.forall_mem_nil _
  · dsimp only
    split
    · exact isSpelled_close _
    · split_ifs
      · unfold endLine
        dsimp only
        split_ifs
        · exact List.forall_mem_singleton.2 trivial
        · exact List.forall_mem_nil _
      · unfold readLexeme
        split
        · next lexeme read => exact List.forall_mem_singleton.2 (Lexeme.isSpelled_read read)
        · exact List.forall_mem_nil _

theorem isSpelled_step (s : Lexer) : ∀ t ∈ s.step.tokens, t.token.IsSpelled := by
  unfold step
  split_ifs
  · exact isSpelled_stepMargin s
  · exact isSpelled_stepLine s

theorem isSpelled_run {s : Lexer} {tokens : List PlacedToken} (h : s.run = .ok tokens) :
    ∀ t ∈ tokens, t.token.IsSpelled := by
  fun_induction run s generalizing tokens with
  | case1 => cases h
  | case2 s =>
    cases h
    exact isSpelled_step s
  | case3 s _ _ ih =>
    cases later : s.step.state.run with
    | error e =>
      rw [later] at h
      cases h
    | ok more =>
      rw [later] at h
      cases h
      exact List.forall_mem_append.2 ⟨isSpelled_step s, ih later⟩

end Lexer

theorem isSpelled_of_tokenize {source : String} {tokens : List PlacedToken}
    (h : tokenize source = .ok tokens) : ∀ t ∈ tokens, t.token.IsSpelled :=
  Lexer.isSpelled_run h

end RobotCell.Script
