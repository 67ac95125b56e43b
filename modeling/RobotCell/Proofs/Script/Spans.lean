import Mathlib.Data.List.Induction
import RobotCell.Proofs.Script.SoundTokens

/-!
# Where the tokens of a text stand

The lexer loses nothing of a text: each token other than the layout tokens is spelled by a span of
its own, starts at the place that it is given, and what is left between the spans are blanks,
comments and joined lines.

## Main definitions

- `Token.IsSpelledBy` — a text spells a token
- `IsFiller` — a text holds no lexeme
- `Covers` — a text is made up of the spellings of some tokens and of what may stand between them

## Main results

- `Lexeme.isSpelledIn_read` — a lexeme is spelled by the text that it takes
- `Lexer.passes_step`, `Lexer.covers_run` — the lexer passes over spellings and fillers only
- `exists_spans_of_tokenize` — the spans of the tokens of a text
-/

namespace RobotCell.Script

/-! ### Spellings -/

/-- How a symbol is written. -/
def Symbol.spelling : Symbol → String
  | .leftParen => "("
  | .rightParen => ")"
  | .leftBracket => "["
  | .rightBracket => "]"
  | .leftBrace => "\x7b"
  | .rightBrace => "\x7d"
  | .colon => ":"
  | .colonEq => ":="
  | .comma => ","
  | .semicolon => ";"
  | .dot => "."
  | .ellipsis => "..."
  | .arrow => "->"
  | .atSign => "@"
  | .assign => "="
  | .plus => "+"
  | .minus => "-"
  | .star => "*"
  | .doubleStar => "**"
  | .slash => "/"
  | .doubleSlash => "//"
  | .percent => "%"
  | .tilde => "~"
  | .amper => "&"
  | .pipe => "|"
  | .caret => "^"
  | .leftShift => "<<"
  | .rightShift => ">>"
  | .eq => "=="
  | .ne => "!="
  | .lt => "<"
  | .gt => ">"
  | .le => "<="
  | .ge => ">="

/-- The quotes around a literal: one or three of the same kind. -/
def IsFence (fence : List Char) : Prop :=
  ∃ mark, isQuote mark = true ∧ (fence = [mark] ∨ fence = [mark, mark, mark])

/-- The text can stand between the given quotes: they do not come before its end, where a backslash
takes the next character with it. A text between single quotes stays on its line. -/
inductive IsBody (fence : List Char) : List Char → Prop
  | nil : IsBody fence []
  | escape {c : Char} {rest : List Char} : IsBody fence rest → IsBody fence ('\\' :: c :: rest)
  | plain {c : Char} {rest : List Char} : c ≠ '\\' → (fence.length = 1 → c ≠ '\n') →
      ¬ fence <+: c :: rest ++ fence → IsBody fence rest → IsBody fence (c :: rest)

/-- The text is a literal with the given letters in front of its quotes. -/
def IsQuoted (letters fence body text : List Char) : Prop :=
  IsFence fence ∧ IsBody fence body ∧ text = letters ++ fence ++ body ++ fence

/-- The text is a literal that stands for the value: a `u` may be in front of its quotes, and the
escapes of its body are resolved. -/
def IsLiteralOf (value : String) (text : List Char) : Prop :=
  ∃ letters ∈ [[], ['u'], ['U']], ∃ fence body, IsQuoted letters fence body text ∧
    value = String.ofList (Literal.resolve body)

/-- The spelling of a token that has no other one. -/
def Token.spelling? : Token → Option String
  | .name id => some id
  | .keyword k => some k.spelling
  | .number digits => some digits
  | .verbatim literal => some literal
  | .symbol s => some s.spelling
  | .augAssign op => some (op.symbol ++ "=")
  | .str _ | .newline | .indent | .dedent | .endOfInput => none

/-- The text spells the token. -/
def Token.IsSpelledBy (token : Token) (text : List Char) : Prop :=
  token.spelling? = some (String.ofList text) ∨
    ∃ value, token = .str value ∧ IsLiteralOf value text

/-- The lexeme is spelled by the characters that it takes from the text. -/
def Lexeme.IsSpelledIn (l : Lexeme) (cs : List Char) : Prop :=
  ∃ text left, cs = text ++ left ∧ text.length = l.tail + 1 ∧ l.token.IsSpelledBy text

namespace Lexeme

/-! ### Literals -/

theorem singleBody_eq_ok {mark : Char} {cs body : List Char} {n : Nat}
    (h : singleBody mark cs = .ok (body, n)) :
    (∃ left, cs = body ++ mark :: left) ∧ n = body.length + 1 ∧ IsBody [mark] body := by
  fun_induction singleBody mark cs generalizing body n with
  | case1 => cases h
  | case2 => cases h
  | case3 c cs body' m found ih =>
    cases h
    obtain ⟨⟨left, rfl⟩, rfl, inner⟩ := ih found
    exact ⟨⟨left, rfl⟩, rfl, .escape inner⟩
  | case4 => cases h
  | case5 => cases h
  | case6 cs =>
    cases h
    exact ⟨⟨cs, rfl⟩, rfl, .nil⟩
  | case7 c cs single escape newline other body' m found ih =>
    cases h
    obtain ⟨⟨left, rfl⟩, rfl, inner⟩ := ih found
    refine ⟨⟨left, rfl⟩, rfl, .plain (ne_slash single escape) (fun _ => newline) ?_ inner⟩
    exact fun fence => other (List.cons_prefix_cons.1 fence).1.symm
  | case8 => cases h

theorem tripleBody_eq_ok {mark : Char} {cs body : List Char} {n : Nat}
    (h : tripleBody mark cs = .ok (body, n)) :
    (∃ left, cs = body ++ mark :: mark :: mark :: left) ∧ n = body.length + 3 ∧
      IsBody [mark, mark, mark] body := by
  fun_induction tripleBody mark cs generalizing body n with
  | case1 => cases h
  | case2 => cases h
  | case3 c cs body' m found ih =>
    cases h
    obtain ⟨⟨left, rfl⟩, rfl, inner⟩ := ih found
    exact ⟨⟨left, rfl⟩, rfl, .escape inner⟩
  | case4 => cases h
  | case5 c cs _ _ fence =>
    cases h
    obtain ⟨rfl, marks⟩ := fence
    rw [twoMarks, beq_iff_eq] at marks
    exact ⟨⟨cs.drop 2, by rw [← List.take_append_drop 2 cs, marks]; rfl⟩, rfl, .nil⟩
  | case6 c cs single escape open_ body' m found ih =>
    cases h
    obtain ⟨⟨left, rfl⟩, rfl, inner⟩ := ih found
    refine ⟨⟨left, rfl⟩, rfl, .plain (ne_slash single escape) (by simp) ?_ inner⟩
    intro fence
    obtain ⟨rfl, two⟩ := List.cons_prefix_cons.1 fence
    refine open_ ⟨rfl, (twoMarks_append mark body' left []).trans ?_⟩
    rw [twoMarks, beq_iff_eq]
    exact (List.prefix_iff_eq_take.1 two).symm
  | case7 => cases h

theorem isSpelledBy_stringToken {letters fence body text : List Char}
    (h : IsQuoted letters fence body text) : (stringToken letters fence body).IsSpelledBy text := by
  unfold stringToken
  split_ifs with plain
  · have mark : letters ∈ [[], ['u'], ['U']] := by
      simpa [isPlainMark, or_assoc] using plain
    exact .inr ⟨_, rfl, letters, mark, fence, body, h, rfl⟩
  · exact .inl (congrArg (fun text => some (String.ofList text)) h.2.2.symm)

/-- A literal takes the text up to its closing quotes. -/
theorem isSpelledIn_string {letters : List Char} {mark : Char} {cs : List Char} {l : Lexeme}
    (hmark : isQuote mark = true) (h : string letters mark cs = .ok l) :
    l.IsSpelledIn (letters ++ mark :: cs) := by
  unfold string at h
  by_cases triple : twoMarks mark cs = true
  · simp only [triple, if_true] at h
    split at h
    · next body n found =>
      cases h
      obtain ⟨⟨left, behind⟩, rfl, inner⟩ := tripleBody_eq_ok found
      have quoted := isSpelledBy_stringToken
        (show IsQuoted letters [mark, mark, mark] body _ from ⟨⟨mark, hmark, .inr rfl⟩, inner, rfl⟩)
      rw [twoMarks, beq_iff_eq] at triple
      refine ⟨_, left, ?_, ?_, quoted⟩
      · rw [← List.take_append_drop 2 cs, triple, behind]
        simp
      · simp
        omega
    · cases h
  · simp only [triple] at h
    split at h
    · next body n found =>
      cases h
      obtain ⟨⟨left, rfl⟩, rfl, inner⟩ := singleBody_eq_ok found
      have quoted := isSpelledBy_stringToken
        (show IsQuoted letters [mark] body _ from ⟨⟨mark, hmark, .inl rfl⟩, inner, rfl⟩)
      refine ⟨_, left, ?_, ?_, quoted⟩
      · simp
      · simp
        omega
    · cases h

/-! ### All lexemes -/

theorem isSpelledIn_number {c : Char} {rest : List Char} (h : startsNumber c rest = true) :
    (number (c :: rest)).IsSpelledIn (c :: rest) := by
  obtain ⟨left, whole⟩ := numberText_isPrefix (c :: rest)
  obtain ⟨cs, text, -⟩ := startsNumber_numberText h
  refine ⟨_, left, whole.symm, ?_, .inl rfl⟩
  rw [number, text]
  rfl

theorem isSpelledBy_wordToken (word : List Char) :
    (wordToken (String.ofList word)).IsSpelledBy word := by
  unfold wordToken
  split
  · next k reserved =>
    have same : k.spelling = String.ofList word := by simpa using List.find?_some reserved
    exact .inl (congrArg some same)
  · exact .inl rfl

theorem isSpelledIn_word {c : Char} {rest : List Char} {l : Lexeme} (start : isNameStart c = true)
    (h : word (c :: rest) = .ok l) : l.IsSpelledIn (c :: rest) := by
  obtain ⟨cs, taken⟩ : ∃ cs, (c :: rest).takeWhile isNameChar = c :: cs := by
    rw [List.takeWhile_cons, if_pos (isNameChar_of_isNameStart start)]
    exact ⟨_, rfl⟩
  have whole := List.takeWhile_append_dropWhile (p := isNameChar) (l := c :: rest)
  rw [taken] at whole
  have plain : IsSpelledIn ⟨wordToken (String.ofList (c :: cs)), cs.length⟩ (c :: rest) :=
    ⟨c :: cs, _, whole.symm, rfl, isSpelledBy_wordToken (c :: cs)⟩
  simp only [word, taken] at h
  split at h
  · next mark behind ahead =>
    split_ifs at h with literal
    · rw [Bool.and_eq_true] at literal
      rw [← whole, ahead]
      exact isSpelledIn_string literal.2 h
    · cases h
      exact plain
  · cases h
    exact plain

theorem spelling?_of_mem_spellings :
    ∀ e ∈ Token.spellings, e.2.spelling? = some (String.ofList e.1) := by decide

theorem isSpelledIn_symbol {cs : List Char} {l : Lexeme} (h : symbol? cs = some l) :
    l.IsSpelledIn cs := by
  obtain ⟨e, found, rfl⟩ := Option.map_eq_some_iff.1 h
  have mem := List.mem_of_find?_eq_some found
  have filled : ∀ e ∈ Token.spellings, 0 < e.1.length := by decide
  have starts := List.find?_some found
  obtain ⟨left, whole⟩ : e.1 <+: cs := List.isPrefixOf_iff_prefix.1 starts
  refine ⟨e.1, left, whole.symm, ?_, .inl (spelling?_of_mem_spellings e mem)⟩
  exact (Nat.sub_add_cancel (filled e mem)).symm

theorem isSpelledIn_read {c : Char} {rest : List Char} {l : Lexeme} (h : read c rest = .ok l) :
    l.IsSpelledIn (c :: rest) := by
  unfold read at h
  split_ifs at h with starts word quote
  · cases h
    exact isSpelledIn_number starts
  · exact isSpelledIn_word word h
  · exact isSpelledIn_string quote h
  · split at h
    · next lexeme found =>
      cases h
      exact isSpelledIn_symbol found
    · cases h

end Lexeme

/-! ### Between lexemes -/

/-- The text in front of `after` holds no lexeme: it is made up of blanks, ends of lines, comments
that go on to the end of their line, and backslashes that join two lines. -/
inductive IsFiller (after : List Char) : List Char → Prop
  | nil : IsFiller after []
  | blank {c : Char} {rest : List Char} : c ∈ [' ', '\t', '\r', '\x0c', '\n'] →
      IsFiller after rest → IsFiller after (c :: rest)
  | comment {text rest : List Char} : '\n' ∉ text → (∀ c ∈ (rest ++ after).head?, c = '\n') →
      IsFiller after rest → IsFiller after ('#' :: text ++ rest)
  | join {rest : List Char} : IsFiller after rest → IsFiller after ('\\' :: '\n' :: rest)
  | joinReturn {rest : List Char} : IsFiller after rest →
      IsFiller after ('\\' :: '\r' :: '\n' :: rest)

theorem IsFiller.append {first second after : List Char} (h : IsFiller (second ++ after) first)
    (hsecond : IsFiller after second) : IsFiller after (first ++ second) := by
  induction h with
  | nil => exact hsecond
  | blank mem _ ih => exact .blank mem ih
  | comment line ends _ ih =>
    rw [List.append_assoc]
    exact .comment line (by rwa [List.append_assoc]) ih
  | join _ ih => exact .join ih
  | joinReturn _ ih => exact .joinReturn ih

/-- The same from a point inside a comment or outside of one. -/
def Fills (comment : Bool) (after text : List Char) : Prop :=
  if comment then ∃ body rest, text = body ++ rest ∧ '\n' ∉ body ∧
    (∀ c ∈ (rest ++ after).head?, c = '\n') ∧ IsFiller after rest
  else IsFiller after text

section Fills

variable {comment : Bool} {after text : List Char}

theorem fills_nil (ends : comment = true → ∀ c ∈ after.head?, c = '\n') : Fills comment after [] := by
  cases comment with
  | false => exact IsFiller.nil
  | true => exact ⟨[], [], rfl, List.not_mem_nil, ends rfl, .nil⟩

theorem Fills.newline (h : Fills false after text) : Fills comment after ('\n' :: text) := by
  have filler : IsFiller after ('\n' :: text) := .blank (by decide) h
  cases comment with
  | false => exact filler
  | true => exact ⟨[], '\n' :: text, rfl, List.not_mem_nil, by simp, filler⟩

theorem Fills.inComment {c : Char} (line : c ≠ '\n') (h : Fills true after text) :
    Fills true after (c :: text) := by
  obtain ⟨body, rest, rfl, noLine, ends, filler⟩ := h
  exact ⟨c :: body, rest, rfl, List.not_mem_cons_of_ne_of_not_mem line.symm noLine, ends, filler⟩

theorem Fills.hash (outside : ¬ comment = true) (h : Fills true after text) :
    Fills comment after ('#' :: text) := by
  rw [Bool.eq_false_of_not_eq_true outside]
  obtain ⟨body, rest, rfl, noLine, ends, filler⟩ := h
  exact IsFiller.comment noLine ends filler

theorem Fills.outside (outside : ¬ comment = true) (h : IsFiller after text) :
    Fills comment after text := by
  rw [Bool.eq_false_of_not_eq_true outside]
  exact h

end Fills

/-- The start of a line holds no lexeme. -/
theorem fills_margin (width : Nat) (comment : Bool) (cs : List Char) :
    Fills comment (cs.drop (margin width comment cs).1) (cs.take (margin width comment cs).1) := by
  fun_induction margin width comment cs with
  | case1 => exact fills_nil (by simp)
  | case2 width comment cs more ih => exact ih.newline
  | case3 width c cs more line ih => exact ih.inComment line
  | case4 width comment cs more outside _ ih => exact .outside outside (.blank (by decide) ih)
  | case5 width comment cs more outside _ _ ih => exact .outside outside (.blank (by decide) ih)
  | case6 width comment c cs more _ outside _ _ feed ih =>
    refine .outside outside (.blank ?_ ih)
    rcases feed with rfl | rfl
    · decide
    · decide
  | case7 width comment cs more outside _ _ _ _ ih => exact ih.hash outside
  | case8 width comment c cs _ outside => exact .outside outside .nil

/-- A number that is counted up is counted up from a number. -/
theorem exists_of_more {more : Nat → Except Nat Nat → Except Nat Nat}
    (ok : ∀ k m, more k (.ok m) = .ok (m + k)) (error : ∀ k m, more k (.error m) = .error (m + k))
    {k n : Nat} {r : Except Nat Nat} (h : more k r = .ok n) : ∃ m, r = .ok m ∧ n = m + k := by
  cases r with
  | error m =>
    rw [error] at h
    cases h
  | ok m =>
    rw [ok] at h
    cases h
    exact ⟨m, rfl, rfl⟩

/-- What is passed over inside a line holds no lexeme. -/
theorem fills_of_gap {bracketed comment : Bool} {cs : List Char} {n : Nat}
    (h : gap bracketed comment cs = .ok n) : Fills comment (cs.drop n) (cs.take n) := by
  fun_induction gap bracketed comment cs generalizing n with
  | case1 =>
    cases h
    exact fills_nil (by simp)
  | case2 comment cs more _ =>
    rename_i ih
    obtain ⟨m, found, rfl⟩ := exists_of_more (fun _ _ => rfl) (fun _ _ => rfl) h
    exact (ih found).newline
  | case3 comment cs _ =>
    cases h
    exact fills_nil (by simp)
  | case4 c cs more line =>
    rename_i ih
    obtain ⟨m, found, rfl⟩ := exists_of_more (fun _ _ => rfl) (fun _ _ => rfl) h
    exact (ih found).inComment line
  | case5 comment c cs more _ outside blank =>
    rename_i ih
    obtain ⟨m, found, rfl⟩ := exists_of_more (fun _ _ => rfl) (fun _ _ => rfl) h
    refine .outside outside (.blank ?_ (ih found))
    rcases blank with rfl | rfl | rfl | rfl <;> decide
  | case6 comment cs more outside _ _ =>
    rename_i ih
    obtain ⟨m, found, rfl⟩ := exists_of_more (fun _ _ => rfl) (fun _ _ => rfl) h
    exact (ih found).hash outside
  | case7 comment more outside cs _ _ _ =>
    rename_i ih
    obtain ⟨m, found, rfl⟩ := exists_of_more (fun _ _ => rfl) (fun _ _ => rfl) h
    exact .outside outside (.join (ih found))
  | case8 comment more outside cs _ _ _ =>
    rename_i ih
    obtain ⟨m, found, rfl⟩ := exists_of_more (fun _ _ => rfl) (fun _ _ => rfl) h
    exact .outside outside (.joinReturn (ih found))
  | case9 => cases h
  | case10 comment c cs _ outside =>
    cases h
    exact .outside outside .nil

/-! ### Whole texts -/

/-- The token marks the layout of a text and has no spelling. -/
def Token.isLayout : Token → Bool
  | .newline | .indent | .dedent | .endOfInput => true
  | _ => false

/-- The tokens that are spelled. -/
def spelledTokens (tokens : List PlacedToken) : List PlacedToken :=
  tokens.filter fun t => !t.token.isLayout

theorem Token.IsSpelledBy.isLayout_eq_false {token : Token} {text : List Char}
    (h : token.IsSpelledBy text) : token.isLayout = false := by
  rcases h with single | ⟨value, rfl, -⟩
  · cases token with
    | newline | indent | dedent | endOfInput => cases single
    | _ => rfl
  · rfl

theorem spelledTokens_singleton {t : PlacedToken} (h : t.token.isLayout = false) :
    spelledTokens [t] = [t] :=
  List.filter_singleton.trans (by simp [h])

/-- The text, which starts at the given place, is made up of the spellings of the tokens, each at its
place, and of what may stand between them. -/
inductive Covers : Place → List Char → List PlacedToken → Prop
  | last {p : Place} {gap : List Char} : IsFiller [] gap → Covers p gap []
  | lexeme {p : Place} {gap text rest : List Char} {token : Token} {tokens : List PlacedToken} :
      IsFiller (text ++ rest) gap → text ≠ [] → token.IsSpelledBy text →
      Covers (p.after (gap ++ text)) rest tokens →
      Covers p (gap ++ text ++ rest) (⟨token, p.after gap⟩ :: tokens)

theorem Place.after_append (p : Place) (first second : List Char) :
    p.after (first ++ second) = (p.after first).after second :=
  List.foldl_append

theorem Covers.filler {p : Place} {gap rest : List Char} {tokens : List PlacedToken}
    (filler : IsFiller rest gap) (h : Covers (p.after gap) rest tokens) :
    Covers p (gap ++ rest) tokens := by
  cases h with
  | last later => exact .last (IsFiller.append (by rwa [List.append_nil]) later)
  | @lexeme _ more text rest token tokens later filled spelled h =>
    rw [List.append_assoc] at filler
    rw [← Place.after_append, ← List.append_assoc] at h
    rw [← Place.after_append, ← List.append_assoc, ← List.append_assoc]
    exact .lexeme (filler.append later) filled spelled h

namespace Lexer

/-- The step passes over the spellings of its tokens and over nothing else. -/
def Passes (s : Lexer) (r : Step) : Prop :=
  ∀ tokens, Covers r.state.place r.state.rest tokens →
    Covers s.place s.rest (spelledTokens r.tokens ++ tokens)

variable {s : Lexer}

theorem Passes.of_forward {n : Nat} {r : Step} (filler : IsFiller (s.rest.drop n) (s.rest.take n))
    (h : Passes (s.forward n) r) : Passes s r := by
  intro tokens covers
  have whole := Covers.filler filler (h tokens covers)
  rwa [List.take_append_drop] at whole

/-- A step that stays where it is and yields no more than layout tokens. -/
theorem Passes.of_layout {r : Step} (place : r.state.place = s.place) (rest : r.state.rest = s.rest)
    (layout : ∀ t ∈ r.tokens, t.token.isLayout = true) : Passes s r := by
  intro tokens covers
  have none : spelledTokens r.tokens = [] :=
    List.filter_eq_nil_iff.2 fun t ht => by simp [layout t ht]
  rwa [none, List.nil_append, ← place, ← rest]

theorem passes_close (s : Lexer) : Passes s s.close := by
  refine .of_layout rfl rfl fun t ht => ?_
  simp only [close, List.mem_append, List.mem_map, List.mem_singleton] at ht
  rcases ht with (line | ⟨_, -, rfl⟩) | rfl
  · split_ifs at line
    · rw [List.mem_singleton.1 line]
      rfl
    · cases line
  · rfl
  · rfl

theorem passes_alignTo (s : Lexer) (width : Nat) : Passes s (s.alignTo width) := by
  unfold alignTo
  dsimp only
  split
  · exact .of_layout rfl rfl (List.forall_mem_singleton.2 rfl)
  · exact .of_layout rfl rfl (List.forall_mem_map.2 fun _ _ => rfl)

theorem passes_endLine {rest : List Char} (ahead : s.rest = '\n' :: rest) : Passes s s.endLine := by
  have filler : IsFiller (s.rest.drop 1) (s.rest.take 1) := by
    rw [ahead]
    exact .blank (by decide) .nil
  refine .of_forward filler (.of_layout rfl rfl fun t ht => ?_)
  simp only [endLine] at ht
  split_ifs at ht
  · rw [List.mem_singleton.1 ht]
    rfl
  · cases ht

theorem passes_readLexeme {c : Char} {rest : List Char} (ahead : s.rest = c :: rest)
    (ok : (s.readLexeme c rest).fault = none) : Passes s (s.readLexeme c rest) := by
  unfold readLexeme at ok ⊢
  split
  · next lexeme read =>
    obtain ⟨text, left, whole, length, spelled⟩ := Lexeme.isSpelledIn_read read
    have filled : text ≠ [] := List.ne_nil_of_length_pos (length ▸ Nat.succ_pos _)
    intro tokens covers
    simp only [forward, ahead, whole, ← length, List.drop_left, List.take_left] at covers
    rw [spelledTokens_singleton spelled.isLayout_eq_false, ahead, whole]
    have first : Covers s.place ([] ++ text ++ left) (⟨lexeme.token, s.place.after []⟩ :: tokens) :=
      .lexeme .nil filled spelled covers
    exact first
  · next e read =>
    rw [read] at ok
    cases ok

theorem passes_stepMargin (s : Lexer) : Passes s s.stepMargin := by
  unfold stepMargin
  dsimp only
  refine .of_forward (fills_margin 0 false s.rest) ?_
  split_ifs
  · exact passes_close _
  · exact passes_alignTo _ _

theorem passes_stepLine (ok : s.stepLine.fault = none) : Passes s s.stepLine := by
  unfold stepLine at ok ⊢
  split at ok
  · cases ok
  · next n found =>
    dsimp only at ok ⊢
    refine .of_forward (fills_of_gap found) ?_
    split at ok
    · exact passes_close _
    · next c rest ahead =>
      split_ifs at ok ⊢
      · subst c
        exact passes_endLine ahead
      · exact passes_readLexeme ahead ok

theorem passes_step (ok : s.step.fault = none) : Passes s s.step := by
  unfold step at ok ⊢
  split_ifs at ok ⊢
  · exact passes_stepMargin s
  · exact passes_stepLine ok

/-- The machine is closed only at the end of the text. -/
theorem rest_eq_nil_of_closed (opened : s.closed = false) (closed : s.step.state.closed = true) :
    s.step.state.rest = [] := by
  -- every other step leaves the machine as open as it was
  have other : s.closed ≠ true := Bool.eq_false_iff.1 opened
  unfold step at closed ⊢
  split_ifs at closed ⊢
  · unfold stepMargin at closed ⊢
    dsimp only at closed ⊢
    split_ifs at closed ⊢ with done
    · exact done
    · unfold alignTo at closed
      dsimp only at closed
      split at closed
      · exact absurd closed other
      · exact absurd closed other
  · unfold stepLine at closed ⊢
    split at closed
    · exact absurd closed other
    · dsimp only at closed ⊢
      split at closed
      · next done => exact done
      · split_ifs at closed
        · exact absurd closed other
        · unfold readLexeme at closed
          split at closed
          · exact absurd closed other
          · exact absurd closed other

theorem covers_run {tokens : List PlacedToken} (opened : s.closed = false)
    (h : s.run = .ok tokens) : Covers s.place s.rest (spelledTokens tokens) := by
  fun_induction run s generalizing tokens with
  | case1 => cases h
  | case2 s ok closed =>
    cases h
    have done : Covers s.step.state.place s.step.state.rest [] := by
      rw [rest_eq_nil_of_closed opened closed]
      exact .last .nil
    simpa using passes_step ok [] done
  | case3 s ok open_ ih =>
    cases later : s.step.state.run with
    | error e =>
      rw [later] at h
      cases h
    | ok more =>
      rw [later] at h
      cases h
      rw [spelledTokens, List.filter_append]
      exact passes_step ok _ (ih (by simpa using open_) later)

end Lexer

/-! ### Spans -/

/-- The characters of a text from one on, up to another one that does not belong to them. -/
structure Span where
  start : Nat
  stop : Nat

/-- The text of a span. -/
def Span.textIn (source : List Char) (span : Span) : List Char :=
  (source.drop span.start).take (span.stop - span.start)

theorem Span.textIn_append (before text rest : List Char) :
    Span.textIn (before ++ text ++ rest) ⟨before.length, (before ++ text).length⟩ = text := by
  simp [Span.textIn]

/-- The spans that are left between the given ones. -/
def gaps (start stop : Nat) : List Span → List Span
  | [] => [⟨start, stop⟩]
  | span :: rest => ⟨start, span.start⟩ :: gaps span.stop stop rest

/-- The spans follow each other without overlap, between two bounds. -/
def InOrder (start stop : Nat) : List Span → Prop
  | [] => start ≤ stop
  | span :: rest => start ≤ span.start ∧ span.start < span.stop ∧ InOrder span.stop stop rest

namespace InOrder

variable {start stop : Nat} {spans : List Span}

theorem le (h : InOrder start stop spans) : start ≤ stop := by
  induction spans generalizing start with
  | nil => exact h
  | cons span spans ih =>
    obtain ⟨first, filled, later⟩ := h
    have := ih later
    omega

theorem bounds (h : InOrder start stop spans) :
    ∀ span ∈ spans, start ≤ span.start ∧ span.start < span.stop ∧ span.stop ≤ stop := by
  induction spans generalizing start with
  | nil => exact List.forall_mem_nil _
  | cons span spans ih =>
    obtain ⟨first, filled, later⟩ := h
    refine List.forall_mem_cons.2 ⟨⟨first, filled, later.le⟩, fun other mem => ?_⟩
    obtain ⟨start', filled', stop'⟩ := ih later other mem
    exact ⟨by omega, filled', stop'⟩

theorem pairwise (h : InOrder start stop spans) : spans.Pairwise fun a b => a.stop ≤ b.start := by
  induction spans generalizing start with
  | nil => exact .nil
  | cons span spans ih =>
    obtain ⟨-, -, later⟩ := h
    exact .cons (fun other mem => (later.bounds other mem).1) (ih later)

end InOrder

/-- The place behind a text: in the line behind all lines that end in the text, and behind the last
of its lines. -/
def Place.behind (text : List Char) : Place :=
  ⟨text.count '\n' + 1, (text.reverse.takeWhile (· ≠ '\n')).length + 1⟩

theorem Place.after_start (text : List Char) : Place.start.after text = .behind text := by
  induction text using List.reverseRecOn with
  | nil => rfl
  | append_singleton text c ih =>
    rw [Place.after_append, ih]
    by_cases line : c = '\n'
    · simp [Place.after, Place.step, Place.behind, line]
    · simp [Place.after, Place.step, Place.behind, line]

/-- The token stands at the start of the span and is spelled by it. -/
def IsPlacedAt (source : List Char) (t : PlacedToken) (span : Span) : Prop :=
  t.place = .behind (source.take span.start) ∧ t.token.IsSpelledBy (span.textIn source)

theorem Covers.exists_spans {p : Place} {source rest : List Char} {tokens : List PlacedToken}
    (before : List Char) (h : Covers p rest tokens) (place : p = Place.start.after before)
    (whole : source = before ++ rest) :
    ∃ spans, InOrder before.length source.length spans ∧
      List.Forall₂ (IsPlacedAt source) tokens spans ∧
      ∀ gap ∈ gaps before.length source.length spans,
        IsFiller (source.drop gap.stop) (gap.textIn source) := by
  induction h generalizing before with
  | @last p gap filler =>
    subst whole
    refine ⟨[], by simp [InOrder], .nil, List.forall_mem_singleton.2 ?_⟩
    have text := Span.textIn_append before gap []
    rw [List.append_nil] at text
    rwa [text, List.drop_length]
  | @lexeme p gap text rest token tokens filler filled spelled _ ih =>
    have next : p.after (gap ++ text) = Place.start.after (before ++ gap ++ text) := by
      rw [place, List.append_assoc, Place.after_append _ before]
    rw [← List.append_assoc, ← List.append_assoc] at whole
    obtain ⟨spans, ordered, placed, fillers⟩ := ih (before ++ gap ++ text) next whole
    have ahead : source = before ++ gap ++ (text ++ rest) := by rw [whole, List.append_assoc]
    refine ⟨⟨(before ++ gap).length, (before ++ gap ++ text).length⟩ :: spans, ⟨?_, ?_, ordered⟩,
      .cons ⟨?_, ?_⟩ placed, List.forall_mem_cons.2 ⟨?_, fillers⟩⟩
    · simp
    · simpa using List.length_pos_iff.2 filled
    · show p.after gap = _
      rw [place, ← Place.after_append, Place.after_start, ahead, List.take_left]
    · rw [whole, Span.textIn_append]
      exact spelled
    · rw [ahead, Span.textIn_append, List.drop_left]
      exact filler

/-- Every token of a text other than the layout tokens has a span of its own, in the order of the
tokens: the token is at the line and the column where its span starts, and the span spells it.
Between the spans there are only blanks, ends of lines, comments and joined lines. -/
theorem exists_spans_of_tokenize {source : String} {tokens : List PlacedToken}
    (h : tokenize source = .ok tokens) :
    ∃ spans : List Span, (spans.Pairwise fun a b => a.stop ≤ b.start) ∧
      (∀ span ∈ spans, span.start < span.stop ∧ span.stop ≤ source.toList.length) ∧
      List.Forall₂ (IsPlacedAt source.toList) (spelledTokens tokens) spans ∧
      ∀ gap ∈ gaps 0 source.toList.length spans,
        IsFiller (source.toList.drop gap.stop) (gap.textIn source.toList) := by
  have covers := Lexer.covers_run rfl h
  obtain ⟨spans, ordered, placed, fillers⟩ := covers.exists_spans [] rfl rfl
  exact ⟨spans, ordered.pairwise, fun span mem => (ordered.bounds span mem).2, placed, fillers⟩

/-- A text with a comment, a literal on two lines and a joined line. -/
def patchSource : String := "if x: # c\n\ty **= u'''a\n''' \\\n  + r'b'\n"

/-- Its tokens that are spelled. -/
def patchTokens : List PlacedToken :=
  [⟨.keyword .ifKw, ⟨1, 1⟩⟩, ⟨.name "x", ⟨1, 4⟩⟩, ⟨.symbol .colon, ⟨1, 5⟩⟩, ⟨.name "y", ⟨2, 2⟩⟩,
    ⟨.augAssign .pow, ⟨2, 4⟩⟩, ⟨.str "a\n", ⟨2, 8⟩⟩, ⟨.symbol .plus, ⟨4, 3⟩⟩,
    ⟨.verbatim "r'b'", ⟨4, 5⟩⟩]

theorem exists_spans_patchSource :
    ∃ tokens spans, tokenize patchSource = .ok tokens ∧ spelledTokens tokens = patchTokens ∧
      List.Forall₂ (IsPlacedAt patchSource.toList) patchTokens spans ∧
      ∀ gap ∈ gaps 0 patchSource.toList.length spans,
        IsFiller (patchSource.toList.drop gap.stop) (gap.textIn patchSource.toList) := by
  have read : (tokenize patchSource).toOption.map spelledTokens = some patchTokens := by
    decide +kernel
  cases h : tokenize patchSource with
  | error e => simp [h, Except.toOption] at read
  | ok tokens =>
    rw [h] at read
    have same : spelledTokens tokens = patchTokens := Option.some.inj read
    obtain ⟨spans, -, -, placed, fillers⟩ := exists_spans_of_tokenize h
    exact ⟨tokens, spans, rfl, same, same ▸ placed, fillers⟩

end RobotCell.Script
