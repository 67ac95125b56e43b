import RobotCell.Proofs.Script.IdleLines

/-!
# Line ends with carriage returns

A line may end with a newline, or with a carriage return and a newline. Outside of literals over
several lines and of joined lines it makes no difference which: the lexer passes over the carriage
return with the margin, with the gap or with the comment that it stands in, and no other lexeme than
such a literal goes on behind it.

## Main definitions

- `withReturns` — a text with a carriage return in front of each newline
- `HasPlainLines` — no literal and no backslash of the text goes on over the end of a line
- `Lexer.Returned` — two machines, of which the second one has the carriage returns ahead

## Main results

- `margin_withReturns`, `gap_withReturns` — what is passed over, with carriage returns in it
- `Lexeme.read_withReturns` — the same lexeme is read
- `reading_withReturns` — so the same text is read
-/

namespace RobotCell.Script

/-! ### Texts with carriage returns -/

/-- The text with a carriage return in front of each newline. -/
def withReturns (text : List Char) : List Char :=
  text.flatMap fun c => if c = '\n' then ['\r', '\n'] else [c]

@[simp] theorem withReturns_nil : withReturns [] = [] :=
  rfl

@[simp] theorem withReturns_newline (rest : List Char) :
    withReturns ('\n' :: rest) = '\r' :: '\n' :: withReturns rest :=
  rfl

theorem withReturns_cons {c : Char} (line : c ≠ '\n') (rest : List Char) :
    withReturns (c :: rest) = c :: withReturns rest := by
  simp [withReturns, line]

theorem withReturns_append (first second : List Char) :
    withReturns (first ++ second) = withReturns first ++ withReturns second :=
  List.flatMap_append

theorem withReturns_eq_nil_iff {text : List Char} : withReturns text = [] ↔ text = [] := by
  cases text with
  | nil => simp
  | cons c rest =>
    by_cases line : c = '\n'
    · simp [line]
    · simp [withReturns_cons line]

theorem withReturns_of_notMem {text : List Char} (single : '\n' ∉ text) :
    withReturns text = text := by
  induction text with
  | nil => rfl
  | cons c text ih =>
    rw [List.mem_cons, not_or] at single
    rw [withReturns_cons (Ne.symm single.1), ih single.2]

/-- Behind characters of one line, the rest of the text has its carriage returns. -/
theorem drop_withReturns {text : List Char} {n : Nat} (single : '\n' ∉ text.take n) :
    (withReturns text).drop n = withReturns (text.drop n) := by
  by_cases inside : n ≤ text.length
  · have split := withReturns_append (text.take n) (text.drop n)
    rw [List.take_append_drop, withReturns_of_notMem single] at split
    rw [split, List.drop_left' (List.length_take_of_le inside)]
  · have beyond : text.length ≤ n := by omega
    rw [List.take_of_length_le beyond] at single
    rw [withReturns_of_notMem single, List.drop_of_length_le beyond, withReturns_nil]

/-- A part of one line is in front of a text with or without the carriage returns. -/
theorem prefix_withReturns_iff {part text : List Char} (single : '\n' ∉ part)
    (plain : '\r' ∉ part) : part <+: withReturns text ↔ part <+: text := by
  induction part generalizing text with
  | nil => simp
  | cons c part ih =>
    rw [List.mem_cons, not_or] at single plain
    cases text with
    | nil => simp
    | cons d text =>
      by_cases line : d = '\n'
      · subst line
        simp [List.cons_prefix_cons, Ne.symm single.1, Ne.symm plain.1]
      · rw [withReturns_cons line, List.cons_prefix_cons, List.cons_prefix_cons,
          ih single.2 plain.2]

/-- The first line of a text stays as it is, and ends in front of a newline or, with the carriage
returns, in front of one of these. -/
theorem exists_firstLine (text : List Char) :
    ∃ line rest rest', text = line ++ rest ∧ withReturns text = line ++ rest' ∧ '\n' ∉ line ∧
      (∀ c ∈ rest.head?, c = '\n') ∧ (∀ c ∈ rest'.head?, c = '\r') := by
  induction text with
  | nil => exact ⟨[], [], [], rfl, rfl, List.not_mem_nil, by simp, by simp⟩
  | cons c text ih =>
    by_cases newline : c = '\n'
    · subst newline
      exact ⟨[], _, _, rfl, rfl, List.not_mem_nil, by simp, by simp⟩
    · obtain ⟨line, rest, rest', text_eq, returned, single, ends, ends'⟩ := ih
      refine ⟨c :: line, rest, rest', by rw [text_eq]; rfl, ?_, ?_, ends, ends'⟩
      · rw [withReturns_cons newline, returned]
        rfl
      · exact List.not_mem_cons_of_ne_of_not_mem (Ne.symm newline) single

theorem takeWhile_withReturns {p : Char → Bool} (newline : p '\n' = false) (ret : p '\r' = false)
    (text : List Char) : (withReturns text).takeWhile p = text.takeWhile p := by
  obtain ⟨line, rest, rest', rfl, returned, -, ends, ends'⟩ := exists_firstLine text
  rw [returned, Lexeme.takeWhile_append_of_ne (.inr fun c mem => ends' c mem ▸ ret),
    Lexeme.takeWhile_append_of_ne (.inr fun c mem => ends c mem ▸ newline)]

theorem notMem_takeWhile {p : Char → Bool} (newline : p '\n' = false) (text : List Char) :
    '\n' ∉ text.takeWhile p := by
  intro mem
  have taken := List.all_eq_true.1 List.all_takeWhile _ mem
  exact Bool.false_ne_true (newline.symm.trans taken)

theorem dropWhile_withReturns {p : Char → Bool} (newline : p '\n' = false) (ret : p '\r' = false)
    (text : List Char) : (withReturns text).dropWhile p = withReturns (text.dropWhile p) := by
  have single := notMem_takeWhile newline text
  have split := withReturns_append (text.takeWhile p) (text.dropWhile p)
  rw [List.takeWhile_append_dropWhile, withReturns_of_notMem single] at split
  have split' := List.takeWhile_append_dropWhile (p := p) (l := withReturns text)
  rw [takeWhile_withReturns newline ret] at split'
  exact List.append_cancel_left (split'.trans split)

/-- The text holds no carriage returns, and nothing in it goes on over the end of a line: there are
no quotes of a literal over several lines, and no backslash stands in front of a newline. -/
structure HasPlainLines (text : List Char) : Prop where
  noReturn : '\r' ∉ text
  noFence : ∀ mark ∈ ['"', '\''], ¬ [mark, mark, mark] <:+: text
  noJoin : ¬ ['\\', '\n'] <:+: text

theorem HasPlainLines.of_suffix {text rest : List Char} (h : HasPlainLines text)
    (suffix : rest <:+ text) : HasPlainLines rest where
  noReturn mem := h.noReturn (suffix.subset mem)
  noFence mark quote fence := h.noFence mark quote (fence.trans suffix.isInfix)
  noJoin join := h.noJoin (join.trans suffix.isInfix)

/-! ### Between lexemes -/

theorem margin_return (width : Nat) (comment : Bool) (rest : List Char) :
    margin width comment ('\r' :: rest) =
      ((margin width comment rest).1 + 1, (margin width comment rest).2) := by
  cases comment <;> simp [margin]

/-- The margin goes on to the same character, and carriage returns have no width. -/
theorem margin_withReturns (width : Nat) (comment : Bool) (text : List Char) :
    margin width comment (withReturns text) =
      ((withReturns (text.take (margin width comment text).1)).length,
        (margin width comment text).2) := by
  fun_induction margin width comment text with
  | case1 => rfl
  | case2 width comment rest more ih =>
    rw [withReturns_newline, margin_return, margin_newline, ih]
    rfl
  | case3 width c rest more line ih =>
    simp [more, withReturns_cons line, margin, line, ih]
  | case4 width comment rest more outside _ ih =>
    simp [more, withReturns_cons, margin, outside, ih]
  | case5 width comment rest more outside _ _ ih =>
    simp [more, withReturns_cons, margin, outside, ih]
  | case6 width comment c rest more line outside blank tab feed ih =>
    simp [more, withReturns_cons line, margin, line, outside, blank, tab, feed, ih]
  | case7 width comment rest more outside _ _ _ _ ih =>
    simp [more, withReturns_cons, margin, outside, ih]
  | case8 width comment c rest line outside blank tab feed hash =>
    simp [withReturns_cons line, margin, line, outside, blank, tab, feed, hash]

/-- The end of a gap with the given number of characters more in front of it. -/
def longerGap (n : Nat) : Except Nat Nat → Except Nat Nat
  | .ok k => .ok (k + n)
  | .error k => .error (k + n)

theorem gap_newline (bracketed comment : Bool) (rest : List Char) :
    gap bracketed comment ('\n' :: rest) =
      if bracketed then longerGap 1 (gap bracketed false rest) else .ok 0 := by
  rw [gap.eq_def]
  rfl

theorem gap_inComment {c : Char} (line : c ≠ '\n') (bracketed : Bool) (rest : List Char) :
    gap bracketed true (c :: rest) = longerGap 1 (gap bracketed true rest) := by
  rw [gap.eq_def]
  simp only [line, if_false, if_true]
  rfl

theorem gap_pad {c : Char} (blank : c = ' ' ∨ c = '\t' ∨ c = '\r' ∨ c = '\x0c')
    (bracketed : Bool) (rest : List Char) :
    gap bracketed false (c :: rest) = longerGap 1 (gap bracketed false rest) := by
  have line : c ≠ '\n' := by
    rintro rfl
    revert blank
    decide
  rw [gap.eq_def]
  simp only [line, blank, Bool.false_eq_true, if_false, if_true]
  rfl

theorem gap_hash (bracketed : Bool) (rest : List Char) :
    gap bracketed false ('#' :: rest) = longerGap 1 (gap bracketed true rest) := by
  rw [gap.eq_def]
  rfl

theorem gap_broken {c : Char} (line : c ≠ '\n') (ret : c ≠ '\r') (bracketed : Bool)
    (rest : List Char) : gap bracketed false ('\\' :: c :: rest) = .error 0 := by
  rw [gap.eq_def]
  simp [line, ret]

theorem gap_return (bracketed comment : Bool) (rest : List Char) :
    gap bracketed comment ('\r' :: rest) = longerGap 1 (gap bracketed comment rest) := by
  cases comment with
  | false => exact gap_pad (by decide) bracketed rest
  | true => exact gap_inComment (by decide) bracketed rest

/-- Both gaps go on to the same character or to the same backslash. A carriage return in front of
the newline that ends the line belongs to the second gap. -/
inductive PassedAlike (text : List Char) : Except Nat Nat → Except Nat Nat → Prop
  | passed {n n' : Nat} (ahead : (withReturns text).drop n' =
      (withReturns (text.drop n)).dropWhile (· == '\r')) : PassedAlike text (.ok n) (.ok n')
  | broken {n n' : Nat} : PassedAlike text (.error n) (.error n')

theorem PassedAlike.cons {text : List Char} {r r' : Except Nat Nat} (h : PassedAlike text r r')
    {c : Char} (line : c ≠ '\n') : PassedAlike (c :: text) (longerGap 1 r) (longerGap 1 r') := by
  cases h with
  | passed ahead =>
    exact .passed (by rwa [withReturns_cons line, List.drop_succ_cons, List.drop_succ_cons])
  | broken => exact .broken

theorem PassedAlike.newline {text : List Char} {r r' : Except Nat Nat} (h : PassedAlike text r r') :
    PassedAlike ('\n' :: text) (longerGap 1 r) (longerGap 1 (longerGap 1 r')) := by
  cases h with
  | passed ahead => exact .passed ahead
  | broken => exact .broken

theorem gap_withReturns {text : List Char} (plain : HasPlainLines text) (bracketed comment : Bool) :
    PassedAlike text (gap bracketed comment text) (gap bracketed comment (withReturns text)) := by
  fun_induction gap bracketed comment text with
  | case1 => exact .passed rfl
  | case2 comment rest more inside =>
    rename_i ih
    have inner := ih (plain.of_suffix (List.suffix_cons _ _))
    rw [withReturns_newline, gap_return, gap_newline, if_pos inside]
    exact inner.newline
  | case3 comment rest outside =>
    rw [withReturns_newline, gap_return, gap_newline, if_neg outside]
    exact .passed (by simp)
  | case4 c rest more line =>
    rename_i ih
    rw [withReturns_cons line, gap_inComment line]
    exact (ih (plain.of_suffix (List.suffix_cons _ _))).cons line
  | case5 comment c rest more line outside blank =>
    rename_i ih
    rw [withReturns_cons line, Bool.eq_false_of_not_eq_true outside, gap_pad blank]
    exact (ih (plain.of_suffix (List.suffix_cons _ _))).cons line
  | case6 comment rest more outside line _ =>
    rename_i ih
    rw [withReturns_cons line, Bool.eq_false_of_not_eq_true outside, gap_hash]
    exact (ih (plain.of_suffix (List.suffix_cons _ _))).cons line
  | case7 comment more outside rest => exact absurd ⟨[], rest, rfl⟩ plain.noJoin
  | case8 comment more outside rest => exact absurd (by simp) plain.noReturn
  | case9 comment rest outside join =>
    have returned : gap bracketed false ('\\' :: withReturns rest) = .error 0 := by
      cases rest with
      | nil => rfl
      | cons c rest =>
        have line : c ≠ '\n' := fun same => join rest (same ▸ rfl)
        have ret : c ≠ '\r' := fun same => plain.noReturn (by simp [same])
        rw [withReturns_cons line]
        exact gap_broken line ret bracketed _
    rw [withReturns_cons (by decide), Bool.eq_false_of_not_eq_true outside, returned]
    exact .broken
  | case10 comment c rest line outside blank hash slash =>
    have returned : gap bracketed comment (withReturns (c :: rest)) = .ok 0 := by
      rw [withReturns_cons line, gap.eq_def]
      simp [line, outside, blank, hash, slash]
    have ink : c ≠ '\r' := fun same => blank (.inr (.inr (.inl same)))
    rw [returned]
    exact .passed (by simp [withReturns_cons line, ink])

/-! ### Lexemes -/

namespace Lexeme

/-- The same lexeme was read twice and stays on the first line of the text, or there was a fault for
the same cause. -/
inductive ReadAlike (text : List Char) :
    Except LexFault Lexeme → Except LexFault Lexeme → Prop
  | lexeme {l : Lexeme} (part : List Char) (taken : part <+: text) (single : '\n' ∉ part)
      (count : part.length = l.tail + 1) : ReadAlike text (.ok l) (.ok l)
  | fault {e e' : LexFault} (same : e.fault = e'.fault) : ReadAlike text (.error e) (.error e')

theorem newline_notMem_of_isBody {mark : Char} {body : List Char} (h : IsBody [mark] body)
    (noJoin : ¬ ['\\', '\n'] <:+: body) : '\n' ∉ body := by
  induction h with
  | nil => exact List.not_mem_nil
  | @escape c rest _ ih =>
    have line : c ≠ '\n' := by
      rintro rfl
      exact noJoin ⟨[], rest, rfl⟩
    have inner := ih fun join => noJoin (join.trans (List.suffix_append ['\\', c] rest).isInfix)
    simp [line.symm, inner]
  | @plain c rest _ line _ _ ih =>
    have inner := ih fun join => noJoin (join.trans (List.suffix_cons c rest).isInfix)
    exact List.not_mem_cons_of_ne_of_not_mem (line rfl).symm inner

/-- A literal that is not closed on its line is not closed in front of a carriage return either. -/
theorem exists_error_singleBody_withReturns {mark : Char} (hmark : isQuote mark = true)
    {text : List Char} (noJoin : ¬ ['\\', '\n'] <:+: text) {n : Nat}
    (h : singleBody mark text = .error n) : ∃ n', singleBody mark (withReturns text) = .error n' := by
  fun_induction singleBody mark text generalizing n with
  | case1 => exact ⟨0, rfl⟩
  | case2 => exact ⟨1, rfl⟩
  | case3 => cases h
  | case4 c rest m found ih =>
    have line : c ≠ '\n' := by
      rintro rfl
      exact noJoin ⟨[], rest, rfl⟩
    obtain ⟨n', again⟩ :=
      ih (fun join => noJoin (join.trans (List.suffix_append ['\\', c] rest).isInfix)) found
    refine ⟨n' + 2, ?_⟩
    rw [withReturns_cons (by decide), withReturns_cons line, singleBody, again]
  | case5 rest _ _ =>
    have ret : '\r' ≠ mark := by
      rintro rfl
      revert hmark
      decide
    refine ⟨2, ?_⟩
    simp [singleBody, ret]
  | case6 => cases h
  | case7 => cases h
  | case8 c rest single escape line other m found ih =>
    obtain ⟨n', again⟩ := ih (fun join => noJoin (join.trans (List.suffix_cons c rest).isInfix)) found
    have slash := ne_slash single escape
    refine ⟨n' + 1, ?_⟩
    rw [withReturns_cons line, singleBody]
    · simp [line, other, again]
    · exact fun same _ => slash same
    · exact fun _ _ same _ => slash same

theorem twoMarks_iff {mark : Char} {text : List Char} :
    twoMarks mark text = true ↔ [mark, mark] <+: text := by
  rw [twoMarks, beq_iff_eq, List.prefix_iff_eq_take, eq_comm]
  rfl

theorem string_withReturns {letters : List Char} {mark : Char} {rest : List Char}
    (hmark : isQuote mark = true) (single : '\n' ∉ letters) (plain : HasPlainLines (mark :: rest)) :
    ReadAlike (letters ++ mark :: rest) (string letters mark rest)
      (string letters mark (withReturns rest)) := by
  have quote : mark ∈ ['"', '\''] := by simpa [isQuote] using hmark
  have line : '\n' ≠ mark ∧ '\r' ≠ mark := by
    rcases Literal.eq_or_eq_of_isQuote hmark with rfl | rfl <;> decide
  have marks : twoMarks mark rest = false := by
    rw [Bool.eq_false_iff, Ne, twoMarks_iff]
    rintro ⟨more, rfl⟩
    exact plain.noFence mark quote ⟨[], more, rfl⟩
  have marks' : twoMarks mark (withReturns rest) = false := by
    rw [Bool.eq_false_iff, Ne, twoMarks_iff] at marks ⊢
    rwa [prefix_withReturns_iff (by simp [line.1]) (by simp [line.2])]
  have plain' := plain.of_suffix (List.suffix_cons mark rest)
  simp only [string, marks, marks', if_neg Bool.false_ne_true]
  cases found : singleBody mark rest with
  | error n =>
    obtain ⟨n', again⟩ := exists_error_singleBody_withReturns hmark plain'.noJoin found
    rw [again]
    exact .fault rfl
  | ok result =>
    obtain ⟨body, n⟩ := result
    obtain ⟨⟨left, rfl⟩, rfl, inner⟩ := singleBody_eq_ok found
    have outside : '\n' ∉ body := newline_notMem_of_isBody inner fun join =>
      plain'.noJoin (join.trans (List.prefix_append body _).isInfix)
    have again := (singleBody_append hmark found (withReturns left)).1
    rw [withReturns_append, withReturns_of_notMem outside, withReturns_cons line.1.symm, again]
    refine .lexeme (letters ++ mark :: (body ++ [mark])) ⟨left, by simp⟩ ?_ ?_
    · simp [single, outside, line.1]
    · simp
      omega

theorem word_withReturns {c : Char} {rest : List Char} (start : isNameStart c = true)
    (plain : HasPlainLines (c :: rest)) :
    ReadAlike (c :: rest) (word (c :: rest)) (word (withReturns (c :: rest))) := by
  have ret : isNameChar '\r' = false := by decide
  have whole := List.takeWhile_append_dropWhile (p := isNameChar) (l := c :: rest)
  have single := notMem_takeWhile isNameChar_newline (c :: rest)
  have filled : 0 < ((c :: rest).takeWhile isNameChar).length := by
    rw [List.takeWhile_cons, if_pos (isNameChar_of_isNameStart start)]
    exact Nat.succ_pos _
  unfold word
  rw [takeWhile_withReturns isNameChar_newline ret, dropWhile_withReturns isNameChar_newline ret]
  generalize (c :: rest).takeWhile isNameChar = letters at whole single filled ⊢
  generalize (c :: rest).dropWhile isNameChar = ahead at whole ⊢
  rw [← whole]
  have alone : ReadAlike (letters ++ ahead)
      (.ok ⟨wordToken (String.ofList letters), letters.length - 1⟩)
      (.ok ⟨wordToken (String.ofList letters), letters.length - 1⟩) :=
    .lexeme letters (List.prefix_append _ _) single (Nat.sub_add_cancel filled).symm
  cases ahead with
  | nil => exact alone
  | cons mark ahead =>
    by_cases line : mark = '\n'
    · subst line
      have quotes : isQuote '\n' = false ∧ isQuote '\r' = false := by decide
      simpa [quotes] using alone
    · rw [withReturns_cons line]
      dsimp only
      split_ifs with literal
      · rw [Bool.and_eq_true] at literal
        exact string_withReturns literal.2 single
          (plain.of_suffix (whole ▸ List.suffix_append letters _))
      · exact alone

theorem number_withReturns {c : Char} {rest : List Char} (line : c ≠ '\n')
    (starts : startsNumber c rest = true) :
    ReadAlike (c :: rest) (.ok (number (c :: rest))) (.ok (number (c :: withReturns rest))) := by
  obtain ⟨first, after, after', rfl, returned, single, ends, ends'⟩ := exists_firstLine rest
  have stops : stopsNumber '\n' = true ∧ stopsNumber '\r' = true := by decide
  have text : numberText (c :: (first ++ after)) = numberText (c :: first) :=
    numberText_append (List.cons_ne_nil c first) after (.inr fun d mem => ends d mem ▸ stops.1)
  have text' : numberText (c :: (first ++ after')) = numberText (c :: first) :=
    numberText_append (List.cons_ne_nil c first) after' (.inr fun d mem => ends' d mem ▸ stops.2)
  have same : number (c :: withReturns (first ++ after)) = number (c :: (first ++ after)) := by
    rw [returned, number, number, text, text']
  obtain ⟨cs, filled, -⟩ := startsNumber_numberText starts
  rw [same]
  refine .lexeme (numberText (c :: (first ++ after))) (numberText_isPrefix _) ?_ ?_
  · rw [text]
    intro mem
    have := (numberText_isPrefix (c :: first)).subset mem
    exact List.not_mem_cons_of_ne_of_not_mem (Ne.symm line) single this
  · rw [number, filled]
    rfl

theorem notMem_of_mem_spellings {e : List Char × Token} (mem : e ∈ Token.spellings) :
    '\n' ∉ e.1 ∧ '\r' ∉ e.1 := by
  revert e
  decide

theorem symbol?_withReturns (text : List Char) : symbol? (withReturns text) = symbol? text := by
  unfold symbol?
  congr 1
  refine List.find?_congr fun e mem => ?_
  obtain ⟨single, plain⟩ := notMem_of_mem_spellings mem
  rw [Bool.eq_iff_iff, List.isPrefixOf_iff_prefix, List.isPrefixOf_iff_prefix,
    prefix_withReturns_iff single plain]

theorem readAlike_symbol {text : List Char} {l : Lexeme} (h : symbol? text = some l) :
    ReadAlike text (.ok l) (.ok l) := by
  obtain ⟨e, found, rfl⟩ := Option.map_eq_some_iff.1 h
  have mem := List.mem_of_find?_eq_some found
  have filled : ∀ e ∈ Token.spellings, 0 < e.1.length := by decide
  have starts := List.find?_some found
  exact .lexeme e.1 (List.isPrefixOf_iff_prefix.1 starts) (notMem_of_mem_spellings mem).1
    (Nat.sub_add_cancel (filled e mem)).symm

theorem read_withReturns {c : Char} {rest : List Char} (line : c ≠ '\n')
    (plain : HasPlainLines (c :: rest)) :
    ReadAlike (c :: rest) (read c rest) (read c (withReturns rest)) := by
  have starts : startsNumber c (withReturns rest) = startsNumber c rest := by
    cases rest with
    | nil => rfl
    | cons d rest =>
      by_cases newline : d = '\n'
      · subst newline
        rfl
      · rw [withReturns_cons newline]
        rfl
  have word := @word_withReturns c rest
  have symbol := symbol?_withReturns (c :: rest)
  rw [withReturns_cons line] at word symbol
  unfold read
  rw [starts, symbol]
  split_ifs with isNumber isWord quote
  · exact number_withReturns line isNumber
  · exact word isWord plain
  · exact string_withReturns quote List.not_mem_nil plain
  · cases found : symbol? (c :: rest) with
    | none => exact .fault rfl
    | some l => exact readAlike_symbol found

end Lexeme

/-! ### Runs -/

namespace Lexer

/-- The second text is the first one with the carriage returns. -/
def Returned (text text' : List Char) : Prop :=
  HasPlainLines text ∧ text' = withReturns text

theorem returned_drop {text : List Char} (plain : HasPlainLines text) {n m : Nat}
    (ahead : (withReturns text).drop m = withReturns (text.drop n)) :
    Returned (text.drop n) ((withReturns text).drop m) :=
  ⟨plain.of_suffix (List.drop_suffix n text), ahead⟩

theorem drop_margin_withReturns (text : List Char) :
    (withReturns text).drop (margin 0 false (withReturns text)).1 =
      withReturns (text.drop (margin 0 false text).1) := by
  have split := withReturns_append (text.take (margin 0 false text).1)
    (text.drop (margin 0 false text).1)
  rw [List.take_append_drop] at split
  rw [margin_withReturns]
  nth_rewrite 1 [split]
  exact List.drop_left

/-- Behind a gap, the same comes next with the carriage returns. -/
theorem meetAlike_withReturns {text : List Char} (plain : HasPlainLines text) :
    MeetAlike Returned text ((withReturns text).dropWhile (· == '\r')) := by
  cases text with
  | nil => exact .done ⟨plain, rfl⟩
  | cons c rest =>
    have later := plain.of_suffix (List.suffix_cons c rest)
    by_cases line : c = '\n'
    · subst line
      exact .line ⟨later, rfl⟩
    · have ret : c ≠ '\r' := fun same => plain.noReturn (by simp [same])
      have ahead : (withReturns (c :: rest)).dropWhile (· == '\r') = c :: withReturns rest := by
        simp [withReturns_cons line, ret]
      have alike := Lexeme.read_withReturns line plain
      rw [ahead]
      generalize found : Lexeme.read c rest = r at alike
      generalize found' : Lexeme.read c (withReturns rest) = r' at alike
      cases alike with
      | fault same => exact .fault line found found' same
      | @lexeme l part taken single count =>
        have whole : part = c :: rest.take l.tail := by
          rw [List.prefix_iff_eq_take.1 taken, count]
          rfl
        rw [whole] at single
        exact .lexeme line found found'
          (returned_drop later (drop_withReturns (List.not_mem_of_not_mem_cons single)))

theorem scannedAlike_returned : ScannedAlike Returned where
  done := by
    rintro text _ ⟨-, rfl⟩
    exact withReturns_eq_nil_iff.symm
  width := by
    rintro text _ ⟨-, rfl⟩
    rw [margin_withReturns]
  margin := by
    rintro text _ ⟨plain, rfl⟩
    exact returned_drop plain (drop_margin_withReturns text)
  gap := by
    rintro text _ ⟨plain, rfl⟩ bracketed
    have passed := gap_withReturns plain bracketed false
    generalize gap bracketed false text = r at passed ⊢
    generalize gap bracketed false (withReturns text) = r' at passed ⊢
    cases passed with
    | broken => exact .broken
    | @passed n m ahead =>
      refine .passed ?_
      rw [ahead]
      exact meetAlike_withReturns (plain.of_suffix (List.drop_suffix n text))

end Lexer

/-- Carriage returns in front of the newlines do not change what is read, if no literal and no
backslash goes on over the end of a line: the text has the same tokens, or the same fault. -/
theorem reading_withReturns {source : String} (plain : HasPlainLines source.toList) :
    reading (tokenize (String.ofList (withReturns source.toList))) =
      reading (tokenize source) := by
  have beside : Lexer.Beside Lexer.Returned (.start source.toList)
      (.start (withReturns source.toList)) := ⟨_, .start, rfl, plain, rfl⟩
  rw [tokenize, tokenize, String.toList_ofList]
  exact (Lexer.reading_run_of_beside Lexer.scannedAlike_returned beside).symm

/-- A block, a comment, brackets over two lines and a blank line. -/
theorem reading_withReturns_block :
    HasPlainLines "if x: # a\n\tf('b\\'', [\n  1.])\n\ny\n".toList ∧
      reading (tokenize "if x: # a\r\n\tf('b\\'', [\r\n  1.])\r\n\r\ny\r\n") =
        reading (tokenize "if x: # a\n\tf('b\\'', [\n  1.])\n\ny\n") := by
  have plain : HasPlainLines "if x: # a\n\tf('b\\'', [\n  1.])\n\ny\n".toList := by
    refine ⟨by decide +kernel, ?_, by decide +kernel⟩
    rw [List.forall_mem_cons, List.forall_mem_singleton]
    exact ⟨by decide +kernel, by decide +kernel⟩
  have text : String.ofList (withReturns "if x: # a\n\tf('b\\'', [\n  1.])\n\ny\n".toList) =
      "if x: # a\r\n\tf('b\\'', [\r\n  1.])\r\n\r\ny\r\n" := by decide +kernel
  rw [← text]
  exact ⟨plain, reading_withReturns plain⟩

end RobotCell.Script
