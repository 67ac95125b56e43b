import RobotCell.Proofs.Script.Spans

/-!
# How far the lexer looks ahead

What is passed over between lexemes depends on the text up to the character at which it ends. A
lexeme that ends in front of a newline depends on the text up to that newline: nothing but a literal
goes on behind one, and whether a literal does is known when its closing quotes are found.

## Main results

- `margin_of_ahead`, `gap_of_ahead` — what is passed over, in front of any text
- `Lexeme.read_of_line` — a lexeme in front of a newline, whatever stands behind that
-/

namespace RobotCell.Script

/-! ### Between lexemes -/

section Passed

variable {passed rest : List Char} {c : Char}

/-- A margin ends at the same character, whatever stands behind that. -/
theorem margin_of_ahead {comment : Bool} {width end_ : Nat}
    (h : margin width comment (passed ++ c :: rest) = (passed.length, end_)) (rest' : List Char) :
    margin width comment (passed ++ c :: rest') = (passed.length, end_) := by
  induction passed generalizing width comment with
  | nil => grind [margin]
  | cons d passed ih => grind [margin]

/-- What is counted up by the length of its first characters starts with these. -/
theorem exists_passed (lead : List Char) {text : List Char} {r : Except Nat Nat}
    {more : Nat → Except Nat Nat → Except Nat Nat}
    (ok : ∀ k m, more k (.ok m) = .ok (m + k)) (error : ∀ k m, more k (.error m) = .error (m + k))
    (split : lead ++ text = passed ++ c :: rest) (h : more lead.length r = .ok passed.length) :
    ∃ passed', passed = lead ++ passed' ∧ text = passed' ++ c :: rest ∧
      r = .ok passed'.length := by
  obtain ⟨m, found, counted⟩ := exists_of_more ok error h
  have first : lead <+: passed ++ c :: rest := ⟨text, split⟩
  obtain ⟨passed', rfl⟩ :=
    List.prefix_of_prefix_length_le first (List.prefix_append _ _) (by omega)
  refine ⟨passed', rfl, ?_, ?_⟩
  · rw [List.append_assoc] at split
    exact List.append_cancel_left split
  · rw [found, show m = passed'.length by rw [List.length_append] at counted; omega]

/-- A gap ends at the same character, whatever stands behind that. -/
theorem gap_of_ahead {bracketed comment : Bool} {text : List Char}
    (split : text = passed ++ c :: rest) (h : gap bracketed comment text = .ok passed.length)
    (rest' : List Char) : gap bracketed comment (passed ++ c :: rest') = .ok passed.length := by
  -- the characters of the gap are in `passed`, so each of them leads to the same branch again
  fun_induction gap bracketed comment text generalizing passed with
  | case1 => simp at split
  | case2 comment cs more inside =>
    rename_i ih
    obtain ⟨passed, rfl, split, found⟩ :=
      exists_passed ['\n'] (fun _ _ => rfl) (fun _ _ => rfl) split h
    subst inside
    rw [List.append_assoc, List.singleton_append, gap.eq_def]
    simp [ih split found]
  | case3 comment cs outside =>
    obtain rfl : passed = [] := List.length_eq_zero_iff.1 (Except.ok.inj h).symm
    obtain ⟨rfl, rfl⟩ := List.cons.inj split
    rw [List.nil_append, gap.eq_def]
    simp [outside]
  | case4 d cs more line =>
    rename_i ih
    obtain ⟨passed, rfl, split, found⟩ :=
      exists_passed [d] (fun _ _ => rfl) (fun _ _ => rfl) split h
    rw [List.append_assoc, List.singleton_append, gap.eq_def]
    simp [line, ih split found]
  | case5 comment d cs more line outside blank =>
    rename_i ih
    obtain ⟨passed, rfl, split, found⟩ :=
      exists_passed [d] (fun _ _ => rfl) (fun _ _ => rfl) split h
    rw [List.append_assoc, List.singleton_append, gap.eq_def]
    simp [line, outside, blank, ih split found]
  | case6 comment cs more outside _ _ =>
    rename_i ih
    obtain ⟨passed, rfl, split, found⟩ :=
      exists_passed ['#'] (fun _ _ => rfl) (fun _ _ => rfl) split h
    rw [List.append_assoc, List.singleton_append, gap.eq_def]
    simp [outside, ih split found]
  | case7 comment more outside cs _ _ _ =>
    rename_i ih
    obtain ⟨passed, rfl, split, found⟩ :=
      exists_passed ['\\', '\n'] (fun _ _ => rfl) (fun _ _ => rfl) split h
    rw [List.append_assoc, gap.eq_def]
    simp [outside, ih split found]
  | case8 comment more outside cs _ _ _ =>
    rename_i ih
    obtain ⟨passed, rfl, split, found⟩ :=
      exists_passed ['\\', '\r', '\n'] (fun _ _ => rfl) (fun _ _ => rfl) split h
    rw [List.append_assoc, gap.eq_def]
    simp [outside, ih split found]
  | case9 => cases h
  | case10 comment d cs line outside blank hash slash =>
    obtain rfl : passed = [] := List.length_eq_zero_iff.1 (Except.ok.inj h).symm
    obtain ⟨rfl, rfl⟩ := List.cons.inj split
    rw [List.nil_append, gap.eq_def]
    simp [line, outside, blank, hash, slash]

end Passed

namespace Lexeme

variable {before after : List Char}

/-! ### Literals -/

/-- A part of a text that is no longer than what stands before a newline stands before it. -/
theorem exists_of_le_length (part left : List Char) (same : before ++ '\n' :: after = part ++ left)
    (short : part.length ≤ before.length) : ∃ left', before = part ++ left' := by
  have parts : part <+: before ++ '\n' :: after := ⟨left, same.symm⟩
  obtain ⟨left', h⟩ := List.prefix_of_prefix_length_le parts (List.prefix_append _ _) short
  exact ⟨left', h.symm⟩

theorem twoMarks_of_line {mark : Char} (line : mark ≠ '\n') (before after after' : List Char) :
    twoMarks mark (before ++ '\n' :: after) = twoMarks mark (before ++ '\n' :: after') := by
  match before with
  | [] => simp [twoMarks, beq_eq_false_iff_ne.2 line.symm]
  | [c] => simp [twoMarks, beq_eq_false_iff_ne.2 line.symm]
  | c :: d :: before => rfl

/-- A literal that ends in front of a newline. -/
theorem string_of_line {letters : List Char} {mark : Char} {l : Lexeme}
    (hmark : isQuote mark = true) (h : string letters mark (before ++ '\n' :: after) = .ok l)
    (inside : l.tail ≤ letters.length + before.length) (after' : List Char) :
    string letters mark (before ++ '\n' :: after') = .ok l := by
  have marks := twoMarks_of_line (isPlain_mark hmark).2 before after after'
  unfold string at h ⊢
  rw [← marks]
  by_cases triple : twoMarks mark (before ++ '\n' :: after) = true
  · simp only [triple, if_true] at h ⊢
    cases found : tripleBody mark ((before ++ '\n' :: after).drop 2) with
    | error n =>
      rw [found] at h
      cases h
    | ok result =>
      obtain ⟨body, n⟩ := result
      rw [found] at h
      cases h
      obtain ⟨⟨left, split⟩, again⟩ := tripleBody_append hmark found
      obtain ⟨-, rfl, -⟩ := tripleBody_eq_ok found
      simp only [List.length_cons, List.length_nil] at inside
      rw [List.drop_append_of_le_length (by omega)] at split
      obtain ⟨left', ends⟩ := exists_of_le_length (body ++ [mark, mark, mark]) left
        (split.trans (by simp)) (by simp only [List.length_append, List.length_drop,
          List.length_cons, List.length_nil]; omega)
      rw [List.drop_append_of_le_length (by omega), ends]
      simp [again]
  · simp only [triple] at h ⊢
    cases found : singleBody mark (before ++ '\n' :: after) with
    | error n =>
      rw [found] at h
      cases h
    | ok result =>
      obtain ⟨body, n⟩ := result
      rw [found] at h
      cases h
      obtain ⟨⟨left, split⟩, rfl, -⟩ := singleBody_eq_ok found
      simp only [if_neg Bool.false_ne_true, List.length_singleton] at inside
      obtain ⟨left', rfl⟩ := exists_of_le_length (body ++ [mark]) left
        (split.trans (by simp)) (by simp only [List.length_append, List.length_singleton]; omega)
      have again := (singleBody_append hmark found (left' ++ '\n' :: after')).1
      simp [again]

/-! ### Words and symbols -/

theorem isNameChar_newline : isNameChar '\n' = false := by
  decide

theorem word_of_line {c : Char} {l : Lexeme} (h : word (c :: (before ++ '\n' :: after)) = .ok l)
    (inside : l.tail ≤ before.length) (after' : List Char) :
    word (c :: (before ++ '\n' :: after')) = .ok l := by
  have letters : ∀ after, (c :: (before ++ '\n' :: after)).takeWhile isNameChar =
      (c :: before).takeWhile isNameChar := by
    intro after
    rw [← List.cons_append, takeWhile_append_of_ne]
    exact .inr (by simp [isNameChar_newline])
  have behind : ∀ after, (c :: (before ++ '\n' :: after)).dropWhile isNameChar =
      (c :: before).dropWhile isNameChar ++ '\n' :: after := by
    intro after
    rw [← List.cons_append, List.dropWhile_append]
    split
    · next done => simp [List.isEmpty_iff.1 done, isNameChar_newline]
    · rfl
  have total : ((c :: before).takeWhile isNameChar).length +
      ((c :: before).dropWhile isNameChar).length = before.length + 1 := by
    rw [← List.length_append, List.takeWhile_append_dropWhile, List.length_cons]
  unfold word at h ⊢
  rw [letters, behind] at h ⊢
  generalize (c :: before).takeWhile isNameChar = letters at h total ⊢
  generalize (c :: before).dropWhile isNameChar = ahead at h total ⊢
  cases ahead with
  | nil =>
    have quote : isQuote '\n' = false := by decide
    simp only [List.nil_append, quote, Bool.and_false] at h ⊢
    exact h
  | cons mark ahead =>
    simp only [List.cons_append] at h ⊢
    split_ifs at h ⊢ with literal
    · rw [List.length_cons] at total
      exact string_of_line (by simp_all) h (by omega) after'
    · exact h

/-- No symbol goes on with a newline. -/
theorem symbol?_of_line (before after : List Char) :
    symbol? (before ++ '\n' :: after) = symbol? before := by
  have free : (Token.spellings.all fun e => !e.1.contains '\n') = true := by
    decide
  have stop : extendsSymbol before '\n' = false := by
    rw [extendsSymbol, Bool.or_eq_false_iff, List.any_eq_false]
    refine ⟨fun e mem longer => ?_, by simp [isDigit]⟩
    obtain ⟨more, hmore⟩ := List.isPrefixOf_iff_prefix.1 longer
    have := List.all_eq_true.1 free e mem
    simp [← hmore] at this
  unfold symbol?
  congr 1
  refine List.find?_congr fun e mem => ?_
  exact isPrefixOf_append_of_not_extends mem (by simpa using stop)

/-! ### All lexemes -/

/-- A lexeme that ends in front of a newline is read whatever stands behind the newline. -/
theorem read_of_line {c : Char} {l : Lexeme} (h : read c (before ++ '\n' :: after) = .ok l)
    (inside : l.tail ≤ before.length) (after' : List Char) :
    read c (before ++ '\n' :: after') = .ok l := by
  have starts : startsNumber c (before ++ '\n' :: after') =
      startsNumber c (before ++ '\n' :: after) := by
    cases before <;> rfl
  have numbers : ∀ after, number (c :: (before ++ '\n' :: after)) = number (c :: before) := by
    intro after
    have stops : ∀ d ∈ ('\n' :: after).head?, stopsNumber d = true := by
      simp only [List.head?_cons, Option.mem_some_iff, forall_eq']
      decide
    rw [number, ← List.cons_append, numberText_append (List.cons_ne_nil _ _) _ (.inr stops)]
    rfl
  have symbols : ∀ after, symbol? (c :: (before ++ '\n' :: after)) = symbol? (c :: before) :=
    fun after => symbol?_of_line (c :: before) after
  unfold read at h ⊢
  rw [starts]
  simp only [numbers, symbols] at h ⊢
  split_ifs at h ⊢ with isNumber isWord quote
  · exact h
  · exact word_of_line h inside after'
  · exact string_of_line quote h (by simpa using inside) after'
  · exact h

end Lexeme

end RobotCell.Script
