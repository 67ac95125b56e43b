import Mathlib.Data.List.TakeWhile
import RobotCell.Proofs.Script.Literals
import RobotCell.Proofs.Script.Spans

/-!
# Literals as whole texts

A literal on one line that makes up a whole text is read as the text it was written for. A literal
between triple quotes is so only if the quotes at the end of its text come in threes: those left over
join the closing quotes, of which the first three then close the literal.

## Main definitions

- `Literal.closingQuotes` — the number of quotes at the end of a text
-/

namespace RobotCell.Script

/-! ### Lexemes from the start of a text -/

namespace Lexer

/-- The machine inside a line, with no block and no bracket open. -/
def amid (place : Place) (used : Bool) (rest : List Char) : Lexer :=
  ⟨rest, place, [], 0, false, used, false⟩

variable {c : Char} {cs rest : List Char} {place : Place} {used : Bool}

theorem run_amid_lexeme {t : Token} (ink : isInk c = true)
    (read : Lexeme.read c (cs ++ rest) = .ok ⟨t, cs.length⟩) (flat : depthAfter 0 t = 0) :
    (amid place used (c :: (cs ++ rest))).run =
      (amid (place.after (c :: cs)) true rest).run.map (⟨t, place⟩ :: ·) := by
  rw [run_eq, amid, step_lexeme ink read place, flat]
  rfl

theorem run_amid_fault {e : LexFault} (ink : isInk c = true)
    (read : Lexeme.read c rest = .error e) :
    (amid place used (c :: rest)).run =
      .error ⟨place.after ((c :: rest).take e.offset), e.fault⟩ := by
  have line : c ≠ '\n' := ((isInk_iff c).1 ink).1
  rw [run_eq]
  simp [amid, step, stepLine, gap_of_isInk ink, forward, line, readLexeme, read, Place.after]

theorem run_amid_nil (place : Place) :
    (amid place true []).run = .ok [⟨.newline, place⟩, ⟨.endOfInput, place⟩] := by
  rw [run_eq]
  rfl

end Lexer

/-- A text that starts with a lexeme is read from its first character on. -/
theorem tokenize_of_isInk {source : String} {c : Char} {cs : List Char}
    (same : source.toList = c :: cs) (ink : isInk c = true) :
    tokenize source = (Lexer.amid .start false (c :: cs)).run := by
  have opens : (Lexer.start (c :: cs)).step = ⟨none, [], Lexer.amid .start false (c :: cs)⟩ := by
    simp [Lexer.start, Lexer.step, Lexer.stepMargin, margin_of_isInk ink, Lexer.forward,
      Lexer.alignTo, Lexer.amid, Place.after]
  rw [tokenize, same, Lexer.run_eq, opens]
  cases (Lexer.amid .start false (c :: cs)).run <;> rfl

/-- A text starts with a lexeme: the token of the lexeme stands at the start. -/
theorem tokenize_lexeme {source : String} {c : Char} {cs rest : List Char} {t : Token}
    (same : source.toList = c :: (cs ++ rest)) (ink : isInk c = true)
    (read : Lexeme.read c (cs ++ rest) = .ok ⟨t, cs.length⟩)
    (flat : Lexer.depthAfter 0 t = 0) :
    tokenize source =
      (Lexer.amid (.behind (c :: cs)) true rest).run.map (⟨t, .start⟩ :: ·) := by
  rw [tokenize_of_isInk same ink, Lexer.run_amid_lexeme ink read flat, Place.after_start]

/-! ### Literals on one line -/

theorem Place.behind_of_notMem {text : List Char} (single : '\n' ∉ text) :
    Place.behind text = ⟨1, text.length + 1⟩ := by
  have whole : text.reverse.takeWhile (· ≠ '\n') = text.reverse := by
    rw [List.takeWhile_eq_self_iff]
    intro c mem
    have line : c ≠ '\n' := by
      rintro rfl
      exact single (List.mem_reverse.1 mem)
    simpa using line
  rw [Place.behind, whole, List.count_eq_zero_of_not_mem single, List.length_reverse]

namespace Literal

theorem IsQuotedChar.newline_notMem {mark c : Char} {text : List Char}
    (h : IsQuotedChar mark c text) : '\n' ∉ text := by
  cases h with
  | plain h => simpa using h.2.1.symm
  | simple line stands => simpa using line.symm
  | code stands hd he => simpa using ⟨hd.2.1.symm, he.2.1.symm⟩

/-- A literal on one line holds no line break. -/
theorem newline_notMem_quoteChars (cs : List Char) : '\n' ∉ quoteChars cs := by
  have hmark := Lexeme.isQuote_quoteMark cs
  have mark : '\n' ≠ quoteMark cs := by
    rcases eq_or_eq_of_isQuote hmark with mark | mark
    · rw [mark]
      decide
    · rw [mark]
      decide
  have body : '\n' ∉ cs.flatMap (quotedChar (quoteMark cs)) := by
    intro mem
    obtain ⟨c, -, inside⟩ := List.mem_flatMap.1 mem
    exact (isQuotedChar_quotedChar hmark c).newline_notMem inside
  simp [quoteChars, mark, body]

end Literal

/-- A literal on one line is read back exactly: the text it was written for, from the first column
on, and behind it the end of the line and of the input. -/
theorem tokenize_quote (s : String) :
    tokenize (Literal.quote s) = .ok [⟨.str s, ⟨1, 1⟩⟩,
      ⟨.newline, ⟨1, (Literal.quote s).length + 1⟩⟩,
      ⟨.endOfInput, ⟨1, (Literal.quote s).length + 1⟩⟩] := by
  let mark := Literal.quoteMark s.toList
  let body := s.toList.flatMap (Literal.quotedChar mark)
  have text : (Literal.quote s).toList = mark :: (body ++ [mark]) := String.toList_ofList
  have ink : isInk mark = true :=
    isInk_of_isOpener (isOpener_of_isQuote (Lexeme.isQuote_quoteMark s.toList))
  have read : Lexeme.read mark (body ++ [mark] ++ []) = .ok ⟨.str s, (body ++ [mark]).length⟩ := by
    rw [List.append_nil, Lexeme.read_quoted s.toList (by simp), String.ofList_toList,
      List.length_append]
    rfl
  have stop : Place.behind (mark :: (body ++ [mark])) = ⟨1, (Literal.quote s).length + 1⟩ := by
    rw [← text, Place.behind_of_notMem, String.length_toList]
    rw [Literal.quote, String.toList_ofList]
    exact Literal.newline_notMem_quoteChars s.toList
  rw [tokenize_lexeme (by rw [text, List.append_nil]) ink read rfl, Lexer.run_amid_nil, stop]
  rfl

/-! ### Literals between triple quotes -/

namespace Literal

/-- The number of quotes at the end of a text. -/
def closingQuotes (cs : List Char) : Nat :=
  (cs.reverse.takeWhile (· = '"')).length

theorem closingQuotes_concat (cs : List Char) (c : Char) :
    closingQuotes (cs ++ [c]) = if c = '"' then closingQuotes cs + 1 else 0 := by
  by_cases quote : c = '"' <;> simp [closingQuotes, quote]

/-- Where the quotes at the end leave the closing quotes apart, what follows makes no three quotes
out of fewer. -/
theorem ne_twoQuotes_append {c : Char} {rest : List Char} (ends : endsDoc (c :: rest) = true)
    (triple : ∀ tail, c = '"' → rest = '"' :: '"' :: tail → False) (more : List Char) :
    ∀ tail, c = '"' → rest ++ more = '"' :: '"' :: tail → False := by
  rintro tail rfl same
  have last := ((endsDoc_cons_iff triple).1 ends).1
  match rest with
  | [] => exact last ⟨rfl, .inl rfl⟩
  | [d] =>
    obtain ⟨rfl, -⟩ := List.cons.inj same
    exact last ⟨rfl, .inr rfl⟩
  | d :: e :: rest =>
    simp only [List.cons_append, List.cons.injEq] at same
    obtain ⟨rfl, rfl, -⟩ := same
    exact triple rest rfl rfl

/-- The written form of a text goes on with that of what follows. -/
theorem docBody_append {cs : List Char} (ends : endsDoc cs = true) (more : List Char) :
    docBody (cs ++ more) = docBody cs ++ docBody more := by
  fun_induction docBody cs with
  | case1 => rfl
  | case2 rest ih =>
    rw [endsDoc] at ends
    simp [docBody, ih ends]
  -- elsewhere one character is written, since three quotes do not arise with what follows
  | case3 rest triple ih =>
    rw [List.cons_append, docBody, if_pos rfl, ih ((endsDoc_cons_iff triple).1 ends).2]
    · rfl
    · exact ne_twoQuotes_append ends triple more
  | case4 c rest triple slash ih =>
    rw [List.cons_append, docBody, if_neg slash, ih ((endsDoc_cons_iff triple).1 ends).2]
    · rfl
    · exact ne_twoQuotes_append ends triple more

theorem endsDoc_append {cs more : List Char} (ends : endsDoc cs = true)
    (later : endsDoc more = true) : endsDoc (cs ++ more) = true := by
  induction cs using endsDoc.induct with
  | case1 => exact later
  | case2 rest ih =>
    rw [endsDoc] at ends
    exact ih ends
  | case3 c rest triple ih =>
    obtain ⟨last, inner⟩ := (endsDoc_cons_iff triple).1 ends
    refine (endsDoc_cons_iff (ne_twoQuotes_append ends triple more)).2 ⟨?_, ih inner⟩
    rintro ⟨rfl, empty | single⟩
    · exact last ⟨rfl, .inl (List.append_eq_nil_iff.1 empty).1⟩
    · rcases List.append_eq_singleton_iff.1 single with ⟨rfl, -⟩ | ⟨rfl, -⟩
      · exact last ⟨rfl, .inl rfl⟩
      · exact last ⟨rfl, .inr rfl⟩

theorem endsDoc_quotes_concat {c : Char} (other : c ≠ '"') {r : Nat} (few : r < 3) :
    endsDoc (List.replicate r '"' ++ [c]) = true := by
  match r with
  | 0 => simp [endsDoc, other]
  | 1 => simp [endsDoc, other]
  | 2 => simp [endsDoc, other]

/-- A text is one whose quotes leave the closing quotes apart, and behind it the quotes at its end
that do not come in threes. -/
theorem exists_endsDoc (cs : List Char) :
    ∃ us, endsDoc us = true ∧ cs = us ++ List.replicate (closingQuotes cs % 3) '"' := by
  -- the induction goes from the end of the text, where the quotes are counted
  induction cs using List.reverseRecOn with
  | nil => exact ⟨[], rfl, rfl⟩
  | append_singleton cs c ih =>
    obtain ⟨us, ends, same⟩ := ih
    rw [closingQuotes_concat]
    have few : closingQuotes cs % 3 < 3 := Nat.mod_lt _ (by decide)
    by_cases quote : c = '"'
    · subst quote
      rw [if_pos rfl]
      by_cases third : closingQuotes cs % 3 = 2
      · -- the third quote in a row makes them escapes
        have none : (closingQuotes cs + 1) % 3 = 0 := by omega
        rw [third] at same
        rw [none, same]
        exact ⟨us ++ ['"', '"', '"'], endsDoc_append ends rfl, by simp⟩
      · have next : (closingQuotes cs + 1) % 3 = closingQuotes cs % 3 + 1 := by omega
        refine ⟨us, ends, ?_⟩
        rw [next, List.replicate_succ', ← List.append_assoc, ← same]
    · rw [if_neg quote]
      refine ⟨cs ++ [c], ?_, by simp⟩
      rw [same, List.append_assoc]
      exact endsDoc_append ends (endsDoc_quotes_concat quote few)

theorem docBody_quotes {r : Nat} (few : r < 3) :
    docBody (List.replicate r '"') = List.replicate r '"' := by
  match r with
  | 0 => rfl
  | 1 => rfl
  | 2 => rfl

/-- The quotes left over stand behind the first three closing quotes as well as before them. -/
theorem toList_docLiteral {s : String} {us : List Char} {r : Nat} (ends : endsDoc us = true)
    (few : r < 3) (same : s.toList = us ++ List.replicate r '"') :
    (docLiteral s).toList =
      '"' :: ('"' :: '"' :: (docBody us ++ ['"', '"', '"']) ++ List.replicate r '"') := by
  -- quotes are quotes: those of the text and those that close the literal can change places
  have fence : ['"', '"', '"'] = List.replicate 3 '"' := rfl
  have turn : List.replicate r '"' ++ ['"', '"', '"'] = ['"', '"', '"'] ++ List.replicate r '"' := by
    rw [fence, ← List.replicate_add, ← List.replicate_add, Nat.add_comm]
  simp only [docLiteral, String.toList_append, String.toList_ofList, same, docBody_append ends,
    docBody_quotes few]
  simp [turn]

end Literal

/-- A literal between triple quotes is closed before the quotes at its end that do not come in
threes. -/
theorem tokenize_docLiteral {s : String} {us : List Char} {r : Nat}
    (ends : Literal.endsDoc us = true) (few : r < 3)
    (same : s.toList = us ++ List.replicate r '"') :
    tokenize (Literal.docLiteral s) =
      (Lexer.amid (.behind ('"' :: '"' :: '"' :: (Literal.docBody us ++ ['"', '"', '"']))) true
        (List.replicate r '"')).run.map (⟨.str (String.ofList us), .start⟩ :: ·) :=
  tokenize_lexeme (Literal.toList_docLiteral ends few same) rfl (Lexeme.read_docLiteral ends _) rfl

section

variable {s : String}

theorem reads_docLiteral (h : Literal.closingQuotes s.toList % 3 = 0) :
    ∃ placed, tokenize (Literal.docLiteral s) = .ok placed ∧
      placed.map PlacedToken.token = [.str s, .newline, .endOfInput] := by
  obtain ⟨us, ends, same⟩ := Literal.exists_endsDoc s.toList
  rw [h] at same
  rw [tokenize_docLiteral ends (by decide) same, List.replicate_zero, Lexer.run_amid_nil]
  refine ⟨_, rfl, ?_⟩
  rw [List.replicate_zero, List.append_nil] at same
  rw [← same, String.ofList_toList]
  rfl

/-- One quote left over is an open literal. -/
theorem fault_docLiteral (h : Literal.closingQuotes s.toList % 3 = 1) :
    tokenize (Literal.docLiteral s) =
      .error ⟨.behind (Literal.docLiteral s).toList.dropLast, .openString⟩ := by
  obtain ⟨us, ends, same⟩ := Literal.exists_endsDoc s.toList
  rw [h] at same
  have text : (Literal.docLiteral s).toList =
      '"' :: '"' :: '"' :: (Literal.docBody us ++ ['"', '"', '"']) ++ ['"'] :=
    Literal.toList_docLiteral ends (by decide) same
  have read : Lexeme.read '"' [] = .error ⟨.openString, 0, 0⟩ := by decide
  rw [tokenize_docLiteral ends (by decide) same, text, List.dropLast_concat, List.replicate_one,
    Lexer.run_amid_fault rfl read]
  rfl

/-- Two quotes left over are a literal of their own, without a text. -/
theorem splits_docLiteral (h : Literal.closingQuotes s.toList % 3 = 2) :
    ∃ t placed, s = t ++ "\"\"" ∧ tokenize (Literal.docLiteral s) = .ok placed ∧
      placed.map PlacedToken.token = [.str t, .str "", .newline, .endOfInput] := by
  obtain ⟨us, ends, same⟩ := Literal.exists_endsDoc s.toList
  rw [h] at same
  have read : Lexeme.read '"' (['"'] ++ []) = .ok ⟨.str "", 1⟩ := by
    rw [Lexeme.read_of_isQuote rfl]
    simp [Lexeme.string, Lexeme.twoMarks, Lexeme.singleBody, Lexeme.stringToken,
      Lexeme.isPlainMark, Literal.resolve]
  have quotes : List.replicate 2 '"' = '"' :: (['"'] ++ []) := rfl
  have text : s = String.ofList us ++ "\"\"" := by
    rw [← String.toList_inj, same]
    simp
  have found := tokenize_docLiteral ends (by decide) same
  rw [quotes, Lexer.run_amid_lexeme rfl read rfl, Lexer.run_amid_nil] at found
  exact ⟨String.ofList us, _, text, found, rfl⟩

end

/-- A literal between triple quotes is read back exactly if the quotes at the end of its text come in
threes. If one is left over, it is an open literal at the end; if two are left over, they are lost
from the text and are read as a second literal, without a text. -/
theorem docLiteral_reads_iff (s : String) :
    ((∃ placed, tokenize (Literal.docLiteral s) = .ok placed ∧
        placed.map PlacedToken.token = [.str s, .newline, .endOfInput]) ↔
      Literal.closingQuotes s.toList % 3 = 0) ∧
    (tokenize (Literal.docLiteral s) =
        .error ⟨.behind (Literal.docLiteral s).toList.dropLast, .openString⟩ ↔
      Literal.closingQuotes s.toList % 3 = 1) ∧
    ((∃ t placed, s = t ++ "\"\"" ∧ tokenize (Literal.docLiteral s) = .ok placed ∧
        placed.map PlacedToken.token = [.str t, .str "", .newline, .endOfInput]) ↔
      Literal.closingQuotes s.toList % 3 = 2) := by
  have left : Literal.closingQuotes s.toList % 3 = 0 ∨ Literal.closingQuotes s.toList % 3 = 1 ∨
      Literal.closingQuotes s.toList % 3 = 2 := by omega
  refine ⟨⟨?_, reads_docLiteral⟩, ⟨?_, fault_docLiteral⟩, ⟨?_, splits_docLiteral⟩⟩
  · rintro ⟨placed, found, tokens⟩
    rcases left with h | h | h
    · exact h
    · rw [fault_docLiteral h] at found
      cases found
    · obtain ⟨t, placed', -, found', tokens'⟩ := splits_docLiteral h
      cases found.symm.trans found'
      cases tokens.symm.trans tokens'
  · intro fault
    rcases left with h | h | h
    · obtain ⟨placed, found, -⟩ := reads_docLiteral h
      cases fault.symm.trans found
    · exact h
    · obtain ⟨t, placed, -, found, -⟩ := splits_docLiteral h
      cases fault.symm.trans found
  · rintro ⟨t, placed, -, found, tokens⟩
    rcases left with h | h | h
    · obtain ⟨placed', found', tokens'⟩ := reads_docLiteral h
      cases found.symm.trans found'
      cases tokens.symm.trans tokens'
    · rw [fault_docLiteral h] at found
      cases found
    · exact h

/-- A text over two lines with a quote at its end. -/
def quotedEnd : String := "b\nc\""

/-- The literal for a text with one quote at its end is not read at all. -/
theorem docLiteral_quotedEnd :
    '\n' ∈ quotedEnd.toList ∧
      tokenize (Literal.docLiteral quotedEnd) = .error ⟨⟨2, 5⟩, .openString⟩ := by
  refine ⟨by decide, ?_⟩
  rw [fault_docLiteral (by decide)]
  decide

end RobotCell.Script
