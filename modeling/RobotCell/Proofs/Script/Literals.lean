import RobotCell.Proofs.Script.Spelling
import RobotCell.Script.ExprGrammar

/-!
# Literals that are read back

Numbers and literals with a prefix are kept as they are written. They are read as themselves again
if nothing behind them makes them longer; a decimal number goes on with a point, so it is the one
literal that cannot stand before an attribute. A text over several lines is also written between
triple quotes, which a quote at its end may close too early.

## Main definitions

- `IsNumber`, `IsVerbatim` — texts that are one number, and one literal with a prefix
- `takesPoint` — the number ends before a point
- `Literal.endsDoc` — the quotes at the end of a text leave the closing quotes apart
-/

namespace RobotCell.Script

namespace Lexeme

/-! ### Numbers -/

/-- No number goes on with the character. -/
def stopsNumber (c : Char) : Bool :=
  !(isDigit c || c == '.' || c == '_' || isExponentLetter c || c == '+' || c == '-' ||
    isRadixLetter c || Text.isHexDigit c || isNumberSuffix c)

variable {cs rest : List Char}

theorem decimalRun_append {before : Char}
    (h : decimalRun before cs ≠ cs ∨ ∀ c ∈ rest.head?, stopsNumber c = true) :
    decimalRun before (cs ++ rest) = decimalRun before cs := by
  induction cs generalizing before with
  | nil =>
    cases rest with
    | nil => rfl
    | cons d rest =>
      rcases h with h | h
      · exact absurd rfl h
      · have stops := h d rfl
        simp only [stopsNumber, Bool.not_eq_true', Bool.or_eq_false_iff] at stops
        simp [decimalRun, stops]
  | cons c cs ih =>
    rw [List.cons_append, decimalRun, decimalRun]
    split_ifs with goes
    · rw [ih]
      refine h.imp_left fun differ same => differ ?_
      rw [decimalRun, if_pos goes, same]
    · rfl

theorem takeWhile_append_of_ne {p : Char → Bool}
    (h : cs.takeWhile p ≠ cs ∨ ∀ c ∈ rest.head?, p c = false) :
    (cs ++ rest).takeWhile p = cs.takeWhile p := by
  induction cs with
  | nil =>
    cases rest with
    | nil => rfl
    | cons d rest =>
      rcases h with h | h
      · exact absurd rfl h
      · simp [h d rfl]
  | cons c cs ih =>
    rw [List.cons_append, List.takeWhile_cons, List.takeWhile_cons]
    split
    · next goes =>
      rw [ih]
      refine h.imp_left fun differ same => differ ?_
      rw [List.takeWhile_cons, if_pos goes, same]
    · rfl

theorem decimalRun_isPrefix (before : Char) (cs : List Char) : decimalRun before cs <+: cs := by
  induction cs generalizing before with
  | nil => exact List.prefix_refl _
  | cons c cs ih =>
    rw [decimalRun]
    split_ifs
    · exact List.cons_prefix_cons.2 ⟨rfl, ih c⟩
    · exact List.nil_prefix

theorem numberBody_isPrefix (cs : List Char) : numberBody cs <+: cs := by
  match cs with
  | [] => exact List.prefix_refl _
  | [c] => exact List.prefix_refl _
  | c :: d :: rest =>
    rw [numberBody]
    split_ifs
    · exact List.cons_prefix_cons.2
        ⟨rfl, List.cons_prefix_cons.2 ⟨rfl, List.takeWhile_prefix _⟩⟩
    · exact List.cons_prefix_cons.2 ⟨rfl, decimalRun_isPrefix c _⟩

theorem numberBody_append (filled : cs ≠ [])
    (h : numberBody cs ≠ cs ∨ ∀ c ∈ rest.head?, stopsNumber c = true) :
    numberBody (cs ++ rest) = numberBody cs := by
  match cs with
  | [] => exact absurd rfl filled
  | [c] =>
    cases rest with
    | nil => rfl
    | cons d rest =>
      rcases h with h | h
      · exact absurd rfl h
      · have stops := h d rfl
        simp only [stopsNumber, Bool.not_eq_true', Bool.or_eq_false_iff] at stops
        simp [numberBody, decimalRun, stops]
  | c :: d :: more =>
    rw [List.cons_append, List.cons_append, numberBody, numberBody]
    split_ifs with radix
    · rw [takeWhile_append_of_ne]
      rcases h with differ | stops
      · refine .inl fun same => differ ?_
        rw [numberBody, if_pos radix, same]
      · refine .inr fun x hx => ?_
        have := stops x hx
        simp only [stopsNumber, Bool.not_eq_true', Bool.or_eq_false_iff] at this
        simp [this]
    · rw [← List.cons_append, decimalRun_append]
      refine h.imp_left fun differ same => differ ?_
      rw [numberBody, if_neg radix, same]

/-- A number ends where it ended, in front of a character that ends all numbers or if it ended
before. -/
theorem numberText_append (filled : cs ≠ []) (rest : List Char)
    (h : numberText cs ≠ cs ∨ ∀ c ∈ rest.head?, stopsNumber c = true) :
    numberText (cs ++ rest) = numberText cs := by
  obtain ⟨left, hleft⟩ := numberBody_isPrefix cs
  have body : numberBody (cs ++ rest) = numberBody cs := by
    refine numberBody_append filled (h.imp_left fun differ same => differ ?_)
    rw [numberText, same]
    simp
  have ahead : cs.drop (numberBody cs).length = left :=
    (congrArg (List.drop _) hleft).symm.trans List.drop_left
  have ahead' : (cs ++ rest).drop (numberBody cs).length = left ++ rest := by
    have split : numberBody cs ++ (left ++ rest) = cs ++ rest := by
      rw [← List.append_assoc, hleft]
    exact (congrArg (List.drop _) split).symm.trans List.drop_left
  simp only [numberText, body, ahead, ahead']
  cases left with
  | cons x left => rfl
  | nil =>
    -- the whole text was the number, so the character behind it counts
    rcases h with differ | stops
    · refine absurd ?_ differ
      rw [List.append_nil] at hleft
      rw [numberText, ahead, hleft]
      simp
    · cases rest with
      | nil => rfl
      | cons d rest =>
        have := stops d rfl
        simp only [stopsNumber, Bool.not_eq_true', Bool.or_eq_false_iff] at this
        simp [this]

end Lexeme

/-- The text is one number. -/
def IsNumber (text : String) : Prop :=
  ∃ c cs, text.toList = c :: cs ∧ Lexeme.startsNumber c cs = true ∧
    Lexeme.numberText (c :: cs) = c :: cs

/-- The number ends before a point. -/
def takesPoint (text : String) : Bool :=
  Lexeme.numberText (text.toList ++ ['.']) == text.toList

theorem isDigit_iff {c : Char} : isDigit c = true ↔ 48 ≤ c.toNat ∧ c.toNat ≤ 57 := by
  simp only [isDigit, Bool.and_eq_true, decide_eq_true_eq]
  exact Iff.rfl

theorem isOpener_of_isDigit {c : Char} (h : isDigit c = true) : isOpener c = true := by
  have digits : ∀ n < 58, isDigit (Char.ofNat n) = true → isOpener (Char.ofNat n) = true := by
    decide
  have := digits c.toNat (by have := isDigit_iff.1 h; omega)
  rw [Char.ofNat_toNat] at this
  exact this h

theorem isOpener_of_startsNumber {c : Char} {cs : List Char}
    (h : Lexeme.startsNumber c cs = true) : isOpener c = true := by
  simp only [Lexeme.startsNumber, Bool.or_eq_true, Bool.and_eq_true, beq_iff_eq] at h
  rcases h with digit | ⟨rfl, -⟩
  · exact isOpener_of_isDigit digit
  · rfl

theorem isInk_of_isOpener {c : Char} (h : isOpener c = true) : isInk c = true := by
  simp only [isOpener, Bool.and_eq_true] at h
  exact h.1

theorem Lexeme.startsNumber_append {c : Char} {cs : List Char}
    (h : Lexeme.startsNumber c cs = true) (rest : List Char) :
    Lexeme.startsNumber c (cs ++ rest) = true := by
  cases cs with
  | nil =>
    simp only [startsNumber, List.head?_nil, Option.any_none, Bool.and_false, Bool.or_false] at h
    simp [startsNumber, h]
  | cons d cs => simpa [startsNumber] using h

/-- A number in front of something that does not make it longer. -/
theorem IsNumber.spells {text : String} (h : IsNumber text) :
    SpellsUpTo (fun c => Closes c ∨ c = '.' ∧ takesPoint text = true) text.toList
      [.number text] := by
  obtain ⟨c, cs, htext, starts, whole⟩ := h
  intro indents depth used rest us next inLine
  have read : Lexeme.numberText (c :: (cs ++ rest)) = c :: cs := by
    rw [← List.cons_append]
    by_cases point : rest.head? = some '.'
    · obtain ⟨more, rfl⟩ := List.head?_eq_some_iff.1 point
      have takes : takesPoint text = true := by
        rcases next '.' rfl with close | ⟨-, takes⟩
        · exact absurd close (by decide)
        · exact takes
      rw [takesPoint, htext, beq_iff_eq] at takes
      -- the number ended before the point, so nothing behind the point counts
      have differ : Lexeme.numberText (c :: cs ++ ['.']) ≠ c :: cs ++ ['.'] := by
        rw [takes]
        exact fun same => by simpa using congrArg List.length same
      have := Lexeme.numberText_append (by simp) more (.inl differ)
      rw [List.append_assoc, takes] at this
      exact this
    · rw [Lexeme.numberText_append (by simp) rest (.inr fun d hd => ?_), whole]
      rcases next d hd with close | ⟨rfl, -⟩
      · exact close.of_all Lexeme.stopsNumber (by decide)
      · exact absurd hd point
  rw [htext]
  refine InLine.lexeme (isInk_of_isOpener (isOpener_of_startsNumber starts)) ?_ inLine
  rw [Lexeme.read, if_pos (Lexeme.startsNumber_append starts rest), Lexeme.number, read, ← htext,
    String.ofList_toList, htext]
  rfl

theorem IsNumber.opens {text : String} (h : IsNumber text) : Opens text.toList := by
  obtain ⟨c, cs, htext, starts, -⟩ := h
  rw [htext]
  exact opens_cons (isOpener_of_startsNumber starts) cs

/-! ### Literals with a prefix -/

/-- The text is one literal with a prefix. -/
def IsVerbatim (text : String) : Prop :=
  ∃ c cs, text.toList = c :: cs ∧ isNameStart c = true ∧
    ∀ rest : List Char, (∀ d ∈ rest.head?, Delimits d) →
      Lexeme.read c (cs ++ rest) = .ok ⟨.verbatim text, cs.length⟩

theorem IsVerbatim.spells {text : String} (h : IsVerbatim text) :
    SpellsUpTo Delimits text.toList [.verbatim text] := by
  obtain ⟨c, cs, htext, starts, read⟩ := h
  intro indents depth used rest us next inLine
  rw [htext]
  exact InLine.lexeme (isInk_of_isNameStart starts) (read rest next) inLine

theorem IsVerbatim.opens {text : String} (h : IsVerbatim text) : Opens text.toList := by
  obtain ⟨c, cs, htext, starts, -⟩ := h
  rw [htext]
  exact opens_cons (isOpener_of_isNameStart starts) cs

theorem isOpener_of_isQuote {c : Char} (h : isQuote c = true) : isOpener c = true := by
  rcases Literal.eq_or_eq_of_isQuote h with rfl | rfl
  · rfl
  · rfl

theorem opens_quoted (s : String) : Opens (Literal.quote s).toList := by
  rw [Literal.quote, String.toList_ofList]
  exact opens_cons (isOpener_of_isQuote (Lexeme.isQuote_quoteMark s.toList)) _

/-! ### Literals between triple quotes -/

namespace Literal

/-- The quotes at the end of the text leave the closing quotes apart: three of them are written as
escapes, and fewer would join the closing ones. -/
def endsDoc : List Char → Bool
  | [] => true
  | '"' :: '"' :: '"' :: rest => endsDoc rest
  | c :: rest => !(c == '"' && (rest == [] || rest == ['"'])) && endsDoc rest

/-- A character that starts no three quotes must not be one of the last two quotes. -/
theorem endsDoc_cons_iff {c : Char} {rest : List Char}
    (triple : ∀ tail, c = '"' → rest = '"' :: '"' :: tail → False) :
    endsDoc (c :: rest) = true ↔
      ¬(c = '"' ∧ (rest = [] ∨ rest = ['"'])) ∧ endsDoc rest = true := by
  rw [endsDoc]
  · rw [Bool.and_eq_true, Bool.not_eq_true', ← Bool.not_eq_true]
    simp
  · exact triple

theorem resolve_docBody (cs : List Char) : resolve (docBody cs) = cs := by
  fun_induction docBody cs with
  | case1 => simp [resolve]
  | case2 rest ih =>
    have quote (more : List Char) : resolve ('\\' :: '"' :: more) = '"' :: resolve more := by
      rw [resolve_escape]
      simp [escape, simpleEscape?]
    rw [quote, quote, quote, ih]
  | case3 rest _ ih =>
    rw [resolve_escape]
    simp [escape, simpleEscape?, ih]
  | case4 c rest _ slash ih => rw [resolve_plain slash, ih]

end Literal

namespace Lexeme

open Literal

theorem tripleBody_plain {mark c : Char} {rest body : List Char} {n : Nat} (slash : c ≠ '\\')
    (open_ : ¬(c = mark ∧ twoMarks mark rest = true))
    (found : tripleBody mark rest = .ok (body, n)) :
    tripleBody mark (c :: rest) = .ok (c :: body, n + 1) := by
  rw [tripleBody]
  · rw [if_neg open_, found]
  · exact fun same _ => slash same
  · exact fun _ _ same _ => slash same

theorem tripleBody_escape {mark c : Char} {rest body : List Char} {n : Nat}
    (found : tripleBody mark rest = .ok (body, n)) :
    tripleBody mark ('\\' :: c :: rest) = .ok ('\\' :: c :: body, n + 2) := by
  rw [tripleBody]
  simp [found]

theorem tripleBody_fence (mark : Char) (slash : mark ≠ '\\') (rest : List Char) :
    tripleBody mark (mark :: mark :: mark :: rest) = .ok ([], 3) := by
  rw [tripleBody]
  · simp [twoMarks]
  · exact fun same _ => slash same
  · exact fun _ _ same _ => slash same

/-- The written form of a text starts with a quote only where the text does. -/
theorem head?_docBody_eq (cs : List Char) :
    (docBody cs).head? = some '"' → ∃ rest, cs = '"' :: rest ∧ docBody cs = '"' :: docBody rest := by
  fun_cases docBody cs with
  | case1 => simp
  | case2 rest => simp
  | case3 rest _ => simp
  | case4 c rest _ slash =>
    intro h
    obtain rfl : c = '"' := by simpa using h
    exact ⟨rest, rfl, rfl⟩

theorem twoMarks_docBody {rest : List Char} (h : endsDoc ('"' :: rest) = true)
    (triple : ∀ tail, rest ≠ '"' :: '"' :: tail) (more : List Char) :
    twoMarks '"' (docBody rest ++ more) = false := by
  have last := ((endsDoc_cons_iff fun tail _ same => triple tail same).1 h).1
  have filled : rest ≠ [] := fun empty => last ⟨rfl, .inl empty⟩
  have longer : rest ≠ ['"'] := fun single => last ⟨rfl, .inr single⟩
  refine Bool.eq_false_iff.2 fun marks => ?_
  have take : (docBody rest ++ more).take 2 = ['"', '"'] := by simpa [twoMarks] using marks
  -- the first quote comes from the text, since the text is not empty
  have first : (docBody rest).head? = some '"' := by
    have : (docBody rest ++ more).head? = some '"' := by
      cases hl : docBody rest ++ more with
      | nil => simp [hl] at take
      | cons x l => simpa [hl] using congrArg List.head? take
    have nonempty : docBody rest ≠ [] := by
      cases rest with
      | nil => exact absurd rfl filled
      | cons c rest =>
        intro empty
        unfold docBody at empty
        split at empty <;> simp_all
        split at empty <;> simp_all
    rwa [List.head?_append_of_ne_nil _ nonempty] at this
  obtain ⟨tail, rfl, written⟩ := head?_docBody_eq rest first
  have second : (docBody tail ++ more).head? = some '"' := by
    rw [written] at take
    cases hl : docBody tail ++ more with
    | nil => simp [hl] at take
    | cons x l => simpa [hl] using take
  cases tail with
  | nil => exact longer rfl
  | cons c tail =>
    have nonempty : docBody (c :: tail) ≠ [] := by
      intro empty
      unfold docBody at empty
      split at empty <;> simp_all
      split at empty <;> simp_all
    rw [List.head?_append_of_ne_nil _ nonempty] at second
    obtain ⟨tail', same, -⟩ := head?_docBody_eq _ second
    exact triple tail' (by rw [same])

theorem tripleBody_docBody {cs : List Char} (h : endsDoc cs = true) (rest : List Char) :
    tripleBody '"' (docBody cs ++ '"' :: '"' :: '"' :: rest) =
      .ok (docBody cs, (docBody cs).length + 3) := by
  fun_induction docBody cs with
  | case1 => exact tripleBody_fence '"' (by decide) rest
  | case2 cs ih =>
    rw [endsDoc] at h
    have := tripleBody_escape (c := '"') (tripleBody_escape (c := '"')
      (tripleBody_escape (c := '"') (ih h)))
    simpa [Nat.add_assoc] using this
  | case3 cs triple ih =>
    have inner : endsDoc cs = true := ((endsDoc_cons_iff triple).1 h).2
    have := tripleBody_escape (c := '\\') (ih inner)
    simpa [Nat.add_assoc] using this
  | case4 c cs triple slash ih =>
    have inner : endsDoc cs = true := ((endsDoc_cons_iff triple).1 h).2
    refine tripleBody_plain slash ?_ (ih inner)
    rintro ⟨rfl, marks⟩
    have apart := twoMarks_docBody h (fun tail => triple tail rfl) ('"' :: '"' :: '"' :: rest)
    exact absurd (apart.symm.trans marks) (by decide)

/-- A literal between triple quotes is read as the text it was written for, whatever follows it. -/
theorem read_docLiteral {cs : List Char} (h : endsDoc cs = true) (rest : List Char) :
    read '"' ('"' :: '"' :: (docBody cs ++ ['"', '"', '"']) ++ rest) =
      .ok ⟨.str (String.ofList cs), ('"' :: '"' :: (docBody cs ++ ['"', '"', '"'])).length⟩ := by
  rw [read_of_isQuote rfl, string]
  simp [twoMarks, tripleBody_docBody h rest, stringToken, isPlainMark, resolve_docBody]
  omega

end Lexeme

/-- A literal between triple quotes stands for its text. -/
theorem spells_docLiteral {s : String} (h : Literal.endsDoc s.toList = true) :
    SpellsUpTo (fun _ => True) (Literal.docLiteral s).toList [.str s] := by
  intro indents depth used rest us _ inLine
  have text_eq : (Literal.docLiteral s).toList ++ rest =
      '"' :: ('"' :: '"' :: (Literal.docBody s.toList ++ ['"', '"', '"']) ++ rest) := by
    simp [Literal.docLiteral]
  have read := Lexeme.read_docLiteral h rest
  rw [String.ofList_toList] at read
  rw [text_eq]
  exact InLine.lexeme rfl read inLine

end RobotCell.Script
