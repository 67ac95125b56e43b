import Mathlib.Tactic.SplitIfs
import RobotCell.Script.Lexeme

/-!
# Quoted texts

A text written as a literal on one line is read back as it was. `IsQuotedChar` lists the three ways
in which a character is written between quotes; both the search for the closing quote and the
resolution of escapes go through a quoted text one such character at a time.
-/

namespace RobotCell.Script

namespace Literal

/-- The character neither closes a literal between the quotes `mark` nor starts an escape. -/
def IsPlain (mark c : Char) : Prop :=
  c ≠ '\\' ∧ c ≠ '\n' ∧ c ≠ mark

/-- The ways in which a character is written between the quotes `mark`: as itself, as a backslash
and a letter that stands for it, or by its code. -/
inductive IsQuotedChar (mark : Char) : Char → List Char → Prop where
  | plain {c : Char} (h : IsPlain mark c) : IsQuotedChar mark c [c]
  | simple {c letter : Char} (line : letter ≠ '\n') (stands : simpleEscape? letter = some c) :
    IsQuotedChar mark c ['\\', letter]
  | code {c d e : Char} (stands : hexChar? [d, e] = some c) (hd : IsPlain mark d)
    (he : IsPlain mark e) : IsQuotedChar mark c ['\\', 'x', d, e]

theorem eq_or_eq_of_isQuote {mark : Char} (h : isQuote mark = true) : mark = '"' ∨ mark = '\'' := by
  simpa [isQuote] using h

/-- The control characters of ASCII can be written by their codes. -/
theorem hexChar?_twoHexDigits {c : Char} (h : c.toNat < 128) :
    hexChar? (twoHexDigits c.toNat) = some c := by
  have all : ∀ n < 128, hexChar? (twoHexDigits n) = some (Char.ofNat n) := by decide
  rw [all c.toNat h, Char.ofNat_toNat]

theorem isPlain_digitChar {mark : Char} (h : isQuote mark = true) {n : Nat} (hn : n < 16) :
    IsPlain mark n.digitChar := by
  have digits : ∀ n < 16, n.digitChar ≠ '\\' ∧ n.digitChar ≠ '\n' ∧ n.digitChar ≠ '"' ∧
      n.digitChar ≠ '\'' := by decide
  obtain ⟨slash, line, double, single⟩ := digits n hn
  rcases eq_or_eq_of_isQuote h with rfl | rfl
  · exact ⟨slash, line, double⟩
  · exact ⟨slash, line, single⟩

theorem isQuotedChar_quotedChar {mark : Char} (hmark : isQuote mark = true) (c : Char) :
    IsQuotedChar mark c (quotedChar mark c) := by
  unfold quotedChar
  split_ifs with slash line ret tab quote control
  · subst slash
    exact .simple (by decide) (by decide)
  · subst line
    exact .simple (by decide) (by decide)
  · subst ret
    exact .simple (by decide) (by decide)
  · subst tab
    exact .simple (by decide) (by decide)
  · subst quote
    rcases eq_or_eq_of_isQuote hmark with rfl | rfl
    · exact .simple (by decide) (by decide)
    · exact .simple (by decide) (by decide)
  · exact .code (hexChar?_twoHexDigits (by omega)) (isPlain_digitChar hmark (by omega))
      (isPlain_digitChar hmark (by omega))
  · exact .plain ⟨slash, line, quote⟩

/-! ### Resolving escapes -/

theorem resolve_plain {c : Char} (h : c ≠ '\\') (rest : List Char) :
    resolve (c :: rest) = c :: resolve rest := by
  rw [resolve]
  · exact fun same _ => h same
  · exact fun _ _ same _ => h same

theorem resolve_escape (letter : Char) (rest : List Char) :
    resolve ('\\' :: letter :: rest) =
      (escape letter rest).1 ++ resolve (rest.drop (escape letter rest).2) := by
  rw [resolve]

/-- A quoted character is resolved to itself, whatever follows it. -/
theorem IsQuotedChar.resolve_append {mark c : Char} {text : List Char}
    (h : IsQuotedChar mark c text) (rest : List Char) :
    resolve (text ++ rest) = c :: resolve rest := by
  cases h with
  | plain h => exact resolve_plain h.1 rest
  | simple line stands =>
    simp [resolve_escape, escape, line, stands]
  | code stands hd he =>
    have escaped : ∀ d e c, hexChar? [d, e] = some c →
        escape 'x' (d :: e :: rest) = ([c], 2) := by
      intro d e c found
      have simple : simpleEscape? 'x' = none := rfl
      have two : hexEscapeLength? 'x' = some 2 := rfl
      have digits : (d :: e :: rest).take 2 = [d, e] := rfl
      rw [escape, if_neg (by decide)]
      simp only [simple, two, digits, found]
      rfl
    simp only [List.cons_append, List.nil_append, resolve_escape, escaped _ _ _ stands]
    rfl

/-- A quoted text is resolved to the text. -/
theorem resolve_flatMap_quotedChar {mark : Char} (hmark : isQuote mark = true) (cs : List Char) :
    resolve (cs.flatMap (quotedChar mark)) = cs := by
  induction cs with
  | nil => simp [resolve]
  | cons c cs ih =>
    rw [List.flatMap_cons, (isQuotedChar_quotedChar hmark c).resolve_append, ih]

end Literal

/-! ### Finding the closing quote -/

namespace Lexeme

open Literal

theorem singleBody_plain {mark c : Char} (h : IsPlain mark c) {rest body : List Char} {n : Nat}
    (found : singleBody mark rest = .ok (body, n)) :
    singleBody mark (c :: rest) = .ok (c :: body, n + 1) := by
  obtain ⟨slash, line, quote⟩ := h
  rw [singleBody]
  · simp [line, quote, found]
  · exact fun same _ => slash same
  · exact fun _ _ same _ => slash same

theorem singleBody_escape {mark c : Char} {rest body : List Char} {n : Nat}
    (found : singleBody mark rest = .ok (body, n)) :
    singleBody mark ('\\' :: c :: rest) = .ok ('\\' :: c :: body, n + 2) := by
  rw [singleBody]
  simp [found]

/-- The search for the closing quote passes over a quoted character. -/
theorem singleBody_append_of_isQuotedChar {mark c : Char} {text : List Char}
    (h : IsQuotedChar mark c text) {rest body : List Char} {n : Nat}
    (found : singleBody mark rest = .ok (body, n)) :
    singleBody mark (text ++ rest) = .ok (text ++ body, text.length + n) := by
  cases h with
  | plain h =>
    rw [List.singleton_append, singleBody_plain h found, Nat.add_comm]
    rfl
  | simple line stands =>
    simpa [Nat.add_comm] using singleBody_escape found
  | code stands hd he =>
    -- the search takes the backslash with the letter behind it, and the digits as they are
    have inner := singleBody_plain hd (singleBody_plain he found)
    simpa [Nat.add_comm, Nat.add_left_comm] using singleBody_escape (c := 'x') inner

/-- The closing quote of a quoted text is the one behind it. -/
theorem singleBody_flatMap_quotedChar {mark : Char} (hmark : isQuote mark = true)
    (cs rest : List Char) :
    singleBody mark (cs.flatMap (quotedChar mark) ++ mark :: rest) =
      .ok (cs.flatMap (quotedChar mark), (cs.flatMap (quotedChar mark)).length + 1) := by
  induction cs with
  | nil =>
    rcases eq_or_eq_of_isQuote hmark with rfl | rfl
    · simp [singleBody]
    · simp [singleBody]
  | cons c cs ih =>
    have step := singleBody_append_of_isQuotedChar (isQuotedChar_quotedChar hmark c) ih
    rw [List.flatMap_cons, List.append_assoc, step, List.length_append, Nat.add_assoc]

theorem isQuote_quoteMark (cs : List Char) : isQuote (quoteMark cs) = true := by
  unfold quoteMark
  split <;> rfl

/-- A quoted text does not start like a literal between triple quotes, unless it is empty and
another quote follows it. -/
theorem twoMarks_flatMap_quotedChar {mark : Char} (hmark : isQuote mark = true)
    (cs : List Char) {rest : List Char} (follow : rest.head? ≠ some mark) :
    twoMarks mark (cs.flatMap (quotedChar mark) ++ mark :: rest) = false := by
  cases cs with
  | nil =>
    cases rest with
    | nil => simp [twoMarks]
    | cons c rest =>
      have other : c ≠ mark := by simpa using follow
      simp [twoMarks, other]
  | cons c cs =>
    have slash : '\\' ≠ mark := by rcases eq_or_eq_of_isQuote hmark with rfl | rfl <;> decide
    have written := isQuotedChar_quotedChar hmark c
    rw [List.flatMap_cons, List.append_assoc]
    generalize quotedChar mark c = text at written
    cases written with
    | plain h => simp [twoMarks, h.2.2]
    | simple line stands => simp [twoMarks, slash]
    | code stands hd he => simp [twoMarks, slash]

theorem read_of_isQuote {mark : Char} (h : isQuote mark = true) (rest : List Char) :
    read mark rest = string [] mark rest := by
  rcases eq_or_eq_of_isQuote h with rfl | rfl
  · rfl
  · rfl

/-- A literal on one line is read as the text it was written for. -/
theorem read_quoted (cs : List Char) {rest : List Char}
    (follow : rest.head? ≠ some (quoteMark cs)) :
    read (quoteMark cs) (cs.flatMap (quotedChar (quoteMark cs)) ++ quoteMark cs :: rest) =
      .ok ⟨.str (String.ofList cs), (cs.flatMap (quotedChar (quoteMark cs))).length + 1⟩ := by
  have hmark := isQuote_quoteMark cs
  rw [read_of_isQuote hmark, string, twoMarks_flatMap_quotedChar hmark cs follow]
  simp only [Bool.false_eq_true, if_false, singleBody_flatMap_quotedChar hmark]
  simp [stringToken, isPlainMark, resolve_flatMap_quotedChar hmark, Nat.add_comm]

end Lexeme

end RobotCell.Script
