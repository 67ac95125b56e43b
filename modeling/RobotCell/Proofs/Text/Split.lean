import Mathlib.Data.List.TakeDrop
import Mathlib.Data.List.TakeWhile
import RobotCell.Text.Join

/-!
# Cutting and joining texts

A text is cut at a separator into parts that give it back when they are joined.
-/

namespace RobotCell.Text

/-! ### Two parts -/

/-- A text is cut once at the first occurrence of the separator. -/
theorem splitOnce_eq_some_iff (sep : Char) (s before after : String) :
    splitOnce sep s = some (before, after) ↔
      s = before ++ String.singleton sep ++ after ∧ sep ∉ before.toList := by
  unfold splitOnce
  rw [List.span_eq_takeWhile_dropWhile]
  have whole := List.takeWhile_append_dropWhile (p := (· ≠ sep)) (l := s.toList)
  constructor
  · intro h
    cases rest : s.toList.dropWhile (· ≠ sep) with
    | nil =>
      rw [rest] at h
      cases h
    | cons c cs =>
      rw [rest] at h whole
      cases h
      have hc : c = sep := by
        have first := List.head?_dropWhile_not (· ≠ sep) s.toList
        rw [rest] at first
        simpa using first
      subst hc
      refine ⟨?_, fun hmem => ?_⟩
      · rw [← String.toList_inj]
        simpa using whole.symm
      · rw [String.toList_ofList] at hmem
        simpa using List.mem_takeWhile_imp hmem
  · rintro ⟨rfl, fresh⟩
    have left : ∀ c ∈ before.toList, decide (c ≠ sep) = true := by
      intro c hc
      have other : c ≠ sep := fun same => fresh (same ▸ hc)
      simpa using other
    simp only [String.toList_append, List.append_assoc, List.takeWhile_append_of_pos left,
      List.dropWhile_append_of_pos left]
    simp

/-- A text has two parts exactly when it is joined from them and one separator: neither of them is
empty, and the separator occurs nowhere else. -/
theorem splitPair_eq_some_iff (sep : Char) (s before after : String) :
    splitPair sep s = some (before, after) ↔
      s = before ++ String.singleton sep ++ after ∧ before ≠ "" ∧ after ≠ "" ∧
        sep ∉ before.toList ∧ sep ∉ after.toList := by
  unfold splitPair
  cases h : splitOnce sep s with
  | none =>
    simp only [reduceCtorEq, false_iff]
    rintro ⟨whole, -, -, fresh, -⟩
    have := (splitOnce_eq_some_iff sep s before after).2 ⟨whole, fresh⟩
    rw [h] at this
    cases this
  | some parts =>
    obtain ⟨left, right⟩ := parts
    obtain ⟨whole, fresh⟩ := (splitOnce_eq_some_iff sep s left right).1 h
    dsimp only
    split_ifs with bad
    · rw [false_iff]
      rintro ⟨whole', hb, ha, fresh', clean⟩
      have := (splitOnce_eq_some_iff sep s before after).2 ⟨whole', fresh'⟩
      rw [h] at this
      cases this
      rcases bad with bad | bad | bad
      · exact hb bad
      · exact ha bad
      · exact clean bad
    · simp only [not_or] at bad
      constructor
      · intro same
        cases same
        exact ⟨whole, bad.1, bad.2.1, fresh, bad.2.2⟩
      · rintro ⟨whole', -, -, fresh', -⟩
        rw [← h]
        exact (splitOnce_eq_some_iff sep s before after).2 ⟨whole', fresh'⟩

/-! ### All parts -/

theorem splitChars_ne_nil (sep : Char) (cs : List Char) : splitChars sep cs ≠ [] := by
  cases cs with
  | nil => simp [splitChars]
  | cons c cs =>
    rw [splitChars]
    split
    · simp
    · split <;> simp

theorem splitChars_of_notMem {sep : Char} {cs : List Char} (h : sep ∉ cs) :
    splitChars sep cs = [cs] := by
  induction cs with
  | nil => rfl
  | cons c cs ih =>
    rw [List.mem_cons, not_or] at h
    rw [splitChars, if_neg (Ne.symm h.1), ih h.2]

theorem splitChars_append_cons (sep : Char) (cs rest : List Char) :
    splitChars sep (cs ++ sep :: rest) = splitChars sep cs ++ splitChars sep rest := by
  induction cs with
  | nil => simp [splitChars]
  | cons c cs ih =>
    by_cases h : c = sep
    · rw [List.cons_append, splitChars, if_pos h, ih, splitChars, if_pos h, List.cons_append]
    · rw [List.cons_append, splitChars, if_neg h, ih, splitChars, if_neg h]
      cases pieces : splitChars sep cs with
      | nil => exact absurd pieces (splitChars_ne_nil sep cs)
      | cons piece pieces => rfl

/-- Pieces without separators come back when they are cut apart again. -/
theorem splitChars_flatMap {sep : Char} {piece : List Char} {pieces : List (List Char)}
    (clean : ∀ p ∈ piece :: pieces, sep ∉ p) :
    splitChars sep (piece ++ pieces.flatMap (sep :: ·)) = piece :: pieces := by
  induction pieces generalizing piece with
  | nil => rw [List.flatMap_nil, List.append_nil, splitChars_of_notMem (clean piece (by simp))]
  | cons next pieces ih =>
    obtain ⟨first, later⟩ := List.forall_mem_cons.1 clean
    rw [List.flatMap_cons, List.cons_append, splitChars_append_cons, splitChars_of_notMem first,
      ih later, List.singleton_append]

/-- A separator splits a text into what is before it and what is behind it. -/
theorem splitAtChar_append (sep : Char) (s rest : String) :
    splitAtChar sep (s ++ String.singleton sep ++ rest) =
      splitAtChar sep s ++ splitAtChar sep rest := by
  have chars : (s ++ String.singleton sep ++ rest).toList = s.toList ++ sep :: rest.toList := by
    simp
  rw [splitAtChar, chars, splitChars_append_cons, List.map_append]
  rfl

/-- A piece that a separator follows. -/
theorem splitAtChar_append_of_notMem {sep : Char} {s : String} (h : sep ∉ s.toList)
    (rest : String) :
    splitAtChar sep (s ++ String.singleton sep ++ rest) = s :: splitAtChar sep rest := by
  rw [splitAtChar_append, splitAtChar, splitChars_of_notMem h]
  simp

theorem joinWith_cons {sep s : String} {rest : List String} (filled : rest ≠ []) :
    joinWith sep (s :: rest) = s ++ sep ++ joinWith sep rest := by
  cases rest with
  | nil => exact absurd rfl filled
  | cons t rest => rfl

theorem toList_joinWith (sep : Char) (s : String) (rest : List String) :
    (joinWith (String.singleton sep) (s :: rest)).toList =
      s.toList ++ (rest.map String.toList).flatMap (sep :: ·) := by
  induction rest generalizing s with
  | nil => simp [joinWith]
  | cons t rest ih =>
    rw [joinWith_cons (List.cons_ne_nil t rest), String.toList_append, ih]
    simp

/-- The pieces of a text, joined again. -/
theorem joinWith_splitAtChar (sep : Char) (s : String) :
    joinWith (String.singleton sep) (splitAtChar sep s) = s := by
  have chars : ∀ cs, (joinWith (String.singleton sep)
      ((splitChars sep cs).map String.ofList)).toList = cs := by
    intro cs
    induction cs with
    | nil => rfl
    | cons c cs ih =>
      by_cases h : c = sep
      · rw [splitChars, if_pos h, List.map_cons, joinWith_cons (by simp [splitChars_ne_nil])]
        simp [ih, h]
      · rw [splitChars, if_neg h]
        cases hsplit : splitChars sep cs with
        | nil => exact absurd hsplit (splitChars_ne_nil sep cs)
        | cons piece pieces =>
          rw [hsplit] at ih
          -- the character joins the first piece, which may be the only one
          cases pieces with
          | nil => simpa [joinWith] using ih
          | cons next pieces => simpa [joinWith] using ih
  rw [← String.toList_inj]
  exact chars s.toList

end RobotCell.Text
