import RobotCell.Proofs.Program.Internal

/-!
# Variables of objects

The variable of an object is made from its id so that it can be used as a name. The first character
of the id decides whether it can: the two passes over the letters put nothing in front of it, and
lower-casing neither makes a number of another character nor the other way round. What is missed are
the numbers other than the ten digits, which may be in a name but not at its start.

## Main definitions

- `Text.isOtherNumber` — a number that is neither a letter nor one of the ten digits

## Main results

- `Text.isOtherNumber_lowerBetween` — lower-casing keeps such numbers and makes no others
- `Naming.isIdentifier_variableName_iff` — which ids have a variable that can be used
-/

namespace RobotCell

/-! ### Numbers and lower-casing -/

namespace Text

/-- The character is a number, but neither a letter nor one of the ten digits. -/
def isOtherNumber (c : Char) : Bool :=
  isNumeric c && !isAlphabetic c && !c.isDigit

/-- What holds of all ASCII codes holds of the characters that have them. -/
theorem of_ascii {P : Char → Prop} (codes : ∀ n < 128, P (Char.ofNat n)) {c : Char}
    (ascii : c.toNat < 128) : P c :=
  Char.ofNat_toNat c ▸ codes c.toNat ascii

theorem isOtherNumber_of_lt {c : Char} (h : c.toNat < 128) : isOtherNumber c = false := by
  have numeric : isNumeric c = c.isDigit := by rw [isNumeric, if_pos h]
  rw [isOtherNumber, numeric]
  cases c.isDigit <;> simp

/-- The code points from one to another are all letters, or none of them is a number. -/
def spansNoOther (first last : Nat) : Bool :=
  numericRanges.all (fun r => Nat.blt last r.1 || Nat.blt r.2 first) ||
    alphabeticRanges.any (fun r => Nat.ble r.1 first && Nat.ble last r.2)

theorem isOtherNumber_of_spansNoOther {first last : Nat} {c : Char}
    (h : spansNoOther first last = true) (low : first ≤ c.toNat) (high : c.toNat ≤ last) :
    isOtherNumber c = false := by
  by_cases ascii : c.toNat < 128
  · exact isOtherNumber_of_lt ascii
  · rw [spansNoOther, Bool.or_eq_true] at h
    rcases h with apart | letters
    · have none : isNumeric c = false := by
        rw [isNumeric, if_neg ascii, within, List.any_eq_false]
        intro r hr
        have := List.all_eq_true.1 apart r hr
        simp only [Bool.or_eq_true, Nat.blt_eq] at this
        simp only [Bool.and_eq_true, decide_eq_true_eq]
        omega
      simp [isOtherNumber, none]
    · have letter : isAlphabetic c = true := by
        rw [isAlphabetic, if_neg ascii, within, List.any_eq_true]
        obtain ⟨r, hr, inside⟩ := List.any_eq_true.1 letters
        simp only [Bool.and_eq_true, Nat.ble_eq] at inside
        refine ⟨r, hr, ?_⟩
        simp only [Bool.and_eq_true, decide_eq_true_eq]
        omega
      simp [isOtherNumber, letter]

theorem spansNoOther_lowerRuns :
    (lowerRuns.all fun r => spansNoOther r.1 r.2.1 &&
      spansNoOther (r.1 + r.2.2.2).toNat (r.2.1 + r.2.2.2).toNat) = true := by
  decide +kernel

/-- Neither a character with a lower-case form nor the form is such a number. -/
theorem isOtherNumber_of_shifted? {c d : Char} (h : shifted? lowerRuns c = some d) :
    isOtherNumber c = false ∧ isOtherNumber d = false := by
  unfold shifted? at h
  split at h
  · next first last step distance found =>
    obtain rfl := Option.some.inj h
    have spans := List.all_eq_true.1 spansNoOther_lowerRuns _ (List.mem_of_find?_eq_some found)
    have inside := List.find?_some found
    simp only [Bool.and_eq_true, decide_eq_true_eq] at spans inside
    refine ⟨isOtherNumber_of_spansNoOther spans.1 inside.1.1 inside.1.2, ?_⟩
    -- a code point that is no character stands for the zero character
    have code (n : Nat) : (Char.ofNat n).toNat = n ∨ (Char.ofNat n).toNat = 0 := by
      by_cases valid : n.isValidChar
      · exact .inl (congrArg Char.toNat (dif_pos valid))
      · exact .inr (congrArg Char.toNat (dif_neg valid))
    rcases code (c.toNat + distance).toNat with same | zero
    · refine isOtherNumber_of_spansNoOther spans.2 ?_ ?_ <;> omega
    · exact isOtherNumber_of_lt (by omega)
  · cases h

theorem isOtherNumber_lowerChar (c : Char) :
    ∃ d more, lowerChar c = d :: more ∧ isOtherNumber d = isOtherNumber c := by
  unfold lowerChar
  split_ifs with ascii dotted
  · have lower : c.toLower.toNat < 128 :=
      of_ascii (P := fun c => c.toLower.toNat < 128) (by decide) ascii
    exact ⟨_, [], rfl, by rw [isOtherNumber_of_lt lower, isOtherNumber_of_lt ascii]⟩
  · have same : c = Char.ofNat 0x130 := by rw [← dotted, Char.ofNat_toNat]
    exact ⟨_, _, rfl, by rw [same]; decide⟩
  · cases found : shifted? lowerRuns c with
    | none => exact ⟨c, [], rfl, rfl⟩
    | some d =>
      obtain ⟨before, after⟩ := isOtherNumber_of_shifted? found
      exact ⟨d, [], rfl, by rw [before, after]⟩

/-- The lower-case form of a character is not empty, and starts with such a number only if the
character is one. -/
theorem isOtherNumber_lowerBetween (before : List Char) (c : Char) (after : List Char) :
    ∃ d more, lowerBetween before c after = d :: more ∧ isOtherNumber d = isOtherNumber c := by
  unfold lowerBetween
  split_ifs with sigma ends
  · exact ⟨_, [], rfl, by rw [sigma]; decide⟩
  · exact ⟨_, [], rfl, by rw [sigma]; decide⟩
  · exact isOtherNumber_lowerChar c

end Text

/-! ### Names -/

namespace Naming

open Script

theorem head?_markWords (inWord : Bool) (cs : List Char) : (markWords inWord cs).head? = cs.head? := by
  fun_cases markWords inWord cs with
  | case1 | case2 | case3 => rfl
  | case4 => rfl

theorem head?_markCapitals (cs : List Char) : (markCapitals cs).head? = cs.head? := by
  fun_cases markCapitals cs with
  | case1 | case2 => rfl
  | case3 => rfl

/-- A name in snake case starts with another number than one of the ten digits if the name does. -/
theorem startsWithOtherNumber_eq (id : String) :
    startsWithOtherNumber id = id.toList.head?.any Text.isOtherNumber := by
  have number (c : Char) : (isAlphanumeric c && !Text.isAlphabetic c && !c.isDigit) =
      Text.isOtherNumber c := by
    rw [Text.isOtherNumber, isAlphanumeric]
    cases Text.isAlphabetic c <;> simp
  have head : (markCapitals (markWords false id.toList)).head? = id.toList.head? := by
    rw [head?_markCapitals, head?_markWords]
  rw [startsWithOtherNumber, snakeCase, String.toList_ofList, Text.lowerChars, ← head]
  simp only [number]
  cases markCapitals (markWords false id.toList) with
  | nil => rfl
  | cons c rest =>
    obtain ⟨d, more, lower, same⟩ := Text.isOtherNumber_lowerBetween [] c rest
    rw [Text.lowerAfter, lower]
    exact same

/-- The variable of an object can be used as a name if its id does not start with a number, or starts
with one of the ten digits or with a number that is a letter. -/
theorem isIdentifier_variableName_iff (id : String) :
    isIdentifier (variableName id) = true ↔
      ∀ c ∈ id.toList.head?, Text.isNumeric c = true →
        Text.isAlphabetic c = true ∨ c.isDigit = true := by
  rw [isIdentifier_variableName, startsWithOtherNumber_eq]
  cases id.toList.head? with
  | none => simp
  | some c =>
    simp only [Option.any_some, Option.mem_some_iff, forall_eq', Text.isOtherNumber]
    cases Text.isNumeric c <;> cases Text.isAlphabetic c <;> simp

/-- A superscript two is its own variable, which is no identifier. -/
theorem not_isIdentifier_variableName_superscript :
    variableName "²" = "²" ∧ isIdentifier (variableName "²") = false := by
  rw [variableName_superscript.1]
  exact ⟨rfl, variableName_superscript.2⟩

end Naming

end RobotCell
