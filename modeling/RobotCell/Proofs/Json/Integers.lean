import RobotCell.Proofs.Json.ReadBack

/-!
# Integers in documents

An integer is written with its digits, of which the first is zero only if it is the only one. The
digits are summed up to the integer again as long as it fits into 64 bits.

## Main results

- `Json.foldl_addWhole_digitValues` — the digits of a number sum up to the number
- `Json.readsBack_int` — an integer of 64 bits is read back
-/

namespace RobotCell.Json

/-! ### Digits -/

/-- The values of the digits of a number. -/
def digitValues (n : Nat) : List Nat :=
  (Nat.toDigits 10 n).map fun c => c.toNat - '0'.toNat

theorem digitValues_eq (n : Nat) :
    digitValues n = (if n < 10 then [] else digitValues (n / 10)) ++ [n % 10] := by
  have value : ∀ d < 10, (Nat.digitChar d).toNat - '0'.toNat = d := by decide
  have last := value (n % 10) (Nat.mod_lt _ (by omega))
  rw [digitValues, Nat.toDigits_eq_if (by omega)]
  split_ifs with small
  · rw [Nat.mod_eq_of_lt small] at last ⊢
    rw [List.map_singleton, last, List.nil_append]
  · rw [List.map_append, List.map_singleton, last, digitValues]

/-- Only zero is written with a zero at the start. -/
theorem exists_digitValues_eq_cons {n : Nat} (positive : 0 < n) :
    ∃ d ds, digitValues n = d :: ds ∧ d ≠ 0 := by
  induction n using Nat.strongRecOn with
  | ind n ih =>
    rw [digitValues_eq]
    split_ifs with small
    · exact ⟨n % 10, [], rfl, by omega⟩
    · obtain ⟨d, ds, digits, leading⟩ := ih (n / 10) (by omega) (by omega)
      exact ⟨d, ds ++ [n % 10], by rw [digits, List.cons_append], leading⟩

/-- The digits of a number sum up to the number unless there are too many of them. -/
theorem foldl_addWhole_digitValues {n : Nat} (fits : n ≤ maxUnsigned) :
    (digitValues n).foldl Leading.addWhole ⟨0, 0, false⟩ = ⟨n, 0, false⟩ := by
  induction n using Nat.strongRecOn with
  | ind n ih =>
    have split : n / 10 * 10 + n % 10 = n := by omega
    rw [digitValues_eq, List.foldl_append]
    split_ifs with small
    · have same : n % 10 = n := Nat.mod_eq_of_lt small
      simp [Leading.addWhole, same, fits]
    · rw [ih (n / 10) (by omega) (by omega)]
      simp [Leading.addWhole, split, fits]

/-! ### Literals -/

theorem digitRun_append {cs rest : List Char} (digits : ∀ c ∈ cs, c.isDigit = true)
    (ends : ∀ c ∈ rest.head?, digit? c = none) :
    digitRun (cs ++ rest) = (cs.map fun c => c.toNat - '0'.toNat, rest) := by
  induction cs with
  | nil =>
    cases rest with
    | nil => rfl
    | cons c rest => simp [digitRun, ends c rfl]
  | cons c cs ih =>
    rw [List.forall_mem_cons] at digits
    have value : digit? c = some (c.toNat - '0'.toNat) := by
      have range := digits.1
      simp only [Char.isDigit, Bool.and_eq_true, decide_eq_true_eq] at range
      exact if_pos range
    simp [digitRun, value, ih digits.2]

theorem digit?_of_follows {rest : List Char} (follows : Follows rest) :
    ∀ c ∈ rest.head?, digit? c = none := by
  intro c mem
  rcases follows c mem with rfl | rfl <;> decide

theorem readWhole_digits {rest : List Char} (follows : Follows rest) (n : Nat) :
    readWhole ((digitsText n).toList ++ rest) = some (digitValues n, rest) := by
  have digits : digitRun ((digitsText n).toList ++ rest) = (digitValues n, rest) := by
    rw [digitsText, String.toList_ofList]
    exact digitRun_append (fun c mem => Nat.isDigit_of_mem_toDigits (by omega) (by omega) mem)
      (digit?_of_follows follows)
  rw [readWhole, digits]
  rcases Nat.eq_zero_or_pos n with rfl | positive
  · rfl
  · obtain ⟨d, ds, values, leading⟩ := exists_digitValues_eq_cons positive
    rw [values]
    split <;> simp_all

theorem readFraction_of_follows {rest : List Char} (follows : Follows rest) :
    readFraction rest = some (none, rest) := by
  match rest with
  | [] => rfl
  | c :: rest => rcases follows c rfl with rfl | rfl <;> rfl

theorem readExponent_of_follows {rest : List Char} (follows : Follows rest) :
    readExponent rest = some (none, rest) := by
  match rest with
  | [] => rfl
  | c :: rest => rcases follows c rfl with rfl | rfl <;> rfl

/-- The integer has 64 bits, with a sign or without one. -/
def FitsWord (i : Int) : Prop :=
  -(Nat.pow 2 63 : Nat) ≤ i ∧ i ≤ maxUnsigned

instance (i : Int) : Decidable (FitsWord i) :=
  inferInstanceAs (Decidable (_ ∧ _))

/-- The literal of an integer. -/
def integerLiteral (i : Int) : Literal :=
  ⟨decide (i < 0), digitValues i.natAbs, none, none⟩

theorem value?_integerLiteral {i : Int} (fits : FitsWord i) :
    (integerLiteral i).value? = some (.int i) := by
  have unsigned : maxUnsigned = 18446744073709551615 := rfl
  have signed : Nat.pow 2 63 = 9223372036854775808 := rfl
  rw [FitsWord] at fits
  have leading : (integerLiteral i).leading = ⟨i.natAbs, 0, false⟩ :=
    foldl_addWhole_digitValues (by omega)
  have whole : (integerLiteral i).integer? = some i := by
    rw [Literal.integer?, leading]
    by_cases negative : i < 0
    · have room : ¬(i.natAbs = 0 ∨ Nat.pow 2 63 < i.natAbs) := by omega
      have same : -(i.natAbs : Int) = i := by omega
      simp only [integerLiteral, Literal.isWhole, negative, room, same, decide_true, if_false,
        Option.isNone_none, Bool.and_self, Bool.not_true, Bool.or_self, Bool.false_eq_true]
    · have same : (i.natAbs : Int) = i := by omega
      simp only [integerLiteral, Literal.isWhole, negative, same, decide_false, if_false, if_true,
        Option.isNone_none, Bool.and_self, Bool.not_true, Bool.not_false, Bool.or_self,
        Bool.false_eq_true]
  rw [Literal.value?, whole]

theorem toList_intText (i : Int) :
    (intText i).toList = (if i < 0 then ['-'] else []) ++ (digitsText i.natAbs).toList := by
  unfold intText
  split_ifs <;> simp

theorem exists_digitsText_eq_cons (n : Nat) :
    ∃ c cs, (digitsText n).toList = c :: cs ∧ c.isDigit = true := by
  obtain ⟨c, cs, digits⟩ :=
    List.exists_cons_of_length_pos (Nat.length_toDigits_pos (b := 10) (n := n))
  refine ⟨c, cs, by rw [digitsText, String.toList_ofList, digits], ?_⟩
  exact Nat.isDigit_of_mem_toDigits (b := 10) (n := n) (by omega) (by omega)
    (digits ▸ List.mem_cons_self)

theorem readNumber_intText {i : Int} (fits : FitsWord i) {rest : List Char}
    (follows : Follows rest) :
    readNumber ((intText i).toList ++ rest) = some (.number (.int i), rest) := by
  have literal := value?_integerLiteral fits
  have whole := readWhole_digits follows i.natAbs
  rw [toList_intText]
  split_ifs with negative
  · rw [integerLiteral, decide_eq_true negative] at literal
    simp [readNumber, whole, readFraction_of_follows follows, readExponent_of_follows follows,
      literal]
  · obtain ⟨c, cs, digits, digit⟩ := exists_digitsText_eq_cons i.natAbs
    have unsigned : c ≠ '-' := by
      rintro rfl
      cases digit
    rw [integerLiteral, decide_eq_false negative] at literal
    rw [digits, List.cons_append] at whole
    rw [digits]
    simp [readNumber, unsigned, whole, readFraction_of_follows follows,
      readExponent_of_follows follows, literal]

theorem exists_intText_eq_cons (i : Int) :
    ∃ c cs, (intText i).toList = c :: cs ∧ (c = '-' ∨ c.isDigit = true) := by
  rw [toList_intText]
  split_ifs with negative
  · exact ⟨'-', _, rfl, .inl rfl⟩
  · obtain ⟨c, cs, digits, digit⟩ := exists_digitsText_eq_cons i.natAbs
    exact ⟨c, cs, digits, .inr digit⟩

/-- An integer of 64 bits is read back, with or without a sign. -/
theorem readsBack_int {i : Int} (fits : FitsWord i) : ReadsBack (.number (.int i)) := by
  obtain ⟨c, cs, start, first⟩ := exists_intText_eq_cons i
  have number : ∀ letter ∈ ['n', 't', 'f', '"', '[', '{'], c ≠ letter := by
    rintro letter mem rfl
    simp only [List.mem_cons, List.not_mem_nil, or_false] at mem
    rcases mem with rfl | rfl | rfl | rfl | rfl | rfl <;> rcases first with h | h <;> cases h
  simp only [List.forall_mem_cons] at number
  refine readsBack_of_text (c :: cs) (fun _ => by rw [renderAt, Number.text, start]) (by simp)
    fun fuel rest follows => ?_
  have read := readNumber_intText fits follows
  rw [start, List.cons_append] at read
  rw [List.cons_append, readValue]
  · exact read
  all_goals simp_all

theorem echoed_int {depth : Nat} {i : Int} (fits : FitsWord i) : Echoed depth (.number (.int i)) :=
  ⟨readsBack_int fits, by rw [bounded]⟩

end RobotCell.Json
