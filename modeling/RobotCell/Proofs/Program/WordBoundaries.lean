import Mathlib.Data.List.TakeWhile
import RobotCell.Proofs.Program.Variables

/-!
# Words in names

Snake case comes about in two passes. The first one replaces a letter before a capitalized word, the
second one a small letter or digit before a capital letter, and a match of a pass takes letters away
from the matches behind it. What the first pass misses for that reason, the second one finds, and
what the first pass has found is not marked again: together they mark each letter by its neighbours.

## Main definitions

- `Naming.replaceAll` — letters with all matches replaced, from the left
- `Naming.startsWord` — the letter at an index starts a word, by its neighbours
- `Naming.underscored` — letters with an underscore before each letter that starts a word

## Main results

- `Naming.markWords_eq_replaceAll`, `Naming.markCapitals_eq_replaceAll` — the two passes
- `Naming.markCapitals_markWords` — both passes mark the letters that start a word
-/

namespace RobotCell.Naming

/-! ### The passes as replacements -/

/-- The letters with every match replaced. `found` gives the replacement of a match at the start of
the letters, and how many letters the match takes. The first `skipped` letters belong to the last
match, in which no other match starts. -/
def replaceFrom (found : List Char → Option (List Char × Nat)) : Nat → List Char → List Char
  | _, [] => []
  | skipped + 1, _ :: rest => replaceFrom found skipped rest
  | 0, c :: rest =>
    match found (c :: rest) with
    | some (text, width + 1) => text ++ replaceFrom found width rest
    | _ => c :: replaceFrom found 0 rest

/-- The letters with every match replaced, from the left. -/
def replaceAll (found : List Char → Option (List Char × Nat)) (cs : List Char) : List Char :=
  replaceFrom found 0 cs

/-- A letter other than a newline, and behind it a capital letter with as many small letters as
there are, at least one. An underscore comes between. -/
def capitalizedWord? : List Char → Option (List Char × Nat)
  | c :: u :: rest =>
    let small := rest.takeWhile Char.isLower
    if c ≠ '\n' ∧ u.isUpper = true ∧ small ≠ [] then
      some (c :: '_' :: u :: small, small.length + 2)
    else none
  | _ => none

/-- A small letter or digit, and behind it a capital letter. An underscore comes between. -/
def capitalLetter? : List Char → Option (List Char × Nat)
  | c :: u :: _ =>
    if (c.isLower || c.isDigit) = true ∧ u.isUpper = true then some ([c, '_', u], 2) else none
  | _ => none

theorem replaceFrom_eq (found : List Char → Option (List Char × Nat)) (n : Nat) (cs : List Char) :
    replaceFrom found n cs = replaceAll found (cs.drop n) := by
  induction n generalizing cs with
  | zero => rfl
  | succ n ih =>
    cases cs with
    | nil => rfl
    | cons c cs => exact ih cs

section Replace

variable {found : List Char → Option (List Char × Nat)} {c : Char} {cs text : List Char} {n : Nat}

theorem replaceAll_of_match (h : found (c :: cs) = some (text, n + 1)) :
    replaceAll found (c :: cs) = text ++ replaceAll found (cs.drop n) := by
  rw [← replaceFrom_eq, replaceAll, replaceFrom, h]

theorem replaceAll_of_none (h : found (c :: cs) = none) :
    replaceAll found (c :: cs) = c :: replaceAll found cs := by
  rw [replaceAll, replaceFrom, h]
  rfl

end Replace

theorem capitalizedWord?_of_found {c u l : Char} {rest : List Char}
    (found : (c ≠ '\n' && u.isUpper && l.isLower) = true) :
    capitalizedWord? (c :: u :: l :: rest) =
      some (c :: '_' :: u :: l :: rest.takeWhile Char.isLower,
        (rest.takeWhile Char.isLower).length + 3) := by
  simp only [Bool.and_eq_true, decide_eq_true_eq] at found
  simp [capitalizedWord?, found]

theorem capitalizedWord?_of_missing {c u l : Char} {rest : List Char}
    (missing : ¬(c ≠ '\n' && u.isUpper && l.isLower) = true) :
    capitalizedWord? (c :: u :: l :: rest) = none := by
  simp only [Bool.and_eq_true, decide_eq_true_eq, not_and] at missing
  simp only [capitalizedWord?]
  refine if_neg fun ⟨line, upper, filled⟩ => filled ?_
  exact List.takeWhile_cons_of_neg (missing ⟨line, upper⟩)

theorem markWords_true_of_isLower {c : Char} (small : c.isLower = true) (cs : List Char) :
    markWords true (c :: cs) = c :: markWords true cs := by
  match cs with
  | [] => rfl
  | [u] => rfl
  | u :: l :: rest => rw [markWords, if_pos (by simpa using small)]

theorem markWords_true_of_not_isLower {c : Char} (large : ¬c.isLower = true) (cs : List Char) :
    markWords true (c :: cs) = markWords false (c :: cs) := by
  match cs with
  | [] => rfl
  | [u] => rfl
  | u :: l :: rest => simp [markWords, large]

/-- Within a word, the small letters belong to the last match. -/
theorem markWords_true (cs : List Char) :
    markWords true cs =
      cs.takeWhile Char.isLower ++ markWords false (cs.dropWhile Char.isLower) := by
  induction cs with
  | nil => rfl
  | cons c cs ih =>
    by_cases small : c.isLower = true
    · rw [markWords_true_of_isLower small, ih, List.takeWhile_cons_of_pos small,
        List.dropWhile_cons_of_pos small, List.cons_append]
    · rw [markWords_true_of_not_isLower small, List.takeWhile_cons_of_neg small,
        List.dropWhile_cons_of_neg small, List.nil_append]

/-- The first pass replaces capitalized words. -/
theorem markWords_eq_replaceAll (cs : List Char) :
    markWords false cs = replaceAll capitalizedWord? cs := by
  induction hn : cs.length using Nat.strongRecOn generalizing cs with
  | ind n ih =>
    match cs with
    | [] => rfl
    | [c] => rfl
    | [c, u] => simp [markWords, replaceAll, replaceFrom, capitalizedWord?]
    | c :: u :: l :: rest =>
      simp only [List.length_cons] at hn
      rw [markWords, Bool.false_and, if_neg Bool.false_ne_true]
      split_ifs with found
      · have fewer := (List.dropWhile_sublist Char.isLower (l := rest)).length_le
        have behind : (rest.takeWhile Char.isLower ++ rest.dropWhile Char.isLower).drop
            (rest.takeWhile Char.isLower).length = rest.dropWhile Char.isLower := List.drop_left
        rw [List.takeWhile_append_dropWhile] at behind
        rw [replaceAll_of_match (capitalizedWord?_of_found found), markWords_true,
          ih _ (by omega) _ rfl, List.drop_succ_cons, List.drop_succ_cons, behind]
        rfl
      · rw [replaceAll_of_none (capitalizedWord?_of_missing found), ih _ (by simp; omega) _ rfl]

/-- The second pass replaces capital letters. -/
theorem markCapitals_eq_replaceAll (cs : List Char) :
    markCapitals cs = replaceAll capitalLetter? cs := by
  fun_induction markCapitals cs with
  | case1 c u rest found ih =>
    have matched : capitalLetter? (c :: u :: rest) = some ([c, '_', u], 2) :=
      if_pos (Bool.and_eq_true_iff.1 found)
    rw [replaceAll_of_match matched, ih]
    rfl
  | case2 c u rest missing ih =>
    have unmatched : capitalLetter? (c :: u :: rest) = none :=
      if_neg fun both => missing (Bool.and_eq_true_iff.2 both)
    rw [replaceAll_of_none unmatched, ih]
  | case3 cs short =>
    match cs with
    | [] => rfl
    | [c] => rfl
    | c :: u :: rest => exact absurd rfl (short c u rest)

/-! ### Neighbours -/

/-- The letter at an index starts a word: it is a capital letter behind a small letter or digit, or
before a small letter and not at the start of a line. -/
def startsWord (cs : List Char) (i : Nat) : Bool :=
  0 < i && cs[i]?.any Char.isUpper &&
    (cs[i - 1]?.any (fun c => c.isLower || c.isDigit) ||
      cs[i + 1]?.any Char.isLower && cs[i - 1]? != some '\n')

/-- The letters with an underscore before each letter that starts a word. -/
def underscored (cs : List Char) : List Char :=
  cs.zipIdx.flatMap fun c => if startsWord cs c.2 then ['_', c.1] else [c.1]

/-- A letter between others starts a word. -/
def startsWordBetween (before : Option Char) (c : Char) (after : Option Char) : Bool :=
  c.isUpper && before.any fun b => b.isLower || b.isDigit || after.any Char.isLower && b != '\n'

/-- The letters behind another letter with an underscore before each letter that starts a word. -/
def markedBehind (before : Option Char) : List Char → List Char
  | [] => []
  | c :: rest =>
    (if startsWordBetween before c rest.head? then ['_', c] else [c]) ++ markedBehind (some c) rest

theorem startsWord_append (front : List Char) (c : Char) (rest : List Char) :
    startsWord (front ++ c :: rest) front.length =
      startsWordBetween front.getLast? c rest.head? := by
  have here : (front ++ c :: rest)[front.length]? = some c := by simp
  have next : (front ++ c :: rest)[front.length + 1]? = rest.head? := by
    cases rest <;> simp
  rcases List.eq_nil_or_concat front with rfl | ⟨earlier, b, rfl⟩
  · simp [startsWord, startsWordBetween]
  · have line : (some b != some '\n') = (b != '\n') := rfl
    simp only [startsWord, here, next]
    simp [startsWordBetween, line]

theorem flatMap_zipIdx_eq_markedBehind (front cs : List Char) :
    ((cs.zipIdx front.length).flatMap fun c =>
      if startsWord (front ++ cs) c.2 then ['_', c.1] else [c.1]) =
        markedBehind front.getLast? cs := by
  induction cs generalizing front with
  | nil => rfl
  | cons c rest ih =>
    have later := ih (front ++ [c])
    rw [List.append_assoc, List.singleton_append, List.length_append, List.length_singleton,
      List.getLast?_concat] at later
    rw [List.zipIdx_cons, List.flatMap_cons, later, startsWord_append, markedBehind]

theorem underscored_eq_markedBehind (cs : List Char) : underscored cs = markedBehind none cs :=
  flatMap_zipIdx_eq_markedBehind [] cs

/-! ### Both passes -/

theorem not_isLower_of_isUpper {c : Char} (h : c.isUpper = true) :
    c.isLower = false ∧ c.isDigit = false := by
  have codes : 'A'.val.toNat = 65 ∧ 'Z'.val.toNat = 90 ∧ 'a'.val.toNat = 97 ∧ '9'.val.toNat = 57 := by
    decide
  have upper : 'A'.val ≤ c.val ∧ c.val ≤ 'Z'.val := of_decide_eq_true h
  simp only [UInt32.le_iff_toNat_le] at upper
  constructor
  · rw [Bool.eq_false_iff]
    intro (small : (decide ('a'.val ≤ c.val) && decide (c.val ≤ 'z'.val)) = true)
    simp only [Bool.and_eq_true, decide_eq_true_eq, UInt32.le_iff_toNat_le] at small
    omega
  · rw [Bool.eq_false_iff]
    intro (digit : (decide ('0'.val ≤ c.val) && decide (c.val ≤ '9'.val)) = true)
    simp only [Bool.and_eq_true, decide_eq_true_eq, UInt32.le_iff_toNat_le] at digit
    omega

theorem not_isUpper_of_isLower {c : Char} (small : c.isLower = true) : c.isUpper = false := by
  rw [Bool.eq_false_iff]
  intro upper
  rw [(not_isLower_of_isUpper upper).1] at small
  cases small

theorem markCapitals_of_isUpper {u : Char} (upper : u.isUpper = true) (cs : List Char) :
    markCapitals (u :: cs) = u :: markCapitals cs := by
  have large := not_isLower_of_isUpper upper
  cases cs with
  | nil => rfl
  | cons c cs => rw [markCapitals, large.1, large.2]; rfl

theorem markedBehind_none (c : Char) (cs : List Char) :
    markedBehind none (c :: cs) = c :: markedBehind (some c) cs := by
  simp [markedBehind, startsWordBetween]

/-- Where no capitalized word follows, a capital letter starts a word only behind a small letter or
digit. -/
theorem startsWordBetween_of_isUpper {c u : Char} {rest : List Char} (upper : u.isUpper = true)
    (covered : (c.isLower || c.isDigit) = true ∨ capitalizedWord? (c :: u :: rest) = none) :
    startsWordBetween (some c) u rest.head? = (c.isLower || c.isDigit) := by
  rcases covered with small | none
  · simp [startsWordBetween, upper, small]
  · have single : (rest.head?.any Char.isLower && c != '\n') = false := by
      cases rest with
      | nil => rfl
      | cons l rest =>
        rw [Bool.eq_false_iff]
        intro both
        rw [Bool.and_eq_true, bne_iff_ne] at both
        rw [capitalizedWord?_of_found (by simpa [upper] using both.symm)] at none
        cases none
    simp [startsWordBetween, upper, single]

/-- A letter before letters that have been marked: the second pass marks the next letter if it comes
behind a small letter or digit, and so the first pass need not have done so. -/
theorem markCapitals_cons_markWords {inWord : Bool} {c : Char} {cs : List Char}
    (ih : markCapitals (markWords inWord cs) = markedBehind none cs)
    (covered : (c.isLower || c.isDigit) = true ∨ capitalizedWord? (c :: cs) = none) :
    markCapitals (c :: markWords inWord cs) = markedBehind none (c :: cs) := by
  rw [markedBehind_none]
  cases cs with
  | nil => rfl
  | cons u rest =>
    obtain ⟨marked, same⟩ : ∃ marked, markWords inWord (u :: rest) = u :: marked :=
      List.head?_eq_some_iff.1 (head?_markWords inWord (u :: rest))
    rw [same, markedBehind_none] at ih
    rw [same, markedBehind, markCapitals]
    by_cases upper : u.isUpper = true
    · rw [markCapitals_of_isUpper upper, List.cons_inj_right] at ih
      rw [startsWordBetween_of_isUpper upper covered, upper, Bool.and_true,
        markCapitals_of_isUpper upper, ih]
      split_ifs <;> rfl
    · have unmarked : startsWordBetween (some c) u rest.head? = false := by
        simp [startsWordBetween, upper]
      simp [upper, ih, unmarked]

/-- Both passes together mark the letters that start a word. -/
theorem markCapitals_markWords (inWord : Bool) (cs : List Char) :
    markCapitals (markWords inWord cs) = markedBehind none cs := by
  fun_induction markWords inWord cs with
  | case1 inWord c u l rest within ih =>
    obtain ⟨rfl, small⟩ := Bool.and_eq_true_iff.1 within
    exact markCapitals_cons_markWords ih (.inl (by rw [small, Bool.true_or]))
  | case2 inWord c u l rest outside found ih =>
    simp only [Bool.and_eq_true, decide_eq_true_eq] at found
    obtain ⟨⟨line, upper⟩, small⟩ := found
    have later := markCapitals_cons_markWords ih (.inl (by rw [small, Bool.true_or]))
    have next : markCapitals (c :: '_' :: u :: l :: markWords true rest) =
        c :: '_' :: u :: markCapitals (l :: markWords true rest) := by
      rw [markCapitals, if_neg (by simp), markCapitals, if_neg (by simp),
        markCapitals_of_isUpper upper]
    have starts : startsWordBetween (some c) u (some l) = true := by
      simp [startsWordBetween, upper, small, line]
    have plain : startsWordBetween (some u) l rest.head? = false := by
      rw [startsWordBetween, not_isUpper_of_isLower small, Bool.false_and]
    rw [next, later, markedBehind_none, markedBehind_none, markedBehind, List.head?_cons, starts,
      markedBehind, plain]
    rfl
  | case3 inWord c u l rest outside missing ih =>
    exact markCapitals_cons_markWords ih (.inr (capitalizedWord?_of_missing missing))
  | case4 inWord cs short =>
    have single : ∀ c, markCapitals (markWords false [c]) = markedBehind none [c] :=
      fun c => (markedBehind_none c []).symm
    match cs with
    | [] => rfl
    | [c] => exact single c
    | [c, u] => exact markCapitals_cons_markWords (single u) (.inr (by simp [capitalizedWord?]))
    | c :: u :: l :: rest => exact absurd rfl (short c u l rest)

/-- Snake case comes about in two passes over the letters, each of which replaces matches that do not
overlap, and puts an underscore before exactly the letters that start a word. -/
theorem snakeCase_eq_lower_underscored (name : String) :
    snakeCase name = Text.lower (String.ofList
        (replaceAll capitalLetter? (replaceAll capitalizedWord? name.toList))) ∧
      snakeCase name = Text.lower (String.ofList (underscored name.toList)) := by
  constructor
  · rw [snakeCase, markWords_eq_replaceAll, markCapitals_eq_replaceAll, Text.lower,
      String.toList_ofList]
  · rw [snakeCase, markCapitals_markWords, underscored_eq_markedBehind, Text.lower,
      String.toList_ofList]

end RobotCell.Naming
