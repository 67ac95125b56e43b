import Mathlib.Data.List.Chain
import RobotCell.Proofs.Program.WordBoundaries
import RobotCell.Proofs.Text.Split

/-!
# Camel case and back

Camel case drops the underscores between the words of a name and leaves a capital letter at the start
of each word but the first. On the way back, a capital letter behind a small one starts a word, and
so does one before a small letter. What is lost are the words of one letter that follow another one:
they come back without an underscore between them.

## Main definitions

- `Naming.IsSmallWord` — a word of small letters
- `Naming.rejoined` — words as they come back behind a word

## Main results

- `Naming.map_toLower_markedBehind` — what the marks of capitalized words come back as
- `Naming.toList_snakeCase_camelCase` — what a name in snake case comes back as
- `Naming.rejoined_eq_iff` — when no underscore is lost
-/

namespace RobotCell

/-! ### Small letters -/

namespace Text

/-- An ASCII character is lower-cased without regard to the others. -/
theorem lowerAfter_of_ascii {cs : List Char} (ascii : ∀ c ∈ cs, c.toNat < 128)
    (before : List Char) : lowerAfter before cs = cs.map Char.toLower := by
  induction cs generalizing before with
  | nil => rfl
  | cons c cs ih =>
    obtain ⟨first, later⟩ := List.forall_mem_cons.1 ascii
    have sigma : c ≠ 'Σ' := by
      rintro rfl
      exact absurd first (by decide)
    rw [lowerAfter, lowerBetween, if_neg sigma, lowerChar, if_pos first, ih later]
    rfl

theorem toNat_lt_of_isLower {c : Char} (small : c.isLower = true) : c.toNat < 128 := by
  have last : c.val ≤ 'z'.val := of_decide_eq_true (Bool.and_eq_true_iff.1 small).2
  exact Nat.lt_of_le_of_lt (UInt32.le_iff_toNat_le.1 last) (by decide)

theorem toLower_of_isLower {c : Char} (small : c.isLower = true) : c.toLower = c :=
  of_ascii (P := fun c => c.isLower = true → c.toLower = c) (by decide)
    (toNat_lt_of_isLower small) small

/-- A small letter has a capital letter, which becomes the small letter again. -/
theorem toUpper_of_isLower {c : Char} (small : c.isLower = true) :
    c.toUpper.toNat < 128 ∧ c.toUpper.isUpper = true ∧ c.toUpper.toLower = c :=
  of_ascii (P := fun c => c.isLower = true →
      c.toUpper.toNat < 128 ∧ c.toUpper.isUpper = true ∧ c.toUpper.toLower = c)
    (by decide) (toNat_lt_of_isLower small) small

theorem map_toLower_of_isLower {cs : List Char} (small : ∀ c ∈ cs, c.isLower = true) :
    cs.map Char.toLower = cs :=
  (List.map_congr_left fun c hc => toLower_of_isLower (small c hc)).trans (List.map_id' cs)

theorem lowerChars_of_isLower {cs : List Char} (small : ∀ c ∈ cs, c.isLower = true) :
    lowerChars cs = cs := by
  rw [lowerChars, lowerAfter_of_ascii fun c hc => toNat_lt_of_isLower (small c hc),
    map_toLower_of_isLower small]

end Text

namespace Naming

/-! ### The way there -/

/-- The letters form a word of small letters. -/
def IsSmallWord (w : List Char) : Prop :=
  w ≠ [] ∧ ∀ c ∈ w, c.isLower = true

theorem IsSmallWord.exists_cons {w : List Char} (small : IsSmallWord w) :
    ∃ c rest, w = c :: rest ∧ c.isLower = true ∧ ∀ d ∈ rest, d.isLower = true := by
  obtain ⟨filled, letters⟩ := small
  cases w with
  | nil => exact absurd rfl filled
  | cons c rest => exact ⟨c, rest, rfl, List.forall_mem_cons.1 letters⟩

theorem IsSmallWord.underscore_notMem {w : List Char} (small : IsSmallWord w) : '_' ∉ w :=
  fun mem => absurd (small.2 '_' mem) (by decide)

theorem capitalized_of_isLower {c : Char} {rest : List Char} (first : c.isLower = true)
    (small : ∀ d ∈ rest, d.isLower = true) : capitalized (c :: rest) = c.toUpper :: rest := by
  rw [capitalized, Text.upperChar, if_pos (Text.toNat_lt_of_isLower first),
    Text.lowerChars_of_isLower small]
  rfl

theorem toNat_lt_of_mem_words {w : List Char} {words : List (List Char)}
    (small : ∀ v ∈ w :: words, IsSmallWord v) {d : Char}
    (mem : d ∈ w ++ words.flatMap capitalized) : d.toNat < 128 := by
  obtain ⟨here, behind⟩ := List.forall_mem_cons.1 small
  rcases List.mem_append.1 mem with front | back
  · exact Text.toNat_lt_of_isLower (here.2 d front)
  · obtain ⟨v, hv, inside⟩ := List.mem_flatMap.1 back
    obtain ⟨c, rest, rfl, first, later⟩ := (behind v hv).exists_cons
    rw [capitalized_of_isLower first later] at inside
    rcases List.mem_cons.1 inside with rfl | inside
    · exact (Text.toUpper_of_isLower first).1
    · exact Text.toNat_lt_of_isLower (later d inside)

/-- In camel case the underscores are gone and the words behind the first one are capitalized. -/
theorem toList_camelCase {name : String} {w : List Char} {words : List (List Char)}
    (same : name.toList = w ++ words.flatMap ('_' :: ·)) (small : ∀ v ∈ w :: words, IsSmallWord v) :
    (camelCase name).toList = w ++ words.flatMap capitalized := by
  have pieces : Text.splitChars '_' name.toList = w :: words := by
    rw [same]
    exact Text.splitChars_flatMap fun v hv => (small v hv).underscore_notMem
  rw [camelCase, pieces]
  dsimp only
  rw [Text.lowerChars_of_isLower (small w List.mem_cons_self).2, String.toList_ofList]

/-! ### The way back -/

/-- Words as they come back behind another word: each one behind an underscore, unless it has one
letter and so does the word before it. `single` says that the word before all of them is such a
word. -/
def rejoined (single : Bool) : List (List Char) → List Char
  | [] => []
  | w :: words =>
    (if single && w.length == 1 then w else '_' :: w) ++ rejoined (w.length == 1) words

theorem mem_markedBehind {before : Option Char} {cs : List Char} {d : Char}
    (mem : d ∈ markedBehind before cs) : d = '_' ∨ d ∈ cs := by
  induction cs generalizing before with
  | nil => cases mem
  | cons c cs ih =>
    rw [markedBehind, List.mem_append] at mem
    rcases mem with here | later
    · split_ifs at here
      · rcases List.mem_pair.1 here with mark | same
        · exact .inl mark
        · exact .inr (same ▸ List.mem_cons_self)
      · exact .inr (List.mem_singleton.1 here ▸ List.mem_cons_self)
    · exact (ih later).imp_right (List.mem_cons_of_mem c)

/-- No small letter starts a word. -/
theorem markedBehind_append_of_isLower {b : Char} {cs : List Char}
    (small : ∀ c ∈ cs, c.isLower = true) (more : List Char) :
    markedBehind (some b) (cs ++ more) = cs ++ markedBehind (some (cs.getLastD b)) more := by
  induction cs generalizing b with
  | nil => rfl
  | cons c cs ih =>
    obtain ⟨first, later⟩ := List.forall_mem_cons.1 small
    rw [List.cons_append, markedBehind, startsWordBetween, not_isUpper_of_isLower first,
      Bool.false_and, if_neg Bool.false_ne_true, ih later, List.getLastD_cons]
    rfl

/-- A capital letter behind another letter starts a word, unless that one is a capital letter too
and no small letter follows. -/
theorem startsWordBetween_of_letter {b u : Char} {after : Option Char}
    (letter : b.isLower = true ∨ b.isUpper = true) (upper : u.isUpper = true) :
    startsWordBetween (some b) u after = !(b.isUpper && !after.any Char.isLower) := by
  rcases letter with small | large
  · simp [startsWordBetween, upper, small, not_isUpper_of_isLower small]
  · have line : (b != '\n') = true := by
      rw [bne_iff_ne]
      rintro rfl
      exact absurd large (by decide)
    simp [startsWordBetween, upper, large, not_isLower_of_isUpper large, line]

/-- A small letter follows the first one of a capitalized word if the word has other letters. -/
theorem any_head?_capitalized {rest : List Char} {words : List (List Char)}
    (later : ∀ d ∈ rest, d.isLower = true) (small : ∀ w ∈ words, IsSmallWord w) :
    (rest ++ words.flatMap capitalized).head?.any Char.isLower = !rest.isEmpty := by
  cases rest with
  | cons d rest => exact later d List.mem_cons_self
  | nil =>
    cases words with
    | nil => rfl
    | cons w words =>
      obtain ⟨c, rest, rfl, first, inner⟩ := (small w List.mem_cons_self).exists_cons
      rw [List.flatMap_cons, capitalized_of_isLower first inner]
      exact (not_isLower_of_isUpper (Text.toUpper_of_isLower first).2.1).1

/-- A capitalized word ends in a capital letter if it has no other letters. -/
theorem isUpper_getLastD {u : Char} {rest : List Char} (upper : u.isUpper = true)
    (later : ∀ d ∈ rest, d.isLower = true) : (rest.getLastD u).isUpper = rest.isEmpty ∧
      ((rest.getLastD u).isLower = true ∨ (rest.getLastD u).isUpper = true) := by
  cases rest with
  | nil => exact ⟨upper, .inr upper⟩
  | cons d rest =>
    have small : ((d :: rest).getLastD u).isLower = true := by
      rw [List.getLastD_cons]
      exact later _ List.getLastD_mem_cons
    exact ⟨not_isUpper_of_isLower small, .inl small⟩

/-- Capitalized words come back with a mark before each of them but those of one letter that follow
another one. -/
theorem map_toLower_markedBehind {words : List (List Char)} (small : ∀ w ∈ words, IsSmallWord w)
    {b : Char} (letter : b.isLower = true ∨ b.isUpper = true) :
    (markedBehind (some b) (words.flatMap capitalized)).map Char.toLower =
      rejoined b.isUpper words := by
  -- the letter before the words tells whether a word of one letter ends there
  induction words generalizing b with
  | nil => rfl
  | cons w words ih =>
    obtain ⟨here, behind⟩ := List.forall_mem_cons.1 small
    obtain ⟨c, rest, rfl, first, later⟩ := here.exists_cons
    obtain ⟨-, upper, lower⟩ := Text.toUpper_of_isLower first
    obtain ⟨ends, letter'⟩ := isUpper_getLastD upper later
    have next := ih behind letter'
    rw [ends] at next
    have one : ((c :: rest).length == 1) = rest.isEmpty := by
      cases rest <;> rfl
    rw [List.flatMap_cons, capitalized_of_isLower first later, List.cons_append, markedBehind,
      startsWordBetween_of_letter letter upper, any_head?_capitalized later behind, Bool.not_not,
      markedBehind_append_of_isLower later, rejoined, one, ← next]
    cases b.isUpper && rest.isEmpty with
    | false => simp [lower, Text.map_toLower_of_isLower later]
    | true => simp [lower, Text.map_toLower_of_isLower later]

/-- What a name in snake case comes back as. -/
theorem toList_snakeCase_camelCase {name : String} {w : List Char} {words : List (List Char)}
    (same : name.toList = w ++ words.flatMap ('_' :: ·)) (small : ∀ v ∈ w :: words, IsSmallWord v) :
    (snakeCase (camelCase name)).toList = w ++ rejoined false words := by
  have ascii : ∀ d ∈ markedBehind none (w ++ words.flatMap capitalized), d.toNat < 128 := by
    intro d mem
    rcases mem_markedBehind mem with rfl | inside
    · decide
    · exact toNat_lt_of_mem_words small inside
  rw [snakeCase, String.toList_ofList, markCapitals_markWords, toList_camelCase same small,
    Text.lowerChars, Text.lowerAfter_of_ascii ascii]
  obtain ⟨here, behind⟩ := List.forall_mem_cons.1 small
  obtain ⟨c, rest, rfl, first, later⟩ := here.exists_cons
  have last : (rest.getLastD c).isLower = true := here.2 _ List.getLastD_mem_cons
  rw [List.cons_append, markedBehind_none, markedBehind_append_of_isLower later, ← List.cons_append,
    List.map_append, Text.map_toLower_of_isLower here.2, map_toLower_markedBehind behind (.inl last),
    not_isUpper_of_isLower last]

/-- No underscore is lost if no two words of one letter follow one another. -/
theorem rejoined_eq_iff (single : Bool) {words : List (List Char)}
    (small : ∀ w ∈ words, IsSmallWord w) :
    rejoined single words = words.flatMap ('_' :: ·) ↔
      (∀ w ∈ words.head?, ¬(single = true ∧ w.length = 1)) ∧
        words.IsChain fun v w => ¬(v.length = 1 ∧ w.length = 1) := by
  induction words generalizing single with
  | nil => simp [rejoined]
  | cons w words ih =>
    obtain ⟨here, behind⟩ := List.forall_mem_cons.1 small
    rw [List.isChain_cons, rejoined, List.flatMap_cons]
    by_cases lost : single = true ∧ w.length = 1
    · obtain ⟨c, rest, rfl, first, -⟩ := here.exists_cons
      have letter : c ≠ '_' := by
        rintro rfl
        cases first
      simp [lost, letter]
    · have kept : (single && w.length == 1) = false := by simpa using lost
      have next := ih (w.length == 1) behind
      simp only [beq_iff_eq] at next
      rw [kept, if_neg Bool.false_ne_true, List.append_cancel_left_eq, next, List.head?_cons]
      simp only [Option.mem_some_iff, forall_eq', lost, not_false_eq_true, true_and]

/-- A name of small letters survives the way through camel case exactly if no two words of one letter
follow one another behind its first word. -/
theorem snakeCase_camelCase_eq_iff (words : List String)
    (small : ∀ w ∈ words, w ≠ "" ∧ w.toList.all Char.isLower = true) :
    snakeCase (camelCase (Text.joinWith "_" words)) = Text.joinWith "_" words ↔
      words.tail.IsChain fun v w => ¬(v.length = 1 ∧ w.length = 1) := by
  cases words with
  | nil =>
    have empty : snakeCase (camelCase "") = "" := by decide +kernel
    simpa [Text.joinWith] using empty
  | cons w words =>
    have letters : ∀ v ∈ w.toList :: words.map String.toList, IsSmallWord v := by
      rw [← List.map_cons, List.forall_mem_map]
      intro v hv
      exact ⟨by simpa using (small v hv).1, List.all_eq_true.1 (small v hv).2⟩
    have text := Text.toList_joinWith '_' w words
    have back := toList_snakeCase_camelCase text letters
    have chain := rejoined_eq_iff false (List.forall_mem_cons.1 letters).2
    have mark : "_" = String.singleton '_' := rfl
    rw [mark, ← String.toList_inj, back, text, List.append_cancel_left_eq, chain, List.isChain_map]
    simp [String.length_toList]

/-- The way through camel case keeps words of one letter that have another word between them, also
behind a first word of one letter, and joins those that have none. -/
theorem snakeCase_camelCase_short_words :
    snakeCase (camelCase "a_b_to_c") = "a_b_to_c" ∧ snakeCase (camelCase "a_b_c") ≠ "a_b_c" :=
  ⟨(snakeCase_camelCase_eq_iff ["a", "b", "to", "c"] (by decide)).2 (by decide),
    mt (snakeCase_camelCase_eq_iff ["a", "b", "c"] (by decide)).1 (by decide)⟩

end Naming

end RobotCell
