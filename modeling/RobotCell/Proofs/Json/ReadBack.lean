import Mathlib.Tactic.SplitIfs
import RobotCell.Json.Reader
import RobotCell.Json.Writer
import RobotCell.Proofs.Text.Split

/-!
# Documents that are read back

A value that is written over several lines is read back as it was. Strings, arrays and objects are
read back without exception, and numbers if the literal that they are written as stands for them
again. A value is read with a bound on the steps to come, which the length of its text covers, and
with a bound on how deep it is nested.

## Main definitions

- `Json.ReadsBack` — the value is read back wherever it has been written
- `Json.Echoed` — and it is not nested deeper than some bound

## Main results

- `Json.readString_quote` — what is written between quotes is read back
- `Json.readsBack_array`, `Json.readsBack_object` — what is made up of values that are read back is
- `Json.ReadsBack.parse_render` — then the text of a document stands for the value
-/

namespace RobotCell.Json

/-! ### Strings -/

/-- The unit that a character of a string is written as: a control character without an escape of
its own is written with digits. -/
def unitOf (c : Char) : Unit16 :=
  if c.toNat < 0x20 ∧ ['\x08', '\x0c', '\n', '\r', '\t'].contains c = false then .code c.toNat
  else .char c

theorem readUnit_unitDigits {n : Nat} (small : n < 0x20) :
    readUnit (unitDigits n).toList = some (n, []) := by
  have all : ∀ n < 32, readUnit (unitDigits n).toList = some (n, []) := by decide
  exact all n small

/-- An escape with one letter. -/
theorem readUnits_letter {letter c : Char} (escape : letterEscape? letter = some c)
    (rest : List Char) :
    readUnits ('\\' :: letter :: rest) = (readUnits rest).map fun r => (.char c :: r.1, r.2) := by
  have unit : letter ≠ 'u' := by
    rintro rfl
    have none : letterEscape? 'u' = none := by decide
    rw [none] at escape
    cases escape
  rw [readUnits]
  · rw [escape]
    cases readUnits rest <;> rfl
  · intro a b c d rest same
    exact absurd same unit

/-- An escape with digits. -/
theorem readUnits_code {n : Nat} (small : n < 0x20) (rest : List Char) :
    readUnits ('\\' :: 'u' :: ((unitDigits n).toList ++ rest)) =
      (readUnits rest).map fun r => (.code n :: r.1, r.2) := by
  obtain ⟨a, b, c, d, digits⟩ : ∃ a b c d, (unitDigits n).toList = [a, b, c, d] := by
    simp [unitDigits]
  have read := readUnit_unitDigits small
  rw [digits] at read ⊢
  simp only [List.cons_append, List.nil_append]
  rw [readUnits, read]
  cases readUnits rest <;> rfl

/-- A character that stands for itself. -/
theorem readUnits_char {c : Char} (quote : c ≠ '"') (slash : c ≠ '\\') (large : 0x20 ≤ c.toNat)
    (rest : List Char) :
    readUnits (c :: rest) = (readUnits rest).map fun r => (.char c :: r.1, r.2) := by
  rw [readUnits]
  · rw [if_neg (by simp [slash]; omega)]
    cases readUnits rest <;> rfl
  all_goals simp_all

theorem readUnits_quotedChar (c : Char) (rest : List Char) :
    readUnits ((quotedChar c).toList ++ rest) =
      (readUnits rest).map fun r => (unitOf c :: r.1, r.2) := by
  unfold quotedChar
  split_ifs with quote slash back feed line ret tab small
  · subst quote
    exact readUnits_letter (by decide) rest
  · subst slash
    exact readUnits_letter (by decide) rest
  · subst back
    exact readUnits_letter (by decide) rest
  · subst feed
    exact readUnits_letter (by decide) rest
  · subst line
    exact readUnits_letter (by decide) rest
  · subst ret
    exact readUnits_letter (by decide) rest
  · subst tab
    exact readUnits_letter (by decide) rest
  · have unit : unitOf c = .code c.toNat := by
      simp [unitOf, small, back, feed, line, ret, tab]
    rw [unit, String.toList_append]
    exact readUnits_code small rest
  · have unit : unitOf c = .char c := by simp [unitOf, small]
    rw [unit, String.toList_singleton]
    exact readUnits_char quote slash (by omega) rest

theorem joinUnits_code {n : Nat} (small : n < 0x20) (rest : List Unit16) :
    joinUnits (.code n :: rest) = (joinUnits rest).map (Char.ofNat n :: ·) := by
  have high : isHighSurrogate n = false := by
    simp only [isHighSurrogate, Bool.and_eq_false_iff, decide_eq_false_iff_not]
    omega
  have low : isLowSurrogate n = false := by
    simp only [isLowSurrogate, Bool.and_eq_false_iff, decide_eq_false_iff_not]
    omega
  match rest with
  | [] => simp [joinUnits, high, low]
  | .char c :: rest => simp [joinUnits, high, low]
  | .code m :: rest => simp [joinUnits, high, low]

theorem joinUnits_map_unitOf (cs : List Char) : joinUnits (cs.map unitOf) = some cs := by
  induction cs with
  | nil => rfl
  | cons c cs ih =>
    rw [List.map_cons, unitOf]
    split_ifs with control
    · rw [joinUnits_code control.1, ih, Option.map_some, Char.ofNat_toNat]
    · rw [joinUnits, ih, Option.map_some]

/-- A string is read back. -/
theorem readString_quote (s : String) (rest : List Char) :
    readString ((s.toList.flatMap fun c => (quotedChar c).toList) ++ '"' :: rest) =
      some (some s, rest) := by
  have units : ∀ cs : List Char,
      readUnits ((cs.flatMap fun c => (quotedChar c).toList) ++ '"' :: rest) =
        some (cs.map unitOf, rest) := by
    intro cs
    induction cs with
    | nil => rfl
    | cons c cs ih =>
      rw [List.flatMap_cons, List.append_assoc, readUnits_quotedChar, ih]
      rfl
  rw [readString, units, ← String.ofList_toList (s := s)]
  simp [joinUnits_map_unitOf]

theorem toList_quote (s : String) :
    (quote s).toList = '"' :: ((s.toList.flatMap fun c => (quotedChar c).toList) ++ ['"']) := by
  simp [quote, String.toList_join, List.flatMap_map]

/-! ### Layout -/

/-- The character is passed over between values. -/
def isBlank (c : Char) : Bool :=
  c == ' ' || c == '\t' || c == '\n' || c == '\r'

theorem skipBlanks_of_not_isBlank {c : Char} (ink : isBlank c = false) (cs : List Char) :
    skipBlanks (c :: cs) = c :: cs :=
  List.dropWhile_cons_of_neg (by simpa [isBlank] using ink)

theorem skipBlanks_blank (c : Char) (blank : isBlank c = true) (cs : List Char) :
    skipBlanks (c :: cs) = skipBlanks cs :=
  List.dropWhile_cons_of_pos (by simpa [isBlank] using blank)

theorem skipBlanks_newline (level : Nat) (cs : List Char) :
    skipBlanks ('\n' :: ((indentation level).toList ++ cs)) = skipBlanks cs := by
  rw [skipBlanks_blank _ (by decide), indentation, String.toList_ofList]
  generalize 2 * level = n
  induction n with
  | zero => rfl
  | succ n ih => rwa [List.replicate_succ, List.cons_append, skipBlanks_blank _ (by decide)]

/-- Behind a value in a document comes a comma, the end of the line or nothing. -/
def Follows (rest : List Char) : Prop :=
  ∀ c ∈ rest.head?, c = ',' ∨ c = '\n'

/-- The value is read back wherever it has been written. -/
def ReadsBack (j : Json) : Prop :=
  ∀ level rest fuel, Follows rest → 2 * (renderAt level j).toList.length ≤ fuel →
    readValue fuel ((renderAt level j).toList ++ rest) = some (j, rest)

theorem readValue_eq_none {c : Char} (h : c ∈ [' ', '\t', '\n', '\r', ']']) (fuel : Nat)
    (cs : List Char) : readValue fuel (c :: cs) = none := by
  cases fuel with
  | zero => rfl
  | succ fuel =>
    simp only [List.mem_cons, List.not_mem_nil, or_false] at h
    rcases h with rfl | rfl | rfl | rfl | rfl <;> rfl

theorem readValue_nil (fuel : Nat) : readValue fuel [] = none := by
  cases fuel <;> rfl

/-- A value that is read back starts with a character of its own. -/
theorem ReadsBack.starts {j : Json} (h : ReadsBack j) (level : Nat) :
    ∃ c cs, (renderAt level j).toList = c :: cs ∧ isBlank c = false ∧ c ≠ ']' := by
  have read := h level [] _ (by simp [Follows]) (Nat.le_refl _)
  rw [List.append_nil] at read
  cases text : (renderAt level j).toList with
  | nil =>
    rw [text, readValue_nil] at read
    cases read
  | cons c cs =>
    rw [text] at read
    have first : c ∉ [' ', '\t', '\n', '\r', ']'] := by
      intro mem
      rw [readValue_eq_none mem] at read
      cases read
    simp only [List.mem_cons, List.not_mem_nil, or_false, not_or] at first
    exact ⟨c, cs, rfl, by simp [isBlank, first], first.2.2.2.2⟩

theorem ReadsBack.skipBlanks_eq {j : Json} (h : ReadsBack j) (level : Nat) (tail : List Char) :
    skipBlanks ((renderAt level j).toList ++ tail) = (renderAt level j).toList ++ tail := by
  obtain ⟨c, cs, text, ink, -⟩ := h.starts level
  rw [text, List.cons_append, skipBlanks_of_not_isBlank ink]

theorem ReadsBack.head?_ne {j : Json} (h : ReadsBack j) (level : Nat) (tail : List Char) :
    ((renderAt level j).toList ++ tail).head? ≠ some ']' := by
  obtain ⟨c, cs, text, -, filled⟩ := h.starts level
  simpa [text] using filled

/-! ### Steps of the reader -/

section Steps

variable {fuel : Nat} {cs tail more rest : List Char} {value : Json}

theorem readValue_items {items : List Json} (filled : (skipBlanks cs).head? ≠ some ']')
    (read : readItems fuel (skipBlanks cs) = some (items, rest)) :
    readValue (fuel + 1) ('[' :: cs) = some (.array items, rest) := by
  rw [readValue]
  split
  · next same => exact absurd (congrArg List.head? same) filled
  · simp [read]

theorem readItems_last (read : readValue fuel cs = some (value, tail))
    (ends : skipBlanks tail = ']' :: rest) :
    readItems (fuel + 1) cs = some ([value], rest) := by
  rw [readItems, read]
  simp [ends]

theorem readItems_more {items : List Json} (read : readValue fuel cs = some (value, tail))
    (comma : skipBlanks tail = ',' :: more)
    (later : readItems fuel (skipBlanks more) = some (items, rest)) :
    readItems (fuel + 1) cs = some (value :: items, rest) := by
  rw [readItems, read]
  simp [comma, later]

theorem readValue_members {members : List (Option String × Json)}
    (filled : (skipBlanks cs).head? ≠ some '}')
    (read : readMembers fuel (skipBlanks cs) = some (members, rest)) :
    readValue (fuel + 1) ('{' :: cs) = some (ofMembers members, rest) := by
  rw [readValue]
  split
  · next same => exact absurd (congrArg List.head? same) filled
  · simp [read]

theorem readMembers_last {name : Option String} {colon : List Char}
    (named : readString cs = some (name, ':' :: colon))
    (read : readValue fuel (skipBlanks colon) = some (value, tail))
    (ends : skipBlanks tail = '}' :: rest) :
    readMembers (fuel + 1) ('"' :: cs) = some ([(name, value)], rest) := by
  rw [readMembers, named]
  simp [skipBlanks_of_not_isBlank, isBlank, read, ends]

theorem readMembers_more {name : Option String} {colon : List Char}
    {members : List (Option String × Json)}
    (named : readString cs = some (name, ':' :: colon))
    (read : readValue fuel (skipBlanks colon) = some (value, tail))
    (comma : skipBlanks tail = ',' :: more)
    (later : readMembers fuel (skipBlanks more) = some (members, rest)) :
    readMembers (fuel + 1) ('"' :: cs) = some ((name, value) :: members, rest) := by
  rw [readMembers, named]
  simp [skipBlanks_of_not_isBlank, isBlank, read, comma, later]

end Steps

/-! ### Arrays and objects -/

/-- The lines of an array or of an object behind its first one. -/
def furtherLines (level : Nat) (lines : List String) : List Char :=
  lines.flatMap fun line => ',' :: '\n' :: ((indentation level).toList ++ line.toList)

theorem toList_bracketed (left right : String) {l r : Char} (opening : left.toList = [l])
    (closing : right.toList = [r]) (level : Nat) (line : String) (more : List String)
    (rest : List Char) :
    (bracketed left right level (line :: more)).toList ++ rest =
      l :: '\n' :: ((indentation (level + 1)).toList ++ (line.toList ++
        (furtherLines (level + 1) more ++ '\n' :: ((indentation level).toList ++ r :: rest)))) := by
  have joined : ∀ line, (Text.joinWith ",\n"
      ((indentation (level + 1) ++ line) ::
        more.map fun l => indentation (level + 1) ++ l)).toList =
        (indentation (level + 1)).toList ++ (line.toList ++ furtherLines (level + 1) more) := by
    induction more with
    | nil => simp [Text.joinWith, furtherLines]
    | cons next more ih =>
      intro line
      rw [Text.joinWith_cons (by simp), String.toList_append, List.map_cons, ih]
      simp [furtherLines]
  simp [bracketed, joined, opening, closing]

theorem renderItems_eq (level : Nat) (items : List Json) :
    renderItems level items = items.map (renderAt level) := by
  induction items with
  | nil => rfl
  | cons item items ih => rw [renderItems, ih, List.map_cons]

theorem readItems_written {level : Nat} {items : List Json} (back : ∀ j ∈ items, ReadsBack j)
    {item : Json} (first : ReadsBack item) {fuel : Nat} {close rest : List Char}
    (enough : 2 * ((renderAt level item).toList.length +
      (furtherLines level (items.map (renderAt level))).length) < fuel)
    (follows : Follows close) (ends : skipBlanks close = ']' :: rest) :
    readItems fuel ((renderAt level item).toList ++
      (furtherLines level (items.map (renderAt level)) ++ close)) = some (item :: items, rest) := by
  obtain ⟨fuel, rfl⟩ : ∃ n, fuel = n + 1 := ⟨fuel - 1, by omega⟩
  induction items generalizing item fuel with
  | nil => exact readItems_last (first level _ fuel follows (by omega)) ends
  | cons next items ih =>
    rw [List.forall_mem_cons] at back
    have line : furtherLines level ((next :: items).map (renderAt level)) ++ close =
        ',' :: '\n' :: ((indentation level).toList ++ ((renderAt level next).toList ++
          (furtherLines level (items.map (renderAt level)) ++ close))) := by
      simp [furtherLines]
    have count := congrArg List.length line
    simp only [List.length_append, List.length_cons] at count
    obtain ⟨fuel, rfl⟩ : ∃ n, fuel = n + 1 := ⟨fuel - 1, by omega⟩
    rw [line]
    refine readItems_more (first level _ _ (by simp [Follows]) (by omega))
      (skipBlanks_of_not_isBlank (by decide) _) ?_
    rw [skipBlanks_newline, back.1.skipBlanks_eq]
    exact ih back.2 back.1 fuel (by omega)

theorem readsBack_array {items : List Json} (back : ∀ j ∈ items, ReadsBack j) :
    ReadsBack (.array items) := by
  intro level rest fuel follows enough
  rw [renderAt, renderItems_eq] at enough ⊢
  cases items with
  | nil =>
    obtain ⟨fuel, rfl⟩ : ∃ n, fuel = n + 1 := ⟨fuel - 1, by simp [bracketed] at enough; omega⟩
    simp [bracketed, readValue, skipBlanks]
  | cons item items =>
    rw [List.forall_mem_cons] at back
    have text := toList_bracketed "[" "]" rfl rfl level
      (renderAt (level + 1) item) (items.map (renderAt (level + 1))) rest
    have count := congrArg List.length text
    simp only [List.length_append, List.length_cons] at count
    rw [List.map_cons] at enough ⊢
    obtain ⟨fuel, rfl⟩ : ∃ n, fuel = n + 1 := ⟨fuel - 1, by omega⟩
    rw [text]
    refine readValue_items ?_ ?_
    · rw [skipBlanks_newline, back.1.skipBlanks_eq]
      exact back.1.head?_ne _ _
    · rw [skipBlanks_newline, back.1.skipBlanks_eq]
      refine readItems_written back.2 back.1 (by omega) (by simp [Follows]) ?_
      rw [skipBlanks_newline]
      exact skipBlanks_of_not_isBlank (by decide) _

/-- The line of a member. -/
def memberLine (level : Nat) (m : String × Json) : String :=
  quote m.1 ++ ": " ++ renderAt level m.2

theorem renderMembers_eq (level : Nat) (members : List (String × Json)) :
    renderMembers level members = members.map (memberLine level) := by
  induction members with
  | nil => rfl
  | cons m members ih => rw [renderMembers, ih, List.map_cons, memberLine]

theorem toList_memberLine (level : Nat) (m : String × Json) (tail : List Char) :
    (memberLine level m).toList ++ tail =
      '"' :: ((m.1.toList.flatMap fun c => (quotedChar c).toList) ++
        '"' :: ':' :: ' ' :: ((renderAt level m.2).toList ++ tail)) := by
  simp [memberLine, toList_quote]

theorem skipBlanks_memberLine (level : Nat) (m : String × Json) (tail : List Char) :
    skipBlanks ((memberLine level m).toList ++ tail) = (memberLine level m).toList ++ tail := by
  rw [toList_memberLine]
  exact skipBlanks_of_not_isBlank (by decide) _

theorem readMembers_written {level : Nat} {members : List (String × Json)}
    (back : ∀ m ∈ members, ReadsBack m.2) {member : String × Json} (first : ReadsBack member.2)
    {fuel : Nat} {close rest : List Char}
    (enough : 2 * ((memberLine level member).toList.length +
      (furtherLines level (members.map (memberLine level))).length) < fuel)
    (follows : Follows close) (ends : skipBlanks close = '}' :: rest) :
    readMembers fuel ((memberLine level member).toList ++
      (furtherLines level (members.map (memberLine level)) ++ close)) =
        some ((member :: members).map fun m => (some m.1, m.2), rest) := by
  obtain ⟨fuel, rfl⟩ : ∃ n, fuel = n + 1 := ⟨fuel - 1, by omega⟩
  have value : ∀ {n m tail}, 2 * (memberLine level m).toList.length ≤ n → ReadsBack m.2 →
      Follows tail → readValue n (skipBlanks (' ' :: ((renderAt level m.2).toList ++ tail))) =
        some (m.2, tail) := by
    intro n m tail enough back follows
    have count := congrArg List.length (toList_memberLine level m [])
    simp only [List.length_append, List.length_cons, List.length_nil] at count
    rw [skipBlanks_blank _ (by decide), back.skipBlanks_eq]
    exact back level _ _ follows (by omega)
  induction members generalizing member fuel with
  | nil =>
    rw [toList_memberLine]
    exact readMembers_last (readString_quote _ _) (value (by omega) first follows) ends
  | cons next members ih =>
    rw [List.forall_mem_cons] at back
    have line : furtherLines level ((next :: members).map (memberLine level)) ++ close =
        ',' :: '\n' :: ((indentation level).toList ++ ((memberLine level next).toList ++
          (furtherLines level (members.map (memberLine level)) ++ close))) := by
      simp [furtherLines]
    have count := congrArg List.length line
    simp only [List.length_append, List.length_cons] at count
    obtain ⟨fuel, rfl⟩ : ∃ n, fuel = n + 1 := ⟨fuel - 1, by omega⟩
    rw [line, toList_memberLine]
    refine readMembers_more (readString_quote _ _)
      (value (by omega) first (by simp [Follows])) (skipBlanks_of_not_isBlank (by decide) _) ?_
    rw [skipBlanks_newline, skipBlanks_memberLine]
    exact ih back.2 back.1 fuel (by omega)

theorem ofMembers_map (members : List (String × Json)) :
    ofMembers (members.map fun m => (some m.1, m.2)) = .object members := by
  have named : (members.map fun m => (some m.1, m.2)).mapM
      (fun m => m.1.map fun name => (name, m.2)) = some members := by
    induction members with
    | nil => rfl
    | cons m members ih =>
      rw [List.map_cons, List.mapM_cons, ih]
      rfl
  rw [ofMembers]
  simp only [named]

theorem readsBack_object {members : List (String × Json)}
    (back : ∀ m ∈ members, ReadsBack m.2) : ReadsBack (.object members) := by
  intro level rest fuel follows enough
  rw [renderAt, renderMembers_eq] at enough ⊢
  cases members with
  | nil =>
    obtain ⟨fuel, rfl⟩ : ∃ n, fuel = n + 1 := ⟨fuel - 1, by simp [bracketed] at enough; omega⟩
    simp [bracketed, readValue, skipBlanks]
  | cons member members =>
    rw [List.forall_mem_cons] at back
    have text := toList_bracketed "\x7b" "\x7d" rfl rfl level
      (memberLine (level + 1) member) (members.map (memberLine (level + 1))) rest
    have count := congrArg List.length text
    simp only [List.length_append, List.length_cons] at count
    rw [List.map_cons] at enough ⊢
    obtain ⟨fuel, rfl⟩ : ∃ n, fuel = n + 1 := ⟨fuel - 1, by omega⟩
    rw [text, ← ofMembers_map]
    refine readValue_members ?_ ?_
    · rw [skipBlanks_newline, skipBlanks_memberLine, toList_memberLine]
      simp
    · rw [skipBlanks_newline, skipBlanks_memberLine]
      refine readMembers_written back.2 back.1 (by omega) (by simp [Follows]) ?_
      rw [skipBlanks_newline]
      exact skipBlanks_of_not_isBlank (by decide) _

/-! ### Values on one line -/

/-- A value with the same text on all levels needs one step. -/
theorem readsBack_of_text {j : Json} (text : List Char)
    (written : ∀ level, (renderAt level j).toList = text) (filled : text ≠ [])
    (read : ∀ fuel rest, Follows rest → readValue (fuel + 1) (text ++ rest) = some (j, rest)) :
    ReadsBack j := by
  intro level rest fuel follows enough
  rw [written] at enough ⊢
  have positive := List.length_pos_iff.2 filled
  obtain ⟨fuel, rfl⟩ : ∃ n, fuel = n + 1 := ⟨fuel - 1, by omega⟩
  exact read fuel rest follows

theorem readsBack_null : ReadsBack .null := by
  refine readsBack_of_text ['n', 'u', 'l', 'l'] (fun _ => by simp [renderAt]) (by simp)
    fun fuel rest _ => ?_
  simp [readValue, readWord]

theorem readsBack_bool (b : Bool) : ReadsBack (.bool b) := by
  cases b with
  | false =>
    refine readsBack_of_text ['f', 'a', 'l', 's', 'e'] (fun _ => by simp [renderAt]) (by simp)
      fun fuel rest _ => ?_
    simp [readValue, readWord]
  | true =>
    refine readsBack_of_text ['t', 'r', 'u', 'e'] (fun _ => by simp [renderAt]) (by simp)
      fun fuel rest _ => ?_
    simp [readValue, readWord]

theorem readsBack_string (s : String) : ReadsBack (.string s) := by
  refine readsBack_of_text _ (fun _ => toList_quote s) (by simp) fun fuel rest _ => ?_
  simp [readValue, readString_quote]

/-- A value that is read back where it was written is read from the text of its document. -/
theorem ReadsBack.parse_render {j : Json} (h : ReadsBack j) : parse j.render = some j := by
  have skip := h.skipBlanks_eq 0 []
  have read := h 0 [] (2 * (renderAt 0 j).toList.length + 2) (by simp [Follows]) (by omega)
  rw [List.append_nil] at skip read
  have done : skipBlanks [] = [] := rfl
  simp [parse, render, skip, read, done]

/-! ### Bounded documents -/

/-- The value is read back wherever it has been written, and has no more than `depth` levels. -/
structure Echoed (depth : Nat) (j : Json) : Prop where
  readsBack : ReadsBack j
  shallow : bounded depth j = j

section Echoed

variable {depth : Nat}

theorem echoed_null : Echoed depth .null :=
  ⟨readsBack_null, by rw [bounded]⟩

theorem echoed_bool (b : Bool) : Echoed depth (.bool b) :=
  ⟨readsBack_bool b, by rw [bounded]⟩

theorem echoed_string (s : String) : Echoed depth (.string s) :=
  ⟨readsBack_string s, by rw [bounded]⟩

theorem echoed_array {items : List Json} (h : ∀ j ∈ items, Echoed depth j) :
    Echoed (depth + 1) (.array items) := by
  refine ⟨readsBack_array fun j mem => (h j mem).readsBack, ?_⟩
  have same : boundedItems depth items = items := by
    induction items with
    | nil => rw [boundedItems]
    | cons j items ih =>
      rw [List.forall_mem_cons] at h
      rw [boundedItems, h.1.shallow, ih h.2]
  simp [bounded, same]

theorem echoed_object {members : List (String × Json)} (h : ∀ m ∈ members, Echoed depth m.2) :
    Echoed (depth + 1) (.object members) := by
  refine ⟨readsBack_object fun m mem => (h m mem).readsBack, ?_⟩
  have same : boundedMembers depth members = members := by
    induction members with
    | nil => rw [boundedMembers]
    | cons m members ih =>
      rw [List.forall_mem_cons] at h
      rw [boundedMembers, h.1.shallow, ih h.2]
  simp [bounded, same]

/-- A list is written as an array. -/
theorem echoed_list {α : Type} {write : α → Json} {items : List α}
    (h : ∀ a ∈ items, Echoed depth (write a)) : Echoed (depth + 1) (.array (items.map write)) := by
  refine echoed_array fun j mem => ?_
  obtain ⟨a, ha, rfl⟩ := List.mem_map.1 mem
  exact h a ha

end Echoed

end RobotCell.Json
