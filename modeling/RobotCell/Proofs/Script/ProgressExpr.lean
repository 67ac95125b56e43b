import Mathlib.Tactic.SplitIfs
import RobotCell.Proofs.Script.Stream
import RobotCell.Script.ExprGrammar

/-!
# Expressions are read in steps that end

The parsers of the grammar stop by themselves before the end of a script: each of them passes at
least one token, each loop passes one before it goes on, and none passes the token for the end. So
the bounds that the definitions have on loops and on nesting are never met, and no larger bound
changes an outcome. This is told for two copies of the grammar at once, which may have different
bounds: on a stream that both can handle they have one outcome, and it is settled by the tokens
before the end. There is a rule for each combinator, and a statement for each parser in the order of
the grammar.

## Main definitions

- `TokenStream.HasEnd`, `TokenStream.left` — the end of the script, and the tokens before it
- `TokenStream.Reaches`, `TokenStream.Passes` — streams behind others, before the end
- `Settles` — outcomes that the tokens before the end decide
- `Takes`, `Keeps`, `Tries` — parsers that pass one token, any number, or one if they read a part

## Main results

- `Tries.repeatedWithin` — a loop ends, and its limit makes no difference
- `Grammar.agrees_nested` — two bounds on the nesting of expressions make no difference
-/

namespace RobotCell.Script

/-! ### Streams with an end -/

namespace TokenStream

/-- The script ends somewhere in the stream. -/
def HasEnd (s : TokenStream) : Prop :=
  .endOfInput ∈ s.current :: s.rest

/-- The number of tokens before the end of the script. -/
def left (s : TokenStream) : Nat :=
  (s.current :: s.rest).idxOf .endOfInput

/-- The second stream is what is left of the first one behind some tokens before the end. -/
def Reaches (s t : TokenStream) : Prop :=
  ∃ passed : List Token, .endOfInput ∉ passed ∧ s = append passed t

/-- The second stream is what is left of the first one behind one or more tokens before the end. -/
def Passes (s t : TokenStream) : Prop :=
  ∃ passed : List Token, passed ≠ [] ∧ .endOfInput ∉ passed ∧ s = append passed t

variable {s t u : TokenStream}

theorem tokens_append (ts : List Token) (s : TokenStream) :
    (append ts s).current :: (append ts s).rest = ts ++ s.current :: s.rest := by
  induction ts with
  | nil => rfl
  | cons t ts ih => rw [append_cons, cons, ih, List.cons_append]

theorem Reaches.refl (s : TokenStream) : s.Reaches s :=
  ⟨[], List.not_mem_nil, rfl⟩

theorem Reaches.trans (h : s.Reaches t) (later : t.Reaches u) : s.Reaches u := by
  obtain ⟨first, hfirst, rfl⟩ := h
  obtain ⟨second, hsecond, rfl⟩ := later
  refine ⟨first ++ second, ?_, by rw [append_append]⟩
  rw [List.mem_append, not_or]
  exact ⟨hfirst, hsecond⟩

theorem Reaches.hasEnd (h : s.Reaches t) (hs : s.HasEnd) : t.HasEnd := by
  obtain ⟨passed, inside, rfl⟩ := h
  rw [HasEnd, tokens_append, List.mem_append] at hs
  exact hs.resolve_left inside

theorem left_append {passed : List Token} (inside : .endOfInput ∉ passed) (s : TokenStream) :
    (append passed s).left = passed.length + s.left := by
  rw [left, tokens_append, List.idxOf_append, if_neg inside, Nat.add_comm]
  rfl

/-- A stream that is reached has fewer tokens before the end exactly if one was passed. -/
theorem Reaches.passes (h : s.Reaches t) (less : t.left < s.left) : s.Passes t := by
  obtain ⟨passed, inside, rfl⟩ := h
  refine ⟨passed, ?_, inside, rfl⟩
  rintro rfl
  exact absurd less (Nat.lt_irrefl _)

theorem Reaches.length_rest_le (h : s.Reaches t) : t.rest.length ≤ s.rest.length := by
  obtain ⟨passed, -, rfl⟩ := h
  rw [length_rest_append]
  omega

theorem left_le_length (hs : s.HasEnd) : s.left ≤ s.rest.length :=
  Nat.le_of_lt_succ (List.idxOf_lt_length_of_mem hs)

/-- In front of its end a stream is its current token and the stream behind it. -/
theorem eq_cons_advance (hs : s.HasEnd) (inside : s.current ≠ .endOfInput) :
    s = cons s.current s.advance := by
  obtain ⟨t, rest⟩ := s
  cases rest with
  | nil => exact absurd (List.mem_singleton.1 hs).symm inside
  | cons u rest => rfl

theorem reaches_advance (hs : s.HasEnd) (inside : s.current ≠ .endOfInput) :
    s.Reaches s.advance :=
  ⟨[s.current], by simpa using inside.symm, eq_cons_advance hs inside⟩

theorem left_advance (hs : s.HasEnd) (inside : s.current ≠ .endOfInput) :
    s.advance.left + 1 = s.left := by
  have outside : Token.endOfInput ∉ [s.current] := by simpa using inside.symm
  have passed := left_append outside s.advance
  rw [append_cons, append_nil, ← eq_cons_advance hs inside, List.length_singleton] at passed
  omega

/-- The end is reached in one place only. -/
theorem Reaches.eq_of_current {extra : List Token} (h : s.Reaches t)
    (last : s.Reaches ⟨.endOfInput, extra⟩) (current : t.current = .endOfInput) :
    t = ⟨.endOfInput, extra⟩ := by
  obtain ⟨passed, inside, rfl⟩ := h
  obtain ⟨front, inside', same⟩ := last
  obtain ⟨u, rest⟩ := t
  obtain rfl : u = .endOfInput := current
  -- both ends stand behind the same number of tokens
  have lengths := congrArg left same
  rw [left_append inside, left_append inside'] at lengths
  have tokens := tokens_append passed ⟨.endOfInput, rest⟩
  rw [same, tokens_append] at tokens
  obtain ⟨-, ends⟩ := List.append_inj tokens (by simpa [left] using lengths.symm)
  exact congrArg (TokenStream.mk .endOfInput) (List.cons.inj ends).2.symm

theorem ne_end_of_sees {symbol : Symbol} (h : s.sees symbol = true) : s.current ≠ .endOfInput := by
  rw [eq_of_beq h]
  simp

theorem ne_end_of_seesKeyword {k : Keyword} (h : s.seesKeyword k = true) :
    s.current ≠ .endOfInput := by
  rw [eq_of_beq h]
  simp

end TokenStream

open TokenStream

/-! ### Outcomes -/

variable {α β : Type} {c : α → Nat} {b : β → Nat} {s : TokenStream}

/-- The two outcomes from a stream are one, which the tokens before the end decide. What was read
leaves a stream with fewer than `bound` tokens before the end; a failure is found before the end or
at it, and it is not that tokens would be read without end. -/
structure Settles (bound : α → Nat) (s : TokenStream) (x y : Except Failure (α × TokenStream)) :
    Prop where
  same : x = y
  reads : ∀ a t, x = .ok (a, t) → s.Reaches t ∧ t.left < bound a
  fails : ∀ f, x = .error f → f.fault ≠ .endless ∧ ∃ t, s.Reaches t ∧ f.behind = t.rest.length

theorem settles_ok {a : α} (less : s.left < c a) : Settles c s (.ok (a, s)) (.ok (a, s)) where
  same := rfl
  reads := by
    rintro _ _ ⟨⟩
    exact ⟨.refl s, less⟩
  fails := by
    rintro _ ⟨⟩

theorem settles_fail {fault : Fault} (h : fault ≠ .endless) :
    Settles c s (.error (s.fail fault)) (.error (s.fail fault)) where
  same := rfl
  reads := by
    rintro _ _ ⟨⟩
  fails := by
    rintro _ ⟨⟩
    exact ⟨h, s, .refl s, rfl⟩

theorem settles_unexpected (context : Context) :
    Settles c s (.error (s.unexpected context)) (.error (s.unexpected context)) :=
  settles_fail (by simp)

/-- What is settled from a later stream is settled from an earlier one. -/
theorem Settles.of_reaches {t : TokenStream} {x y : Except Failure (α × TokenStream)}
    (h : Settles c t x y) (reached : s.Reaches t) : Settles c s x y where
  same := h.same
  reads a u read := ⟨reached.trans (h.reads a u read).1, (h.reads a u read).2⟩
  fails f failed := by
    obtain ⟨fault, u, later, behind⟩ := h.fails f failed
    exact ⟨fault, u, reached.trans later, behind⟩

/-- The current token is not the end, and the rest is settled behind it. -/
theorem Settles.advance {x y : Except Failure (α × TokenStream)} (hs : s.HasEnd)
    (inside : s.current ≠ .endOfInput)
    (h : s.advance.HasEnd → s.advance.left + 1 = s.left → Settles c s.advance x y) :
    Settles c s x y :=
  have reached := reaches_advance hs inside
  (h (reached.hasEnd hs) (left_advance hs inside)).of_reaches reached

theorem Settles.mono {c' : α → Nat} {x y : Except Failure (α × TokenStream)} (h : Settles c s x y)
    (le : ∀ a, c a ≤ c' a) : Settles c' s x y where
  same := h.same
  reads a t read := ⟨(h.reads a t read).1, Nat.lt_of_lt_of_le (h.reads a t read).2 (le a)⟩
  fails := h.fails

/-- A step after another one is settled from where the first one ended. -/
theorem Settles.bind {x y : Except Failure (α × TokenStream)}
    {f g : α × TokenStream → Except Failure (β × TokenStream)} (h : Settles c s x y) (hs : s.HasEnd)
    (later : ∀ a t, t.HasEnd → t.left < c a → Settles b t (f (a, t)) (g (a, t))) :
    Settles b s (x >>= f) (y >>= g) := by
  cases x with
  | error e =>
    rw [← h.same]
    refine ⟨rfl, by rintro _ _ ⟨⟩, ?_⟩
    rintro _ ⟨⟩
    exact h.fails e rfl
  | ok r =>
    obtain ⟨a, t⟩ := r
    obtain ⟨reached, less⟩ := h.reads a t rfl
    rw [← h.same]
    exact (later a t (reached.hasEnd hs) less).of_reaches reached

/-- What follows a choice follows both of its sides. -/
theorem Settles.ite_bind {choice : Prop} [Decidable choice]
    {x y x' y' : Except Failure (α × TokenStream)}
    {f g : α × TokenStream → Except Failure (β × TokenStream)}
    (h : Settles c s (if choice then x else y) (if choice then x' else y')) (hs : s.HasEnd)
    (later : ∀ a t, t.HasEnd → t.left < c a → Settles b t (f (a, t)) (g (a, t))) :
    Settles b s (if choice then x >>= f else y >>= f) (if choice then x' >>= g else y' >>= g) := by
  by_cases hc : choice
  · rw [if_pos hc, if_pos hc] at h ⊢
    exact h.bind hs later
  · rw [if_neg hc, if_neg hc] at h ⊢
    exact h.bind hs later

theorem settles_expect_bind {t : Token} {f g : TokenStream → Except Failure (β × TokenStream)}
    (hs : s.HasEnd) (other : t ≠ .endOfInput)
    (later : ∀ u, u.HasEnd → u.left < s.left → Settles b u (f u) (g u)) :
    Settles b s (expect t s >>= f) (expect t s >>= g) := by
  unfold expect
  split_ifs with sees
  · exact .advance hs (sees ▸ other) fun hs' less => later _ hs' (by omega)
  · exact ⟨rfl, by rintro _ _ ⟨⟩, (settles_fail (c := b) (by simp)).fails⟩

theorem settles_expectSymbol_bind {symbol : Symbol}
    {f g : TokenStream → Except Failure (β × TokenStream)} (hs : s.HasEnd)
    (later : ∀ u, u.HasEnd → u.left < s.left → Settles b u (f u) (g u)) :
    Settles b s (expectSymbol symbol s >>= f) (expectSymbol symbol s >>= g) :=
  settles_expect_bind hs (by simp) later

theorem settles_expectKeyword_bind {k : Keyword}
    {f g : TokenStream → Except Failure (β × TokenStream)} (hs : s.HasEnd)
    (later : ∀ u, u.HasEnd → u.left < s.left → Settles b u (f u) (g u)) :
    Settles b s (expectKeyword k s >>= f) (expectKeyword k s >>= g) := by
  unfold expectKeyword
  split_ifs with sees
  · exact .advance hs (ne_end_of_seesKeyword sees) fun hs' less => later _ hs' (by omega)
  · exact ⟨rfl, by rintro _ _ ⟨⟩, (settles_fail (c := b) (by simp)).fails⟩

/-! ### Parsers -/

/-- On streams with fewer than `n` tokens before the end, both parsers have one outcome, and what
they read is at least one token. -/
def Takes (n : Nat) (p q : Parser α) : Prop :=
  ∀ s, s.HasEnd → s.left < n → Settles (fun _ => s.left) s (p s) (q s)

/-- On streams with fewer than `n` tokens before the end, both parsers have one outcome. -/
def Keeps (n : Nat) (p q : Parser α) : Prop :=
  ∀ s, s.HasEnd → s.left < n → Settles (fun _ => s.left + 1) s (p s) (q s)

/-- The bound on what an attempt leaves: a part that was read is at least one token. -/
def attemptBound (s : TokenStream) : Option α → Nat
  | some _ => s.left
  | none => s.left + 1

/-- On streams with fewer than `n` tokens before the end, both attempts have one outcome, and a part
that they read is at least one token. -/
def Tries (n : Nat) (p q : Parser (Option α)) : Prop :=
  ∀ s, s.HasEnd → s.left < n → Settles (attemptBound s) s (p s) (q s)

theorem settles_some {t : TokenStream} {a : α} (less : t.left < s.left) :
    Settles (attemptBound s) t (.ok (some a, t)) (.ok (some a, t)) :=
  settles_ok less

theorem settles_none {t : TokenStream} (le : t.left ≤ s.left) :
    Settles (attemptBound s) t (.ok ((none : Option α), t)) (.ok (none, t)) :=
  settles_ok (Nat.lt_succ_of_le le)

variable {n m : Nat} {p q : Parser α} {part part' : Parser (Option α)}

theorem Takes.mono (h : Takes n p q) (le : m ≤ n) : Takes m p q :=
  fun s hs less => h s hs (by omega)

theorem Takes.keeps (h : Takes n p q) : Keeps n p q :=
  fun s hs less => (h s hs less).mono fun _ => Nat.le_succ _

theorem Tries.mono (h : Tries n part part') (le : m ≤ n) : Tries m part part' :=
  fun s hs less => h s hs (by omega)

theorem Tries.keeps (h : Tries n part part') : Keeps n part part' := by
  intro s hs less
  refine (h s hs less).mono fun part => ?_
  cases part with
  | none => exact Nat.le_refl _
  | some a => exact Nat.le_succ _

/-- Behind a token that is passed, what was read may be empty. -/
theorem Keeps.behind (h : Keeps n p q) (hs : s.HasEnd) (less : s.left < n + 1)
    (inside : s.current ≠ .endOfInput) :
    Settles (fun _ => s.left) s (p s.advance) (q s.advance) := by
  refine .advance hs inside fun hs' less' => ?_
  exact (h _ hs' (by omega)).mono fun _ => by omega

theorem takes_expectName (n : Nat) : Takes n expectName expectName := by
  intro s hs less
  unfold expectName
  split
  · next id current =>
    exact .advance hs (by simp [current]) fun hs' less' => settles_ok (by omega)
  · exact settles_unexpected _

/-! ### Repetition -/

/-- A loop ends whose parts are at least one token each. Limits above the number of tokens before the
end make no difference. -/
theorem Tries.repeatedWithin (h : Tries n part part') {limit limit' : Nat} (hs : s.HasEnd)
    (less : s.left < n) (enough : s.left < limit) (enough' : s.left < limit') :
    Settles (fun _ => s.left + 1) s (repeatedWithin part limit s)
      (repeatedWithin part' limit' s) := by
  -- the limit counts rounds; a round that is not the last leaves fewer tokens before the end
  induction limit generalizing s limit' with
  | zero => exact absurd enough (Nat.not_lt_zero _)
  | succ limit ih =>
    obtain ⟨limit', rfl⟩ : ∃ k, limit' = k + 1 := ⟨limit' - 1, by omega⟩
    refine (h s hs less).bind hs fun found t ht shorter => ?_
    cases found with
    | none => exact settles_ok shorter
    | some a =>
      have shorter : t.left < s.left := shorter
      refine (ih ht (by omega) (by omega) (by omega)).bind ht fun as u hu _ => settles_ok ?_
      omega

theorem Tries.repeated (h : Tries n part part') : Keeps n (repeated part) (repeated part') :=
  fun _ hs less =>
    have enough := Nat.lt_succ_of_le (left_le_length hs)
    h.repeatedWithin hs less enough enough

/-- A loop that starts with a part is at least one token. -/
theorem Tries.repeated_of_starts (h : Tries n part part') (hs : s.HasEnd) (less : s.left < n)
    (starts : ∀ t, part s ≠ .ok (none, t)) :
    Settles (fun _ => s.left) s (Script.repeated part s) (Script.repeated part' s) := by
  -- the loop as such may read nothing, but its first round may not
  have kept := h.repeated s hs less
  refine ⟨kept.same, fun as u read => ⟨(kept.reads as u read).1, ?_⟩, kept.fails⟩
  obtain ⟨⟨found, t⟩, first, later⟩ := bind_eq_ok_iff.1 read
  obtain ⟨reached, shorter⟩ := (h s hs less).reads found t first
  cases found with
  | none => exact absurd first (starts t)
  | some a =>
    have shorter : t.left < s.left := shorter
    have enough : t.left < s.rest.length := Nat.lt_of_lt_of_le shorter (left_le_length hs)
    obtain ⟨⟨more, v⟩, rest, same⟩ := bind_eq_ok_iff.1 later
    obtain ⟨-, kept⟩ := (h.repeatedWithin (reached.hasEnd hs) (by omega) enough enough).reads _ _ rest
    cases same
    omega

/-- A loop that ends has ended with a round that read no part. -/
theorem exists_of_repeatedWithin {limit : Nat} {as : List α} {t : TokenStream}
    (h : repeatedWithin part limit s = .ok (as, t)) : ∃ u, part u = .ok (none, t) := by
  induction limit generalizing s as with
  | zero => cases h
  | succ limit ih =>
    obtain ⟨⟨found, u⟩, read, later⟩ := bind_eq_ok_iff.1 h
    cases found with
    | none =>
      cases later
      exact ⟨s, read⟩
    | some a =>
      obtain ⟨⟨more, v⟩, rest, same⟩ := bind_eq_ok_iff.1 later
      cases same
      exact ih rest

/-- A further item, with the comma before it. -/
def itemAfterComma (stop : Token → Bool) (item : Parser α) : Parser (Option α) := fun s =>
  if s.sees .comma then
    let s := s.advance
    if stop s.current then .ok (none, s)
    else do
      let (a, s) ← item s
      return (some a, s)
  else .ok (none, s)

theorem moreItems_eq_repeated (stop : Token → Bool) (item : Parser α) :
    moreItems stop item = repeated (itemAfterComma stop item) := rfl

/-- Items that are at least one token each, behind commas; so are items that may be empty. -/
theorem Keeps.itemAfterComma (h : Keeps n p q) (stop : Token → Bool) :
    Tries (n + 1) (itemAfterComma stop p) (itemAfterComma stop q) := by
  intro s hs less
  unfold Script.itemAfterComma
  dsimp only
  split_ifs with comma stops
  · exact .advance hs (ne_end_of_sees comma) fun hs' less' => settles_none (by omega)
  · refine .advance hs (ne_end_of_sees comma) fun hs' less' => ?_
    exact (h _ hs' (by omega)).bind hs' fun a t ht shorter => settles_some (by omega)
  · exact settles_none (Nat.le_refl _)

theorem Takes.moreItems (h : Takes n p q) (stop : Token → Bool) :
    Keeps (n + 1) (moreItems stop p) (moreItems stop q) := by
  rw [moreItems_eq_repeated, moreItems_eq_repeated]
  exact (h.keeps.itemAfterComma stop).repeated

theorem Takes.oneOrMore (h : Takes n p q) (stop : Token → Bool) :
    Takes n (oneOrMore stop p) (oneOrMore stop q) := by
  intro s hs less
  refine (h s hs less).bind hs fun first t ht shorter => ?_
  refine (h.moreItems stop t ht (by omega)).bind ht fun more u hu _ => settles_ok ?_
  omega

/-- An attempt that reads a part where something stands in front of it, and none elsewhere. -/
theorem Keeps.optional (h : Keeps n p q) {ahead : TokenStream → Bool}
    (inside : ∀ s, ahead s = true → s.current ≠ .endOfInput) :
    Tries (n + 1)
      (fun s => if ahead s then do
        let (a, s) ← p s.advance
        return (some a, s)
      else .ok (none, s))
      (fun s => if ahead s then do
        let (a, s) ← q s.advance
        return (some a, s)
      else .ok (none, s)) := by
  intro s hs less
  dsimp only
  split_ifs with starts
  · refine .advance hs (inside s starts) fun hs' less' => ?_
    exact (h _ hs' (by omega)).bind hs' fun a t ht shorter => settles_some (by omega)
  · exact settles_none (Nat.le_refl _)

theorem Takes.itemsUpTo (h : Takes n p q) (closing : Symbol) :
    Keeps n (itemsUpTo closing p) (itemsUpTo closing q) := by
  intro s hs less
  unfold Script.itemsUpTo
  split_ifs
  · exact settles_ok (Nat.lt_succ_self _)
  · exact (h.oneOrMore _).keeps s hs less

/-- The parsers for inner expressions of two records do the same on streams with fewer than `n`
tokens before the end, and pass at least one of them. -/
structure Nested.Agrees (n : Nat) (r r' : Nested) : Prop where
  test : Takes n r.test r'.test
  disjunction : Takes n r.disjunction r'.disjunction
  negation : Takes n r.negation r'.negation
  bitOr : Takes n r.bitOr r'.bitOr
  factor : Takes n r.factor r'.factor

theorem Nested.Agrees.mono {r r' : Nested} (h : r.Agrees n r') (le : m ≤ n) : r.Agrees m r' :=
  ⟨h.test.mono le, h.disjunction.mono le, h.negation.mono le, h.bitOr.mono le, h.factor.mono le⟩

namespace Grammar

variable {r r' : Nested} {e e' o o' : Parser Expr}

/-! ### Literals -/

theorem tries_stringPart (n : Nat) : Tries n stringPart stringPart := by
  intro s hs less
  unfold stringPart
  split
  · next text current =>
    exact .advance hs (by simp [current]) fun hs' less' => settles_some (by omega)
  · next text current =>
    exact .advance hs (by simp [current]) fun hs' less' => settles_some (by omega)
  · exact settles_none (Nat.le_refl _)

/-- Where a literal starts there is one. -/
theorem settles_strings (hs : s.HasEnd) (starts : ∀ t, stringPart s ≠ .ok (none, t)) :
    Settles (fun _ => s.left) s (strings s) (strings s) := by
  have literals := (tries_stringPart (s.left + 1)).repeated_of_starts hs (by omega) starts
  exact literals.bind hs fun parts t ht shorter => settles_ok shorter

/-! ### Parts of expressions -/

theorem takes_namedTest (h : Takes n e e') : Takes n (namedTest e) (namedTest e') := by
  intro s hs less
  unfold namedTest
  split
  · next target current =>
    split_ifs with colonEq
    · refine .advance hs (by simp [current]) fun hs' less' => ?_
      refine .advance hs' (by simp [show s.advance.current = _ from colonEq]) fun ht less'' => ?_
      exact (h _ ht (by omega)).bind ht fun value u hu shorter => settles_ok (by omega)
    · exact h s hs less
  · exact h s hs less

theorem takes_starItem (ho : Takes n o o') (he : Takes n e e') :
    Takes n (starItem o e) (starItem o' e') := by
  intro s hs less
  unfold starItem
  split_ifs with star
  · refine .advance hs (ne_end_of_sees star) fun hs' less' => ?_
    exact (ho _ hs' (by omega)).bind hs' fun value t ht shorter => settles_ok (by omega)
  · exact takes_namedTest he s hs less

theorem takes_starOperand (h : Takes n o o') : Takes n (starOperand o) (starOperand o') := by
  intro s hs less
  unfold starOperand
  split_ifs with star
  · refine .advance hs (ne_end_of_sees star) fun hs' less' => ?_
    exact (h _ hs' (by omega)).bind hs' fun value t ht shorter => settles_ok (by omega)
  · exact h s hs less

/-- A further target, with the comma before it. -/
def targetAfterComma (bitOr : Parser Expr) : Parser (Option Expr) := fun s =>
  if s.sees .comma && !endsTargets s.ahead then do
    let (e, s) ← starOperand bitOr s.advance
    return (some e, s)
  else .ok (none, s)

theorem tries_targetAfterComma (h : Takes n o o') :
    Tries (n + 1) (targetAfterComma o) (targetAfterComma o') := by
  refine (takes_starOperand h).keeps.optional fun s starts => ?_
  rw [Bool.and_eq_true] at starts
  exact ne_end_of_sees starts.1

theorem takes_targetList (h : Takes n o o') : Takes n (targetList o) (targetList o') := by
  intro s hs less
  refine (takes_starOperand h s hs less).bind hs fun first t ht shorter => ?_
  refine ((tries_targetAfterComma h).repeated t ht (by omega)).bind ht fun more u hu _ => ?_
  exact settles_ok (by omega)

theorem takes_target (h : Takes n o o') : Takes n (target o) (target o') := by
  intro s hs less
  refine (takes_targetList h s hs less).bind hs fun targets t ht shorter => ?_
  dsimp only
  split_ifs with comma
  · exact .advance ht (ne_end_of_sees comma) fun ht' less' => settles_ok (by omega)
  · split
    · exact settles_ok shorter
    · exact settles_ok shorter

theorem tries_clauseCondition (h : r.Agrees n r') :
    Tries (n + 1) (clauseCondition r) (clauseCondition r') :=
  h.disjunction.keeps.optional fun _ starts => ne_end_of_seesKeyword starts

theorem tries_clause (h : r.Agrees n r') : Tries (n + 1) (clause r) (clause r') := by
  intro s hs less
  unfold clause
  split_ifs with starts
  · refine .advance hs (ne_end_of_seesKeyword starts) fun hs' less' => ?_
    refine (takes_target h.bitOr _ hs' (by omega)).bind hs' fun target t ht less₁ => ?_
    refine settles_expectKeyword_bind ht fun u hu less₂ => ?_
    refine (h.disjunction u hu (by omega)).bind hu fun iter v hv less₃ => ?_
    refine ((tries_clauseCondition h).repeated v hv (by omega)).bind hv fun _ w hw less₄ => ?_
    exact settles_some (by omega)
  · exact settles_none (Nat.le_refl _)

theorem keeps_clauses (h : r.Agrees n r') : Keeps (n + 1) (clauses r) (clauses r') :=
  (tries_clause h).repeated

/-! ### Parameters -/

theorem tries_hint (h : Takes n e e') (annotated : Bool) :
    Tries (n + 1) (hint annotated e) (hint annotated e') := by
  refine h.keeps.optional fun s starts => ?_
  rw [Bool.and_eq_true] at starts
  exact ne_end_of_sees starts.2

theorem tries_preset (h : Takes n e e') : Tries (n + 1) (preset e) (preset e') :=
  h.keeps.optional fun _ starts => ne_end_of_sees starts

theorem takes_paramEntry (h : Takes n e e') (annotated : Bool) :
    Takes (n + 1) (paramEntry annotated e) (paramEntry annotated e') := by
  have hint := (tries_hint h annotated).keeps
  intro s hs less
  unfold paramEntry
  dsimp only
  split_ifs with double star comma slash
  · refine .advance hs (ne_end_of_sees double) fun hs' less' => ?_
    refine (takes_expectName (n + 1) _ hs' (by omega)).bind hs' fun name t ht less₁ => ?_
    exact (hint t ht (by omega)).bind ht fun hint u hu less₂ => settles_ok (by omega)
  · exact .advance hs (ne_end_of_sees star) fun hs' less' => settles_ok (by omega)
  · refine .advance hs (ne_end_of_sees star) fun hs' less' => ?_
    refine (takes_expectName (n + 1) _ hs' (by omega)).bind hs' fun name t ht less₁ => ?_
    exact (hint t ht (by omega)).bind ht fun hint u hu less₂ => settles_ok (by omega)
  · exact settles_fail (by simp)
  · refine (takes_expectName (n + 1) s hs less).bind hs fun name t ht less₁ => ?_
    refine (hint t ht (by omega)).bind ht fun hint u hu less₂ => ?_
    refine ((tries_preset h).keeps u hu (by omega)).bind hu fun preset v hv less₃ => ?_
    exact settles_ok (by omega)

theorem keeps_params (h : Takes n e e') (closing : Symbol) (annotated : Bool) :
    Keeps (n + 1) (params closing annotated e) (params closing annotated e') := by
  intro s hs less
  have entries := (takes_paramEntry h annotated).itemsUpTo closing
  exact (entries s hs less).bind hs fun entries t ht less' => settles_ok less'

/-! ### Displays -/

theorem takes_parenthesized (h : r.Agrees n r') :
    Takes n (parenthesized r) (parenthesized r') := by
  have item := takes_starItem h.bitOr h.test
  intro s hs less
  unfold parenthesized
  split_ifs with closing yields
  · exact .advance hs (ne_end_of_sees closing) fun hs' less' => settles_ok (by omega)
  · exact settles_fail (by simp)
  · refine (item s hs less).bind hs fun first t ht less₁ => ?_
    dsimp only
    split_ifs with starts closing
    · refine (keeps_clauses h t ht (by omega)).bind ht fun clauses u hu less₂ => ?_
      exact settles_expectSymbol_bind hu fun v hv less₃ => settles_ok (by omega)
    · exact .advance ht (ne_end_of_sees closing) fun ht' less' => settles_ok (by omega)
    · refine (item.moreItems _ t ht (by omega)).bind ht fun more u hu less₂ => ?_
      exact settles_expectSymbol_bind hu fun v hv less₃ => settles_ok (by omega)

theorem takes_listDisplay (h : r.Agrees n r') : Takes n (listDisplay r) (listDisplay r') := by
  have item := takes_starItem h.bitOr h.test
  intro s hs less
  unfold listDisplay
  split_ifs with closing
  · exact .advance hs (ne_end_of_sees closing) fun hs' less' => settles_ok (by omega)
  · refine (item s hs less).bind hs fun first t ht less₁ => ?_
    dsimp only
    split_ifs with starts
    · refine (keeps_clauses h t ht (by omega)).bind ht fun clauses u hu less₂ => ?_
      exact settles_expectSymbol_bind hu fun v hv less₃ => settles_ok (by omega)
    · refine (item.moreItems _ t ht (by omega)).bind ht fun more u hu less₂ => ?_
      exact settles_expectSymbol_bind hu fun v hv less₃ => settles_ok (by omega)

theorem takes_entry (h : r.Agrees n r') : Takes n (entry r) (entry r') := by
  intro s hs less
  refine (h.test s hs less).bind hs fun key t ht less₁ => ?_
  refine settles_expectSymbol_bind ht fun u hu less₂ => ?_
  exact (h.test u hu (by omega)).bind hu fun value v hv less₃ => settles_ok (by omega)

theorem takes_dictDisplay (h : r.Agrees n r') (key : Expr) :
    Takes n (dictDisplay r key) (dictDisplay r' key) := by
  intro s hs less
  refine (h.test s hs less).bind hs fun value t ht less₁ => ?_
  dsimp only
  split_ifs with starts
  · refine (keeps_clauses h t ht (by omega)).bind ht fun clauses u hu less₂ => ?_
    exact settles_expectSymbol_bind hu fun v hv less₃ => settles_ok (by omega)
  · refine ((takes_entry h).moreItems _ t ht (by omega)).bind ht fun more u hu less₂ => ?_
    exact settles_expectSymbol_bind hu fun v hv less₃ => settles_ok (by omega)

theorem takes_braceDisplay (h : r.Agrees n r') : Takes n (braceDisplay r) (braceDisplay r') := by
  have item := takes_starItem h.bitOr h.test
  intro s hs less
  unfold braceDisplay
  split_ifs with closing double
  · exact .advance hs (ne_end_of_sees closing) fun hs' less' => settles_ok (by omega)
  · exact settles_fail (by simp)
  · refine (item s hs less).bind hs fun first t ht less₁ => ?_
    dsimp only
    split_ifs with colon starts
    · refine .advance ht (ne_end_of_sees colon) fun ht' less' => ?_
      exact (takes_dictDisplay h first _ ht' (by omega)).mono fun _ => by omega
    · refine (keeps_clauses h t ht (by omega)).bind ht fun clauses u hu less₂ => ?_
      exact settles_expectSymbol_bind hu fun v hv less₃ => settles_ok (by omega)
    · refine (item.moreItems _ t ht (by omega)).bind ht fun more u hu less₂ => ?_
      exact settles_expectSymbol_bind hu fun v hv less₃ => settles_ok (by omega)

theorem takes_atom (h : r.Agrees n r') : Takes (n + 1) (atom r) (atom r') := by
  intro s hs less
  have single {e : Expr} (inside : s.current ≠ .endOfInput) :
      Settles (fun _ => s.left) s (.ok (e, s.advance)) (.ok (e, s.advance)) :=
    .advance hs inside fun hs' less' => settles_ok (by omega)
  unfold atom
  split
  · next id current => exact single (by simp [current])
  · next text current => exact single (by simp [current])
  · next text current => exact settles_strings hs (by simp [stringPart, current])
  · next text current => exact settles_strings hs (by simp [stringPart, current])
  · next current => exact single (by simp [current])
  · next current => exact single (by simp [current])
  · next current => exact single (by simp [current])
  · next current => exact single (by simp [current])
  -- the opening bracket is passed first, so what is inside has fewer tokens before the end
  · next current => exact (takes_parenthesized h).keeps.behind hs less (by simp [current])
  · next current => exact (takes_listDisplay h).keeps.behind hs less (by simp [current])
  · next current => exact (takes_braceDisplay h).keeps.behind hs less (by simp [current])
  · exact settles_unexpected _

/-! ### Attributes, calls and subscripts -/

theorem takes_callArg (h : r.Agrees n r') : Takes n (callArg r) (callArg r') := by
  intro s hs less
  -- two branches end here: a name that is no keyword, and anything else
  have positional : Settles (fun _ => s.left) s
      (namedTest r.test s >>= fun x =>
        if x.2.seesKeyword .forKw then clauses r x.2 >>= fun y =>
          .ok (.inl (.comprehension .generator x.1 y.1), y.2)
        else .ok ((.inl x.1 : CallArg), x.2))
      (namedTest r'.test s >>= fun x =>
        if x.2.seesKeyword .forKw then clauses r' x.2 >>= fun y =>
          .ok (.inl (.comprehension .generator x.1 y.1), y.2)
        else .ok (.inl x.1, x.2)) := by
    refine (takes_namedTest h.test s hs less).bind hs fun value t ht less₁ => ?_
    dsimp only
    split_ifs with starts
    · exact (keeps_clauses h t ht (by omega)).bind ht fun clauses u hu less₂ => settles_ok (by omega)
    · exact settles_ok less₁
  unfold callArg
  dsimp only
  split
  · next double =>
    refine .advance hs (ne_end_of_sees double) fun hs' less' => ?_
    exact (h.test _ hs' (by omega)).bind hs' fun value t ht less₁ => settles_ok (by omega)
  · split
    · next star =>
      refine .advance hs (ne_end_of_sees star) fun hs' less' => ?_
      exact (h.test _ hs' (by omega)).bind hs' fun value t ht less₁ => settles_ok (by omega)
    · split
      · next arg current =>
        split
        · next assign =>
          refine .advance hs (by simp [current]) fun hs' less' => ?_
          refine .advance hs' (by simp [show s.advance.current = _ from assign]) fun ht less'' => ?_
          exact (h.test _ ht (by omega)).bind ht fun value u hu less₁ => settles_ok (by omega)
        · exact positional
      · exact positional

theorem takes_callArgs (h : r.Agrees n r') : Takes n (callArgs r) (callArgs r') := by
  intro s hs less
  refine ((takes_callArg h).itemsUpTo _ s hs less).bind hs fun args t ht less₁ => ?_
  exact settles_expectSymbol_bind ht fun u hu less₂ => settles_ok (by omega)

theorem keeps_bound (h : r.Agrees n r') : Keeps n (bound r) (bound r') := by
  intro s hs less
  unfold bound
  split_ifs
  · exact settles_ok (Nat.lt_succ_self _)
  · exact (h.test s hs less).bind hs fun e t ht less₁ => settles_ok (by omega)

theorem keeps_sliceStep (h : r.Agrees n r') : Keeps n (sliceStep r) (sliceStep r') := by
  intro s hs less
  unfold sliceStep
  split_ifs with colon
  · refine .advance hs (ne_end_of_sees colon) fun hs' less' => ?_
    exact (keeps_bound h _ hs' (by omega)).mono fun _ => by omega
  · exact settles_ok (Nat.lt_succ_self _)

theorem keeps_sliceAfter (h : r.Agrees n r') (lower : Option Expr) :
    Keeps n (sliceAfter r lower) (sliceAfter r' lower) := by
  intro s hs less
  refine (keeps_bound h s hs less).bind hs fun upper t ht less₁ => ?_
  exact (keeps_sliceStep h t ht (by omega)).bind ht fun step u hu less₂ => settles_ok (by omega)

theorem takes_subscriptItem (h : r.Agrees n r') :
    Takes n (subscriptItem r) (subscriptItem r') := by
  intro s hs less
  unfold subscriptItem
  split_ifs with colon
  · exact (keeps_sliceAfter h none).behind hs (by omega) (ne_end_of_sees colon)
  · refine (h.test s hs less).bind hs fun value t ht less₁ => ?_
    dsimp only
    split_ifs with colon
    · refine .advance ht (ne_end_of_sees colon) fun ht' less' => ?_
      exact (keeps_sliceAfter h (some value) _ ht' (by omega)).mono fun _ => by omega
    · exact settles_ok less₁

theorem takes_subscriptIndex (h : r.Agrees n r') :
    Takes n (subscriptIndex r) (subscriptIndex r') := by
  intro s hs less
  refine (takes_subscriptItem h s hs less).bind hs fun first t ht less₁ => ?_
  dsimp only
  split_ifs
  · have more := (takes_subscriptItem h).moreItems (· == .symbol .rightBracket)
    exact (more t ht (by omega)).bind ht fun more u hu less₂ => settles_ok (by omega)
  · exact settles_ok less₁

theorem tries_trailer (h : r.Agrees n r') : Tries (n + 1) (trailer r) (trailer r') := by
  intro s hs less
  unfold trailer
  split
  · next current =>
    refine .advance hs (by simp [current]) fun hs' less' => ?_
    refine (takes_expectName n _ hs' (by omega)).bind hs' fun attr t ht less₁ => ?_
    exact settles_some (by omega)
  · next current =>
    refine .advance hs (by simp [current]) fun hs' less' => ?_
    refine (takes_callArgs h _ hs' (by omega)).bind hs' fun args t ht less₁ => ?_
    exact settles_some (by omega)
  · next current =>
    refine .advance hs (by simp [current]) fun hs' less' => ?_
    refine (takes_subscriptIndex h _ hs' (by omega)).bind hs' fun index t ht less₁ => ?_
    exact settles_expectSymbol_bind ht fun u hu less₂ => settles_some (by omega)
  · exact settles_none (Nat.le_refl _)

theorem takes_primary (h : r.Agrees n r') : Takes (n + 1) (primary r) (primary r') := by
  intro s hs less
  refine (takes_atom h s hs less).bind hs fun e t ht less₁ => ?_
  refine ((tries_trailer h).repeated t ht (by omega)).bind ht fun trailers u hu less₂ => ?_
  exact settles_ok (by omega)

/-! ### Operators -/

theorem takes_awaited (h : r.Agrees n r') : Takes (n + 1) (awaited r) (awaited r') := by
  intro s hs less
  unfold awaited
  split_ifs with starts
  · refine .advance hs (ne_end_of_seesKeyword starts) fun hs' less' => ?_
    exact (takes_primary h _ hs' (by omega)).bind hs' fun e t ht less₁ => settles_ok (by omega)
  · exact takes_primary h s hs less

theorem takes_power (h : r.Agrees n r') : Takes (n + 1) (power r) (power r') := by
  intro s hs less
  refine (takes_awaited h s hs less).bind hs fun base t ht less₁ => ?_
  dsimp only
  split_ifs with double
  · refine .advance ht (ne_end_of_sees double) fun ht' less' => ?_
    exact (h.factor _ ht' (by omega)).bind ht' fun exponent u hu less₂ => settles_ok (by omega)
  · exact settles_ok less₁

theorem takes_factor (h : r.Agrees n r') : Takes (n + 1) (factor r) (factor r') := by
  intro s hs less
  unfold factor
  split
  · next op found =>
    have inside : s.current ≠ .endOfInput := by
      intro last
      rw [last] at found
      cases found
    refine .advance hs inside fun hs' less' => ?_
    exact (h.factor _ hs' (by omega)).bind hs' fun operand t ht less₁ => settles_ok (by omega)
  · exact takes_power h s hs less

theorem tries_operation (h : Takes n e e') (level : Nat) :
    Tries (n + 1) (operation level e) (operation level e') := by
  intro s hs less
  unfold operation
  split
  · next op found =>
    have inside : s.current ≠ .endOfInput := by
      intro last
      rw [last] at found
      cases found
    refine .advance hs inside fun hs' less' => ?_
    exact (h _ hs' (by omega)).bind hs' fun right t ht less₁ => settles_some (by omega)
  · exact settles_none (Nat.le_refl _)

theorem takes_operations (h : Takes n e e') (level : Nat) :
    Takes n (operations level e) (operations level e') := by
  intro s hs less
  refine (h s hs less).bind hs fun left t ht less₁ => ?_
  refine ((tries_operation h level).repeated t ht (by omega)).bind ht fun more u hu less₂ => ?_
  exact settles_ok (by omega)

theorem takes_operationsWithin (h : r.Agrees n r') (k : Nat) :
    Takes (n + 1) (operationsWithin r k) (operationsWithin r' k) := by
  induction k with
  | zero => exact takes_factor h
  | succ k ih => exact takes_operations ih _

theorem takes_bitOr (h : r.Agrees n r') : Takes (n + 1) (bitOr r) (bitOr r') :=
  takes_operationsWithin h _

/-- A comparison is one word or two, none of which is the end. -/
theorem reaches_of_comparison? {t : TokenStream} {op : CompareOp} (hs : s.HasEnd)
    (h : comparison? s = some (op, t)) : s.Reaches t ∧ t.left < s.left := by
  have inside : s.current ≠ .endOfInput := by
    intro last
    rw [comparison?, last] at h
    cases h
  have first := reaches_advance hs inside
  have less := left_advance hs inside
  have step : t = s.advance ∨ t = s.advance.advance ∧ s.advance.current ≠ .endOfInput := by
    have word {k : Keyword} (found : s.ahead = .keyword k) : s.advance.current ≠ .endOfInput := by
      simp [show s.advance.current = _ from found]
    unfold comparison? at h
    split at h
    -- two rows of the table look at a second word, and the last one is no comparison
    case h_8 =>
      split_ifs at h with found
      · cases h
        exact .inr ⟨rfl, word found⟩
      · cases h
        exact .inl rfl
    case h_9 =>
      split_ifs at h with found
      cases h
      exact .inr ⟨rfl, word found⟩
    case h_10 => cases h
    all_goals
      cases h
      exact .inl rfl
  rcases step with rfl | ⟨rfl, inside'⟩
  · exact ⟨first, by omega⟩
  · have less' := left_advance (first.hasEnd hs) inside'
    exact ⟨first.trans (reaches_advance (first.hasEnd hs) inside'), by omega⟩

theorem tries_comparator (h : r.Agrees n r') : Tries (n + 1) (comparator r) (comparator r') := by
  intro s hs less
  unfold comparator
  split
  · next op t compared =>
    obtain ⟨reached, less₁⟩ := reaches_of_comparison? hs compared
    have ht := reached.hasEnd hs
    refine ((takes_bitOr h t ht (by omega)).bind ht fun e u hu less₂ => ?_).of_reaches reached
    exact settles_some (by omega)
  · exact settles_none (Nat.le_refl _)

theorem takes_comparison (h : r.Agrees n r') : Takes (n + 1) (comparison r) (comparison r') := by
  intro s hs less
  refine (takes_bitOr h s hs less).bind hs fun left t ht less₁ => ?_
  refine ((tries_comparator h).repeated t ht (by omega)).bind ht fun more u hu less₂ => ?_
  dsimp only
  split_ifs
  · exact settles_ok (by omega)
  · exact settles_ok (by omega)

theorem takes_negation (h : r.Agrees n r') : Takes (n + 1) (negation r) (negation r') := by
  intro s hs less
  unfold negation
  split_ifs with starts
  · refine .advance hs (ne_end_of_seesKeyword starts) fun hs' less' => ?_
    exact (h.negation _ hs' (by omega)).bind hs' fun operand t ht less₁ => settles_ok (by omega)
  · exact takes_comparison h s hs less

theorem tries_operandAfter (h : Takes n e e') (word : Keyword) :
    Tries (n + 1) (operandAfter word e) (operandAfter word e') :=
  h.keeps.optional fun _ starts => ne_end_of_seesKeyword starts

theorem takes_logic (h : Takes n e e') (op : LogicOp) (word : Keyword) :
    Takes n (logic op word e) (logic op word e') := by
  intro s hs less
  refine (h s hs less).bind hs fun first t ht less₁ => ?_
  refine ((tries_operandAfter h word).repeated t ht (by omega)).bind ht fun more u hu less₂ => ?_
  dsimp only
  split_ifs
  · exact settles_ok (by omega)
  · exact settles_ok (by omega)

theorem takes_conjunction (h : r.Agrees n r') : Takes (n + 1) (conjunction r) (conjunction r') :=
  takes_logic (takes_negation h) _ _

theorem takes_disjunction (h : r.Agrees n r') : Takes (n + 1) (disjunction r) (disjunction r') :=
  takes_logic (takes_conjunction h) _ _

theorem takes_lambda (h : r.Agrees n r') : Takes n (lambda r) (lambda r') := by
  intro s hs less
  refine (keeps_params h.test .colon false s hs (by omega)).bind hs fun params t ht less₁ => ?_
  refine settles_expectSymbol_bind ht fun u hu less₂ => ?_
  exact (h.test u hu (by omega)).bind hu fun body v hv less₃ => settles_ok (by omega)

theorem takes_test (h : r.Agrees n r') : Takes (n + 1) (test r) (test r') := by
  intro s hs less
  unfold test
  split_ifs with starts
  · exact (takes_lambda h).keeps.behind hs less (ne_end_of_seesKeyword starts)
  · refine (takes_disjunction h s hs less).bind hs fun body t ht less₁ => ?_
    dsimp only
    split_ifs with starts
    · refine .advance ht (ne_end_of_seesKeyword starts) fun ht' less' => ?_
      refine (takes_disjunction h _ ht' (by omega)).bind ht' fun test u hu less₂ => ?_
      refine settles_expectKeyword_bind hu fun v hv less₃ => ?_
      exact (h.test v hv (by omega)).bind hv fun orelse w hw less₄ => settles_ok (by omega)
    · exact settles_ok less₁

/-! ### The whole grammar -/

/-- The bound on the nesting of expressions makes no difference to streams with fewer tokens before
the end. -/
theorem agrees_nested {k n m : Nat} (hn : k ≤ n) (hm : k ≤ m) : (nested n).Agrees k (nested m) := by
  -- each level passes a token before it asks for an expression of the level below
  induction k generalizing n m with
  | zero =>
    constructor
    all_goals exact fun s _ less => absurd less (Nat.not_lt_zero _)
  | succ k ih =>
    obtain ⟨n, rfl⟩ : ∃ i, n = i + 1 := ⟨n - 1, by omega⟩
    obtain ⟨m, rfl⟩ : ∃ i, m = i + 1 := ⟨m - 1, by omega⟩
    have h := ih (Nat.le_of_succ_le_succ hn) (Nat.le_of_succ_le_succ hm)
    exact ⟨takes_test h, takes_disjunction h, takes_negation h, takes_bitOr h, takes_factor h⟩

theorem takes_sequence (h : Takes n e e') :
    Takes n (Grammar.sequence e) (Grammar.sequence e') := by
  intro s hs less
  refine (h s hs less).bind hs fun first t ht less₁ => ?_
  dsimp only
  split_ifs
  · refine (h.moreItems _ t ht (by omega)).bind ht fun more u hu less₂ => ?_
    exact settles_ok (by omega)
  · exact settles_ok less₁

end Grammar

end RobotCell.Script
