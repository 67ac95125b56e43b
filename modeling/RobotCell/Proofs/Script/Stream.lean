import RobotCell.Proofs.Outcome
import RobotCell.Script.TokenStream

/-!
# Tokens in front of a stream

What a parser reads is told for a stream that starts with the tokens of one part of the grammar and
goes on with any other stream, which is what the parser has to leave. Repetition is told from the
front as well: one part is read, and then the parts behind it.

## Main definitions

- `TokenStream.append` — tokens in front of a stream

## Main results

- `repeated_of_none`, `repeated_of_some` — parts read one after another
- `repeated_append` — parts whose tokens stand one behind the other
- `moreItems_append`, `oneOrMore_append` — items with commas between them
-/

namespace RobotCell.Script

namespace TokenStream

/-- The stream with a token in front of it. -/
def cons (t : Token) (s : TokenStream) : TokenStream :=
  ⟨t, s.current :: s.rest⟩

/-- The stream with tokens in front of it. -/
def append (ts : List Token) (s : TokenStream) : TokenStream :=
  ts.foldr cons s

variable (t : Token) (ts us : List Token) (s : TokenStream)

@[simp]
theorem current_cons : (cons t s).current = t := rfl

@[simp]
theorem advance_cons : (cons t s).advance = s := rfl

@[simp]
theorem ahead_cons : (cons t s).ahead = s.current := rfl

@[simp]
theorem sees_cons (symbol : Symbol) : (cons t s).sees symbol = (t == .symbol symbol) := rfl

@[simp]
theorem seesKeyword_cons (k : Keyword) : (cons t s).seesKeyword k = (t == .keyword k) := rfl

@[simp]
theorem length_rest_cons : (cons t s).rest.length = s.rest.length + 1 := rfl

@[simp]
theorem append_nil : append [] s = s := rfl

@[simp]
theorem append_cons : append (t :: ts) s = cons t (append ts s) := rfl

@[simp]
theorem append_append : append (ts ++ us) s = append ts (append us s) :=
  List.foldr_append

@[simp]
theorem length_rest_append : (append ts s).rest.length = ts.length + s.rest.length := by
  induction ts with
  | nil => simp
  | cons t ts ih =>
    rw [append_cons, length_rest_cons, ih, List.length_cons]
    omega

/-- A list of tokens that has a last one is a stream with the others in front. -/
theorem ofTokens_append_singleton : ofTokens (ts ++ [t]) = append ts ⟨t, []⟩ := by
  induction ts with
  | nil => rfl
  | cons u ts ih =>
    rw [List.cons_append, append_cons, ← ih]
    cases ts <;> rfl

end TokenStream

open TokenStream

/-! ### Single tokens -/

@[simp]
theorem expect_cons (t : Token) (s : TokenStream) : expect t (cons t s) = .ok s := by
  simp [expect]

@[simp]
theorem expectSymbol_cons (symbol : Symbol) (s : TokenStream) :
    expectSymbol symbol (cons (.symbol symbol) s) = .ok s :=
  expect_cons _ s

@[simp]
theorem expectKeyword_cons (k : Keyword) (s : TokenStream) :
    expectKeyword k (cons (.keyword k) s) = .ok s := by
  simp [expectKeyword]

@[simp]
theorem expectName_cons (id : String) (s : TokenStream) :
    expectName (cons (.name id) s) = .ok (id, s) := rfl

/-! ### Repetition -/

variable {α : Type} {part : Parser (Option α)}

/-- A larger limit changes no success. -/
theorem repeatedWithin_of_le {n m : Nat} {s : TokenStream} {r : List α × TokenStream}
    (h : repeatedWithin part n s = .ok r) (le : n ≤ m) : repeatedWithin part m s = .ok r := by
  induction n generalizing m s r with
  | zero => cases h
  | succ n ih =>
    obtain ⟨m, rfl⟩ : ∃ k, m = k + 1 := ⟨m - 1, by omega⟩
    rw [repeatedWithin, bind_eq_ok_iff] at h ⊢
    obtain ⟨⟨found, s'⟩, read, h⟩ := h
    refine ⟨(found, s'), read, ?_⟩
    cases found with
    | none => exact h
    | some a =>
      obtain ⟨⟨as, s''⟩, more, h⟩ := bind_eq_ok_iff.1 h
      exact bind_eq_ok_iff.2 ⟨(as, s''), ih more (by omega), h⟩

/-- No further part. -/
theorem repeated_of_none {s s' : TokenStream} (h : part s = .ok (none, s')) :
    repeated part s = .ok ([], s') := by
  rw [repeated, repeatedWithin, h]
  rfl

/-- One part and the ones behind it. -/
theorem repeated_of_some {s s' s'' : TokenStream} {a : α} {as : List α}
    (h : part s = .ok (some a, s')) (shorter : s'.rest.length < s.rest.length)
    (more : repeated part s' = .ok (as, s'')) : repeated part s = .ok (a :: as, s'') := by
  have within := repeatedWithin_of_le more shorter
  rw [repeated, repeatedWithin, h]
  simp only [ok_bind, within]
  rfl

/-- Parts whose tokens stand one behind the other. Each part is read in front of any stream that
starts with a token for which `follows` holds. -/
theorem repeated_append {β : Type} {items : List β} {value : β → α} {tokens : β → List Token}
    (follows : Token → Prop) {s s' : TokenStream}
    (h : ∀ x ∈ items, ∀ s, follows s.current →
      part (append (tokens x) s) = .ok (some (value x), s))
    (starts : ∀ x ∈ items, ∃ t ts, tokens x = t :: ts ∧ follows t)
    (next : follows s.current) (last : part s = .ok (none, s')) :
    repeated part (append (items.flatMap tokens) s) = .ok (items.map value, s') := by
  induction items with
  | nil => exact repeated_of_none last
  | cons x items ih =>
    have more := ih (fun y hy => h y (List.mem_cons_of_mem _ hy))
      (fun y hy => starts y (List.mem_cons_of_mem _ hy))
    -- the part is followed by the next part, or by the stream behind all of them
    have follow : follows (append (items.flatMap tokens) s).current := by
      cases items with
      | nil => exact next
      | cons y items =>
        obtain ⟨t, ts, hy, ht⟩ := starts y (by simp)
        simpa [hy] using ht
    obtain ⟨t, ts, hx, -⟩ := starts x List.mem_cons_self
    rw [List.flatMap_cons, append_append, List.map_cons]
    refine repeated_of_some (h x List.mem_cons_self _ follow) ?_ more
    rw [length_rest_append (tokens x), hx, List.length_cons]
    omega

/-! ### Items with commas between them -/

/-- Items with a token between neighbours. -/
def separatedBy (t : Token) : List (List Token) → List Token
  | [] => []
  | ts :: rest => ts ++ rest.flatMap (t :: ·)

theorem length_le_flatMap {β : Type} {tokens : β → List Token} {x : β} {items : List β}
    (h : x ∈ items) : (tokens x).length ≤ (items.flatMap tokens).length := by
  rw [List.flatMap_def]
  exact (List.sublist_flatten_of_mem (List.mem_map_of_mem h)).length_le

theorem length_le_separatedBy {t : Token} {lists : List (List Token)} {ts : List Token}
    (h : ts ∈ lists) : ts.length ≤ (separatedBy t lists).length := by
  cases lists with
  | nil => cases h
  | cons us lists =>
    rw [separatedBy, List.length_append]
    rcases List.mem_cons.1 h with rfl | later
    · omega
    · have inner : (t :: ts).length ≤ (lists.flatMap (t :: ·)).length := length_le_flatMap later
      rw [List.length_cons] at inner
      omega

variable {β : Type} {items : List β} {value : β → α} {tokens : β → List Token}
  (follows : Token → Prop) {stop : Token → Bool} {item : Parser α} {s : TokenStream}

/-- One further item and the ones behind it. -/
theorem moreItems_of_some {s s' s'' : TokenStream} {a : α} {as : List α}
    (goes : stop s.current = false) (h : item s = .ok (a, s'))
    (shorter : s'.rest.length ≤ s.rest.length) (more : moreItems stop item s' = .ok (as, s'')) :
    moreItems stop item (cons (.symbol .comma) s) = .ok (a :: as, s'') := by
  refine repeated_of_some ?_ (by rw [length_rest_cons]; omega) more
  simp [goes, h]

/-- Further items, each behind a comma. -/
theorem moreItems_append
    (h : ∀ x ∈ items, ∀ s, follows s.current → item (append (tokens x) s) = .ok (value x, s))
    (starts : ∀ x ∈ items, ∃ t ts, tokens x = t :: ts ∧ stop t = false)
    (comma : follows (.symbol .comma)) (next : follows s.current)
    (last : s.sees .comma = false) :
    moreItems stop item (append ((items.map tokens).flatMap (.symbol .comma :: ·)) s) =
      .ok (items.map value, s) := by
  rw [List.flatMap_map]
  refine repeated_append follows (fun x hx s follow => ?_) (fun x _ => ⟨_, _, rfl, comma⟩) next ?_
  · obtain ⟨t, ts, htokens, goes⟩ := starts x hx
    have read := h x hx s follow
    rw [htokens, append_cons] at read ⊢
    simp [goes, read]
  · simp [last]

/-- One or more items with commas between them. -/
theorem oneOrMore_append (filled : items ≠ [])
    (h : ∀ x ∈ items, ∀ s, follows s.current → item (append (tokens x) s) = .ok (value x, s))
    (starts : ∀ x ∈ items, ∃ t ts, tokens x = t :: ts ∧ stop t = false)
    (comma : follows (.symbol .comma)) (next : follows s.current)
    (last : s.sees .comma = false) :
    oneOrMore stop item (append (separatedBy (.symbol .comma) (items.map tokens)) s) =
      .ok (items.map value, s) := by
  cases items with
  | nil => exact absurd rfl filled
  | cons x items =>
    have more := moreItems_append follows (fun y hy => h y (List.mem_cons_of_mem _ hy))
      (fun y hy => starts y (List.mem_cons_of_mem _ hy)) comma next last
    have follow : follows
        (append ((items.map tokens).flatMap (.symbol .comma :: ·)) s).current := by
      cases items with
      | nil => exact next
      | cons y items => exact comma
    rw [List.map_cons, separatedBy, append_append, oneOrMore, h x List.mem_cons_self _ follow]
    simp only [ok_bind, more]
    rfl

end RobotCell.Script
