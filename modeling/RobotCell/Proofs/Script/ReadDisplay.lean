import RobotCell.Proofs.Script.ReadLevels
import RobotCell.Proofs.Script.SpellExpr

/-!
# Names, constants and displays are read back

What stands between brackets is read item by item, in front of commas and of the closing bracket.
The parser of each kind of bracket is followed once, on items that are read back.

## Main definitions

- `ReadsItems`, `ReadsTarget`, `ReadsClause` — the parts of displays that are read back

## Main results

- `readsOwn_name`, `readsOwn_constant`, `readsOwn_list`, … — one statement for each form
-/

namespace RobotCell.Script

open Grammar TokenStream

variable {s s' : TokenStream} {n ℓ : Nat} {e : Expr} {ts us : List Token} {r : Nested}

/-! ### Items -/

/-- The token may stand behind an item of a display. -/
def EndsItem (t : Token) : Prop :=
  joinLevel t = 0 ∧ t ≠ .symbol .colonEq

instance (t : Token) : Decidable (EndsItem t) :=
  inferInstanceAs (Decidable (_ ∧ _))

namespace ReadsBack

/-- The expression as an item of a display. -/
theorem item_eq_ok (h : ReadsBack e) (item : e.isItem = true)
    (long : (e.tokensAt Level.test).length ≤ n) (ends : EndsItem s.current) :
    starItem (bitOr (nested n)) (test (nested n)) (append (e.tokensAt Level.test) s) =
      .ok (e, s) := by
  by_cases paren : e.level < Level.test
  · have stands : e.standsAt Level.test = true := by
      cases e with
      | starred => exact absurd paren (by decide : ¬Level.bitOr < Level.test)
      | slice => cases item
      | _ => rfl
    exact (h.at_ stands (by decide) (by decide)).starItem_eq_ok long ends.1 ends.2
  · rw [Expr.tokensAt_of_le (by omega)] at long ⊢
    exact h.starItem_eq_ok item long ends.1 ends.2

theorem startsAt (h : ReadsBack e) (item : e.isItem = true) (least : Nat) :
    ∃ t us, e.tokensAt least = t :: us ∧ startsExpression t = true := by
  by_cases paren : e.level < least
  · rw [Expr.tokensAt_of_lt paren]
    exact ⟨_, _, rfl, rfl⟩
  · rw [Expr.tokensAt_of_le (by omega)]
    exact h.starts item

theorem item_starts (h : ReadsBack e) (item : e.isItem = true) :
    ∃ t us, e.tokensAt Level.test = t :: us ∧ startsExpression t = true :=
  h.startsAt item Level.test

/-- An item does not start with a token that starts no expression. -/
theorem item_starts_ne (h : ReadsBack e) (item : e.isItem = true) (closing : Symbol)
    (other : startsExpression (.symbol closing) = false) :
    ∃ t us, e.tokensAt Level.test = t :: us ∧ (t == .symbol closing) = false := by
  obtain ⟨t, us, same, starts⟩ := h.item_starts item
  refine ⟨t, us, same, beq_eq_false_iff_ne.2 ?_⟩
  rintro rfl
  exact absurd (starts.symm.trans other) (by decide)

end ReadsBack

/-- What stands between the items of a display and its closing bracket. -/
structure ClosesItems (closing : Symbol) : Prop where
  ends : EndsItem (.symbol closing)
  starts : startsExpression (.symbol closing) = false
  comma : closing ≠ .comma

theorem closesItems_rightParen : ClosesItems .rightParen := ⟨by decide, rfl, by decide⟩

theorem closesItems_rightBracket : ClosesItems .rightBracket := ⟨by decide, rfl, by decide⟩

theorem closesItems_rightBrace : ClosesItems .rightBrace := ⟨by decide, rfl, by decide⟩

/-- The items of a display are read back, and their tokens are few enough. -/
structure ReadsItems (n : Nat) (items : List Expr) : Prop where
  reads : ∀ x ∈ items, ReadsBack x
  stand : ∀ x ∈ items, x.isItem = true
  long : ∀ x ∈ items, (x.tokensAt Level.test).length ≤ n

theorem ReadsItems.tail {x : Expr} {items : List Expr} (h : ReadsItems n (x :: items)) :
    ReadsItems n items :=
  ⟨fun y hy => h.reads y (List.mem_cons_of_mem _ hy),
    fun y hy => h.stand y (List.mem_cons_of_mem _ hy),
    fun y hy => h.long y (List.mem_cons_of_mem _ hy)⟩

theorem ReadsItems.of_commas {items : List Expr} (reads : ∀ x ∈ items, ReadsBack x)
    (stand : ∀ x ∈ items, x.isItem = true)
    (long : (commas (items.map (Expr.tokensAt Level.test))).length ≤ n) : ReadsItems n items :=
  ⟨reads, stand, fun _ hx =>
    Nat.le_trans (length_le_commas (List.mem_map_of_mem hx)) long⟩

/-- The stream behind the first item of a display. -/
def afterFirst (more : List (List Token)) (closing : Symbol) (s : TokenStream) : TokenStream :=
  append (more.flatMap (.symbol .comma :: ·)) (cons (.symbol closing) s)

/-- The items behind the first one. -/
theorem ReadsItems.moreItems_eq_ok {items : List Expr} {closing : Symbol} (h : ReadsItems n items)
    (close : ClosesItems closing) (s : TokenStream) :
    moreItems (· == .symbol closing) (starItem (bitOr (nested n)) (test (nested n)))
        (afterFirst (items.map (Expr.tokensAt Level.test)) closing s) =
      .ok (items, cons (.symbol closing) s) := by
  have starts : ∀ x ∈ items, ∃ t us, x.tokensAt Level.test = t :: us ∧
      (t == .symbol closing) = false := fun x hx =>
    (h.reads x hx).item_starts_ne (h.stand x hx) closing close.starts
  have last : (cons (.symbol closing) s).sees .comma = false := by simpa using close.comma
  have read := moreItems_append EndsItem (fun x (hx : x ∈ items) s ends =>
    (h.reads x hx).item_eq_ok (h.stand x hx) (h.long x hx) ends) starts (by decide) close.ends last
  rwa [List.map_id'] at read

theorem append_commas (first : List Token) (more : List (List Token)) (closing : Symbol)
    (s : TokenStream) :
    append (commas (first :: more)) (cons (.symbol closing) s) =
      append first (afterFirst more closing s) := by
  rw [commas, separatedBy, append_append, afterFirst]

section AfterFirst

variable (more : List (List Token)) {closing : Symbol} (s : TokenStream)

theorem current_afterFirst :
    (afterFirst more closing s).current = .symbol (if more = [] then closing else .comma) := by
  cases more <;> rfl

theorem afterFirst_cons (ts : List Token) :
    afterFirst (ts :: more) closing s = append (.symbol .comma :: ts) (afterFirst more closing s) := by
  simp [afterFirst]

theorem endsItem_afterFirst (close : ClosesItems closing) :
    EndsItem (afterFirst more closing s).current := by
  rw [current_afterFirst]
  split
  · exact close.ends
  · decide

theorem seesKeyword_afterFirst (k : Keyword) :
    (afterFirst more closing s).seesKeyword k = false := by
  simp [TokenStream.seesKeyword, current_afterFirst]

theorem sees_afterFirst {symbol : Symbol} (apart : symbol ≠ closing) (comma : symbol ≠ .comma) :
    (afterFirst more closing s).sees symbol = false := by
  rw [TokenStream.sees, current_afterFirst]
  split
  · simpa using apart.symm
  · simpa using comma.symm

end AfterFirst

theorem ReadsItems.first_eq_ok {x : Expr} {items : List Expr} {closing : Symbol}
    (h : ReadsItems n (x :: items)) (close : ClosesItems closing) (s : TokenStream) :
    starItem (bitOr (nested n)) (test (nested n)) (append (x.tokensAt Level.test)
        (afterFirst (items.map (Expr.tokensAt Level.test)) closing s)) =
      .ok (x, afterFirst (items.map (Expr.tokensAt Level.test)) closing s) :=
  (h.reads x List.mem_cons_self).item_eq_ok (h.stand x List.mem_cons_self)
    (h.long x List.mem_cons_self) (endsItem_afterFirst _ s close)

theorem ReadsBack.sees_of_item (h : ReadsBack e) (item : e.isItem = true) (s : TokenStream)
    (symbol : Symbol) (other : startsExpression (.symbol symbol) = false) :
    (append (e.tokensAt Level.test) s).sees symbol = false := by
  obtain ⟨t, us, same, ne⟩ := h.item_starts_ne item symbol other
  rw [same]
  exact ne

theorem ReadsBack.seesKeyword_of_item (h : ReadsBack e) (item : e.isItem = true) (s : TokenStream)
    (k : Keyword) (other : startsExpression (.keyword k) = false) :
    (append (e.tokensAt Level.test) s).seesKeyword k = false := by
  obtain ⟨t, us, same, starts⟩ := h.item_starts item
  rw [TokenStream.seesKeyword, beq_eq_false_iff_ne, same]
  rintro rfl
  exact absurd (starts.symm.trans other) (by decide)

/-! ### Names and constants -/

/-- The tokens are read as the atom. -/
theorem ReadsOwn.of_atom (high : Level.primary ≤ e.level) (leads : Leads Level.primary e.tokens)
    (h : ∀ ⦃n : Nat⦄ ⦃s : TokenStream⦄, e.tokens.length ≤ n → joinLevel s.current ≤ Level.atom →
      atom (nested n) (append e.tokens s) = .ok (e, s)) : ReadsOwn e := by
  refine .of_primary high leads fun n s s' trailers long plain more => ?_
  rw [Grammar.primary, h long plain]
  simp [more]

theorem leads_cons {t : Token} (high : Level.primary ≤ prefixLevel t)
    (second : ∀ u ∈ us.head?, assignsName u = false) : Leads Level.primary (t :: us) :=
  ⟨t, us, rfl, Nat.lt_of_lt_of_le (by decide) high, high, second⟩

theorem leads_singleton {t : Token} (high : Level.primary ≤ prefixLevel t) :
    Leads Level.primary [t] :=
  leads_cons high (by simp)

theorem readsOwn_name (id : String) : ReadsOwn (.name id) := by
  refine .of_atom (by decide : Level.primary ≤ Level.atom) ?_ fun n s long plain => ?_
  · rw [Expr.tokens]
    exact leads_singleton (by decide : Level.primary ≤ Level.atom)
  · rw [Expr.tokens]
    rfl

/-- Neighbouring literals are read together. -/
theorem strings_append (parts : List StringPart) (plain : joinLevel s.current ≤ Level.atom) :
    strings (append (parts.map StringPart.token) s) =
      .ok (.constant (joinStrings "" parts), s) := by
  have read := repeated_append (fun _ => True) (fun p (_ : p ∈ parts) s _ =>
    show stringPart (append [p.token] s) = .ok (some p, s) by cases p <;> rfl)
    (fun p _ => ⟨p.token, [], rfl, trivial⟩) trivial (stringPart_of_joinLevel plain)
  rw [List.map_id', ← List.map_eq_flatMap] at read
  simp [strings, read]

theorem readsOwn_constant {c : Constant} (h : c.IsLegible) : ReadsOwn (.constant c) := by
  have atomic : Level.primary ≤ Level.atom := by decide
  cases c with
  | none | ellipsis =>
    refine .of_atom atomic ?_ fun n s long plain => ?_
    · exact leads_singleton atomic
    · rfl
  | bool value =>
    cases value <;>
    · refine .of_atom atomic ?_ fun n s long plain => ?_
      · exact leads_singleton atomic
      · rfl
  | int text | float text =>
    refine .of_atom atomic ?_ fun n s long plain => ?_
    · exact leads_singleton atomic
    · show atom (nested n) (cons (.number text) s) = _
      simp [atom, h.2]
  | str text =>
    refine .of_atom atomic ?_ fun n s long plain => ?_
    · exact leads_singleton atomic
    · exact strings_append [.plain text] plain
  | verbatim text =>
    obtain ⟨parts, filled, legible, rfl, joined⟩ := h
    obtain ⟨p, parts, rfl⟩ := List.exists_cons_of_ne_nil filled
    have tokens : (Expr.constant (.verbatim _)).tokens = (p :: parts).map StringPart.token :=
      literalTokens_parts filled legible
    refine .of_atom atomic ?_ fun n s long plain => ?_
    · rw [tokens]
      refine leads_cons ?_ ?_
      · cases p <;> exact atomic
      · intro u hu
        cases parts with
        | nil => cases hu
        | cons q parts =>
          cases hu
          cases q <;> rfl
    · have read := strings_append (p :: parts) plain
      rw [joined] at read
      rw [tokens, ← read]
      cases p <;> rfl

/-! ### Displays -/

theorem assignsName_of_startsExpression {t : Token} (h : startsExpression t = true) :
    assignsName t = false := by
  cases t with
  | symbol symbol => cases symbol <;> first | rfl | cases h
  | _ => rfl

/-- A bracket in front of an item and of what follows the item. -/
theorem ReadsBack.leads_between {opening closing : Symbol} (h : ReadsBack e)
    (item : e.isItem = true) (high : Level.primary ≤ prefixLevel (.symbol opening))
    (ts : List Token) :
    Leads Level.primary (between opening closing (e.tokensAt Level.test ++ ts)) := by
  obtain ⟨t, us, same, starts⟩ := h.item_starts item
  rw [same]
  refine leads_cons high ?_
  intro u hu
  cases hu
  exact assignsName_of_startsExpression starts

/-- A bracket in front of items. -/
theorem leads_between {opening closing : Symbol} {items : List Expr}
    (high : Level.primary ≤ prefixLevel (.symbol opening))
    (close : assignsName (.symbol closing) = false) (h : ∀ x ∈ items, ReadsBack x)
    (stand : ∀ x ∈ items, x.isItem = true) :
    Leads Level.primary
      (between opening closing (commas (items.map (Expr.tokensAt Level.test)))) := by
  cases items with
  | nil =>
    refine leads_cons high ?_
    intro u hu
    cases hu
    exact close
  | cons x items =>
    exact (h x List.mem_cons_self).leads_between (stand x List.mem_cons_self) high _

theorem length_between (opening closing : Symbol) (ts : List Token) :
    (between opening closing ts).length = ts.length + 2 := by
  simp [between]

theorem append_between (opening closing : Symbol) (ts : List Token) (s : TokenStream) :
    append (between opening closing ts) s =
      cons (.symbol opening) (append ts (cons (.symbol closing) s)) := by
  simp [between]

theorem readsOwn_list {items : List Expr} (h : ∀ x ∈ items, ReadsBack x)
    (stand : ∀ x ∈ items, x.isItem = true) : ReadsOwn (.list items) := by
  have tokens : (Expr.list items).tokens =
      between .leftBracket .rightBracket (commas (items.map (Expr.tokensAt Level.test))) := by
    rw [Expr.tokens, itemTokens_eq]
  refine .of_atom (by decide : Level.primary ≤ Level.atom) ?_ fun n s long _ => ?_
  · rw [tokens]
    exact leads_between (by decide) rfl h stand
  · rw [tokens, length_between] at long
    rw [tokens, append_between]
    obtain ⟨m, rfl⟩ : ∃ k, n = k + 1 := ⟨n - 1, by omega⟩
    show listDisplay (nested (m + 1)) (append (commas _) _) = _
    cases items with
    | nil => rfl
    | cons x items =>
      have display := ReadsItems.of_commas (n := m) h stand (by omega)
      have closed := (h x List.mem_cons_self).sees_of_item (stand x List.mem_cons_self)
        (afterFirst (items.map (Expr.tokensAt Level.test)) .rightBracket s) .rightBracket rfl
      rw [List.map_cons, append_commas]
      simp [listDisplay, nested, closed, display.first_eq_ok closesItems_rightBracket s,
        display.tail.moreItems_eq_ok closesItems_rightBracket s, seesKeyword_afterFirst]

theorem readsOwn_set {items : List Expr} (filled : items ≠ []) (h : ∀ x ∈ items, ReadsBack x)
    (stand : ∀ x ∈ items, x.isItem = true) : ReadsOwn (.set items) := by
  have tokens : (Expr.set items).tokens =
      between .leftBrace .rightBrace (commas (items.map (Expr.tokensAt Level.test))) := by
    rw [Expr.tokens, itemTokens_eq]
  refine .of_atom (by decide : Level.primary ≤ Level.atom) ?_ fun n s long _ => ?_
  · rw [tokens]
    exact leads_between (by decide) rfl h stand
  · rw [tokens, length_between] at long
    rw [tokens, append_between]
    obtain ⟨m, rfl⟩ : ∃ k, n = k + 1 := ⟨n - 1, by omega⟩
    show braceDisplay (nested (m + 1)) (append (commas _) _) = _
    cases items with
    | nil => exact absurd rfl filled
    | cons x items =>
      have display := ReadsItems.of_commas (n := m) h stand (by omega)
      have starts := (h x List.mem_cons_self).sees_of_item (stand x List.mem_cons_self)
        (afterFirst (items.map (Expr.tokensAt Level.test)) .rightBrace s)
      rw [List.map_cons, append_commas]
      simp [braceDisplay, nested, starts .rightBrace rfl, starts .doubleStar rfl,
        display.first_eq_ok closesItems_rightBrace s,
        display.tail.moreItems_eq_ok closesItems_rightBrace s, seesKeyword_afterFirst,
        sees_afterFirst]

theorem moreItems_single {closing : Symbol} {item : Parser Expr} (s : TokenStream) :
    moreItems (· == .symbol closing) item (cons (.symbol .comma) (cons (.symbol closing) s)) =
      .ok ([], cons (.symbol closing) s) :=
  repeated_of_none (by simp)

theorem readsOwn_tuple {items : List Expr} (h : ∀ x ∈ items, ReadsBack x)
    (stand : ∀ x ∈ items, x.isItem = true) : ReadsOwn (.tuple items) := by
  have atomic : Level.primary ≤ Level.atom := by decide
  match items with
  | [] =>
    refine .of_atom atomic ?_ fun n s long _ => rfl
    exact leads_cons atomic (by simp [assignsName])
  | [x] =>
    have x_read := h x (by simp)
    have item := stand x (by simp)
    have tokens : (Expr.tuple [x]).tokens =
        between .leftParen .rightParen (x.tokensAt Level.test ++ [.symbol .comma]) := by
      rw [Expr.tokens, itemTokens_eq]
      rfl
    refine .of_atom atomic ?_ fun n s long _ => ?_
    · rw [tokens]
      exact x_read.leads_between item (by decide) _
    · rw [tokens, length_between, List.length_append] at long
      rw [tokens, append_between, append_append]
      obtain ⟨m, rfl⟩ : ∃ k, n = k + 1 := ⟨n - 1, by omega⟩
      have first := x_read.item_eq_ok (n := m)
        (s := cons (.symbol .comma) (cons (.symbol .rightParen) s)) item (by omega)
        (by decide : EndsItem (.symbol .comma))
      have starts := x_read.sees_of_item item (cons (.symbol .comma) (cons (.symbol .rightParen) s))
      have yields := x_read.seesKeyword_of_item item
        (cons (.symbol .comma) (cons (.symbol .rightParen) s)) .yieldKw rfl
      show parenthesized (nested (m + 1)) (append (x.tokensAt Level.test) _) = _
      simp [parenthesized, nested, starts .rightParen rfl, yields, first, moreItems_single]
  | x :: y :: items =>
    have tokens : (Expr.tuple (x :: y :: items)).tokens = between .leftParen .rightParen
        (commas ((x :: y :: items).map (Expr.tokensAt Level.test))) := by
      rw [Expr.tokens, itemTokens_eq, tupleTokens_of_two_le (by simp)]
    refine .of_atom atomic ?_ fun n s long _ => ?_
    · rw [tokens]
      exact leads_between atomic rfl h stand
    · rw [tokens, length_between] at long
      rw [tokens, append_between]
      obtain ⟨m, rfl⟩ : ∃ k, n = k + 1 := ⟨n - 1, by omega⟩
      have display := ReadsItems.of_commas (n := m) h stand (by omega)
      obtain ⟨after, after_eq⟩ : ∃ after, afterFirst
        ((y :: items).map (Expr.tokensAt Level.test)) .rightParen s = after := ⟨_, rfl⟩
      have first := display.first_eq_ok closesItems_rightParen s
      have more := display.tail.moreItems_eq_ok closesItems_rightParen s
      have forks : after.seesKeyword .forKw = false := after_eq ▸ seesKeyword_afterFirst _ s _
      have goes : after.sees .rightParen = false := by
        rw [← after_eq]
        rfl
      rw [after_eq] at first more
      have starts := (h x (by simp)).sees_of_item (stand x (by simp)) after
      have yields := (h x (by simp)).seesKeyword_of_item (stand x (by simp)) after .yieldKw rfl
      show parenthesized (nested (m + 1)) (append (commas (_ :: _)) _) = _
      rw [append_commas, after_eq]
      simp [parenthesized, nested, starts .rightParen rfl, yields, goes, forks, first, more]

/-- The parts of an entry behind the first one are read back. -/
theorem entry_eq_ok {x : Expr × Expr} (key : ReadsBack x.1) (value : ReadsBack x.2)
    (stands : x.1.standsAt Level.test = true) (stands' : x.2.standsAt Level.test = true)
    (long : (pairTokens x).length ≤ n) (ends : EndsItem s.current) :
    entry (nested (n + 1)) (append (pairTokens x) s) = .ok (x, s) := by
  simp only [pairTokens, List.length_append, List.length_cons] at long
  have first := (key.at_ stands (by decide) (by decide)).test_eq_ok (n := n)
    (s := cons (.symbol .colon) (append (x.2.tokensAt Level.test) s)) (by omega) rfl
  have second := (value.at_ stands' (by decide) (by decide)).test_eq_ok (n := n) (by omega) ends.1
  simp [entry, nested, pairTokens, first, second]

/-- The entries behind the first one. -/
theorem morePairs_eq_ok {entries : List (Expr × Expr)} (keys : ∀ x ∈ entries, ReadsBack x.1)
    (values : ∀ x ∈ entries, ReadsBack x.2) (stand : ∀ x ∈ entries, x.1.standsAt Level.test = true)
    (stand' : ∀ x ∈ entries, x.2.standsAt Level.test = true)
    (long : ∀ x ∈ entries, (pairTokens x).length ≤ n) (s : TokenStream) :
    moreItems (· == .symbol .rightBrace) (entry (nested (n + 1)))
        (afterFirst (entries.map pairTokens) .rightBrace s) =
      .ok (entries, cons (.symbol .rightBrace) s) := by
  have starts : ∀ x ∈ entries, ∃ t us, pairTokens x = t :: us ∧
      (t == .symbol .rightBrace) = false := by
    intro x hx
    obtain ⟨t, us, same, ne⟩ := (keys x hx).item_starts_ne
      (Expr.isItem_of_standsAt (stand x hx)) .rightBrace rfl
    exact ⟨t, us ++ .symbol .colon :: x.2.tokensAt Level.test, by rw [pairTokens, same]; rfl, ne⟩
  have read := moreItems_append EndsItem (s := cons (.symbol .rightBrace) s)
    (fun x (hx : x ∈ entries) s ends =>
      entry_eq_ok (keys x hx) (values x hx) (stand x hx) (stand' x hx) (long x hx) ends)
    starts (by decide) closesItems_rightBrace.ends rfl
  rwa [List.map_id'] at read

theorem readsOwn_dict {entries : List (Expr × Expr)} (keys : ∀ x ∈ entries, ReadsBack x.1)
    (values : ∀ x ∈ entries, ReadsBack x.2) (first : ∀ x ∈ entries.head?, x.1.isItem = true)
    (more : ∀ x ∈ entries.tail, x.1.standsAt Level.test = true)
    (stand : ∀ x ∈ entries, x.2.standsAt Level.test = true) : ReadsOwn (.dict entries) := by
  have atomic : Level.primary ≤ Level.atom := by decide
  have tokens : (Expr.dict entries).tokens =
      between .leftBrace .rightBrace (commas (entries.map pairTokens)) := by
    rw [Expr.tokens, entryTokens_eq]
  cases entries with
  | nil =>
    refine .of_atom atomic ?_ fun n s long _ => rfl
    rw [tokens]
    exact leads_cons atomic (by simp [assignsName, separatedBy])
  | cons x entries =>
    have key := keys x List.mem_cons_self
    have item := first x rfl
    refine .of_atom atomic ?_ fun n s long _ => ?_
    · rw [tokens, List.map_cons, commas, separatedBy, pairTokens, List.append_assoc]
      exact key.leads_between item (by decide) _
    · rw [tokens, length_between] at long
      rw [tokens, append_between]
      obtain ⟨m, rfl⟩ : ∃ k, n = k + 1 := ⟨n - 1, by omega⟩
      have short : ∀ y ∈ x :: entries, (pairTokens y).length ≤ m := fun y hy =>
        Nat.le_trans (length_le_commas (List.mem_map_of_mem hy)) (by omega)
      have shortFirst := short x List.mem_cons_self
      simp only [pairTokens, List.length_append, List.length_cons] at shortFirst
      obtain ⟨after, after_eq⟩ : ∃ after, afterFirst (entries.map pairTokens) .rightBrace s =
        after := ⟨_, rfl⟩
      have ends : EndsItem after.current := after_eq ▸ endsItem_afterFirst _ s closesItems_rightBrace
      have forks : after.seesKeyword .forKw = false := after_eq ▸ seesKeyword_afterFirst _ s _
      have keyRead := key.item_eq_ok (n := m)
        (s := cons (.symbol .colon) (append (x.2.tokensAt Level.test) after)) item (by omega)
        (by decide : EndsItem (.symbol .colon))
      have valueRead := ((values x List.mem_cons_self).at_ (stand x List.mem_cons_self) (by decide)
        (by decide)).test_eq_ok (n := m) (by omega) ends.1
      have rest := morePairs_eq_ok (List.forall_mem_cons.1 keys).2
        (List.forall_mem_cons.1 values).2 more (List.forall_mem_cons.1 stand).2
        (List.forall_mem_cons.1 short).2 s
      rw [after_eq] at rest
      have starts := key.sees_of_item item
        (cons (.symbol .colon) (append (x.2.tokensAt Level.test) after))
      show braceDisplay (nested (m + 1)) (append (commas (_ :: _)) _) = _
      rw [append_commas, after_eq, pairTokens, append_append, append_cons]
      simp only [nested] at rest
      simp [braceDisplay, dictDisplay, nested, starts .rightBrace rfl, starts .doubleStar rfl,
        keyRead, valueRead, forks, rest]

/-! ### Targets -/

/-- An item of a target is written as in a list, which is as if an operand were asked for. -/
theorem Expr.tokensAt_of_isTargetItem (h : e.isTargetItem = true) :
    e.tokensAt Level.test = e.tokensAt Level.bitOr := by
  simp only [Expr.isTargetItem, Bool.and_eq_true, Bool.or_eq_true, beq_iff_eq,
    decide_eq_true_eq] at h
  rcases h.2 with named | high
  · rw [Expr.tokensAt_of_lt (by rw [named]; decide), Expr.tokensAt_of_lt (by rw [named]; decide)]
  · rw [Expr.tokensAt_of_le (Nat.le_trans (by decide) high), Expr.tokensAt_of_le high]

theorem ReadsBack.starOperand_eq_ok (h : ReadsBack e) (item : e.isItem = true)
    (long : (e.tokensAt Level.bitOr).length ≤ n) (last : joinLevel s.current < Level.bitOr) :
    starOperand (bitOr (nested n)) (append (e.tokensAt Level.bitOr) s) = .ok (e, s) := by
  by_cases plain : e.isSubscriptItem = true
  · have read := h.at_ (Expr.standsAt_of_isSubscriptItem item plain Level.bitOr) (by decide)
      (by decide)
    rw [starOperand, sees_of_prefixLevel .star read.leads.prefixLevel_pos]
    exact read.reads long last
  · cases e with
    | starred value =>
      rw [Expr.tokensAt_of_le (Nat.le_refl Level.bitOr), Expr.tokens] at long ⊢
      have read : bitOr (nested n) (append (value.tokensAt Level.bitOr) s) = .ok (value, s) :=
        Reads.reads h (Nat.le_of_succ_le long) last
      rw [append_cons, starOperand, ← Expr.tokensAt]
      simp [read]
    | _ => exact absurd rfl plain

/-- The items of a target are read back, and their tokens are few enough. -/
structure ReadsTarget (n : Nat) (items : List Expr) : Prop where
  reads : ∀ x ∈ items, ReadsBack x
  stand : ∀ x ∈ items, x.isItem = true
  long : ∀ x ∈ items, (x.tokensAt Level.bitOr).length ≤ n

theorem endsTargets_of_startsExpression {t : Token} (h : startsExpression t = true) :
    endsTargets t = false := by
  cases t with
  | symbol symbol => cases symbol <;> first | rfl | cases h
  | keyword k => cases k <;> first | rfl | cases h
  | newline => cases h
  | _ => rfl

theorem Expr.isItem_of_isTargetItem (h : e.isTargetItem = true) : e.isItem = true := by
  simp only [isTargetItem, Bool.and_eq_true] at h
  exact h.1

/-- A further item of a target. -/
def nextTarget (bitOr : Parser Expr) : Parser (Option Expr) := fun s =>
  if s.sees .comma && !endsTargets s.ahead then do
    let (e, s) ← starOperand bitOr s.advance
    return (some e, s)
  else .ok (none, s)

theorem targetList_eq (bitOr : Parser Expr) (s : TokenStream) :
    targetList bitOr s = do
      let (first, s) ← starOperand bitOr s
      let (more, s) ← repeated (nextTarget bitOr) s
      return (first :: more, s) := rfl

theorem ReadsBack.nextTarget_eq_ok (h : ReadsBack e) (item : e.isItem = true)
    (long : (e.tokensAt Level.bitOr).length ≤ n) (last : joinLevel s.current < Level.bitOr) :
    nextTarget (bitOr (nested n)) (append (.symbol .comma :: e.tokensAt Level.bitOr) s) =
      .ok (some e, s) := by
  obtain ⟨t, us, same, starts⟩ := h.startsAt item Level.bitOr
  have goes : endsTargets (append (e.tokensAt Level.bitOr) s).current = false := by
    rw [same]
    exact endsTargets_of_startsExpression starts
  simp [nextTarget, goes, h.starOperand_eq_ok item long last]

/-- One or more items of a target. -/
theorem ReadsTarget.targetList_eq_ok {x : Expr} {items : List Expr}
    (h : ReadsTarget n (x :: items)) (last : joinLevel s.current < Level.bitOr)
    (ends : nextTarget (bitOr (nested n)) s = .ok (none, s)) :
    targetList (bitOr (nested n))
        (append (commas ((x :: items).map (Expr.tokensAt Level.bitOr))) s) =
      .ok (x :: items, s) := by
  have more := repeated_append (fun t => joinLevel t < Level.bitOr)
    (fun y (hy : y ∈ items) s follow =>
      (h.reads y (List.mem_cons_of_mem _ hy)).nextTarget_eq_ok
        (h.stand y (List.mem_cons_of_mem _ hy)) (h.long y (List.mem_cons_of_mem _ hy)) follow)
    (fun y _ => ⟨.symbol .comma, y.tokensAt Level.bitOr, rfl, by decide⟩) last ends
  rw [List.map_id'] at more
  have first : joinLevel (append (items.flatMap fun y => .symbol .comma :: y.tokensAt Level.bitOr)
      s).current < Level.bitOr := by
    cases items with
    | nil => exact last
    | cons y items => exact (by decide : joinLevel (.symbol .comma) < Level.bitOr)
  rw [targetList_eq, List.map_cons, commas, separatedBy, append_append, List.flatMap_map,
    (h.reads x List.mem_cons_self).starOperand_eq_ok (h.stand x List.mem_cons_self)
      (h.long x List.mem_cons_self) first]
  simp [more]

/-- Without parentheses, an expression is one item, one item and a comma, or several items. -/
theorem bareTokens_cases (e : Expr) :
    (e.bareItems = [e] ∧ e.bareTokens = e.tokensAt Level.test) ∨
      (∃ x, e = .tuple [x] ∧ e.bareTokens = x.tokensAt Level.test ++ [.symbol .comma]) ∨
      ∃ x y items, e = .tuple (x :: y :: items) ∧
        e.bareTokens = commas ((x :: y :: items).map (Expr.tokensAt Level.test)) := by
  by_cases tuple : ∃ items, e = .tuple items
  · obtain ⟨items, rfl⟩ := tuple
    match items with
    | [] => exact .inl ⟨rfl, rfl⟩
    | [x] => exact .inr (.inl ⟨x, rfl, bareTokens_tuple [x]⟩)
    | x :: y :: items =>
      refine .inr (.inr ⟨x, y, items, rfl, ?_⟩)
      rw [bareTokens_tuple, tupleTokens_of_two_le (by simp)]
  · have apart : ∀ items, e ≠ .tuple items := fun items same => tuple ⟨items, same⟩
    exact .inl ⟨Expr.bareItems_of_ne apart, bareTokens_of_ne apart⟩

/-- The target of a loop in front of the word behind it. -/
theorem target_eq_ok (h : ∀ x ∈ e.bareItems, ReadsBack x)
    (stand : ∀ x ∈ e.bareItems, x.isTargetItem = true) (long : e.bareTokens.length ≤ n)
    (s : TokenStream) :
    target (bitOr (nested n)) (append e.bareTokens (cons (.keyword .inKw) s)) =
      .ok (e, cons (.keyword .inKw) s) := by
  have word : joinLevel (.keyword .inKw) < Level.bitOr := by decide
  have comma : joinLevel (.symbol .comma) < Level.bitOr := by decide
  have item : ∀ x ∈ e.bareItems, x.isItem = true :=
    fun x hx => Expr.isItem_of_isTargetItem (stand x hx)
  rcases bareTokens_cases e with ⟨items, tokens⟩ | ⟨x, rfl, tokens⟩ | ⟨x, y, items, rfl, tokens⟩
  · rw [items] at h stand item
    rw [Expr.tokensAt_of_isTargetItem (stand e List.mem_cons_self)] at tokens
    rw [tokens] at long ⊢
    have read := ReadsTarget.targetList_eq_ok (s := cons (.keyword .inKw) s)
      ⟨h, item, by simpa using long⟩ word rfl
    simp only [List.map_cons, List.map_nil, commas, separatedBy, List.flatMap_nil,
      List.append_nil] at read
    simp [target, read]
  · rw [Expr.tokensAt_of_isTargetItem (stand x List.mem_cons_self)] at tokens
    rw [tokens, List.length_append] at long
    have short : ∀ z ∈ [x], (z.tokensAt Level.bitOr).length ≤ n := by
      intro z hz
      rw [List.mem_singleton.1 hz]
      omega
    have read := ReadsTarget.targetList_eq_ok
      (s := cons (.symbol .comma) (cons (.keyword .inKw) s)) ⟨h, item, short⟩ comma rfl
    simp only [List.map_cons, List.map_nil, commas, separatedBy, List.flatMap_nil,
      List.append_nil] at read
    simp [tokens, target, read]
  · have same : (x :: y :: items).map (Expr.tokensAt Level.test) =
        (x :: y :: items).map (Expr.tokensAt Level.bitOr) :=
      List.map_congr_left fun z hz => Expr.tokensAt_of_isTargetItem (stand z hz)
    rw [tokens, same] at long ⊢
    have read := ReadsTarget.targetList_eq_ok (s := cons (.keyword .inKw) s)
      ⟨h, item, fun z hz => Nat.le_trans (length_le_commas (List.mem_map_of_mem hz)) long⟩ word rfl
    rw [target, read]
    rfl

/-! ### Clauses -/

theorem clauseCondition_eq_ok (h : ReadsBack e) (stands : e.standsAt Level.disjunction = true)
    (long : (e.tokensAt Level.disjunction).length ≤ n)
    (last : joinLevel s.current < Level.disjunction) :
    clauseCondition (nested (n + 1))
        (append (.keyword .ifKw :: e.tokensAt Level.disjunction) s) = .ok (some e, s) := by
  have read : disjunction (nested n) (append (e.tokensAt Level.disjunction) s) = .ok (e, s) :=
    (h.at_ stands (by decide) (by decide)).reads long last
  simp [clauseCondition, nested, read]

theorem conditions_eq_ok {conditions : List Expr} (h : ∀ x ∈ conditions, ReadsBack x)
    (stand : ∀ x ∈ conditions, x.standsAt Level.disjunction = true)
    (long : (conditionsTokens conditions).length ≤ n) (last : joinLevel s.current = 0) :
    repeated (clauseCondition (nested (n + 1))) (append (conditionsTokens conditions) s) =
      .ok (conditions, s) := by
  have ends : clauseCondition (nested (n + 1)) s = .ok (none, s) := by
    have := seesKeyword_of_joinLevel .ifKw (by rw [last]; decide : joinLevel s.current < _)
    simp [clauseCondition, this]
  rw [conditionsTokens_eq] at long ⊢
  have short : ∀ x ∈ conditions, (x.tokensAt Level.disjunction).length ≤ n := by
    intro x hx
    have := Nat.le_trans (length_le_flatMap hx) long
    rw [List.length_cons] at this
    omega
  have read := repeated_append (fun t => joinLevel t < Level.disjunction)
    (fun x (hx : x ∈ conditions) s follow =>
      clauseCondition_eq_ok (h x hx) (stand x hx) (short x hx) follow)
    (fun x _ => ⟨.keyword .ifKw, x.tokensAt Level.disjunction, rfl, by decide⟩)
    (by rw [last]; decide) ends
  rwa [List.map_id'] at read

/-- The parts of a clause are read back. -/
structure ReadsClause (c : Clause Expr) : Prop where
  target : ∀ x ∈ c.target.bareItems, ReadsBack x
  iter : ReadsBack c.iter
  conditions : ∀ x ∈ c.conditions, ReadsBack x
  stands : c.stands = true

theorem ReadsClause.clause_eq_ok {c : Clause Expr} (h : ReadsClause c)
    (long : c.tokens.length ≤ n + 1) (last : joinLevel s.current = 0) :
    clause (nested (n + 1)) (append c.tokens s) = .ok (some c, s) := by
  have stands := h.stands
  simp only [Clause.stands, Bool.and_eq_true, List.all_eq_true] at stands
  obtain ⟨⟨standsTarget, standsIter⟩, standConditions⟩ := stands
  simp only [Clause.tokens, List.length_cons, List.length_append] at long
  have target := target_eq_ok (n := n) h.target standsTarget (by omega)
    (append (c.iter.tokensAt Level.disjunction) (append (conditionsTokens c.conditions) s))
  have conditions := conditions_eq_ok (n := n) h.conditions standConditions (by omega) last
  have follow : joinLevel (append (conditionsTokens c.conditions) s).current <
      Level.disjunction := by
    rw [conditionsTokens_eq]
    cases c.conditions with
    | nil =>
      rw [List.flatMap_nil, append_nil, last]
      decide
    | cons x rest => exact (by decide : joinLevel (.keyword .ifKw) < Level.disjunction)
  have iter : disjunction (nested n) (append (c.iter.tokensAt Level.disjunction)
      (append (conditionsTokens c.conditions) s)) =
      .ok (c.iter, append (conditionsTokens c.conditions) s) :=
    (h.iter.at_ standsIter (by decide) (by decide)).reads (by omega) follow
  simp only [nested] at conditions
  simp [clause, Clause.tokens, nested, target, iter, conditions]

theorem clauses_eq_ok {clauses : List (Clause Expr)} (h : ∀ c ∈ clauses, ReadsClause c)
    (long : (clausesTokens clauses).length ≤ n + 1) (last : joinLevel s.current = 0)
    (ends : s.seesKeyword .forKw = false) :
    Grammar.clauses (nested (n + 1)) (append (clausesTokens clauses) s) = .ok (clauses, s) := by
  rw [clausesTokens_eq] at long ⊢
  have read := repeated_append (fun t => joinLevel t = 0)
    (fun c (hc : c ∈ clauses) s follow =>
      (h c hc).clause_eq_ok (Nat.le_trans (length_le_flatMap hc) long) follow)
    (fun c _ => ⟨.keyword .forKw, _, rfl, rfl⟩) last
    (show clause (nested (n + 1)) s = .ok (none, s) by simp [clause, ends])
  rwa [List.map_id'] at read

theorem head_clausesTokens {clauses : List (Clause Expr)} (filled : clauses ≠ []) :
    ∃ ts, clausesTokens clauses = .keyword .forKw :: ts := by
  cases clauses with
  | nil => exact absurd rfl filled
  | cons c clauses => exact ⟨_, by rw [clausesTokens_eq, List.flatMap_cons, Clause.tokens]; rfl⟩

/-! ### Comprehensions -/

section Comprehensions

variable {clauses : List (Clause Expr)} (filled : clauses ≠ [])
  (readsClauses : ∀ c ∈ clauses, ReadsClause c)

include filled in
/-- An element in front of clauses. -/
theorem ReadsBack.element_eq_ok (h : ReadsBack e) (item : e.isItem = true)
    (long : (e.tokensAt Level.test).length ≤ n) (s : TokenStream) :
    starItem (bitOr (nested n)) (test (nested n))
        (append (e.tokensAt Level.test) (append (clausesTokens clauses) s)) =
      .ok (e, append (clausesTokens clauses) s) := by
  obtain ⟨ts, same⟩ := head_clausesTokens filled
  refine h.item_eq_ok item long ?_
  rw [same]
  exact (by decide : EndsItem (.keyword .forKw))

include filled in
theorem seesKeyword_clauses (s : TokenStream) :
    (append (clausesTokens clauses) s).seesKeyword .forKw = true := by
  obtain ⟨ts, same⟩ := head_clausesTokens filled
  rw [same]
  rfl

include filled in
theorem sees_clauses (s : TokenStream) (symbol : Symbol) :
    (append (clausesTokens clauses) s).sees symbol = false := by
  obtain ⟨ts, same⟩ := head_clausesTokens filled
  rw [same]
  rfl

include filled readsClauses in
theorem readsOwn_comprehension {kind : ComprehensionKind} (h : ReadsBack e)
    (item : e.isItem = true) : ReadsOwn (.comprehension kind e clauses) := by
  have atomic : Level.primary ≤ Level.atom := by decide
  have tokens : (Expr.comprehension kind e clauses).tokens =
      kind.between (e.tokensAt Level.test ++ clausesTokens clauses) := by
    rw [Expr.tokens, Expr.tokensAt]
  have leads (opening closing : Symbol) (high : Level.primary ≤ prefixLevel (.symbol opening)) :
      Leads Level.primary
        (between opening closing (e.tokensAt Level.test ++ clausesTokens clauses)) :=
    h.leads_between item high _
  refine .of_atom atomic ?_ fun n s long _ => ?_
  · rw [tokens]
    cases kind with
    | list => exact leads _ _ atomic
    | set => exact leads _ _ atomic
    | generator => exact leads _ _ atomic
  · have length : (e.tokensAt Level.test).length + (clausesTokens clauses).length + 2 ≤ n := by
      rw [tokens] at long
      cases kind <;> simpa [ComprehensionKind.between, between, Nat.add_assoc] using long
    obtain ⟨m, rfl⟩ : ∃ k, n = k + 1 := ⟨n - 1, by omega⟩
    have element (s : TokenStream) := h.element_eq_ok (n := m) filled item (by omega) s
    have read (closing : Symbol) (close : ClosesItems closing) :=
      clauses_eq_ok (n := m) (s := cons (.symbol closing) s) readsClauses (by omega) close.ends.1 rfl
    have starts (s : TokenStream) := h.sees_of_item item (append (clausesTokens clauses) s)
    have yields (s : TokenStream) :=
      h.seesKeyword_of_item item (append (clausesTokens clauses) s) .yieldKw rfl
    simp only [nested] at read
    rw [tokens]
    cases kind with
    | list =>
      show atom (nested (m + 1)) (append (between .leftBracket .rightBracket _) s) = _
      simp [append_between, atom, listDisplay, nested, starts _ .rightBracket rfl, element,
        seesKeyword_clauses filled, read _ closesItems_rightBracket]
    | set =>
      show atom (nested (m + 1)) (append (between .leftBrace .rightBrace _) s) = _
      simp [append_between, atom, braceDisplay, nested, starts _ .rightBrace rfl,
        starts _ .doubleStar rfl, element, seesKeyword_clauses filled, sees_clauses filled,
        read _ closesItems_rightBrace]
    | generator =>
      show atom (nested (m + 1)) (append (between .leftParen .rightParen _) s) = _
      simp [append_between, atom, parenthesized, nested, starts _ .rightParen rfl, yields, element,
        seesKeyword_clauses filled, read _ closesItems_rightParen]

include filled readsClauses in
theorem readsOwn_dictComprehension {k v : Expr} (key : ReadsBack k) (item : k.isItem = true)
    (value : ReadsBack v) (stands : v.standsAt Level.test = true) :
    ReadsOwn (.dictComprehension k v clauses) := by
  have atomic : Level.primary ≤ Level.atom := by decide
  have tokens : (Expr.dictComprehension k v clauses).tokens = between .leftBrace .rightBrace
      (k.tokensAt Level.test ++ .symbol .colon ::
        (v.tokensAt Level.test ++ clausesTokens clauses)) := by
    rw [Expr.tokens, Expr.tokensAt, Expr.tokensAt]
  refine .of_atom atomic ?_ fun n s long _ => ?_
  · rw [tokens]
    exact key.leads_between item (by decide) _
  · rw [tokens, length_between] at long
    simp only [List.length_append, List.length_cons] at long
    obtain ⟨m, rfl⟩ : ∃ k, n = k + 1 := ⟨n - 1, by omega⟩
    have keyRead (s : TokenStream) := key.item_eq_ok (n := m) (s := cons (.symbol .colon) s) item
      (by omega) (by decide : EndsItem (.symbol .colon))
    have valueRead : test (nested m) (append (v.tokensAt Level.test)
        (append (clausesTokens clauses) (cons (.symbol .rightBrace) s))) =
        .ok (v, append (clausesTokens clauses) (cons (.symbol .rightBrace) s)) := by
      refine (value.at_ stands (by decide) (by decide)).test_eq_ok (by omega) ?_
      obtain ⟨ts, same⟩ := head_clausesTokens filled
      rw [same]
      rfl
    have read := clauses_eq_ok (n := m) (s := cons (.symbol .rightBrace) s) readsClauses
      (by omega) rfl rfl
    have starts (s : TokenStream) := key.sees_of_item item (cons (.symbol .colon) s)
    simp only [nested] at read
    rw [tokens, append_between]
    show braceDisplay (nested (m + 1)) _ = _
    simp [braceDisplay, dictDisplay, nested, starts _ .rightBrace rfl, starts _ .doubleStar rfl,
      keyRead, valueRead, seesKeyword_clauses filled, read]

end Comprehensions

end RobotCell.Script
