import RobotCell.Proofs.Outcome
import RobotCell.Proofs.Script.Formed
import RobotCell.Proofs.Script.SoundTokens

/-!
# Expressions that are read are formed

A parser is sound for a property if all that it reads from a stream of spelled tokens has the
property. There is a rule for each combinator, and a statement for each parser of the grammar, in the
order of the grammar. The grammar is tied together as it is defined: the parsers for streams with one
token more are sound if those for the inner expressions are.

## Main definitions

- `Gives` — what an outcome of a parser has, if there is one
- `Sound` — what all that a parser reads has

## Main results

- `Sound.repeated`, `Sound.oneOrMore` — parts read one after another
- `Grammar.isSound_nested` — the expressions that are read are formed
-/

namespace RobotCell.Script

open RobotCell.Text (joinWith)

/-! ### Streams of spelled tokens -/

/-- All tokens of the stream are spelled. -/
def TokenStream.IsSpelled (s : TokenStream) : Prop :=
  s.current.IsSpelled ∧ ∀ t ∈ s.rest, t.IsSpelled

theorem TokenStream.IsSpelled.advance {s : TokenStream} (h : s.IsSpelled) :
    s.advance.IsSpelled := by
  obtain ⟨t, rest⟩ := s
  cases rest with
  | nil => exact h
  | cons u rest => exact List.forall_mem_cons.1 h.2

theorem TokenStream.isSpelled_ofTokens {tokens : List Token} (h : ∀ t ∈ tokens, t.IsSpelled) :
    (TokenStream.ofTokens tokens).IsSpelled := by
  cases tokens with
  | nil => exact ⟨trivial, List.forall_mem_nil _⟩
  | cons t tokens => exact List.forall_mem_cons.1 h

theorem TokenStream.IsSpelled.of_current {s : TokenStream} (h : s.IsSpelled) {t : Token}
    (current : s.current = t) : t.IsSpelled :=
  current ▸ h.1

/-! ### Outcomes and parsers -/

variable {α β : Type} {P : α → Prop} {Q : β → Prop}

theorem forall_mem_none : ∀ a ∈ (none : Option α), P a := by
  rintro _ ⟨⟩

theorem forall_mem_some {a : α} (h : P a) : ∀ b ∈ some a, P b := by
  rintro _ ⟨⟩
  exact h

/-- If the outcome is a success, what was read has the property and the tokens behind it are
spelled. -/
def Gives (P : α → Prop) (outcome : Except Failure (α × TokenStream)) : Prop :=
  ∀ a s, outcome = .ok (a, s) → P a ∧ s.IsSpelled

/-- All that the parser reads from spelled tokens has the property. -/
def Sound (P : α → Prop) (parser : Parser α) : Prop :=
  ∀ s, s.IsSpelled → Gives P (parser s)

theorem gives_ok {a : α} {s : TokenStream} (ha : P a) (hs : s.IsSpelled) :
    Gives P (.ok (a, s)) := by
  rintro _ _ ⟨⟩
  exact ⟨ha, hs⟩

theorem gives_error (f : Failure) : Gives P (.error f) := by
  rintro _ _ ⟨⟩

theorem Gives.bind {x : Except Failure (α × TokenStream)}
    {f : α × TokenStream → Except Failure (β × TokenStream)} (hx : Gives P x)
    (hf : ∀ a s, P a → s.IsSpelled → Gives Q (f (a, s))) : Gives Q (x >>= f) := by
  intro b s h
  obtain ⟨⟨a, s'⟩, read, later⟩ := bind_eq_ok_iff.1 h
  obtain ⟨ha, hs⟩ := hx a s' read
  exact hf a s' ha hs b s later

/-- What follows a choice follows both of its sides. -/
theorem Gives.ite_bind {c : Prop} [Decidable c] {x y : Except Failure (α × TokenStream)}
    {f : α × TokenStream → Except Failure (β × TokenStream)} (h : Gives P (if c then x else y))
    (hf : ∀ a s, P a → s.IsSpelled → Gives Q (f (a, s))) :
    Gives Q (if c then x >>= f else y >>= f) := by
  by_cases hc : c
  · rw [if_pos hc] at h ⊢
    exact h.bind hf
  · rw [if_neg hc] at h ⊢
    exact h.bind hf

theorem gives_expect_bind {t : Token} {s : TokenStream}
    {f : TokenStream → Except Failure (β × TokenStream)} (hs : s.IsSpelled)
    (hf : ∀ s, s.IsSpelled → Gives Q (f s)) : Gives Q (expect t s >>= f) := by
  unfold expect
  split_ifs
  · exact hf _ hs.advance
  · exact gives_error _

theorem gives_expectSymbol_bind {c : Symbol} {s : TokenStream}
    {f : TokenStream → Except Failure (β × TokenStream)} (hs : s.IsSpelled)
    (hf : ∀ s, s.IsSpelled → Gives Q (f s)) : Gives Q (expectSymbol c s >>= f) :=
  gives_expect_bind hs hf

theorem gives_expectKeyword_bind {k : Keyword} {s : TokenStream}
    {f : TokenStream → Except Failure (β × TokenStream)} (hs : s.IsSpelled)
    (hf : ∀ s, s.IsSpelled → Gives Q (f s)) : Gives Q (expectKeyword k s >>= f) := by
  unfold expectKeyword
  split_ifs
  · exact hf _ hs.advance
  · exact gives_error _

theorem sound_expectName : Sound (fun n => isIdentifier n = true) expectName := by
  intro s hs
  unfold expectName
  split
  · next id current => exact gives_ok (hs.of_current current) hs.advance
  · exact gives_error _

/-! ### Repetition -/

theorem Sound.repeatedWithin {part : Parser (Option α)} (h : Sound (fun x => ∀ a ∈ x, P a) part)
    (limit : Nat) : Sound (fun as => ∀ a ∈ as, P a) (repeatedWithin part limit) := by
  induction limit with
  | zero => exact fun s _ => gives_error _
  | succ limit ih =>
    intro s hs
    refine (h s hs).bind fun x s hx hs => ?_
    cases x with
    | none => exact gives_ok (List.forall_mem_nil _) hs
    | some a =>
      refine (ih s hs).bind fun as s has hs => gives_ok ?_ hs
      exact List.forall_mem_cons.2 ⟨hx a rfl, has⟩

theorem Sound.repeated {part : Parser (Option α)} (h : Sound (fun x => ∀ a ∈ x, P a) part) :
    Sound (fun as => ∀ a ∈ as, P a) (repeated part) :=
  fun s hs => h.repeatedWithin _ s hs

theorem Sound.moreItems {item : Parser α} (h : Sound P item) (stop : Token → Bool) :
    Sound (fun as => ∀ a ∈ as, P a) (moreItems stop item) := by
  refine Sound.repeated fun s hs => ?_
  dsimp only
  split_ifs
  · exact gives_ok forall_mem_none hs.advance
  · refine (h _ hs.advance).bind fun a s ha hs => gives_ok ?_ hs
    exact forall_mem_some ha
  · exact gives_ok forall_mem_none hs

theorem Sound.oneOrMore {item : Parser α} (h : Sound P item) (stop : Token → Bool) :
    Sound (fun as => as ≠ [] ∧ ∀ a ∈ as, P a) (oneOrMore stop item) := by
  intro s hs
  refine (h s hs).bind fun first s hfirst hs => ?_
  refine (h.moreItems stop s hs).bind fun more s hmore hs => gives_ok ?_ hs
  exact ⟨List.cons_ne_nil _ _, List.forall_mem_cons.2 ⟨hfirst, hmore⟩⟩

theorem Sound.itemsUpTo {item : Parser α} (h : Sound P item) (closing : Symbol) :
    Sound (fun as => ∀ a ∈ as, P a) (itemsUpTo closing item) := by
  intro s hs
  unfold Script.itemsUpTo
  split_ifs
  · exact gives_ok (List.forall_mem_nil _) hs
  · intro as s read
    obtain ⟨has, hs⟩ := h.oneOrMore _ _ hs as s read
    exact ⟨has.2, hs⟩

/-- An attempt that reads a part where something stands in front of it, and none elsewhere. -/
theorem Sound.optional {part : Parser α} (h : Sound P part) {ahead : TokenStream → Bool} :
    Sound (fun x => ∀ a ∈ x, P a) fun s =>
      if ahead s then do
        let (a, s) ← part s.advance
        return (some a, s)
      else .ok (none, s) := by
  intro s hs
  dsimp only
  split_ifs
  · refine (h _ hs.advance).bind fun a s ha hs => gives_ok ?_ hs
    exact forall_mem_some ha
  · exact gives_ok forall_mem_none hs

/-- The parsers for inner expressions are sound. -/
structure Nested.IsSound (r : Nested) : Prop where
  test : Sound Formed r.test
  disjunction : Sound Formed r.disjunction
  negation : Sound Formed r.negation
  bitOr : Sound Formed r.bitOr
  factor : Sound Formed r.factor

namespace Grammar

/-! ### Literals -/

/-- The literal comes from a text. -/
theorem sound_stringPart : Sound (fun x => ∀ p ∈ x, p.IsLegible) stringPart := by
  intro s hs
  unfold stringPart
  split
  · exact gives_ok (forall_mem_some trivial) hs.advance
  · next text current =>
    refine gives_ok ?_ hs.advance
    exact forall_mem_some (hs.of_current current)
  · exact gives_ok forall_mem_none hs

theorem verbatimTexts_eq (parts : List StringPart) :
    verbatimTexts parts = parts.map StringPart.text := by
  induction parts with
  | nil => rfl
  | cons p parts ih => cases p <;> rw [verbatimTexts, ih, List.map_cons, StringPart.text]

/-- Literals that are joined can be read back. What was merged before the first one that is kept as
it is written is one literal then. -/
theorem isLegible_joinStrings {parts : List StringPart} (h : ∀ p ∈ parts, p.IsLegible)
    (merged : String) : (joinStrings merged parts).IsLegible := by
  induction parts generalizing merged with
  | nil => trivial
  | cons p parts ih =>
    cases p with
    | plain text => exact ih (List.forall_mem_cons.1 h).2 (merged ++ text)
    | verbatim text =>
      let lead : List StringPart := if merged.isEmpty then [] else [.plain merged]
      refine ⟨lead ++ .verbatim text :: parts, by simp, ?_, ?_, ?_⟩
      · refine List.forall_mem_append.2 ⟨?_, h⟩
        intro q hq
        simp only [lead] at hq
        split_ifs at hq
        · cases hq
        · rw [List.mem_singleton.1 hq]
          trivial
      · by_cases empty : merged.isEmpty = true <;>
          simp [lead, empty, verbatimTexts_eq, StringPart.text]
      · by_cases empty : merged.isEmpty = true <;> simp [lead, empty, joinStrings]

theorem sound_strings : Sound Formed strings := by
  intro s hs
  refine (sound_stringPart.repeated s hs).bind fun parts s hparts hs => ?_
  exact gives_ok (.constant (isLegible_joinStrings hparts "")) hs

theorem isLegible_numberConstant {text : String} (h : IsNumber text) :
    (numberConstant text).IsLegible := by
  by_cases float : numberConstant text = .float text
  · rw [float]
    exact ⟨h, float⟩
  · have int : numberConstant text = .int text := by
      unfold numberConstant at float ⊢
      dsimp only at float ⊢
      split_ifs at float ⊢
      · exact absurd rfl float
      · rfl
    rw [int]
    exact ⟨h, int⟩

/-! ### Parts of expressions -/

variable {r : Nested} {p q : Parser Expr}

theorem sound_namedTest (h : Sound Formed p) : Sound Formed (namedTest p) := by
  intro s hs
  unfold namedTest
  split
  · next target current =>
    have identifier := hs.of_current current
    split_ifs
    · refine (h _ hs.advance.advance).bind fun value s hvalue hs => ?_
      exact gives_ok (.named identifier hvalue) hs
    · exact h s hs
  · exact h s hs

theorem sound_starItem (hq : Sound Formed q) (hp : Sound Formed p) :
    Sound Formed (starItem q p) := by
  intro s hs
  unfold starItem
  split_ifs
  · exact (hq _ hs.advance).bind fun value s hvalue hs => gives_ok (.starred hvalue) hs
  · exact sound_namedTest hp s hs

theorem sound_starOperand (h : Sound Formed q) : Sound Formed (starOperand q) := by
  intro s hs
  unfold starOperand
  split_ifs
  · exact (h _ hs.advance).bind fun value s hvalue hs => gives_ok (.starred hvalue) hs
  · exact h s hs

theorem sound_targetList (h : Sound Formed q) :
    Sound (fun ts => ts ≠ [] ∧ ∀ t ∈ ts, Formed t) (targetList q) := by
  intro s hs
  refine (sound_starOperand h s hs).bind fun first s hfirst hs => ?_
  refine ((sound_starOperand h).optional.repeated s hs).bind fun more s hmore hs => ?_
  exact gives_ok ⟨List.cons_ne_nil _ _, List.forall_mem_cons.2 ⟨hfirst, hmore⟩⟩ hs

theorem sound_target (h : Sound Formed q) : Sound Formed (target q) := by
  intro s hs
  refine (sound_targetList h s hs).bind fun targets s htargets hs => ?_
  dsimp only
  split_ifs
  · exact gives_ok (.tuple htargets.2) hs.advance
  · split
    · exact gives_ok (htargets.2 _ (List.mem_singleton_self _)) hs
    · exact gives_ok (.tuple htargets.2) hs

/-- The clause has formed parts. -/
def FormedClause (c : Clause Expr) : Prop :=
  Formed c.target ∧ Formed c.iter ∧ ∀ x ∈ c.conditions, Formed x

theorem sound_clause (h : r.IsSound) : Sound (fun x => ∀ c ∈ x, FormedClause c) (clause r) := by
  intro s hs
  unfold clause
  split_ifs
  · refine (sound_target h.bitOr _ hs.advance).bind fun target s htarget hs => ?_
    refine gives_expectKeyword_bind hs fun s hs => ?_
    refine (h.disjunction s hs).bind fun iter s hiter hs => ?_
    refine (h.disjunction.optional.repeated s hs).bind fun conditions s hconditions hs => ?_
    refine gives_ok ?_ hs
    exact forall_mem_some ⟨htarget, hiter, hconditions⟩
  · exact gives_ok forall_mem_none hs

/-- Where a clause starts there is one. -/
theorem gives_clauses (h : r.IsSound) {s : TokenStream} (hs : s.IsSpelled)
    (starts : s.seesKeyword .forKw = true) :
    Gives (fun cs => cs ≠ [] ∧ ∀ c ∈ cs, FormedClause c) (clauses r s) := by
  intro cs s' read
  obtain ⟨formed, hs'⟩ := (sound_clause h).repeated s hs cs s' read
  refine ⟨⟨?_, formed⟩, hs'⟩
  rintro rfl
  obtain ⟨⟨x, s₁⟩, first, later⟩ := bind_eq_ok_iff.1 read
  cases x with
  | some c =>
    obtain ⟨⟨more, s₂⟩, -, same⟩ := bind_eq_ok_iff.1 later
    cases same
  | none =>
    simp [clause, starts, bind_eq_ok_iff] at first

/-! ### Parameters -/

/-- The parameter has a name and formed parts. -/
structure FormedParam (annotated : Bool) (p : Param Expr) : Prop where
  name : isIdentifier p.name = true
  shaped : p.isShaped annotated = true
  hint : ∀ e ∈ p.hint, Formed e
  preset : ∀ e ∈ p.preset, Formed e

/-- The entry is a lone star, or a parameter that is not yet known to be behind a star. -/
def FormedEntry (annotated : Bool) : ParamEntry → Prop
  | .loneStar => True
  | .param p => FormedParam annotated p ∧ p.kind ≠ .keywordOnly

theorem sound_hint (h : Sound Formed p) (annotated : Bool) :
    Sound (fun x => (annotated || x.isNone) = true ∧ ∀ e ∈ x, Formed e) (hint annotated p) := by
  intro s hs
  unfold hint
  split_ifs with sees
  · rw [Bool.and_eq_true] at sees
    refine (h _ hs.advance).bind fun e s he hs => ?_
    exact gives_ok ⟨by simp [sees.1], forall_mem_some he⟩ hs
  · exact gives_ok ⟨by simp, forall_mem_none⟩ hs

theorem sound_preset (h : Sound Formed p) : Sound (fun x => ∀ e ∈ x, Formed e) (preset p) :=
  h.optional

theorem sound_paramEntry (h : Sound Formed p) (annotated : Bool) :
    Sound (FormedEntry annotated) (paramEntry annotated p) := by
  intro s hs
  unfold paramEntry
  dsimp only
  split_ifs
  · refine (sound_expectName _ hs.advance).bind fun name s hname hs => ?_
    refine (sound_hint h annotated s hs).bind fun hint s hhint hs => gives_ok ?_ hs
    exact ⟨⟨hname, by simpa [Param.isShaped] using hhint.1, hhint.2, forall_mem_none⟩, by simp⟩
  · exact gives_ok trivial hs.advance
  · refine (sound_expectName _ hs.advance).bind fun name s hname hs => ?_
    refine (sound_hint h annotated s hs).bind fun hint s hhint hs => gives_ok ?_ hs
    exact ⟨⟨hname, by simpa [Param.isShaped] using hhint.1, hhint.2, forall_mem_none⟩, by simp⟩
  · exact gives_error _
  · refine (sound_expectName _ hs).bind fun name s hname hs => ?_
    refine (sound_hint h annotated s hs).bind fun hint s hhint hs => ?_
    refine (sound_preset h s hs).bind fun preset s hpreset hs => gives_ok ?_ hs
    exact ⟨⟨hname, by simpa [Param.isShaped] using hhint.1, hhint.2, hpreset⟩, by simp⟩

/-- The parameters of a list are formed, and those behind a star are keyword-only. If a star has been
seen in the list of parameters, it has been seen in the list of entries. -/
theorem formedParam_of_mem_paramsOf {annotated : Bool} {entries : List ParamEntry}
    (h : ∀ x ∈ entries, FormedEntry annotated x) {starSeen afterStar : Bool}
    (seen : starSeen = true → afterStar = true) :
    (∀ p ∈ paramsOf afterStar entries, FormedParam annotated p) ∧
      kindsStand starSeen (paramsOf afterStar entries) = true := by
  induction entries generalizing starSeen afterStar with
  | nil => exact ⟨List.forall_mem_nil _, rfl⟩
  | cons x entries ih =>
    rw [List.forall_mem_cons] at h
    cases x with
    | loneStar => exact ih h.2 fun _ => rfl
    | param p =>
      obtain ⟨formed, kind⟩ := h.1
      by_cases behind : p.kind = .positional ∧ afterStar = true
      · obtain ⟨positional, rfl⟩ := behind
        have step : paramsOf true (.param p :: entries) =
            { p with kind := .keywordOnly } :: paramsOf true entries := by
          simp [paramsOf, positional]
        have shaped : Param.isShaped annotated { p with kind := .keywordOnly } = true := by
          have := formed.shaped
          simp only [Param.isShaped, Bool.and_eq_true] at this ⊢
          exact ⟨this.1, by simp⟩
        obtain ⟨later, kinds⟩ :=
          ih h.2 (fun _ => rfl : starAfter starSeen .keywordOnly = true → true = true)
        rw [step, List.forall_mem_cons]
        exact ⟨⟨⟨formed.name, shaped, formed.hint, formed.preset⟩, later⟩, by simp [kindsStand, kinds]⟩
      · have step : paramsOf afterStar (.param p :: entries) =
            p :: paramsOf (afterStar || p.kind = .varArgs) entries := by
          simp only [paramsOf]
          rw [if_neg (by simpa using behind)]
        have front : (p.kind != .positional || !starSeen) = true := by
          by_contra both
          simp only [Bool.or_eq_true, bne_iff_ne, Bool.not_eq_true', not_or, not_not,
            Bool.not_eq_false] at both
          exact behind ⟨both.1, seen both.2⟩
        have seen' : starAfter starSeen p.kind = true →
            (afterStar || decide (p.kind = .varArgs)) = true := by
          simp only [starAfter, Bool.or_eq_true, decide_eq_true_eq]
          rintro ((before | varArgs) | only)
          · exact .inl (seen before)
          · exact .inr varArgs
          · exact absurd only kind
        obtain ⟨later, kinds⟩ := ih h.2 seen'
        rw [step, List.forall_mem_cons]
        exact ⟨⟨formed, later⟩, by simp only [kindsStand, front, kinds, Bool.and_self]⟩

theorem sound_params (h : Sound Formed p) (closing : Symbol) (annotated : Bool) :
    Sound (fun ps => (∀ p ∈ ps, FormedParam annotated p) ∧ kindsStand false ps = true)
      (params closing annotated p) := by
  intro s hs
  refine ((sound_paramEntry h annotated).itemsUpTo closing s hs).bind fun entries s hentries hs => ?_
  exact gives_ok (formedParam_of_mem_paramsOf hentries id) hs

/-! ### Displays -/

theorem formed_comprehension {kind : ComprehensionKind} {e : Expr} {clauses : List (Clause Expr)}
    (element : Formed e) (h : clauses ≠ [] ∧ ∀ c ∈ clauses, FormedClause c) :
    Formed (.comprehension kind e clauses) :=
  .comprehension element h.1 (fun c hc => (h.2 c hc).1) (fun c hc => (h.2 c hc).2.1)
    (fun c hc => (h.2 c hc).2.2)

theorem sound_parenthesized (h : r.IsSound) : Sound Formed (parenthesized r) := by
  have item := sound_starItem h.bitOr h.test
  intro s hs
  unfold parenthesized
  split_ifs
  · exact gives_ok (.tuple (List.forall_mem_nil _)) hs.advance
  · exact gives_error _
  · refine (item s hs).bind fun first s hfirst hs => ?_
    dsimp only
    split_ifs with starts
    · refine (gives_clauses h hs starts).bind fun clauses s hclauses hs => ?_
      refine gives_expectSymbol_bind hs fun s hs => gives_ok ?_ hs
      exact formed_comprehension hfirst hclauses
    · exact gives_ok hfirst hs.advance
    · refine (item.moreItems _ s hs).bind fun more s hmore hs => ?_
      refine gives_expectSymbol_bind hs fun s hs => gives_ok ?_ hs
      exact .tuple (List.forall_mem_cons.2 ⟨hfirst, hmore⟩)

theorem sound_listDisplay (h : r.IsSound) : Sound Formed (listDisplay r) := by
  have item := sound_starItem h.bitOr h.test
  intro s hs
  unfold listDisplay
  split_ifs
  · exact gives_ok (.list (List.forall_mem_nil _)) hs.advance
  · refine (item s hs).bind fun first s hfirst hs => ?_
    dsimp only
    split_ifs with starts
    · refine (gives_clauses h hs starts).bind fun clauses s hclauses hs => ?_
      refine gives_expectSymbol_bind hs fun s hs => gives_ok ?_ hs
      exact formed_comprehension hfirst hclauses
    · refine (item.moreItems _ s hs).bind fun more s hmore hs => ?_
      refine gives_expectSymbol_bind hs fun s hs => gives_ok ?_ hs
      exact .list (List.forall_mem_cons.2 ⟨hfirst, hmore⟩)

theorem sound_entry (h : r.IsSound) : Sound (fun x => Formed x.1 ∧ Formed x.2) (entry r) := by
  intro s hs
  refine (h.test s hs).bind fun key s hkey hs => ?_
  refine gives_expectSymbol_bind hs fun s hs => ?_
  exact (h.test s hs).bind fun value s hvalue hs => gives_ok ⟨hkey, hvalue⟩ hs

theorem sound_dictDisplay (h : r.IsSound) {key : Expr} (hkey : Formed key) :
    Sound Formed (dictDisplay r key) := by
  intro s hs
  refine (h.test s hs).bind fun value s hvalue hs => ?_
  dsimp only
  split_ifs with starts
  · refine (gives_clauses h hs starts).bind fun clauses s hclauses hs => ?_
    refine gives_expectSymbol_bind hs fun s hs => gives_ok ?_ hs
    exact .dictComprehension hkey hvalue hclauses.1 (fun c hc => (hclauses.2 c hc).1)
      (fun c hc => (hclauses.2 c hc).2.1) (fun c hc => (hclauses.2 c hc).2.2)
  · refine ((sound_entry h).moreItems _ s hs).bind fun more s hmore hs => ?_
    refine gives_expectSymbol_bind hs fun s hs => gives_ok ?_ hs
    have entries : ∀ x ∈ (key, value) :: more, Formed x.1 ∧ Formed x.2 :=
      List.forall_mem_cons.2 ⟨⟨hkey, hvalue⟩, hmore⟩
    exact .dict (fun x hx => (entries x hx).1) (fun x hx => (entries x hx).2)

theorem sound_braceDisplay (h : r.IsSound) : Sound Formed (braceDisplay r) := by
  have item := sound_starItem h.bitOr h.test
  intro s hs
  unfold braceDisplay
  split_ifs
  · exact gives_ok (.dict (List.forall_mem_nil _) (List.forall_mem_nil _)) hs.advance
  · exact gives_error _
  · refine (item s hs).bind fun first s hfirst hs => ?_
    dsimp only
    split_ifs with colon starts
    · exact sound_dictDisplay h hfirst _ hs.advance
    · refine (gives_clauses h hs starts).bind fun clauses s hclauses hs => ?_
      refine gives_expectSymbol_bind hs fun s hs => gives_ok ?_ hs
      exact formed_comprehension hfirst hclauses
    · refine (item.moreItems _ s hs).bind fun more s hmore hs => ?_
      refine gives_expectSymbol_bind hs fun s hs => gives_ok ?_ hs
      exact .set (List.cons_ne_nil _ _) (List.forall_mem_cons.2 ⟨hfirst, hmore⟩)

theorem sound_atom (h : r.IsSound) : Sound Formed (atom r) := by
  intro s hs
  unfold atom
  split
  · next id current => exact gives_ok (.name (hs.of_current current)) hs.advance
  · next text current =>
    exact gives_ok (.constant (isLegible_numberConstant (hs.of_current current))) hs.advance
  · exact sound_strings s hs
  · exact sound_strings s hs
  · exact gives_ok (.constant trivial) hs.advance
  · exact gives_ok (.constant trivial) hs.advance
  · exact gives_ok (.constant trivial) hs.advance
  · exact gives_ok (.constant trivial) hs.advance
  · exact sound_parenthesized h _ hs.advance
  · exact sound_listDisplay h _ hs.advance
  · exact sound_braceDisplay h _ hs.advance
  · exact gives_error _

/-! ### Attributes, calls and subscripts -/

/-- The keyword argument has a name, or none, and a formed value. -/
def FormedArgument (k : Argument Expr) : Prop :=
  (∀ n ∈ k.name, isIdentifier n = true) ∧ Formed k.value

/-- The argument is formed, by position or by keyword. -/
def FormedArg : CallArg → Prop
  | .inl e => Formed e
  | .inr k => FormedArgument k

theorem sound_callArg (h : r.IsSound) : Sound FormedArg (callArg r) := by
  intro s hs
  have positional : Gives FormedArg (namedTest r.test s >>= fun x =>
      if x.2.seesKeyword .forKw then clauses r x.2 >>= fun y =>
        .ok (.inl (.comprehension .generator x.1 y.1), y.2)
      else .ok (.inl x.1, x.2)) := by
    refine (sound_namedTest h.test s hs).bind fun value s hvalue hs => ?_
    dsimp only
    split_ifs with starts
    · refine (gives_clauses h hs starts).bind fun clauses s hclauses hs => gives_ok ?_ hs
      exact formed_comprehension hvalue hclauses
    · exact gives_ok hvalue hs
  unfold callArg
  dsimp only
  split
  · refine (h.test _ hs.advance).bind fun value s hvalue hs => gives_ok ?_ hs
    exact ⟨forall_mem_none, hvalue⟩
  · split
    · refine (h.test _ hs.advance).bind fun value s hvalue hs => gives_ok ?_ hs
      exact Formed.starred hvalue
    · split
      · next arg current =>
        have identifier := hs.of_current current
        split
        · refine (h.test _ hs.advance.advance).bind fun value s hvalue hs => gives_ok ?_ hs
          exact ⟨forall_mem_some identifier, hvalue⟩
        · exact positional
      · exact positional

theorem formed_of_mem_positionals {args : List CallArg} (h : ∀ a ∈ args, FormedArg a) :
    ∀ e ∈ positionals args, Formed e := by
  intro e he
  obtain ⟨a, ha, same⟩ := List.mem_filterMap.1 he
  cases a with
  | inl e' =>
    cases same
    exact h _ ha
  | inr k => cases same

theorem formed_of_mem_keywords {args : List CallArg} (h : ∀ a ∈ args, FormedArg a) :
    ∀ k ∈ keywords args, FormedArgument k := by
  intro k hk
  obtain ⟨a, ha, same⟩ := List.mem_filterMap.1 hk
  cases a with
  | inl e => cases same
  | inr k' =>
    cases same
    exact h _ ha

theorem sound_callArgs (h : r.IsSound) : Sound (fun as => ∀ a ∈ as, FormedArg a) (callArgs r) := by
  intro s hs
  refine ((sound_callArg h).itemsUpTo _ s hs).bind fun args s hargs hs => ?_
  exact gives_expectSymbol_bind hs fun s hs => gives_ok hargs hs

theorem sound_bound (h : r.IsSound) : Sound (fun x => ∀ e ∈ x, Formed e) (bound r) := by
  intro s hs
  unfold bound
  split_ifs
  · exact gives_ok forall_mem_none hs
  · refine (h.test s hs).bind fun e s he hs => gives_ok ?_ hs
    exact forall_mem_some he

theorem sound_sliceStep (h : r.IsSound) : Sound (fun x => ∀ e ∈ x, Formed e) (sliceStep r) := by
  intro s hs
  unfold sliceStep
  split_ifs
  · exact sound_bound h _ hs.advance
  · exact gives_ok forall_mem_none hs

theorem sound_sliceAfter (h : r.IsSound) {lower : Option Expr} (hlower : ∀ e ∈ lower, Formed e) :
    Sound (fun x => ∀ e ∈ x.bounds, Formed e) (sliceAfter r lower) := by
  intro s hs
  refine (sound_bound h s hs).bind fun upper s hupper hs => ?_
  refine (sound_sliceStep h s hs).bind fun step s hstep hs => gives_ok ?_ hs
  intro e he
  simp only [Expr.bounds, List.mem_append, Option.mem_toList] at he
  rcases he with (he | he) | he
  · exact hlower e he
  · exact hupper e he
  · exact hstep e he

theorem sound_subscriptItem (h : r.IsSound) :
    Sound (fun x => ∀ e ∈ x.bounds, Formed e) (subscriptItem r) := by
  intro s hs
  unfold subscriptItem
  split_ifs
  · exact sound_sliceAfter h forall_mem_none _ hs.advance
  · refine (h.test s hs).bind fun value s hvalue hs => ?_
    dsimp only
    split_ifs
    · exact sound_sliceAfter h (forall_mem_some hvalue) _ hs.advance
    · refine gives_ok ?_ hs
      rw [hvalue.bounds_eq]
      exact List.forall_mem_singleton.2 hvalue

theorem sound_subscriptIndex (h : r.IsSound) :
    Sound (fun x => ∀ y ∈ x.indexItems, ∀ e ∈ y.bounds, Formed e) (subscriptIndex r) := by
  intro s hs
  refine (sound_subscriptItem h s hs).bind fun first s hfirst hs => ?_
  dsimp only
  split_ifs
  · refine ((sound_subscriptItem h).moreItems _ s hs).bind fun more s hmore hs => gives_ok ?_ hs
    exact List.forall_mem_cons.2 ⟨hfirst, hmore⟩
  · exact gives_ok (formed_of_mem_indexItems hfirst) hs

/-- What follows an operand is formed. -/
def FormedTrailer : Trailer → Prop
  | .attribute attr => isIdentifier attr = true
  | .call args keywords => (∀ e ∈ args, Formed e) ∧ ∀ k ∈ keywords, FormedArgument k
  | .subscript index => ∀ x ∈ index.indexItems, ∀ y ∈ x.bounds, Formed y

theorem FormedTrailer.attach {e : Expr} {t : Trailer} (h : FormedTrailer t) (he : Formed e) :
    Formed (t.attach e) := by
  match t, h with
  | .attribute attr, h => exact .dotted he h
  | .call args keywords, h =>
    exact .call he h.1 (fun k hk => (h.2 k hk).1) (fun k hk => (h.2 k hk).2)
  | .subscript index, h => exact .subscript he h

theorem formed_foldl_attach {e : Expr} {trailers : List Trailer} (he : Formed e)
    (h : ∀ t ∈ trailers, FormedTrailer t) : Formed (trailers.foldl Trailer.attach e) := by
  induction trailers generalizing e with
  | nil => exact he
  | cons t trailers ih =>
    rw [List.forall_mem_cons] at h
    exact ih (h.1.attach he) h.2

theorem sound_trailer (h : r.IsSound) : Sound (fun x => ∀ t ∈ x, FormedTrailer t) (trailer r) := by
  intro s hs
  unfold trailer
  split
  · refine (sound_expectName _ hs.advance).bind fun attr s hattr hs => gives_ok ?_ hs
    exact forall_mem_some hattr
  · refine (sound_callArgs h _ hs.advance).bind fun args s hargs hs => gives_ok ?_ hs
    exact forall_mem_some ⟨formed_of_mem_positionals hargs, formed_of_mem_keywords hargs⟩
  · refine (sound_subscriptIndex h _ hs.advance).bind fun index s hindex hs => ?_
    refine gives_expectSymbol_bind hs fun s hs => gives_ok ?_ hs
    exact forall_mem_some hindex
  · exact gives_ok forall_mem_none hs

theorem sound_primary (h : r.IsSound) : Sound Formed (primary r) := by
  intro s hs
  refine (sound_atom h s hs).bind fun e s he hs => ?_
  refine ((sound_trailer h).repeated s hs).bind fun trailers s htrailers hs => ?_
  exact gives_ok (formed_foldl_attach he htrailers) hs

/-! ### Operators -/

theorem sound_awaited (h : r.IsSound) : Sound Formed (awaited r) := by
  intro s hs
  unfold awaited
  split_ifs
  · exact (sound_primary h _ hs.advance).bind fun e s he hs => gives_ok (.await he) hs
  · exact sound_primary h s hs

theorem sound_power (h : r.IsSound) : Sound Formed (power r) := by
  intro s hs
  refine (sound_awaited h s hs).bind fun base s hbase hs => ?_
  dsimp only
  split_ifs
  · refine (h.factor _ hs.advance).bind fun exponent s hexponent hs => ?_
    exact gives_ok (.binary hbase hexponent) hs
  · exact gives_ok hbase hs

theorem sound_factor (h : r.IsSound) : Sound Formed (factor r) := by
  intro s hs
  unfold factor
  split
  · refine (h.factor _ hs.advance).bind fun operand s hoperand hs => ?_
    exact gives_ok (.unary hoperand) hs
  · exact sound_power h s hs

theorem sound_operation (h : Sound Formed p) (level : Nat) :
    Sound (fun x => ∀ o ∈ x, Formed o.2) (operation level p) := by
  intro s hs
  unfold operation
  split
  · refine (h _ hs.advance).bind fun right s hright hs => gives_ok ?_ hs
    exact forall_mem_some hright
  · exact gives_ok forall_mem_none hs

theorem formed_leftGrouped {left : Expr} {operations : List (BinaryOp × Expr)}
    (hleft : Formed left) (h : ∀ o ∈ operations, Formed o.2) :
    Formed (leftGrouped left operations) := by
  induction operations generalizing left with
  | nil => exact hleft
  | cons o operations ih =>
    rw [List.forall_mem_cons] at h
    exact ih (.binary hleft h.1) h.2

theorem sound_operations (h : Sound Formed p) (level : Nat) :
    Sound Formed (operations level p) := by
  intro s hs
  refine (h s hs).bind fun left s hleft hs => ?_
  refine ((sound_operation h level).repeated s hs).bind fun more s hmore hs => ?_
  exact gives_ok (formed_leftGrouped hleft hmore) hs

theorem sound_operationsWithin (h : r.IsSound) (n : Nat) : Sound Formed (operationsWithin r n) := by
  induction n with
  | zero => exact sound_factor h
  | succ n ih => exact sound_operations ih _

theorem sound_bitOr (h : r.IsSound) : Sound Formed (bitOr r) :=
  sound_operationsWithin h _

theorem isSpelled_of_comparison? {s s' : TokenStream} {op : CompareOp} (hs : s.IsSpelled)
    (h : comparison? s = some (op, s')) : s'.IsSpelled := by
  have step : s' = s.advance ∨ s' = s.advance.advance := by grind [comparison?]
  rcases step with rfl | rfl
  · exact hs.advance
  · exact hs.advance.advance

theorem sound_comparator (h : r.IsSound) :
    Sound (fun x => ∀ c ∈ x, Formed c.2) (comparator r) := by
  intro s hs
  unfold comparator
  split
  · next op s' compared =>
    refine (sound_bitOr h _ (isSpelled_of_comparison? hs compared)).bind fun e s he hs => ?_
    refine gives_ok ?_ hs
    exact forall_mem_some he
  · exact gives_ok forall_mem_none hs

theorem sound_comparison (h : r.IsSound) : Sound Formed (comparison r) := by
  intro s hs
  refine (sound_bitOr h s hs).bind fun left s hleft hs => ?_
  refine ((sound_comparator h).repeated s hs).bind fun more s hmore hs => ?_
  dsimp only
  split_ifs with none
  · exact gives_ok hleft hs
  · refine gives_ok (.compare hleft (by simpa using none) (by simp) ?_) hs
    exact List.forall_mem_map.2 hmore

theorem sound_negation (h : r.IsSound) : Sound Formed (negation r) := by
  intro s hs
  unfold negation
  split_ifs
  · refine (h.negation _ hs.advance).bind fun operand s hoperand hs => ?_
    exact gives_ok (.unary hoperand) hs
  · exact sound_comparison h s hs

theorem sound_logic (h : Sound Formed p) (op : LogicOp) (word : Keyword) :
    Sound Formed (logic op word p) := by
  intro s hs
  refine (h s hs).bind fun first s hfirst hs => ?_
  refine (h.optional.repeated s hs).bind fun more s hmore hs => ?_
  dsimp only
  split_ifs with none
  · exact gives_ok hfirst hs
  · refine gives_ok (.logic ?_ (List.forall_mem_cons.2 ⟨hfirst, hmore⟩)) hs
    have := List.length_pos_iff.2 (by simpa using none : more ≠ [])
    rw [List.length_cons]
    omega

theorem sound_disjunction (h : r.IsSound) : Sound Formed (disjunction r) :=
  sound_logic (sound_logic (sound_negation h) _ _) _ _

theorem sound_lambda (h : r.IsSound) : Sound Formed (lambda r) := by
  intro s hs
  refine (sound_params h.test _ _ s hs).bind fun params s hparams hs => ?_
  refine gives_expectSymbol_bind hs fun s hs => ?_
  refine (h.test s hs).bind fun body s hbody hs => gives_ok ?_ hs
  exact .lambda (fun p hp => (hparams.1 p hp).name) hparams.2
    (fun p hp => (hparams.1 p hp).shaped) (fun p hp => (hparams.1 p hp).preset) hbody

theorem sound_test (h : r.IsSound) : Sound Formed (test r) := by
  intro s hs
  unfold test
  split_ifs
  · exact sound_lambda h _ hs.advance
  · refine (sound_disjunction h s hs).bind fun body s hbody hs => ?_
    dsimp only
    split_ifs
    · refine (sound_disjunction h _ hs.advance).bind fun test s htest hs => ?_
      refine gives_expectKeyword_bind hs fun s hs => ?_
      refine (h.test s hs).bind fun orelse s horelse hs => ?_
      exact gives_ok (.conditional htest hbody horelse) hs
    · exact gives_ok hbody hs

/-! ### The whole grammar -/

/-- The expressions that are read are formed, whatever the length of the stream. -/
theorem isSound_nested (n : Nat) : (nested n).IsSound := by
  induction n with
  | zero =>
    constructor
    all_goals exact fun s _ => gives_error _
  | succ n ih =>
    exact ⟨sound_test ih, sound_disjunction ih, sound_negation ih, sound_bitOr ih, sound_factor ih⟩

theorem sound_sequence (h : Sound Formed p) : Sound Formed (sequence p) := by
  intro s hs
  refine (h s hs).bind fun first s hfirst hs => ?_
  dsimp only
  split_ifs
  · refine (h.moreItems _ s hs).bind fun more s hmore hs => ?_
    exact gives_ok (.tuple (List.forall_mem_cons.2 ⟨hfirst, hmore⟩)) hs
  · exact gives_ok hfirst hs

end Grammar

end RobotCell.Script
