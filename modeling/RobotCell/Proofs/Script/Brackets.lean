import RobotCell.Proofs.Script.LexerRuns
import RobotCell.Proofs.Script.Spans

/-!
# Brackets

The lexer counts open brackets of all kinds together, and its count stops at zero. A stack of kinds
tells more: it is there as long as every bracket is closed by one of its own kind, and then its
height is the count. Where the stack ends empty, the tokens are nested, and each point of them is
outside of all brackets or inside of a pair.

## Main definitions

- `Token.bracket?` — the brackets among the tokens
- `IsNested` — lists of tokens in which brackets are nested and matched by kind
- `openAfter` — the brackets that some tokens leave open
- `Encloses` — a point of a list of tokens is between two brackets that match

## Main results

- `isNested_of_openAfter` — tokens that leave no bracket open are nested
- `encloses_of_openAfter` — a point with an open bracket is inside of a pair
- `Lexer.tokens_of_moves`, `Lexer.depth_of_leads` — what a step and a run do to the count
- `length_of_openAfter` — the count is the height of the stack
-/

namespace RobotCell.Script

/-- The kinds of brackets. -/
inductive BracketKind where
  | round | square | curly
  deriving DecidableEq

/-- A bracket that opens or closes. -/
inductive Bracket where
  | opening (kind : BracketKind)
  | closing (kind : BracketKind)
  deriving DecidableEq

/-- The bracket that the token is. -/
def Token.bracket? : Token → Option Bracket
  | .symbol .leftParen => some (.opening .round)
  | .symbol .leftBracket => some (.opening .square)
  | .symbol .leftBrace => some (.opening .curly)
  | .symbol .rightParen => some (.closing .round)
  | .symbol .rightBracket => some (.closing .square)
  | .symbol .rightBrace => some (.closing .curly)
  | _ => none

/-- The token opens a bracket. -/
def Token.opens (t : Token) : Bool :=
  t.bracket?.any fun
    | .opening _ => true
    | .closing _ => false

/-- The token closes a bracket. -/
def Token.closes (t : Token) : Bool :=
  t.bracket?.any fun
    | .opening _ => false
    | .closing _ => true

/-- The brackets among the tokens are nested, and matched by kind. -/
inductive IsNested : List Token → Prop where
  | nil : IsNested []
  | other {t : Token} {ts : List Token} : t.bracket? = none → IsNested ts → IsNested (t :: ts)
  | pair {first last : Token} {kind : BracketKind} {inner rest : List Token} :
      first.bracket? = some (.opening kind) → last.bracket? = some (.closing kind) →
      IsNested inner → IsNested rest → IsNested (first :: inner ++ last :: rest)

theorem IsNested.append {ts us : List Token} (h : IsNested ts) (later : IsNested us) :
    IsNested (ts ++ us) := by
  induction h with
  | nil => exact later
  | other plain _ ih => exact .other plain ih
  | pair opening closing inner _ _ ih =>
    rw [List.append_assoc]
    exact .pair opening closing inner ih

/-- The point between the tokens `front` and `back` is between two brackets that match. -/
def Encloses (front back : List Token) : Prop :=
  ∃ kind before first inner inner' last after, front = before ++ first :: inner ∧
    back = inner' ++ last :: after ∧ first.bracket? = some (.opening kind) ∧
    last.bracket? = some (.closing kind) ∧ IsNested inner ∧ IsNested inner'

/-! ### The stack of open brackets -/

/-- The open brackets behind a token, innermost first, if the token closes none or the innermost
one. -/
def openBehind (stack : List BracketKind) (t : Token) : Option (List BracketKind) :=
  match t.bracket? with
  | none => some stack
  | some (.opening kind) => some (kind :: stack)
  | some (.closing kind) =>
    match stack with
    | [] => none
    | inner :: outer => if inner = kind then some outer else none

/-- The brackets that are open behind some tokens, innermost first, if none of the tokens closes
another one than the innermost. -/
def openAfter (stack : List BracketKind) (ts : List Token) : Option (List BracketKind) :=
  ts.foldlM openBehind stack

section Stack

variable {stack stack' : List BracketKind} {kind : BracketKind} {t : Token}
  {ts us : List Token}

theorem openAfter_cons : openAfter stack (t :: ts) = (openBehind stack t).bind (openAfter · ts) :=
  List.foldlM_cons

theorem openAfter_append :
    openAfter stack (ts ++ us) = (openAfter stack ts).bind (openAfter · us) :=
  List.foldlM_append

theorem openBehind_of_plain (h : t.bracket? = none) : openBehind stack t = some stack := by
  rw [openBehind, h]

theorem openBehind_of_opening (h : t.bracket? = some (.opening kind)) :
    openBehind stack t = some (kind :: stack) := by
  rw [openBehind, h]

theorem openBehind_of_closing (h : t.bracket? = some (.closing kind)) :
    openBehind (kind :: stack) t = some stack := by
  simp [openBehind, h]

/-- What a token does to the stack. -/
theorem openBehind_cases (h : openBehind stack t = some stack') :
    t.bracket? = none ∧ stack' = stack ∨
      (∃ kind, t.bracket? = some (.opening kind) ∧ stack' = kind :: stack) ∨
      ∃ kind, t.bracket? = some (.closing kind) ∧ stack = kind :: stack' := by
  unfold openBehind at h
  split at h
  · next plain =>
    cases h
    exact .inl ⟨plain, rfl⟩
  · next kind opening =>
    cases h
    exact .inr (.inl ⟨kind, opening, rfl⟩)
  · next kind closing =>
    split at h
    · cases h
    · next inner outer =>
      split_ifs at h with same
      cases h
      exact .inr (.inr ⟨kind, closing, by rw [same]⟩)

/-- Brackets further out make no difference. -/
theorem openAfter_base (h : openAfter stack ts = some stack') (base : List BracketKind) :
    openAfter (stack ++ base) ts = some (stack' ++ base) := by
  induction ts generalizing stack with
  | nil =>
    cases h
    rfl
  | cons t ts ih =>
    rw [openAfter_cons] at h ⊢
    obtain ⟨middle, first, later⟩ := Option.bind_eq_some_iff.1 h
    have further : openBehind (stack ++ base) t = some (middle ++ base) := by
      rcases openBehind_cases first with ⟨plain, rfl⟩ | ⟨kind, opening, rfl⟩ | ⟨kind, closing, rfl⟩
      · exact openBehind_of_plain plain
      · exact openBehind_of_opening opening
      · exact openBehind_of_closing closing
    rw [further, Option.bind_some]
    exact ih later

/-- The innermost bracket is closed where no more than the outer ones are left open in the end. -/
theorem exists_closing_of_openAfter (h : openAfter (kind :: stack) ts = some stack')
    (short : stack'.length ≤ stack.length) :
    ∃ inner last rest, ts = inner ++ last :: rest ∧ last.bracket? = some (.closing kind) ∧
      IsNested inner ∧ openAfter stack rest = some stack' := by
  -- a bracket that opens first is closed first, and what is behind its end is shorter
  induction hn : ts.length using Nat.strong_induction_on generalizing ts kind stack with
  | h n ih =>
    subst hn
    cases ts with
    | nil =>
      cases h
      rw [List.length_cons] at short
      omega
    | cons t ts =>
      rw [openAfter_cons] at h
      obtain ⟨middle, first, later⟩ := Option.bind_eq_some_iff.1 h
      rcases openBehind_cases first with
        ⟨plain, rfl⟩ | ⟨kind', opening, rfl⟩ | ⟨kind', closing, same⟩
      · obtain ⟨inner, last, rest, rfl, closing, nested, left⟩ := ih _ (by simp) later short rfl
        exact ⟨t :: inner, last, rest, rfl, closing, .other plain nested, left⟩
      · obtain ⟨inner, last, rest, rfl, closing, nested, left⟩ :=
          ih _ (by simp) later (by rw [List.length_cons]; omega) rfl
        obtain ⟨inner', last', rest', rfl, closing', nested', left'⟩ :=
          ih _ (by simp only [List.length_append, List.length_cons]; omega) left short rfl
        refine ⟨t :: inner ++ last :: inner', last', rest', by simp, closing', ?_, left'⟩
        exact .pair opening closing nested nested'
      · cases same
        exact ⟨[], t, ts, rfl, closing, .nil, later⟩

/-- Tokens that leave no bracket open are nested. -/
theorem isNested_of_openAfter (h : openAfter [] ts = some []) : IsNested ts := by
  induction hn : ts.length using Nat.strong_induction_on generalizing ts with
  | h n ih =>
    subst hn
    cases ts with
    | nil => exact .nil
    | cons t ts =>
      rw [openAfter_cons] at h
      obtain ⟨middle, first, later⟩ := Option.bind_eq_some_iff.1 h
      rcases openBehind_cases first with ⟨plain, rfl⟩ | ⟨kind, opening, rfl⟩ | ⟨kind, closing, none⟩
      · exact .other plain (ih _ (by simp) later rfl)
      · obtain ⟨inner, last, rest, rfl, closing, nested, left⟩ :=
          exists_closing_of_openAfter later (Nat.le_refl _)
        refine .pair opening closing nested (ih _ ?_ left rfl)
        simp only [List.length_append, List.length_cons]
        omega
      · cases none

/-- The innermost open bracket was opened, and all that was opened behind it is closed. -/
theorem exists_opening_of_openAfter (h : openAfter [] ts = some (kind :: stack)) :
    ∃ before first inner, ts = before ++ first :: inner ∧ first.bracket? = some (.opening kind) ∧
      IsNested inner ∧ openAfter [] before = some stack := by
  induction hn : ts.length using Nat.strong_induction_on generalizing ts kind stack with
  | h n ih =>
    subst hn
    rcases List.eq_nil_or_concat ts with rfl | ⟨ts, t, rfl⟩
    · cases h
    · rw [List.concat_eq_append, openAfter_append] at h
      obtain ⟨middle, front, later⟩ := Option.bind_eq_some_iff.1 h
      rw [openAfter_cons] at later
      obtain ⟨_, last, same⟩ := Option.bind_eq_some_iff.1 later
      cases same
      rw [List.concat_eq_append]
      rcases openBehind_cases last with
        ⟨plain, rfl⟩ | ⟨kind', opening, same⟩ | ⟨kind', closing, rfl⟩
      · obtain ⟨before, first, inner, rfl, opening, nested, left⟩ := ih _ (by simp) front rfl
        refine ⟨before, first, inner ++ [t], by simp, opening, ?_, left⟩
        exact nested.append (.other plain .nil)
      · cases same
        exact ⟨ts, t, [], rfl, opening, .nil, front⟩
      · -- the token closes the innermost bracket of those before it, so the next one is looked for
        obtain ⟨before, first, inner, rfl, opening, nested, left⟩ := ih _ (by simp) front rfl
        obtain ⟨before', first', inner', rfl, opening', nested', left'⟩ :=
          ih _ (by simp) left rfl
        refine ⟨before', first', inner' ++ (first :: inner ++ [t]), by simp, opening', ?_, left'⟩
        exact nested'.append (.pair opening closing nested .nil)

/-- A point at which a bracket is open is inside of a pair, if none is open in the end. -/
theorem encloses_of_openAfter (front : openAfter [] ts = some (kind :: stack))
    (back : openAfter (kind :: stack) us = some []) : Encloses ts us := by
  obtain ⟨before, first, inner, rfl, opening, nested, -⟩ := exists_opening_of_openAfter front
  obtain ⟨inner', last, after, rfl, closing, nested', -⟩ :=
    exists_closing_of_openAfter back (Nat.zero_le _)
  exact ⟨kind, before, first, inner, inner', last, after, rfl, rfl, opening, closing, nested,
    nested'⟩

/-! ### The count of open brackets -/

theorem bracket?_of_isLayout (h : t.isLayout = true) : t.bracket? = none := by
  cases t with
  | newline | indent | dedent | endOfInput => rfl
  | _ => cases h

theorem depthAfter_of_plain {depth : Nat} (h : t.bracket? = none) :
    Lexer.depthAfter depth t = depth := by
  cases t with
  | symbol c =>
    cases c with
    | leftParen | leftBracket | leftBrace | rightParen | rightBracket | rightBrace => cases h
    | _ => rfl
  | _ => rfl

theorem depthAfter_of_opening {depth : Nat} (h : t.bracket? = some (.opening kind)) :
    Lexer.depthAfter depth t = depth + 1 := by
  cases t with
  | symbol c =>
    cases c with
    | leftParen | leftBracket | leftBrace => rfl
    | _ => cases h
  | _ => cases h

theorem depthAfter_of_closing {depth : Nat} (h : t.bracket? = some (.closing kind)) :
    Lexer.depthAfter depth t = depth - 1 := by
  cases t with
  | symbol c =>
    cases c with
    | rightParen | rightBracket | rightBrace => rfl
    | _ => cases h
  | _ => cases h

/-- The count goes up and down with the stack. -/
theorem depthAfter_of_openBehind (h : openBehind stack t = some stack') :
    Lexer.depthAfter stack.length t = stack'.length := by
  rcases openBehind_cases h with ⟨plain, rfl⟩ | ⟨kind, opening, rfl⟩ | ⟨kind, closing, rfl⟩
  · exact depthAfter_of_plain plain
  · exact depthAfter_of_opening opening
  · exact depthAfter_of_closing closing

/-- The count is the height of the stack. -/
theorem length_of_openAfter (h : openAfter stack ts = some stack') :
    ts.foldl Lexer.depthAfter stack.length = stack'.length := by
  induction ts generalizing stack with
  | nil =>
    cases h
    rfl
  | cons t ts ih =>
    rw [openAfter_cons] at h
    obtain ⟨middle, first, later⟩ := Option.bind_eq_some_iff.1 h
    rw [List.foldl_cons, depthAfter_of_openBehind first]
    exact ih later

/-- The stack has what was opened and not closed. -/
theorem countP_opens_of_openAfter (h : openAfter stack ts = some stack') :
    ts.countP Token.opens + stack.length = ts.countP Token.closes + stack'.length := by
  induction ts generalizing stack with
  | nil =>
    cases h
    rfl
  | cons t ts ih =>
    rw [openAfter_cons] at h
    obtain ⟨middle, first, later⟩ := Option.bind_eq_some_iff.1 h
    have rest := ih later
    rw [List.countP_cons, List.countP_cons]
    rcases openBehind_cases first with ⟨plain, rfl⟩ | ⟨kind, opening, rfl⟩ | ⟨kind, closing, rfl⟩
    · simpa [Token.opens, Token.closes, plain] using rest
    · simp only [Token.opens, Token.closes, opening, Option.any_some, List.length_cons] at rest ⊢
      simp only [if_true, Bool.false_eq_true, if_false]
      omega
    · simp only [Token.opens, Token.closes, closing, Option.any_some, List.length_cons] at rest ⊢
      simp only [if_true, Bool.false_eq_true, if_false]
      omega

end Stack

namespace Lexer

variable {s t : Lexer} {r : Step}

theorem foldl_depthAfter_of_isLayout {depth : Nat} {ts : List Token}
    (h : ∀ t ∈ ts, t.isLayout = true) : ts.foldl depthAfter depth = depth := by
  induction ts with
  | nil => rfl
  | cons t ts ih =>
    rw [List.forall_mem_cons] at h
    rw [List.foldl_cons, depthAfter_of_plain (bracket?_of_isLayout h.1)]
    exact ih h.2

/-- A step has layout only, or one other token, which is counted. -/
theorem tokens_of_moves (h : Moves s r) :
    (∀ t ∈ r.tokens.map (·.token), t.isLayout = true) ∧ r.state.depth = s.depth ∨
      ∃ t, r.tokens.map (·.token) = [t] ∧ r.state.depth = depthAfter s.depth t := by
  cases h with
  | close =>
    refine .inl ⟨?_, rfl⟩
    simp only [close, List.map_append, List.map_map, List.mem_append, List.mem_map]
    rintro t ((⟨u, line, rfl⟩ | ⟨_, -, rfl⟩) | ⟨u, last, rfl⟩)
    · split_ifs at line
      · rw [List.mem_singleton.1 line]
        rfl
      · cases line
    · rfl
    · rw [List.mem_singleton.1 last]
      rfl
  | indent => exact .inl ⟨List.forall_mem_singleton.2 rfl, rfl⟩
  | dedent =>
    refine .inl ⟨?_, rfl⟩
    simp only [List.map_map, List.mem_map]
    rintro t ⟨_, -, rfl⟩
    rfl
  | broken => exact .inl ⟨List.forall_mem_nil _, rfl⟩
  | endLine =>
    refine .inl ⟨?_, rfl⟩
    unfold endLine
    dsimp only
    split_ifs
    · exact List.forall_mem_singleton.2 rfl
    · exact List.forall_mem_nil _
  | @lexeme n c rest lexeme => exact .inr ⟨lexeme.token, rfl, rfl⟩
  | stray => exact .inl ⟨List.forall_mem_nil _, rfl⟩

/-- A step counts the brackets among its tokens. -/
theorem depth_of_moves (h : Moves s r) :
    r.state.depth = (r.tokens.map (·.token)).foldl depthAfter s.depth := by
  rcases tokens_of_moves h with ⟨layout, same⟩ | ⟨t, single, counted⟩
  · rw [foldl_depthAfter_of_isLayout layout, same]
  · rw [single, counted]
    rfl

/-- A run counts the brackets among its tokens. -/
theorem depth_of_leads {tokens : List PlacedToken} (h : Leads s tokens t) :
    t.depth = (tokens.map (·.token)).foldl depthAfter s.depth := by
  induction h with
  | refl => rfl
  | @step s t tokens opened ok _ ih =>
    rw [ih, depth_of_moves (moves_step s), List.map_append, List.foldl_append]

end Lexer

end RobotCell.Script
