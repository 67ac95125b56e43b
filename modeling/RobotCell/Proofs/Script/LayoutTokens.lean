import RobotCell.Proofs.Script.LexerRuns
import RobotCell.Proofs.Script.ProgressStmt

/-!
# The layout tokens of a text

The tokens of a text follow a small grammar, whatever the text is: lines of lexemes with a newline
behind each, and between the lines the starts and the ends of blocks, which match. What holds
of two neighbouring tokens, of a front of the list and of the whole list follows from the grammar.

## Main definitions

- `LaidOut` — the grammar of layout tokens
- `BalancedLayout` — what it means for a list of tokens

## Main results

- `Lexer.lays_of_moves`, `Lexer.lays_of_leads` — a step and a run of the lexer keep to the grammar
- `balancedLayout_of_tokenize` — the layout tokens of a text are balanced
-/

namespace RobotCell.Script

/-- Tokens from a point on at which `n` blocks are open and the line has tokens, or has none yet. -/
inductive LaidOut : (n : Nat) → (used : Bool) → List Token → Prop where
  | lexeme {n : Nat} {used : Bool} {t : Token} {ts : List Token} :
      t.isLayout = false → LaidOut n true ts → LaidOut n used (t :: ts)
  | newline {n : Nat} {ts : List Token} : LaidOut n false ts → LaidOut n true (.newline :: ts)
  | indent {n : Nat} {ts : List Token} : LaidOut (n + 1) false ts → LaidOut n false (.indent :: ts)
  | dedent {n : Nat} {ts : List Token} : LaidOut n false ts → LaidOut (n + 1) false (.dedent :: ts)
  | last : LaidOut 0 false [.endOfInput]

namespace LaidOut

variable {n : Nat} {used : Bool} {t : Token} {ts before after : List Token}

/-- Blocks end one after another. -/
theorem dedents (ended : List Nat) (h : LaidOut n false ts) :
    LaidOut (ended.length + n) false (ended.map (fun _ => .dedent) ++ ts) := by
  induction ended with
  | nil => simpa using h
  | cons width ended ih =>
    rw [List.length_cons, Nat.add_right_comm]
    exact .dedent ih

/-! ### Blocks -/

theorem count_dedent (h : LaidOut n used ts) : ts.count .dedent = ts.count .indent + n := by
  induction h with
  | lexeme spelled _ ih =>
    rw [List.count_cons_of_ne (by rintro rfl; cases spelled),
      List.count_cons_of_ne (by rintro rfl; cases spelled), ih]
  | newline _ ih => simpa using ih
  | indent _ ih =>
    rw [List.count_cons_of_ne (by decide), List.count_cons_self, ih]
    omega
  | dedent _ ih =>
    rw [List.count_cons_self, List.count_cons_of_ne (by decide), ih]
    omega
  | last => rfl

/-- A front of the tokens ends no more blocks than were open and it has started. -/
theorem count_dedent_le (h : LaidOut n used ts) (front : before <+: ts) :
    before.count .dedent ≤ before.count .indent + n := by
  obtain ⟨after, rfl⟩ := front
  induction before generalizing n used with
  | nil => simp
  | cons t before ih =>
    rw [List.cons_append] at h
    generalize same : before ++ after = rest at h
    cases h with
    | lexeme spelled later =>
      rw [List.count_cons_of_ne (by rintro rfl; cases spelled),
        List.count_cons_of_ne (by rintro rfl; cases spelled)]
      exact ih (same ▸ later)
    | newline later => simpa using ih (same ▸ later)
    | indent later =>
      have := ih (same ▸ later)
      rw [List.count_cons_of_ne (by decide), List.count_cons_self]
      omega
    | dedent later =>
      have := ih (same ▸ later)
      rw [List.count_cons_self, List.count_cons_of_ne (by decide)]
      omega
    | last =>
      rw [(List.append_eq_nil_iff.1 same).1]
      simp

/-! ### Lines -/

/-- The end is the last token. Behind any other token the line has tokens exactly if this was a
lexeme. -/
theorem behind (h : LaidOut n used (before ++ t :: after)) :
    t = .endOfInput ∧ after = [] ∨
      t ≠ .endOfInput ∧ ∃ m, LaidOut m (!t.isLayout) after := by
  induction before generalizing n used with
  | nil =>
    cases h with
    | lexeme spelled later =>
      have other : t ≠ .endOfInput := by
        rintro rfl
        cases spelled
      exact .inr ⟨other, n, by rwa [spelled]⟩
    | newline later => exact .inr ⟨by simp, _, later⟩
    | indent later => exact .inr ⟨by simp, _, later⟩
    | dedent later => exact .inr ⟨by simp, _, later⟩
    | last => exact .inl ⟨rfl, rfl⟩
  | cons u before ih =>
    rw [List.cons_append] at h
    generalize same : before ++ t :: after = rest at h
    cases h with
    | lexeme _ later => exact ih (same ▸ later)
    | newline later => exact ih (same ▸ later)
    | indent later => exact ih (same ▸ later)
    | dedent later => exact ih (same ▸ later)
    | last => simp at same

/-- In front of a newline there is a lexeme, if the list does not start with the newline. -/
theorem isLayout_of_newline (h : LaidOut n used (before ++ t :: .newline :: after)) :
    t.isLayout = false := by
  obtain ⟨-, none⟩ | ⟨-, m, later⟩ := h.behind
  · cases none
  · generalize flag : (!t.isLayout) = used at later
    cases later with
    | lexeme spelled => cases spelled
    | newline => simpa using flag

end LaidOut

/-! ### The lexer -/

namespace Lexer

/-- The tokens are laid out from the state on; the closed machine has no tokens to come. -/
def Lays (s : Lexer) (ts : List Token) : Prop :=
  if s.closed then ts = [] else LaidOut s.indents.length s.lineUsed ts

/-- A line that is about to start has no tokens. -/
def IsFresh (s : Lexer) : Prop :=
  s.lineStart = true → s.lineUsed = false

variable {s t : Lexer} {r : Step} {ts : List Token}

theorem lays_of_open (opened : s.closed = false) :
    s.Lays ts ↔ LaidOut s.indents.length s.lineUsed ts := by
  rw [Lays, if_neg (by simp [opened])]

theorem Lays.laidOut (h : s.Lays ts) (opened : s.closed = false) :
    LaidOut s.indents.length s.lineUsed ts :=
  (lays_of_open opened).1 h

theorem lays_close (opened : s.closed = false) : s.Lays (s.close.tokens.map (·.token)) := by
  rw [lays_of_open opened]
  have blocks := LaidOut.last.dedents s.indents
  unfold close
  dsimp only
  split_ifs with used
  · rw [used]
    simpa [placed, Function.comp_def] using LaidOut.newline blocks
  · rw [Bool.eq_false_of_not_eq_true used]
    simpa [placed, Function.comp_def] using blocks

theorem isFresh_of_moves (h : Moves s r) (fresh : s.IsFresh) : r.state.IsFresh := by
  cases h with
  | close | indent | dedent => exact fun starts => absurd starts (by simp [close])
  | broken => exact fresh
  | endLine => exact fun _ => rfl
  | lexeme inside => exact fun starts => absurd (inside.symm.trans starts) (by simp)
  | stray => exact fresh

/-- A step puts its tokens in front of those to come. -/
theorem lays_of_moves (h : Moves s r) (opened : s.closed = false) (fresh : s.IsFresh)
    (ok : r.fault = none) (later : r.state.Lays ts) : s.Lays (r.tokens.map (·.token) ++ ts) := by
  cases h with
  | @close n done =>
    obtain rfl : ts = [] := later
    rw [List.append_nil]
    exact lays_close (s := { s.forward n with lineStart := false }) opened
  | indent starts =>
    have later : LaidOut (s.indents.length + 1) s.lineUsed ts := Lays.laidOut later opened
    rw [fresh starts] at later
    rw [lays_of_open opened, fresh starts]
    exact .indent later
  | @dedent n ended left fault starts blocks =>
    have later : LaidOut left.length s.lineUsed ts := Lays.laidOut later opened
    rw [fresh starts] at later
    rw [lays_of_open opened, fresh starts, blocks, List.length_append, List.map_map]
    exact later.dedents ended
  | broken => cases ok
  | endLine =>
    have later := Lays.laidOut later opened
    rw [lays_of_open opened]
    unfold endLine
    dsimp only
    split_ifs with used
    · rw [show s.lineUsed = true from used]
      exact .newline later
    · rw [show s.lineUsed = false from Bool.eq_false_of_not_eq_true used]
      exact later
  | lexeme inside ahead read =>
    obtain ⟨text, -, -, -, spelled⟩ := Lexeme.isSpelledIn_read read
    have later := Lays.laidOut later opened
    rw [lays_of_open opened]
    exact .lexeme spelled.isLayout_eq_false later
  | stray => cases ok

/-- A run puts its tokens in front of those to come. -/
theorem lays_of_leads {tokens : List PlacedToken} (h : Leads s tokens t) (fresh : s.IsFresh)
    (later : t.Lays ts) : s.Lays (tokens.map (·.token) ++ ts) := by
  induction h with
  | refl => exact later
  | @step s t tokens opened ok _ ih =>
    have moves := moves_step s
    rw [List.map_append, List.append_assoc]
    exact lays_of_moves moves opened fresh ok (ih (isFresh_of_moves moves fresh) later)

end Lexer

theorem laidOut_of_tokenize {source : String} {tokens : List PlacedToken}
    (h : tokenize source = .ok tokens) : LaidOut 0 false (tokens.map (·.token)) := by
  obtain ⟨t, closed, leads⟩ := Lexer.exists_leads_of_run_eq_ok rfl h
  have last : t.Lays [] := by
    rw [Lexer.Lays, if_pos closed]
  have laid := Lexer.lays_of_leads leads (fun _ => rfl) last
  rw [List.append_nil] at laid
  exact (Lexer.lays_of_open rfl).1 laid

/-! ### Balanced tokens -/

/-- The tokens of lines and blocks are balanced in the list. -/
structure BalancedLayout (tokens : List Token) : Prop where
  /-- The end of the script is the last token and stands nowhere else. -/
  ends : EndsOnce tokens
  /-- No more blocks end than have started. -/
  opened : ∀ before, before <+: tokens → before.count .dedent ≤ before.count .indent
  /-- All blocks end. -/
  closed : tokens.count .dedent = tokens.count .indent
  /-- Between two ends of lines there is a lexeme. -/
  filled : ∀ before between after, tokens = before ++ .newline :: between ++ .newline :: after →
    ∃ t ∈ between, t.isLayout = false
  /-- A block starts or ends at the start of the text, behind a line, or behind another such
  token. -/
  apart : ∀ before t u after, tokens = before ++ t :: u :: after → u = .indent ∨ u = .dedent →
    t = .newline ∨ t = .indent ∨ t = .dedent
  /-- The last lexeme ends its line. -/
  finished : ∀ before t after, tokens = before ++ t :: after → t.isLayout = false →
    (∀ u ∈ after, u.isLayout = true) → ∃ later, after = .newline :: later

/-- In every text that can be divided into tokens, the tokens of lines and blocks are balanced. -/
theorem balancedLayout_of_tokenize {source : String} {tokens : List PlacedToken}
    (h : tokenize source = .ok tokens) : BalancedLayout (tokens.map (·.token)) := by
  have laid := laidOut_of_tokenize h
  refine ⟨endsOnce_of_tokenize h, fun before front => laid.count_dedent_le front, laid.count_dedent,
    fun before between after whole => ?_, fun before t u after whole block => ?_,
    fun before t after whole spelled layout => ?_⟩
  · rw [whole] at laid
    rcases List.eq_nil_or_concat between with rfl | ⟨between, t, rfl⟩
    · rw [List.append_assoc] at laid
      cases laid.isLayout_of_newline
    · refine ⟨t, by simp, ?_⟩
      rw [List.concat_eq_append, ← List.cons_append, ← List.append_assoc, List.append_assoc] at laid
      exact laid.isLayout_of_newline
  · rw [whole] at laid
    obtain ⟨-, none⟩ | ⟨other, m, later⟩ := laid.behind
    · cases none
    · have layout : t.isLayout = true := by
        generalize flag : (!t.isLayout) = used at later
        rcases block with rfl | rfl
        · cases later with
          | lexeme spelled => cases spelled
          | indent => simpa using flag
        · cases later with
          | lexeme spelled => cases spelled
          | dedent => simpa using flag
      cases t with
      | newline | indent | dedent => simp
      | endOfInput => exact absurd rfl other
      | _ => cases layout
  · rw [whole] at laid
    obtain ⟨rfl, -⟩ | ⟨-, m, later⟩ := laid.behind
    · cases spelled
    · rw [spelled] at later
      cases later with
      | lexeme other => exact absurd (layout _ List.mem_cons_self) (by simp [other])
      | newline later => exact ⟨_, rfl⟩

/-- A text whose first line is indented, with a comment between brackets of different kinds, and
without a newline at its end. -/
def slantedSource : String := "\tif (x:\n# c\n y]\n\t \\\n\nz"

/-- Its tokens. -/
def slantedTokens : List Token :=
  [.indent, .keyword .ifKw, .symbol .leftParen, .name "x", .symbol .colon, .name "y",
    .symbol .rightBracket, .newline, .indent, .dedent, .dedent, .name "z", .newline, .endOfInput]

theorem balancedLayout_slantedSource :
    ∃ tokens, tokenize slantedSource = .ok tokens ∧ tokens.map (·.token) = slantedTokens ∧
      BalancedLayout (tokens.map (·.token)) := by
  have read : (tokenize slantedSource).toOption.map (·.map (·.token)) = some slantedTokens := by
    decide +kernel
  cases h : tokenize slantedSource with
  | error e => simp [h, Except.toOption] at read
  | ok tokens =>
    rw [h] at read
    exact ⟨tokens, rfl, Option.some.inj read, balancedLayout_of_tokenize h⟩

end RobotCell.Script
