import RobotCell.Script.Lexeme

/-!
# From text to tokens

The lexer is a machine that goes through the text in steps. At the start of a line it passes over
blank lines and comments and compares the indentation with the open blocks; elsewhere it passes over
a gap and reads one lexeme, or ends the line. A step yields the tokens it finds, and possibly a
fault; after a fault the machine can go on.

## Main definitions

- `PlacedToken` — a token with the place where it starts
- `margin`, `gap` — the lengths of what may stand between two lexemes
- `Lexer` — the state of the machine
- `Lexer.step` — one step
- `tokenize` — all tokens of a text
- `Lexer.Session` — the tokens one at a time, going on after faults
-/

namespace RobotCell.Script

/-- A token with the place where it starts. -/
structure PlacedToken where
  token : Token
  place : Place
  deriving DecidableEq

/-! ### Between lexemes -/

/-- The blank lines, comment lines and indentation at the start of a line, from a point at which the
indentation is `width` wide: the number of characters, and the width of the indentation at their
end. A tab fills up to the next multiple of eight; form feeds and carriage returns have no width. -/
def margin (width : Nat) (comment : Bool) : List Char → Nat × Nat
  | [] => (0, width)
  | c :: rest =>
    let more := fun (r : Nat × Nat) => (r.1 + 1, r.2)
    if c = '\n' then more (margin 0 false rest)
    else if comment then more (margin width true rest)
    else if c = ' ' then more (margin (width + 1) false rest)
    else if c = '\t' then more (margin ((width / 8 + 1) * 8) false rest)
    else if c = '\x0c' ∨ c = '\r' then more (margin width false rest)
    else if c = '#' then more (margin width true rest)
    else (0, width)

/-- The blanks, comments and joined lines before the next lexeme: the number of characters. Inside
brackets the ends of lines count as blanks. If a backslash does not join two lines, the number of
characters before it is given as an error. -/
def gap (bracketed comment : Bool) : List Char → Except Nat Nat
  | [] => .ok 0
  | c :: rest =>
    let more := fun (n : Nat) (r : Except Nat Nat) =>
      match r with
      | .ok k => Except.ok (k + n)
      | .error k => Except.error (k + n)
    if c = '\n' then
      if bracketed then more 1 (gap bracketed false rest) else .ok 0
    else if comment then more 1 (gap bracketed true rest)
    else if c = ' ' ∨ c = '\t' ∨ c = '\r' ∨ c = '\x0c' then more 1 (gap bracketed false rest)
    else if c = '#' then more 1 (gap bracketed true rest)
    else if c = '\\' then
      match rest with
      | '\n' :: rest => more 2 (gap bracketed false rest)
      | '\r' :: '\n' :: rest => more 3 (gap bracketed false rest)
      | _ => .error 0
    else .ok 0

/-! ### The machine -/

/-- The state of the machine. -/
structure Lexer where
  /-- The text still ahead. -/
  rest : List Char
  /-- The place of the first character ahead. -/
  place : Place
  /-- The widths of the open blocks, innermost first. -/
  indents : List Nat
  /-- The number of open brackets. -/
  depth : Nat
  /-- A line is about to start. -/
  lineStart : Bool
  /-- The current line has tokens. -/
  lineUsed : Bool
  /-- All tokens have been given. -/
  closed : Bool

/-- What one step yields: a fault, tokens, and the next state. -/
structure Lexer.Step where
  fault : Option SyntaxError
  tokens : List PlacedToken
  state : Lexer

namespace Lexer

/-- The state before the first character of a text. -/
def start (source : List Char) : Lexer :=
  { rest := source, place := .start, indents := [], depth := 0, lineStart := true,
    lineUsed := false, closed := false }

/-- The state behind the next `n` characters. -/
def forward (s : Lexer) (n : Nat) : Lexer :=
  { s with rest := s.rest.drop n, place := s.place.after (s.rest.take n) }

/-- The token at the current place. -/
def placed (s : Lexer) (t : Token) : PlacedToken := ⟨t, s.place⟩

/-- The end of the text: it ends the line if that has tokens, and all open blocks. -/
def close (s : Lexer) : Step :=
  { fault := none
    tokens := (if s.lineUsed then [s.placed .newline] else []) ++
      s.indents.map (fun _ => s.placed .dedent) ++ [s.placed .endOfInput]
    state := { s with indents := [], lineUsed := false, closed := true } }

/-- A line indented by `width` starts: it opens a block, or ends the blocks that are wider. It must
then be as wide as the innermost block that is left. -/
def alignTo (s : Lexer) (width : Nat) : Step :=
  let s := { s with lineStart := false }
  if s.indents.headD 0 < width then
    { fault := none
      tokens := [s.placed .indent]
      state := { s with indents := width :: s.indents } }
  else
    let ended := s.indents.takeWhile (width < ·)
    let left := s.indents.dropWhile (width < ·)
    { fault := if left.headD 0 = width then none else some ⟨s.place, .unmatchedIndent⟩
      tokens := ended.map fun _ => s.placed .dedent
      state := { s with indents := left } }

/-- The newline at the current place ends the line. -/
def endLine (s : Lexer) : Step :=
  { fault := none
    tokens := if s.lineUsed then [s.placed .newline] else []
    state := { s.forward 1 with lineStart := true, lineUsed := false } }

/-- The number of open brackets after a token. -/
def depthAfter (depth : Nat) : Token → Nat
  | .symbol .leftParen | .symbol .leftBracket | .symbol .leftBrace => depth + 1
  | .symbol .rightParen | .symbol .rightBracket | .symbol .rightBrace => depth - 1
  | _ => depth

/-- The lexeme that starts with the character `c` at the current place and goes on in `rest`. -/
def readLexeme (s : Lexer) (c : Char) (rest : List Char) : Step :=
  match Lexeme.read c rest with
  | .ok lexeme =>
    { fault := none
      tokens := [s.placed lexeme.token]
      state := { s.forward (lexeme.tail + 1) with
        depth := depthAfter s.depth lexeme.token, lineUsed := true } }
  | .error e =>
    { fault := some ⟨(s.forward e.offset).place, e.fault⟩
      tokens := []
      state := s.forward (e.tail + 1) }

/-- A step at the start of a line. -/
def stepMargin (s : Lexer) : Step :=
  let (n, width) := margin 0 false s.rest
  let s := s.forward n
  if s.rest = [] then close { s with lineStart := false } else s.alignTo width

/-- A step inside a line. -/
def stepLine (s : Lexer) : Step :=
  match gap (s.depth > 0) false s.rest with
  | .error n =>
    let s := s.forward n
    { fault := some ⟨s.place, .brokenContinuation⟩, tokens := [], state := s }
  | .ok n =>
    let s := s.forward n
    match s.rest with
    | [] => s.close
    | c :: rest => if c = '\n' then s.endLine else s.readLexeme c rest

/-- One step of a machine that is not closed. -/
def step (s : Lexer) : Step :=
  if s.lineStart then s.stepMargin else s.stepLine

/-! ### Whole texts -/

/-- A bound on the number of steps still to come: two for each character, and one for the start of a
line. -/
def size (s : Lexer) : Nat :=
  2 * s.rest.length + s.lineStart.toNat

theorem stepMargin_size_lt {s : Lexer} {r : Step} (hr : s.stepMargin = r) (h : s.lineStart = true)
    (hc : r.state.closed = false) : r.state.size < s.size := by
  subst hr
  unfold stepMargin at hc ⊢
  generalize margin 0 false s.rest = m at hc ⊢
  by_cases he : (s.forward m.1).rest = []
  · simp [he, close] at hc
  · simp only [he, if_false]
    unfold alignTo
    dsimp only
    split <;>
      (simp only [size, forward, h, List.length_drop, Bool.toNat_true, Bool.toNat_false]; omega)

/-- After a gap and at least one more character the rest is shorter. -/
theorem size_lt_of_ahead {s : Lexer} {n : Nat} {c : Char} {rest : List Char}
    (h : s.lineStart = false) (ahead : (s.forward n).rest = c :: rest) (k : Nat) (b : Bool) :
    2 * ((s.forward n).rest.drop (k + 1)).length + b.toNat < s.size := by
  have total : rest.length + 1 + n ≤ s.rest.length ∨ s.rest.length ≤ n := by
    have := congrArg List.length ahead
    simp only [forward, List.length_drop, List.length_cons] at this
    omega
  have := Bool.toNat_le b
  rw [ahead]
  simp only [size, h, Bool.toNat_false, List.drop_succ_cons, List.length_drop]
  rcases total with total | total
  · omega
  · simp [forward, List.drop_eq_nil_of_le total] at ahead

theorem stepLine_size_lt {s : Lexer} {r : Step} (hr : s.stepLine = r) (h : s.lineStart = false)
    (ok : r.fault = none) (hc : r.state.closed = false) : r.state.size < s.size := by
  unfold stepLine at hr
  split at hr
  · subst hr
    simp at ok
  · rename_i n _
    dsimp only at hr
    split at hr
    · subst hr
      simp [close] at hc
    · rename_i c rest ahead
      split at hr
      · subst hr
        exact size_lt_of_ahead h ahead 0 true
      · unfold readLexeme at hr
        split at hr
        · rename_i lexeme _
          subst hr
          simpa [size, forward, h] using size_lt_of_ahead h ahead lexeme.tail false
        · subst hr
          simp at ok

/-- A step without a fault that does not close the machine brings it nearer to its end. -/
theorem step_size_lt {s : Lexer} (ok : s.step.fault = none) (hc : s.step.state.closed = false) :
    s.step.state.size < s.size := by
  by_cases h : s.lineStart = true
  · have hs : s.step = s.stepMargin := by simp [step, h]
    rw [hs] at hc ⊢
    exact stepMargin_size_lt rfl h hc
  · have hs : s.step = s.stepLine := by simp [step, h]
    rw [hs] at ok hc ⊢
    exact stepLine_size_lt rfl (by simpa using h) ok hc

/-- All tokens from a state on, or the first fault. -/
def run (s : Lexer) : Except SyntaxError (List PlacedToken) :=
  match _ok : s.step.fault with
  | some e => .error e
  | none =>
    if _hc : s.step.state.closed then .ok s.step.tokens
    else (run s.step.state).map (s.step.tokens ++ ·)
termination_by s.size
decreasing_by exact step_size_lt _ok (by simpa using _hc)

/-! ### One token at a time -/

/-- A machine together with the tokens that it has found and not yet handed out. -/
structure Session where
  lexer : Lexer
  queue : List PlacedToken

/-- The next token or fault of a machine that is not closed, and what follows it. -/
def pull (s : Lexer) : Except SyntaxError PlacedToken × Session :=
  match _ok : s.step.fault with
  | some e => (.error e, ⟨s.step.state, s.step.tokens⟩)
  | none =>
    match s.step.tokens with
    | t :: queue => (.ok t, ⟨s.step.state, queue⟩)
    | [] =>
      if _hc : s.step.state.closed then (.ok (s.step.state.placed .endOfInput), ⟨s.step.state, []⟩)
      else pull s.step.state
termination_by s.size
decreasing_by exact step_size_lt _ok (by simpa using _hc)

namespace Session

/-- A session on the given text. -/
def start (source : String) : Session :=
  ⟨Lexer.start source.toList, []⟩

/-- The next token or fault. At the end of the text the final token is repeated. -/
def next (s : Session) : Except SyntaxError PlacedToken × Session :=
  match s.queue with
  | t :: queue => (.ok t, { s with queue })
  | [] =>
    if s.lexer.closed then (.ok (s.lexer.placed .endOfInput), s) else s.lexer.pull

/-- The next `n` tokens and faults. -/
def take : Nat → Session → List (Except SyntaxError PlacedToken)
  | 0, _ => []
  | n + 1, s => s.next.1 :: take n s.next.2

end Session

end Lexer

/-- The tokens of a text, up to and with the token for its end. -/
def tokenize (source : String) : Except SyntaxError (List PlacedToken) :=
  (Lexer.start source.toList).run

end RobotCell.Script
