import RobotCell.Proofs.Script.Scanning

/-!
# Steps and runs of the lexer

What one step of the lexer can do is said here once, by a relation with a case for each kind of
step. A run is a sequence of steps without faults; a text has tokens if a run goes up to the closed
machine, and a fault if a run goes up to a step with one.

## Main definitions

- `Lexer.Moves` — the steps from a state
- `Lexer.Leads` — runs without faults, with the tokens that they yield

## Main results

- `Lexer.moves_step` — a step is one of the cases
- `Lexer.exists_leads_of_run_eq_ok`, `Lexer.exists_leads_of_run_eq_error` — how a run ends
-/

namespace RobotCell.Script.Lexer

/-- A step that the machine may take. Each one passes over `n` characters first. -/
inductive Moves (s : Lexer) : Step → Prop where
  /-- The text ends. -/
  | close {n : Nat} (done : (s.forward n).rest = []) :
      Moves s { s.forward n with lineStart := false }.close
  /-- A line opens a block. -/
  | indent {n width : Nat} (starts : s.lineStart = true) :
      Moves s ⟨none, [(s.forward n).placed .indent],
        { s.forward n with lineStart := false, indents := width :: s.indents }⟩
  /-- A line ends the innermost blocks, if any, and may be in line with none of the others. -/
  | dedent {n : Nat} {ended left : List Nat} {fault : Option SyntaxError}
      (starts : s.lineStart = true) (blocks : s.indents = ended ++ left)
      (faulty : ∀ e ∈ fault, e.place = (s.forward n).place) :
      Moves s ⟨fault, ended.map fun _ => (s.forward n).placed .dedent,
        { s.forward n with lineStart := false, indents := left }⟩
  /-- A backslash joins no lines. -/
  | broken {n : Nat} (inside : s.lineStart = false) :
      Moves s ⟨some ⟨(s.forward n).place, .brokenContinuation⟩, [], s.forward n⟩
  /-- A line ends. -/
  | endLine {n : Nat} {rest : List Char} (inside : s.lineStart = false)
      (ahead : (s.forward n).rest = '\n' :: rest) : Moves s (s.forward n).endLine
  /-- A lexeme is read. -/
  | lexeme {n : Nat} {c : Char} {rest : List Char} {lexeme : Lexeme} (inside : s.lineStart = false)
      (ahead : (s.forward n).rest = c :: rest) (read : Lexeme.read c rest = .ok lexeme) :
      Moves s ⟨none, [(s.forward n).placed lexeme.token],
        { (s.forward n).forward (lexeme.tail + 1) with
          depth := depthAfter s.depth lexeme.token, lineUsed := true }⟩
  /-- There is no lexeme. -/
  | stray {n : Nat} {c : Char} {rest : List Char} {e : LexFault} (inside : s.lineStart = false)
      (ahead : (s.forward n).rest = c :: rest) (read : Lexeme.read c rest = .error e) :
      Moves s ⟨some ⟨((s.forward n).forward e.offset).place, e.fault⟩, [],
        (s.forward n).forward (e.tail + 1)⟩

theorem moves_stepMargin {s : Lexer} (starts : s.lineStart = true) : Moves s s.stepMargin := by
  unfold stepMargin
  dsimp only
  split_ifs with done
  · exact .close done
  · unfold alignTo
    dsimp only
    split
    · exact .indent starts
    · refine .dedent starts List.takeWhile_append_dropWhile.symm fun e fault => ?_
      split_ifs at fault
      · cases fault
      · cases fault
        rfl

theorem moves_stepLine {s : Lexer} (inside : s.lineStart = false) : Moves s s.stepLine := by
  unfold stepLine
  split
  · exact .broken inside
  · next n _ =>
    dsimp only
    split
    · next done =>
      -- the flag for the start of a line is down already
      have same : { s.forward n with lineStart := false } = s.forward n := by
        simp only [forward, inside]
      exact same ▸ .close done
    · next c rest ahead =>
      split_ifs with line
      · subst c
        exact .endLine inside ahead
      · unfold readLexeme
        split
        · next read => exact .lexeme inside ahead read
        · next read => exact .stray inside ahead read

theorem moves_step (s : Lexer) : Moves s s.step := by
  unfold step
  split_ifs with starts
  · exact moves_stepMargin starts
  · exact moves_stepLine (Bool.eq_false_of_not_eq_true starts)

/-! ### Runs -/

/-- The machine goes from one state to another in steps without faults that yield the tokens. -/
inductive Leads : Lexer → List PlacedToken → Lexer → Prop where
  | refl (s : Lexer) : Leads s [] s
  | step {s t : Lexer} {tokens : List PlacedToken} (opened : s.closed = false)
      (ok : s.step.fault = none) (later : Leads s.step.state tokens t) :
      Leads s (s.step.tokens ++ tokens) t

/-- A run with tokens ends in the closed machine. -/
theorem exists_leads_of_run_eq_ok {s : Lexer} {tokens : List PlacedToken}
    (opened : s.closed = false) (h : s.run = .ok tokens) :
    ∃ t, t.closed = true ∧ Leads s tokens t := by
  fun_induction run s generalizing tokens with
  | case1 => cases h
  | case2 s ok closed =>
    cases h
    refine ⟨_, closed, ?_⟩
    simpa using Leads.step opened ok (.refl _)
  | case3 s ok open_ ih =>
    cases later : s.step.state.run with
    | error e =>
      rw [later] at h
      cases h
    | ok more =>
      rw [later] at h
      cases h
      obtain ⟨t, closed, leads⟩ := ih (Bool.eq_false_of_not_eq_true open_) later
      exact ⟨t, closed, .step opened ok leads⟩

/-- A run with a fault ends before a step that has the fault. -/
theorem exists_leads_of_run_eq_error {s : Lexer} {e : SyntaxError} (opened : s.closed = false)
    (h : s.run = .error e) :
    ∃ tokens t, t.closed = false ∧ Leads s tokens t ∧ t.step.fault = some e := by
  fun_induction run s with
  | case1 s e' fault =>
    cases h
    exact ⟨[], s, opened, .refl s, fault⟩
  | case2 => cases h
  | case3 s ok open_ ih =>
    cases later : s.step.state.run with
    | ok more =>
      rw [later] at h
      cases h
    | error e' =>
      rw [later] at h
      cases h
      obtain ⟨tokens, t, opened', leads, fault⟩ := ih (Bool.eq_false_of_not_eq_true open_) later
      exact ⟨_, t, opened', .step opened ok leads, fault⟩

/-- There is one run from a state. If it ends in the closed machine, every state on the way is
before that. -/
theorem Leads.exists_later {s t u : Lexer} {front tokens : List PlacedToken} (h : Leads s front t)
    (whole : Leads s tokens u) (closed : u.closed = true) :
    ∃ back, tokens = front ++ back ∧ Leads t back u := by
  induction h generalizing tokens with
  | refl s => exact ⟨tokens, rfl, whole⟩
  | step opened ok _ ih =>
    cases whole with
    | refl => exact absurd closed (Bool.eq_false_iff.1 opened)
    | step _ _ later =>
      obtain ⟨back, rfl, leads⟩ := ih later
      exact ⟨back, (List.append_assoc _ _ _).symm, leads⟩

end RobotCell.Script.Lexer
