import RobotCell.Proofs.Script.LexerRuns

/-!
# Readings

What a text is read as, without the places of its tokens or of its fault. Two machines read the same
if each step of one is matched by a step of the other, up to places. That is so if their texts are
scanned alike, step for step: in particular it does not matter where a machine stands, only what is
ahead of it.

## Main definitions

- `reading` — the outcome of a run without places
- `Lexer.Step.Agrees` — two steps with the same outcome, from which the machines go on alike
- `Lexer.ScannedAlike` — related texts are passed over and read alike

## Main results

- `Lexer.reading_run_eq` — machines whose steps agree read the same
- `Lexer.reading_run_of_beside` — so do machines with texts that are scanned alike
- `Lexer.reading_run_of_moved` — a machine reads the same from any place
-/

namespace RobotCell.Script

/-- The tokens of an outcome, or the cause of its fault, without their places. -/
def reading : Except SyntaxError (List PlacedToken) → Except Fault (List Token)
  | .ok tokens => .ok (tokens.map PlacedToken.token)
  | .error e => .error e.fault

namespace Lexer

/-! ### Steps that agree -/

/-- The steps yield the same up to places, and leave machines behind that are related. -/
structure Step.Agrees (R : Lexer → Lexer → Prop) (r r' : Step) : Prop where
  fault : r.fault.map SyntaxError.fault = r'.fault.map SyntaxError.fault
  tokens : r.tokens.map PlacedToken.token = r'.tokens.map PlacedToken.token
  closed : r.state.closed = r'.state.closed
  state : r.fault = none → R r.state r'.state

theorem reading_map_append (tokens : List PlacedToken)
    (outcome : Except SyntaxError (List PlacedToken)) :
    reading (outcome.map (tokens ++ ·)) =
      (reading outcome).map (tokens.map PlacedToken.token ++ ·) := by
  cases outcome with
  | error e => rfl
  | ok more => exact congrArg Except.ok List.map_append

/-- Machines in states from which all steps agree read the same. -/
theorem reading_run_eq {R : Lexer → Lexer → Prop}
    (step : ∀ s t, R s t → s.step.Agrees R t.step) {s t : Lexer} (h : R s t) :
    reading s.run = reading t.run := by
  -- the induction is on the run of the first machine; the second one keeps up with it
  fun_induction run s generalizing t with
  | case1 s e fault =>
    have same := (step s t h).fault
    rw [fault] at same
    obtain ⟨e', fault', cause⟩ := Option.map_eq_some_iff.1 same.symm
    rw [run_eq t, fault']
    exact congrArg Except.error cause.symm
  | case2 s ok closed =>
    have agrees := step s t h
    have ok' : t.step.fault = none := by simpa [ok] using agrees.fault.symm
    rw [run_eq t, ok']
    simp only [← agrees.closed, closed, if_true]
    exact congrArg Except.ok agrees.tokens
  | case3 s ok open_ ih =>
    have agrees := step s t h
    have ok' : t.step.fault = none := by simpa [ok] using agrees.fault.symm
    rw [run_eq t, ok']
    simp only [← agrees.closed, open_]
    rw [if_neg (by simp), reading_map_append, reading_map_append, ih (agrees.state ok),
      agrees.tokens]

/-! ### Texts that are scanned alike -/

section Scanning

variable {ahead : List Char → List Char → Prop} {s t : Lexer}

/-- The machines differ in their places and in their texts at most, and the texts are related. -/
def Beside (ahead : List Char → List Char → Prop) (s t : Lexer) : Prop :=
  ∃ rest place, t = { s with rest, place } ∧ ahead s.rest rest

/-- The texts behind two gaps go on alike: they end both, a line ends in both, or the same lexeme or
the same fault comes next. What is left of them is related. -/
inductive MeetAlike (ahead : List Char → List Char → Prop) : List Char → List Char → Prop
  | done (later : ahead [] []) : MeetAlike ahead [] []
  | line {a b : List Char} (later : ahead a b) : MeetAlike ahead ('\n' :: a) ('\n' :: b)
  | lexeme {c : Char} {a b : List Char} {l : Lexeme} (inside : c ≠ '\n')
      (read : Lexeme.read c a = .ok l) (read' : Lexeme.read c b = .ok l)
      (later : ahead (a.drop l.tail) (b.drop l.tail)) : MeetAlike ahead (c :: a) (c :: b)
  | fault {c : Char} {a b : List Char} {e e' : LexFault} (inside : c ≠ '\n')
      (read : Lexeme.read c a = .error e) (read' : Lexeme.read c b = .error e')
      (same : e.fault = e'.fault) : MeetAlike ahead (c :: a) (c :: b)

/-- Two gaps end alike: both texts go on alike, or both have a backslash that joins no lines. -/
inductive GapsAlike (ahead : List Char → List Char → Prop) (a b : List Char) :
    Except Nat Nat → Except Nat Nat → Prop
  | passed {n m : Nat} (met : MeetAlike ahead (a.drop n) (b.drop m)) :
      GapsAlike ahead a b (.ok n) (.ok m)
  | broken {n m : Nat} : GapsAlike ahead a b (.error n) (.error m)

/-- Related texts are passed over and read alike. -/
structure ScannedAlike (ahead : List Char → List Char → Prop) : Prop where
  done : ∀ {a b}, ahead a b → (a = [] ↔ b = [])
  width : ∀ {a b}, ahead a b → (margin 0 false a).2 = (margin 0 false b).2
  margin : ∀ {a b}, ahead a b →
    ahead (a.drop (margin 0 false a).1) (b.drop (margin 0 false b).1)
  gap : ∀ {a b}, ahead a b → ∀ bracketed,
    GapsAlike ahead a b (gap bracketed false a) (gap bracketed false b)

theorem Beside.related (h : Beside ahead s t) : ahead s.rest t.rest := by
  obtain ⟨rest, place, rfl, related⟩ := h
  exact related

theorem Beside.forward {later : List Char → List Char → Prop} (h : Beside ahead s t) {n m : Nat}
    (related : later (s.rest.drop n) (t.rest.drop m)) : Beside later (s.forward n) (t.forward m) := by
  obtain ⟨rest, place, rfl, -⟩ := h
  exact ⟨_, _, rfl, related⟩

theorem agrees_close (h : Beside ahead s t) : s.close.Agrees (Beside ahead) t.close := by
  obtain ⟨rest, place, rfl, related⟩ := h
  refine ⟨rfl, ?_, rfl, fun _ => ⟨rest, place, rfl, related⟩⟩
  cases used : s.lineUsed <;> simp [close, placed, used]

theorem agrees_alignTo (h : Beside ahead s t) (width : Nat) :
    (s.alignTo width).Agrees (Beside ahead) (t.alignTo width) := by
  obtain ⟨rest, place, rfl, related⟩ := h
  unfold alignTo
  dsimp only
  split
  · exact ⟨rfl, rfl, rfl, fun _ => ⟨rest, place, rfl, related⟩⟩
  · refine ⟨?_, ?_, rfl, fun _ => ⟨rest, place, rfl, related⟩⟩
    · dsimp only
      split_ifs <;> rfl
    · simp [placed]

theorem agrees_stepMargin (alike : ScannedAlike ahead) (h : Beside ahead s t) :
    s.stepMargin.Agrees (Beside ahead) t.stepMargin := by
  have moved := h.forward (alike.margin h.related)
  have ends := alike.done moved.related
  unfold stepMargin
  dsimp only
  rw [← alike.width h.related]
  by_cases done : (s.forward (margin 0 false s.rest).1).rest = []
  · rw [if_pos done, if_pos (ends.1 done)]
    obtain ⟨rest, place, same, related⟩ := moved
    exact agrees_close ⟨rest, place, by rw [same], related⟩
  · rw [if_neg done, if_neg (mt ends.2 done)]
    exact agrees_alignTo moved _

/-- A step behind a gap. -/
def stepBehindGap (s : Lexer) : Step :=
  match s.rest with
  | [] => s.close
  | c :: rest => if c = '\n' then s.endLine else s.readLexeme c rest

theorem agrees_stepBehindGap (h : Beside (MeetAlike ahead) s t) :
    s.stepBehindGap.Agrees (Beside ahead) t.stepBehindGap := by
  obtain ⟨rest, place, rfl, met⟩ := h
  unfold stepBehindGap
  generalize same : s.rest = text at met ⊢
  cases met with
  | done later =>
    exact agrees_close ⟨[], place, rfl, same ▸ later⟩
  | line later =>
    dsimp only
    rw [if_pos rfl, if_pos rfl]
    refine ⟨rfl, ?_, rfl, fun _ => ⟨_, _, rfl, ?_⟩⟩
    · cases used : s.lineUsed <;> simp [endLine, placed, used]
    · simpa [endLine, forward, same] using later
  | lexeme inside read read' later =>
    dsimp only
    rw [if_neg inside, if_neg inside, readLexeme, readLexeme, read, read']
    refine ⟨rfl, rfl, rfl, fun _ => ⟨_, _, rfl, ?_⟩⟩
    simpa [forward, same] using later
  | fault inside read read' cause =>
    dsimp only
    rw [if_neg inside, if_neg inside, readLexeme, readLexeme, read, read']
    exact ⟨congrArg some cause, rfl, rfl, fun ok => by cases ok⟩

theorem agrees_stepLine (alike : ScannedAlike ahead) (h : Beside ahead s t) :
    s.stepLine.Agrees (Beside ahead) t.stepLine := by
  have depth : t.depth = s.depth := by
    obtain ⟨rest, place, rfl, -⟩ := h
    rfl
  have closed : t.closed = s.closed := by
    obtain ⟨rest, place, rfl, -⟩ := h
    rfl
  have gaps := alike.gap h.related (decide (s.depth > 0))
  unfold stepLine
  rw [depth]
  generalize gap (decide (s.depth > 0)) false s.rest = r at gaps ⊢
  generalize gap (decide (s.depth > 0)) false t.rest = r' at gaps ⊢
  cases gaps with
  | broken => exact ⟨rfl, rfl, closed.symm, fun ok => by cases ok⟩
  | passed met => exact agrees_stepBehindGap (h.forward met)

theorem agrees_step (alike : ScannedAlike ahead) (h : Beside ahead s t) :
    s.step.Agrees (Beside ahead) t.step := by
  have starts : t.lineStart = s.lineStart := by
    obtain ⟨rest, place, rfl, -⟩ := h
    rfl
  unfold step
  rw [starts]
  split_ifs
  · exact agrees_stepMargin alike h
  · exact agrees_stepLine alike h

/-- Machines with texts that are scanned alike read the same. -/
theorem reading_run_of_beside (alike : ScannedAlike ahead) (h : Beside ahead s t) :
    reading s.run = reading t.run :=
  reading_run_eq (fun _ _ => agrees_step alike) h

end Scanning

/-! ### Places -/

/-- The machines differ in their places at most. -/
def Moved (s t : Lexer) : Prop :=
  ∃ place, t = { s with place }

theorem meetAlike_self (text : List Char) : MeetAlike Eq text text := by
  cases text with
  | nil => exact .done rfl
  | cons c rest =>
    by_cases line : c = '\n'
    · subst line
      exact .line rfl
    · cases read : Lexeme.read c rest with
      | ok l => exact .lexeme line read read rfl
      | error e => exact .fault line read read rfl

/-- A text is scanned as itself. -/
theorem scannedAlike_eq : ScannedAlike Eq where
  done same := by rw [same]
  width same := by rw [same]
  margin same := by rw [same]
  gap := by
    rintro text _ rfl bracketed
    cases gap bracketed false text with
    | ok n => exact .passed (meetAlike_self _)
    | error n => exact .broken

/-- A machine reads the same from any place. -/
theorem reading_run_of_moved {s t : Lexer} (h : Moved s t) : reading s.run = reading t.run := by
  obtain ⟨place, rfl⟩ := h
  exact reading_run_of_beside scannedAlike_eq ⟨_, place, rfl, rfl⟩

end Lexer

end RobotCell.Script
