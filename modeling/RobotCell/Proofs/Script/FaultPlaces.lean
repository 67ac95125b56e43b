import RobotCell.Proofs.Script.LexerRuns
import RobotCell.Proofs.Script.ProgressStmt

/-!
# Faults stand at places of the text

The lexer counts lines and columns as it goes, so its state always stands somewhere in the text, and
so do the tokens and the faults that it finds. The grammar reports a fault at one of the tokens.

## Main definitions

- `IsPlaceIn` — the places of a text
- `Lexer.StandsIn` — the machine is somewhere in a text

## Main results

- `Lexer.standsIn_of_moves`, `Lexer.standsIn_of_leads` — the machine stays in the text
- `isPlaceIn_of_parse_eq_error` — the fault of a text that is no script is at a place of the text
-/

namespace RobotCell.Script

/-- The place of a character of the text, or the one behind its last character. -/
def IsPlaceIn (source : List Char) (p : Place) : Prop :=
  ∃ n ≤ source.length, p = .behind (source.take n)

theorem Place.behind_after (before text : List Char) :
    (Place.behind before).after text = .behind (before ++ text) := by
  rw [← Place.after_start, ← Place.after_start, Place.after_append]

/-! ### The lexer -/

namespace Lexer

/-- The text falls into what the machine has passed over, which ends at its place, and what is still
ahead. -/
def StandsIn (source : List Char) (s : Lexer) : Prop :=
  ∃ before, source = before ++ s.rest ∧ s.place = .behind before

variable {source : List Char} {s t : Lexer} {r : Step}

theorem standsIn_start (source : List Char) : (start source).StandsIn source :=
  ⟨[], rfl, rfl⟩

namespace StandsIn

theorem isPlaceIn (h : s.StandsIn source) : IsPlaceIn source s.place := by
  obtain ⟨before, rfl, place⟩ := h
  refine ⟨before.length, by simp, ?_⟩
  rw [place, List.take_left]

theorem forward (h : s.StandsIn source) (n : Nat) : (s.forward n).StandsIn source := by
  obtain ⟨before, rfl, place⟩ := h
  refine ⟨before ++ s.rest.take n, ?_, ?_⟩
  · rw [List.append_assoc, Lexer.forward, List.take_append_drop]
  · rw [Lexer.forward, place, Place.behind_after]

end StandsIn

theorem isPlaceIn_of_mem_close (h : s.StandsIn source) {t : PlacedToken} (ht : t ∈ s.close.tokens) :
    IsPlaceIn source t.place := by
  -- all tokens of the step are at the end of the text
  have same : t.place = s.place := by
    simp only [close, List.mem_append, List.mem_map, List.mem_singleton] at ht
    rcases ht with (line | ⟨_, -, rfl⟩) | rfl
    · split_ifs at line
      · rw [List.mem_singleton.1 line]
        rfl
      · cases line
    · rfl
    · rfl
  exact same ▸ h.isPlaceIn

theorem isPlaceIn_of_mem_endLine (h : s.StandsIn source) {t : PlacedToken}
    (ht : t ∈ s.endLine.tokens) : IsPlaceIn source t.place := by
  unfold endLine at ht
  dsimp only at ht
  split_ifs at ht
  · rw [List.mem_singleton.1 ht]
    exact h.isPlaceIn
  · cases ht

/-- A step leaves the machine in the text, and finds its tokens and its fault there. -/
theorem standsIn_of_moves (h : Moves s r) (stands : s.StandsIn source) :
    r.state.StandsIn source ∧ (∀ t ∈ r.tokens, IsPlaceIn source t.place) ∧
      ∀ e ∈ r.fault, IsPlaceIn source e.place := by
  cases h with
  | @close n done =>
    have there := stands.forward n
    exact ⟨there, fun t ht => isPlaceIn_of_mem_close (s := { s.forward n with lineStart := false })
      there ht, by rintro _ ⟨⟩⟩
  | @indent n =>
    have there := stands.forward n
    exact ⟨there, List.forall_mem_singleton.2 there.isPlaceIn, by rintro _ ⟨⟩⟩
  | @dedent n ended left fault starts blocks faulty =>
    have there := stands.forward n
    refine ⟨there, List.forall_mem_map.2 fun _ _ => there.isPlaceIn, fun e he => ?_⟩
    rw [faulty e he]
    exact there.isPlaceIn
  | @broken n =>
    have there := stands.forward n
    refine ⟨there, List.forall_mem_nil _, ?_⟩
    rintro _ ⟨⟩
    exact there.isPlaceIn
  | @endLine n =>
    have there := stands.forward n
    exact ⟨there.forward 1, fun t => isPlaceIn_of_mem_endLine there, by rintro _ ⟨⟩⟩
  | @lexeme n c rest lexeme =>
    have there := stands.forward n
    exact ⟨there.forward (lexeme.tail + 1), List.forall_mem_singleton.2 there.isPlaceIn,
      by rintro _ ⟨⟩⟩
  | @stray n c rest e =>
    have there := stands.forward n
    refine ⟨there.forward (e.tail + 1), List.forall_mem_nil _, ?_⟩
    rintro _ ⟨⟩
    exact (there.forward e.offset).isPlaceIn

/-- A run leaves the machine in the text, and finds its tokens there. -/
theorem standsIn_of_leads {tokens : List PlacedToken} (h : Leads s tokens t)
    (stands : s.StandsIn source) :
    t.StandsIn source ∧ ∀ u ∈ tokens, IsPlaceIn source u.place := by
  induction h with
  | refl => exact ⟨stands, List.forall_mem_nil _⟩
  | @step s t tokens opened ok _ ih =>
    obtain ⟨there, found, -⟩ := standsIn_of_moves (moves_step s) stands
    obtain ⟨last, later⟩ := ih there
    exact ⟨last, List.forall_mem_append.2 ⟨found, later⟩⟩

end Lexer

/-! ### Texts -/

theorem isPlaceIn_of_tokenize_eq_ok {source : String} {tokens : List PlacedToken}
    (h : tokenize source = .ok tokens) : ∀ t ∈ tokens, IsPlaceIn source.toList t.place := by
  obtain ⟨_, -, leads⟩ := Lexer.exists_leads_of_run_eq_ok rfl h
  exact (Lexer.standsIn_of_leads leads (Lexer.standsIn_start _)).2

theorem isPlaceIn_of_tokenize_eq_error {source : String} {e : SyntaxError}
    (h : tokenize source = .error e) : IsPlaceIn source.toList e.place := by
  obtain ⟨_, s, -, leads, fault⟩ := Lexer.exists_leads_of_run_eq_error rfl h
  have stands := (Lexer.standsIn_of_leads leads (Lexer.standsIn_start _)).1
  exact (Lexer.standsIn_of_moves (Lexer.moves_step s) stands).2.2 e fault

/-- A script that cannot be read from tokens has its fault at one of them. -/
theorem place_mem_of_parseTokens_eq_error {tokens : List PlacedToken} {e : SyntaxError}
    (ended : EndsOnce (tokens.map (·.token))) (h : parseTokens tokens = .error e) :
    e.place ∈ tokens.map (·.place) := by
  obtain ⟨f, failed, rfl⟩ := runParser_eq_error h
  have through := Grammar.goesThrough (ended.reaches [])
  rw [List.append_nil] at through
  obtain ⟨-, t, reached, -, behind⟩ := through.fails f (.inl failed)
  refine Failure.place_mem ?_
  rw [behind]
  refine Nat.lt_of_le_of_lt reached.length_rest_le ?_
  cases tokens with
  | nil =>
    obtain ⟨front, -, none⟩ := ended
    simp at none
  | cons t tokens => simp [TokenStream.ofTokens]

/-- The fault of a text that is no script is at the line and the column of one of its characters, or
right behind the last one. -/
theorem isPlaceIn_of_parse_eq_error {source : String} {e : SyntaxError}
    (h : parse source = .error e) : IsPlaceIn source.toList e.place := by
  unfold parse at h
  cases read : tokenize source with
  | error e' =>
    rw [read] at h
    cases h
    exact isPlaceIn_of_tokenize_eq_error read
  | ok tokens =>
    rw [read] at h
    have mem := place_mem_of_parseTokens_eq_error (endsOnce_of_tokenize read) h
    obtain ⟨t, ht, place⟩ := List.mem_map.1 mem
    exact place ▸ isPlaceIn_of_tokenize_eq_ok read t ht

/-- Where a text is no script. -/
def faultPlace? (source : String) : Option Place :=
  match parse source with
  | .ok _ => none
  | .error e => some e.place

/-- A word behind a literal that spans two lines. -/
def strayWordSource : String := "if x:\n  y = '''a\nb''' z\n"

theorem isPlaceIn_strayWordSource :
    faultPlace? strayWordSource = some ⟨3, 6⟩ ∧ IsPlaceIn strayWordSource.toList ⟨3, 6⟩ := by
  have found : faultPlace? strayWordSource = some ⟨3, 6⟩ := by decide +kernel
  refine ⟨found, ?_⟩
  cases h : parse strayWordSource with
  | ok script =>
    rw [faultPlace?, h] at found
    cases found
  | error e =>
    have place := isPlaceIn_of_parse_eq_error h
    rw [faultPlace?, h] at found
    rwa [Option.some.inj found] at place

end RobotCell.Script
