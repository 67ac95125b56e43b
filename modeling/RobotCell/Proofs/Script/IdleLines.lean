import RobotCell.Proofs.Script.Layout
import RobotCell.Proofs.Script.Lookahead
import RobotCell.Proofs.Script.Readings

/-!
# Lines without tokens

Blank lines and comments may be put in wherever the lexer stands at the start of a line, without any
change to what is read. Up to there the lexer takes the same steps, since it looks at nothing behind
the end of a line; there it passes over the new lines, and goes on from another place only.

## Main definitions

- `IsIdleLine`, `AreIdleLines` — lines of blanks that may end in a comment
- `Lexer.ComesToLine` — on its way, the machine stands at the start of a line

## Main results

- `Lexer.stepsOver_step` — a step in front of whole lines, whatever stands behind those
- `Lexer.Leads.reading_insert` — lines without tokens may be put in where a run comes to a line
- `reading_insert_idleLines` — so they may in a whole text
-/

namespace RobotCell.Script

/-! ### Idle lines -/

/-- The line is made of blanks, perhaps a comment behind them, and the newline that ends it. -/
def IsIdleLine (line : List Char) : Prop :=
  ∃ blanks comment, line = blanks ++ (comment ++ ['\n']) ∧
    (∀ c ∈ blanks, c ∈ [' ', '\t', '\x0c', '\r']) ∧
    (comment = [] ∨ ∃ text, comment = '#' :: text ∧ '\n' ∉ text)

/-- The text is made of such lines. -/
def AreIdleLines (text : List Char) : Prop :=
  ∃ lines : List (List Char), text = lines.flatten ∧ ∀ line ∈ lines, IsIdleLine line

theorem margin_hash (width : Nat) (cs : List Char) :
    margin width false ('#' :: cs) = ((margin width true cs).1 + 1, (margin width true cs).2) := by
  simp [margin]

/-- The width that blanks add up to is forgotten at the end of the line. -/
theorem margin_idleLine {blanks comment : List Char}
    (blank : ∀ c ∈ blanks, c ∈ [' ', '\t', '\x0c', '\r'])
    (single : comment = [] ∨ ∃ text, comment = '#' :: text ∧ '\n' ∉ text)
    (width : Nat) (text : List Char) :
    margin width false (blanks ++ (comment ++ '\n' :: text)) =
      ((margin 0 false text).1 + (blanks.length + (comment.length + 1)),
        (margin 0 false text).2) := by
  induction blanks generalizing width with
  | nil =>
    rcases single with rfl | ⟨cs, rfl, single⟩
    · simp [margin_newline]
    · rw [List.nil_append, List.cons_append, margin_hash, margin_comment single]
      simp only [List.length_nil, List.length_cons, Prod.mk.injEq, and_true]
      omega
  | cons c blanks ih =>
    have inner := ih fun d mem => blank d (List.mem_cons_of_mem c mem)
    have first := blank c List.mem_cons_self
    simp only [List.mem_cons, List.not_mem_nil, or_false] at first
    rw [List.cons_append, margin]
    rcases first with rfl | rfl | rfl | rfl <;>
      simp [inner] <;> omega

theorem IsIdleLine.isBlankLines {line : List Char} (h : IsIdleLine line) : IsBlankLines line := by
  obtain ⟨blanks, comment, rfl, blank, single⟩ := h
  intro text
  have whole : blanks ++ (comment ++ ['\n']) ++ text = blanks ++ (comment ++ '\n' :: text) := by
    simp
  rw [whole, margin_idleLine blank single]
  simp

theorem AreIdleLines.isBlankLines {text : List Char} (h : AreIdleLines text) :
    IsBlankLines text := by
  obtain ⟨lines, rfl, idle⟩ := h
  induction lines with
  | nil => exact isBlankLines_nil
  | cons line lines ih =>
    rw [List.flatten_cons]
    have first := (idle line List.mem_cons_self).isBlankLines
    exact first.append (ih fun l mem => idle l (List.mem_cons_of_mem line mem))

/-- The text is empty or ends with a newline. -/
def EndsLine (text : List Char) : Prop :=
  ∀ c ∈ text.getLast?, c = '\n'

theorem EndsLine.append {first second : List Char} (ends : EndsLine second) (filled : second ≠ []) :
    EndsLine (first ++ second) := by
  intro c mem
  rw [List.getLast?_append_of_ne_nil _ filled] at mem
  exact ends c mem

theorem EndsLine.exists_eq {text : List Char} (ends : EndsLine text) (filled : text ≠ []) :
    ∃ front, text = front ++ ['\n'] := by
  refine ⟨text.dropLast, ?_⟩
  have last := ends _ (List.getLast?_eq_some_getLast filled)
  rw [← last, List.dropLast_append_getLast]

theorem endsLine_concat (front : List Char) : EndsLine (front ++ ['\n']) := by
  intro c mem
  rw [List.getLast?_concat] at mem
  exact (Option.some.inj mem).symm

theorem AreIdleLines.endsLine {text : List Char} (h : AreIdleLines text) : EndsLine text := by
  obtain ⟨lines, rfl, idle⟩ := h
  rcases List.eq_nil_or_concat' lines with rfl | ⟨lines, line, rfl⟩
  · simp [EndsLine]
  · obtain ⟨blanks, comment, rfl, -⟩ := idle line (by simp)
    have whole : (lines ++ [blanks ++ (comment ++ ['\n'])]).flatten =
        lines.flatten ++ blanks ++ comment ++ ['\n'] := by
      simp
    rw [whole]
    exact endsLine_concat _

namespace Lexer

variable {s : Lexer} {passed rest left tail : List Char} {c : Char}

/-! ### Steps in front of any text -/

theorem step_of_lineStart (starts : s.lineStart = true) : s.step = s.stepMargin :=
  if_pos starts

theorem step_of_inside (inside : s.lineStart = false) : s.step = s.stepLine :=
  if_neg (Bool.eq_false_iff.1 inside)

theorem forward_passed (ahead : s.rest = passed ++ rest) :
    s.forward passed.length = { s with rest := rest, place := s.place.after passed } := by
  simp [forward, ahead]

theorem exists_passed_of_forward {n : Nat} (ahead : (s.forward n).rest = c :: rest) :
    ∃ passed, s.rest = passed ++ c :: rest ∧ n = passed.length := by
  refine ⟨s.rest.take n, ?_, ?_⟩
  · rw [← ahead]
    exact (List.take_append_drop n s.rest).symm
  · have filled := congrArg List.length ahead
    simp only [forward, List.length_drop, List.length_cons] at filled
    rw [List.length_take]
    omega

/-- A block is opened or ended without a look at the text. -/
theorem alignTo_rest (s : Lexer) (width : Nat) (rest rest' : List Char) :
    { s with rest }.alignTo width =
      ⟨({ s with rest := rest' }.alignTo width).fault,
        ({ s with rest := rest' }.alignTo width).tokens,
        { ({ s with rest := rest' }.alignTo width).state with rest }⟩ := by
  unfold alignTo
  dsimp only
  split_ifs <;> rfl

theorem stepMargin_eq {width : Nat} (ahead : s.rest = passed ++ c :: rest)
    (indented : margin 0 false s.rest = (passed.length, width)) :
    s.stepMargin =
      { s with rest := c :: rest, place := s.place.after passed }.alignTo width := by
  rw [stepMargin, indented]
  dsimp only
  rw [forward_passed ahead, if_neg (List.cons_ne_nil c rest)]

theorem stepLine_eq (ahead : s.rest = passed ++ c :: rest)
    (blank : gap (s.depth > 0) false s.rest = .ok passed.length) :
    s.stepLine =
      if c = '\n' then { s with rest := c :: rest, place := s.place.after passed }.endLine
      else { s with rest := c :: rest, place := s.place.after passed }.readLexeme c rest := by
  rw [stepLine, blank]
  dsimp only
  rw [forward_passed ahead]

/-- The machine reads the text up to the end of a line in one step, whatever stands behind: with any
other text there it takes the same step. -/
def StepsOver (s : Lexer) (left tail : List Char) : Prop :=
  ∃ before, s.rest = before ++ tail ∧ before ≠ [] ∧ EndsLine before ∧
    ∀ tail', { s with rest := before ++ tail' }.step =
      ⟨none, s.step.tokens, { s.step.state with rest := left ++ tail' }⟩

/-- At the start of a line, a step that goes on comes to a character behind the margin. -/
theorem exists_margin (starts : s.lineStart = true) (opened : s.step.state.closed = false) :
    ∃ passed c more width, s.rest = passed ++ c :: more ∧
      margin 0 false s.rest = (passed.length, width) := by
  rw [step_of_lineStart starts, stepMargin] at opened
  by_cases done : (s.forward (margin 0 false s.rest).1).rest = []
  · simp [done, close] at opened
  · obtain ⟨c, more, behind⟩ := List.exists_cons_of_ne_nil done
    obtain ⟨passed, text, counted⟩ := exists_passed_of_forward behind
    exact ⟨passed, c, more, _, text, Prod.ext counted rfl⟩

theorem stepsOver_of_margin (starts : s.lineStart = true) (ok : s.step.fault = none)
    (opened : s.step.state.closed = false) (ahead : s.step.state.rest = left ++ tail)
    (ends : EndsLine left) (filled : left ≠ []) : StepsOver s left tail := by
  obtain ⟨d, left, rfl⟩ := List.exists_cons_of_ne_nil filled
  obtain ⟨passed, c, more, width, text, indented⟩ := exists_margin starts opened
  have own := (step_of_lineStart starts).trans (stepMargin_eq text indented)
  have align := fun rest =>
    alignTo_rest { s with place := s.place.after passed } width rest (c :: more)
  have same : c :: more = d :: left ++ tail := by
    rw [← ahead, own, align]
  obtain ⟨rfl, rfl⟩ := List.cons.inj same
  refine ⟨passed ++ c :: left, by simp [text], by simp, ends.append filled, fun tail' => ?_⟩
  rw [text] at indented
  have again := margin_of_ahead indented (left ++ tail')
  have step := (step_of_lineStart (s := { s with rest := passed ++ c :: (left ++ tail') })
    starts).trans (stepMargin_eq rfl again)
  rw [own] at ok
  rw [List.append_assoc, List.cons_append, step, align, ok, own]

/-- Inside a line, a step that goes on comes to a character behind a gap. -/
theorem exists_gap (inside : s.lineStart = false) (ok : s.step.fault = none)
    (opened : s.step.state.closed = false) :
    ∃ passed c more, s.rest = passed ++ c :: more ∧
      gap (s.depth > 0) false s.rest = .ok passed.length := by
  rw [step_of_inside inside, stepLine] at ok opened
  cases found : gap (s.depth > 0) false s.rest with
  | error n =>
    rw [found] at ok
    cases ok
  | ok n =>
    by_cases done : (s.forward n).rest = []
    · simp [found, done, close] at opened
    · obtain ⟨c, more, behind⟩ := List.exists_cons_of_ne_nil done
      obtain ⟨passed, text, rfl⟩ := exists_passed_of_forward behind
      exact ⟨passed, c, more, text, rfl⟩

/-- Inside a line, the same gap comes first whatever stands behind the next character. -/
theorem step_behind_gap (inside : s.lineStart = false) (text : s.rest = passed ++ c :: rest)
    (blank : gap (s.depth > 0) false s.rest = .ok passed.length) (rest' : List Char) :
    { s with rest := passed ++ c :: rest' }.step =
      if c = '\n' then { s with rest := c :: rest', place := s.place.after passed }.endLine
      else { s with rest := c :: rest', place := s.place.after passed }.readLexeme c rest' :=
  (step_of_inside (s := { s with rest := passed ++ c :: rest' }) inside).trans
    (stepLine_eq rfl (gap_of_ahead text blank rest'))

theorem stepsOver_of_endLine (inside : s.lineStart = false) (text : s.rest = passed ++ '\n' :: rest)
    (blank : gap (s.depth > 0) false s.rest = .ok passed.length)
    (ahead : s.step.state.rest = left ++ tail) (ends : EndsLine left) : StepsOver s left tail := by
  have step := step_behind_gap inside text blank
  have own := step rest
  rw [← text, if_pos rfl] at own
  have same : rest = left ++ tail := by
    rw [← ahead, own]
    rfl
  subst same
  refine ⟨passed ++ '\n' :: left, by simp [text], by simp, ?_, fun tail' => ?_⟩
  · by_cases empty : left = []
    · subst empty
      exact endsLine_concat passed
    · rw [← List.singleton_append, ← List.append_assoc]
      exact ends.append empty
  · rw [List.append_assoc, List.cons_append, step, if_pos rfl, own]
    rfl

theorem stepsOver_of_lexeme (inside : s.lineStart = false) (text : s.rest = passed ++ c :: rest)
    (blank : gap (s.depth > 0) false s.rest = .ok passed.length) (line : c ≠ '\n') {l : Lexeme}
    (found : Lexeme.read c rest = .ok l) (ahead : s.step.state.rest = left ++ tail)
    (ends : EndsLine left) (atLine : left = [] → s.step.state.lineStart = true) :
    StepsOver s left tail := by
  have step := step_behind_gap inside text blank
  have own := step rest
  rw [← text, if_neg line, readLexeme, found] at own
  -- the lexeme leaves the line unfinished, so a newline is ahead of it
  have filled : left ≠ [] := by
    intro empty
    have starts := atLine empty
    rw [own] at starts
    exact Bool.false_ne_true (inside.symm.trans starts)
  obtain ⟨front, rfl⟩ := ends.exists_eq filled
  have behind : rest.drop l.tail = front ++ '\n' :: tail := by
    rw [own] at ahead
    simpa [forward] using ahead
  have short : l.tail ≤ rest.length := by
    have count := congrArg List.length behind
    simp only [List.length_drop, List.length_append, List.length_cons] at count
    omega
  obtain ⟨inner, rfl, counted⟩ :
      ∃ inner, rest = inner ++ (front ++ '\n' :: tail) ∧ inner.length = l.tail :=
    ⟨rest.take l.tail, by rw [← behind, List.take_append_drop], List.length_take_of_le short⟩
  refine ⟨passed ++ c :: inner ++ (front ++ ['\n']), by simp [text], by simp, ends.append filled,
    fun tail' => ?_⟩
  have again : Lexeme.read c (inner ++ (front ++ '\n' :: tail')) = .ok l := by
    rw [← List.append_assoc] at found ⊢
    exact Lexeme.read_of_line found (by simp [← counted]) tail'
  have whole : passed ++ c :: inner ++ (front ++ ['\n']) ++ tail' =
      passed ++ c :: (inner ++ (front ++ '\n' :: tail')) := by
    simp
  rw [whole, step, if_neg line, readLexeme, again, own]
  simp [forward, ← counted, placed]

/-- Only the end of a line brings the machine to the start of one. -/
theorem inside_of_lineStart_step (starts : s.step.state.lineStart = true) :
    s.lineStart = false ∧ s.step.state.closed = s.closed := by
  have moves := moves_step s
  generalize s.step = r at moves starts ⊢
  cases moves with
  | close | indent | dedent => cases starts
  | endLine inside ahead => exact ⟨inside, rfl⟩
  | broken inside | lexeme inside | stray inside =>
    exact absurd (inside.symm.trans starts) Bool.false_ne_true

/-- A step that leaves whole lines in front of a text is taken in front of any other text. -/
theorem stepsOver_step (ok : s.step.fault = none) (opened : s.step.state.closed = false)
    (ahead : s.step.state.rest = left ++ tail) (ends : EndsLine left)
    (atLine : left = [] → s.step.state.lineStart = true) : StepsOver s left tail := by
  cases starts : s.lineStart with
  | true =>
    refine stepsOver_of_margin starts ok opened ahead ends fun empty => ?_
    have inside := (inside_of_lineStart_step (atLine empty)).1
    exact Bool.false_ne_true (inside.symm.trans starts)
  | false =>
    obtain ⟨passed, c, more, text, blank⟩ := exists_gap starts ok opened
    by_cases line : c = '\n'
    · subst line
      exact stepsOver_of_endLine starts text blank ahead ends
    · cases found : Lexeme.read c more with
      | error e =>
        have step := step_behind_gap starts text blank more
        rw [← text, if_neg line, readLexeme, found] at step
        rw [step] at ok
        cases ok
      | ok l => exact stepsOver_of_lexeme starts text blank line found ahead ends atLine

/-! ### Runs -/

/-- On its way, the machine stands at the start of a line with the text ahead. Lines without tokens
that come before the text are passed over one by one in the same step as the margin of the line that
follows, and the machine stands at the start of a line behind each of them. -/
def ComesToLine (s : Lexer) (rest : List Char) : Prop :=
  ∃ tokens t lead, Leads s tokens t ∧ t.lineStart = true ∧ AreIdleLines lead ∧ t.rest = lead ++ rest

/-- At the start of a line, lines without tokens are passed over. -/
theorem step_skip {lead : List Char} (blank : IsBlankLines lead) (starts : s.lineStart = true)
    (ahead : s.rest = lead ++ rest) :
    s.step = { s with rest := rest, place := s.place.after lead }.step := by
  have there := step_of_lineStart (s := { s with rest := rest, place := s.place.after lead }) starts
  have passed : s.forward ((margin 0 false rest).1 + lead.length) =
      { s with rest := rest, place := s.place.after lead }.forward (margin 0 false rest).1 := by
    simp [forward, ahead, Nat.add_comm _ lead.length, List.take_length_add_append,
      Place.after_append]
  rw [step_of_lineStart starts, there, stepMargin, ahead, blank]
  dsimp only
  rw [passed]
  rfl

theorem run_of_step_eq {s t : Lexer} (same : s.step = t.step) : s.run = t.run := by
  rw [run_eq s, run_eq t, same]

/-- Lines without tokens may be put in at the start of a line, also behind other such lines. -/
theorem reading_insert_at_line {lead insert : List Char} (blank : IsBlankLines lead)
    (blank' : IsBlankLines insert) (starts : s.lineStart = true) (ahead : s.rest = lead ++ rest) :
    reading { s with rest := lead ++ (insert ++ rest) }.run = reading s.run := by
  have own := run_of_step_eq (step_skip blank starts ahead)
  have longer : { s with rest := lead ++ (insert ++ rest) }.run = _ :=
    run_of_step_eq (step_skip (blank.append blank') starts (List.append_assoc _ _ _).symm)
  rw [own, longer]
  exact reading_run_of_moved ⟨_, rfl⟩

/-- Lines without tokens may be put in where a run comes to the start of a line. -/
theorem Leads.reading_insert {s t : Lexer} {tokens : List PlacedToken} {lead insert : List Char}
    (h : Leads s tokens t) (starts : t.lineStart = true) (idle : AreIdleLines lead)
    (ahead : t.rest = lead ++ rest) (blank : IsBlankLines insert) :
    ∃ before, s.rest = before ++ rest ∧ EndsLine before ∧ (before = [] → s.lineStart = true) ∧
      reading { s with rest := before ++ (insert ++ rest) }.run = reading s.run := by
  -- from the line back to the state before: what has been read up to the line ends with a newline
  induction h with
  | refl s =>
    exact ⟨lead, ahead, idle.endsLine, fun _ => starts,
      reading_insert_at_line idle.isBlankLines blank starts ahead⟩
  | @step s t tokens opened ok later ih =>
    obtain ⟨left, ahead', ends, atLine, same⟩ := ih starts ahead
    have opened' : s.step.state.closed = false := by
      cases later with
      | refl => exact (inside_of_lineStart_step starts).2.trans opened
      | step opened' => exact opened'
    obtain ⟨before, text, filled, ends', steps⟩ := stepsOver_step ok opened' ahead' ends atLine
    refine ⟨before, text, ends', fun empty => absurd empty filled, ?_⟩
    rw [run_eq, steps, run_eq s, ok]
    dsimp only
    rw [if_neg (Bool.eq_false_iff.1 opened'), if_neg (Bool.eq_false_iff.1 opened'),
      reading_map_append, reading_map_append, same]

end Lexer

/-- Comments and blank lines do not change what is read: they may be put in wherever the lexer comes
to the start of a line. The text then has the same tokens, or the same fault. -/
theorem reading_insert_idleLines {first second lines : String}
    (comes : (Lexer.start (first ++ second).toList).ComesToLine second.toList)
    (idle : AreIdleLines lines.toList) :
    reading (tokenize (first ++ lines ++ second)) = reading (tokenize (first ++ second)) := by
  obtain ⟨tokens, t, lead, leads, starts, idle', ahead⟩ := comes
  obtain ⟨before, text, -, -, same⟩ := leads.reading_insert starts idle' ahead idle.isBlankLines
  have whole : first.toList = before := by
    rw [Lexer.start, String.toList_append] at text
    exact List.append_cancel_right text
  rw [tokenize, tokenize, ← same, ← whole]
  simp [Lexer.start]

/-- A comment and blank lines inside a block, behind another comment. -/
theorem reading_insert_idleLines_in_block :
    (Lexer.start ("if x:\n  y\n# a\n" ++ "  z\n").toList).ComesToLine "  z\n".toList ∧
      AreIdleLines " \t# b\n\r\n\x0c\n".toList ∧
      reading (tokenize ("if x:\n  y\n# a\n" ++ " \t# b\n\r\n\x0c\n" ++ "  z\n")) =
        reading (tokenize ("if x:\n  y\n# a\n" ++ "  z\n")) := by
  have comes : (Lexer.start ("if x:\n  y\n# a\n" ++ "  z\n").toList).ComesToLine
      "  z\n".toList := by
    refine ⟨_, _, "# a\n".toList, .step ?_ ?_ (.step ?_ ?_ (.step ?_ ?_ (.step ?_ ?_ (.step ?_ ?_
      (.step ?_ ?_ (.step ?_ ?_ (.step ?_ ?_ (.refl _)))))))), ?_, ?lead, ?_⟩
    case lead =>
      refine ⟨["# a\n".toList], by decide, fun line mem => ?_⟩
      rw [List.mem_singleton.1 mem]
      exact ⟨[], "# a".toList, by decide, by simp, .inr ⟨" a".toList, by decide, by decide⟩⟩
    all_goals decide +kernel
  have idle : AreIdleLines " \t# b\n\r\n\x0c\n".toList := by
    refine ⟨[" \t# b\n".toList, "\r\n".toList, "\x0c\n".toList], by decide, ?_⟩
    intro line mem
    simp only [List.mem_cons, List.not_mem_nil, or_false] at mem
    rcases mem with rfl | rfl | rfl
    · exact ⟨[' ', '\t'], "# b".toList, by decide, by simp,
        .inr ⟨" b".toList, by decide, by decide⟩⟩
    · exact ⟨['\r'], [], by decide, by simp, .inl rfl⟩
    · exact ⟨['\x0c'], [], by decide, by simp, .inl rfl⟩
  exact ⟨comes, idle, reading_insert_idleLines comes idle⟩

end RobotCell.Script
