import RobotCell.Proofs.Script.Scanning
import RobotCell.Script.StmtText

/-!
# Lines and blocks

The lines of a script stand four blanks deeper for each block around them. The lexer keeps the
widths of the open blocks; a deeper line opens one block and a shallower line closes all blocks
deeper than itself, so the tokens of a text at the start of a line depend on how deep the line
before it stood. `ResumesAt` says what a text yields below any block that may still be open.

## Main definitions

- `levels` — the widths of the open blocks at a depth
- `StartsAt` — a text whose first line stands at a depth, with the tokens from there on
- `ResumesAt` — the tokens of a text below blocks that it closes
-/

namespace RobotCell.Script

/-- The widths of the blocks around a line at the given depth, innermost first. -/
def levels : Nat → List Nat
  | 0 => []
  | d + 1 => 4 * (d + 1) :: levels d

@[simp] theorem getD_head?_levels (d : Nat) : (levels d).head?.getD 0 = 4 * d := by
  cases d <;> rfl

theorem length_levels (d : Nat) : (levels d).length = d := by
  induction d with
  | zero => rfl
  | succ d ih => simp [levels, ih]

theorem takeWhile_levels (d : Nat) : (levels d).takeWhile (4 * d < ·) = [] := by
  cases d with
  | zero => rfl
  | succ d => simp [levels]

theorem dropWhile_levels (d : Nat) : (levels d).dropWhile (4 * d < ·) = levels d := by
  cases d with
  | zero => rfl
  | succ d => simp [levels]

/-- A line at depth `d` ends the `k` blocks that are deeper. -/
theorem takeWhile_levels_add (d k : Nat) :
    ((levels (d + k)).takeWhile (4 * d < ·)).length = k ∧
      (levels (d + k)).dropWhile (4 * d < ·) = levels d := by
  induction k with
  | zero => simp [takeWhile_levels, dropWhile_levels]
  | succ k ih =>
    have deeper : 4 * d < 4 * (d + k + 1) := by omega
    simp [levels, deeper, ih]

/-! ### Margins -/

theorem margin_blanks (width n : Nat) (cs : List Char) :
    margin width false (List.replicate n ' ' ++ cs) =
      ((margin (width + n) false cs).1 + n, (margin (width + n) false cs).2) := by
  induction n generalizing width with
  | zero => rfl
  | succ n ih =>
    rw [List.replicate_succ, List.cons_append, margin]
    simp only [Char.reduceEq, if_false, if_true, Bool.false_eq_true, ih]
    rw [Nat.add_right_comm width 1 n]
    rfl

theorem margin_newline (width : Nat) (comment : Bool) (cs : List Char) :
    margin width comment ('\n' :: cs) = ((margin 0 false cs).1 + 1, (margin 0 false cs).2) := by
  simp [margin]

theorem margin_of_isInk {c : Char} (h : isInk c = true) (width : Nat) (cs : List Char) :
    margin width false (c :: cs) = (0, width) := by
  obtain ⟨line, blank, tab, ret, feed, comment, -⟩ := (isInk_iff c).1 h
  simp [margin, line, blank, tab, ret, feed, comment]

/-! ### Where lines start -/

/-- The first line of the text that holds a lexeme stands at depth `d`, and from there on the text
yields the tokens. -/
def StartsAt (d : Nat) (text : List Char) (ts : List Token) : Prop :=
  ∃ n c more, margin 0 false text = (n, 4 * d) ∧ text.drop n = c :: more ∧
    InLine (levels d) 0 false (c :: more) ts

/-- At the start of a line, the text first ends all blocks deeper than `d` that may be open, and
then yields the tokens. -/
def ResumesAt (d : Nat) (text : List Char) (ts : List Token) : Prop :=
  ∀ k, AtLine (levels (d + k)) text (List.replicate k .dedent ++ ts)

variable {d : Nat} {text : List Char} {ts : List Token}

/-- A line that is no deeper than the open blocks ends those that are deeper. -/
theorem StartsAt.resumesAt (h : StartsAt d text ts) : ResumesAt d text ts := by
  obtain ⟨n, c, more, hmargin, ahead, inLine⟩ := h
  intro k place
  obtain ⟨ended, left⟩ := takeWhile_levels_add d k
  have shallow : ¬ 4 * (d + k) < 4 * d := by omega
  -- the step gives one token for each width that is dropped, all at the place of the lexeme
  have tokens : List.replicate k Token.dedent =
      (((levels (d + k)).takeWhile (4 * d < ·)).map fun _ =>
        (⟨.dedent, place.after (text.take n)⟩ : PlacedToken)).map PlacedToken.token := by
    simp [List.map_const', ended]
  rw [tokens]
  refine Lexer.Yields.of_step _ ?_ ?_ (inLine (place.after (text.take n)))
  · simp [Lexer.step, Lexer.stepMargin, hmargin, Lexer.forward, ahead, Lexer.alignTo, shallow, left,
      Lexer.placed]
  · rfl

/-- A line one block deeper than the open blocks opens a block. -/
theorem StartsAt.atLine_indent (h : StartsAt (d + 1) text ts) :
    AtLine (levels d) text (.indent :: ts) := by
  obtain ⟨n, c, more, hmargin, ahead, inLine⟩ := h
  intro place
  have deeper : 4 * d < 4 * (d + 1) := by omega
  refine Lexer.Yields.of_step [⟨.indent, place.after (text.take n)⟩] ?_ ?_
    (inLine (place.after (text.take n)))
  · simp [Lexer.step, Lexer.stepMargin, hmargin, Lexer.forward, ahead, Lexer.alignTo, deeper,
      levels, Lexer.placed]
  · rfl

theorem ResumesAt.atLine (h : ResumesAt d text ts) : AtLine (levels d) text ts :=
  h 0

/-- What ends the blocks deeper than `d` ends one block more below one of those. -/
theorem ResumesAt.dedent (h : ResumesAt d text ts) : ResumesAt (d + 1) text (.dedent :: ts) := by
  intro k
  have := h (k + 1)
  rw [Nat.add_right_comm, Nat.add_assoc]
  rw [List.replicate_succ', List.append_assoc] at this
  exact this

/-! ### Lines -/

/-- The text starts with a lexeme. -/
def HasInk (text : List Char) : Prop :=
  ∃ c more, text = c :: more ∧ isInk c = true

theorem HasInk.append (h : HasInk text) (rest : List Char) : HasInk (text ++ rest) := by
  obtain ⟨c, more, rfl, ink⟩ := h
  exact ⟨c, more ++ rest, rfl, ink⟩

/-- A line at depth `d`, told from what it holds behind its indentation. -/
theorem StartsAt.line {content : String} {rest : List Char} (lead : HasInk content.toList)
    (h : InLine (levels d) 0 false (content.toList ++ '\n' :: rest) ts) :
    StartsAt d ((Script.line d content).toList ++ rest) ts := by
  obtain ⟨c, more, hcontent, ink⟩ := lead.append ('\n' :: rest)
  have text : (Script.line d content).toList ++ rest =
      List.replicate (4 * d) ' ' ++ (c :: more) := by
    rw [← hcontent]
    simp [Script.line, indentation]
  refine ⟨4 * d, c, more, ?_, ?_, hcontent ▸ h⟩
  · rw [text, margin_blanks, margin_of_isInk ink]
    simp
  · rw [text, List.drop_left' (by simp)]

/-- The characters are complete lines without lexemes. -/
def IsBlankLines (lead : List Char) : Prop :=
  ∀ text, margin 0 false (lead ++ text) =
    ((margin 0 false text).1 + lead.length, (margin 0 false text).2)

theorem isBlankLines_nil : IsBlankLines [] :=
  fun _ => rfl

theorem IsBlankLines.append {lead more : List Char} (h : IsBlankLines lead)
    (hmore : IsBlankLines more) : IsBlankLines (lead ++ more) := by
  intro text
  rw [List.append_assoc, h, hmore, List.length_append]
  simp only [Prod.mk.injEq, and_true]
  omega

theorem isBlankLines_newline : IsBlankLines ['\n'] :=
  fun text => margin_newline 0 false text

theorem isBlankLines_blankLines (n : Nat) : IsBlankLines (blankLines n).toList := by
  induction n with
  | zero => exact isBlankLines_nil
  | succ n ih =>
    have : (blankLines (n + 1)).toList = ['\n'] ++ (blankLines n).toList := by
      simp [blankLines, List.replicate_succ]
    rw [this]
    exact isBlankLines_newline.append ih

theorem margin_comment {cs : List Char} (single : '\n' ∉ cs) (width : Nat) (text : List Char) :
    margin width true (cs ++ '\n' :: text) =
      ((margin 0 false text).1 + cs.length + 1, (margin 0 false text).2) := by
  induction cs with
  | nil => exact margin_newline width true text
  | cons c cs ih =>
    have line : c ≠ '\n' := fun h => single (h ▸ List.mem_cons_self)
    have inner := ih fun h => single (List.mem_cons_of_mem _ h)
    rw [List.cons_append, margin]
    simp only [line, if_false, if_true, inner]
    rfl

/-- A line with a comment. -/
theorem isBlankLines_comment {cs : List Char} (single : '\n' ∉ cs) :
    IsBlankLines ('#' :: (cs ++ ['\n'])) := by
  intro text
  have inner := margin_comment single 0 text
  rw [List.cons_append, List.append_assoc, List.singleton_append, margin]
  simp only [Char.reduceEq, if_false, if_true, Bool.false_eq_true, or_self, inner, List.length_cons,
    List.length_append, List.length_nil]
  rfl

/-- Lines without lexemes may stand before any line. -/
theorem StartsAt.skip {lead : List Char} (blank : IsBlankLines lead) (h : StartsAt d text ts) :
    StartsAt d (lead ++ text) ts := by
  obtain ⟨n, c, more, hmargin, ahead, inLine⟩ := h
  refine ⟨n + lead.length, c, more, ?_, ?_, inLine⟩
  · rw [blank, hmargin]
  · rw [Nat.add_comm, ← List.drop_drop, List.drop_left, ahead]

/-- The end of the text ends all blocks, also below lines without lexemes. -/
theorem resumesAt_end {lead : List Char} (blank : IsBlankLines lead) :
    ResumesAt 0 lead [.endOfInput] := by
  intro k place
  have skipped : (margin 0 false lead).1 = lead.length := by
    have whole := blank []
    rw [List.append_nil] at whole
    simp [whole, margin]
  have ends : Lexer.step ⟨lead, place, levels (0 + k), 0, true, false, false⟩ =
      ⟨none, ((levels (0 + k)).map fun _ => ⟨.dedent, place.after lead⟩) ++
        [⟨.endOfInput, place.after lead⟩], ⟨[], place.after lead, [], 0, false, false, true⟩⟩ := by
    simp [Lexer.step, Lexer.stepMargin, skipped, Lexer.forward, Lexer.close, Lexer.placed]
  simpa [List.map_const', length_levels] using Lexer.Yields.of_close _ ends rfl

/-- A text without an indented first line has the tokens that it yields. -/
theorem tokenize_of_resumesAt {source : String} (h : ResumesAt 0 source.toList ts) :
    ∃ placed, tokenize source = .ok placed ∧ placed.map PlacedToken.token = ts :=
  h.atLine .start

end RobotCell.Script
