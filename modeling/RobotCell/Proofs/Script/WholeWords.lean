import RobotCell.Proofs.Script.Readings
import RobotCell.Proofs.Script.WholeLiterals

/-!
# Words as whole texts

A word that makes up a whole text is read as one token and the end of its line. The token is a name
if the word may name something. No other text is read as a name that is the text itself, since all
names among the tokens of a text are identifiers, whatever stands around them.

## Main results

- `tokenize_of_isWord` — the tokens of a word, with their places
-/

namespace RobotCell.Script

theorem newline_notMem_of_isWord {cs : List Char} (word : isWord cs = true) : '\n' ∉ cs := by
  cases cs with
  | nil => cases word
  | cons c cs =>
    simp only [isWord, Bool.and_eq_true] at word
    intro mem
    rcases List.mem_cons.1 mem with rfl | later
    · exact absurd word.1 (by decide)
    · exact absurd (List.all_eq_true.1 word.2 '\n' later) (by decide)

/-- A word is read from the first column on, and behind it the end of the line and of the input. -/
theorem tokenize_of_isWord {s : String} (word : isWord s.toList = true) :
    tokenize s = .ok [⟨Lexeme.wordToken s, ⟨1, 1⟩⟩, ⟨.newline, ⟨1, s.length + 1⟩⟩,
      ⟨.endOfInput, ⟨1, s.length + 1⟩⟩] := by
  have stop : Place.behind s.toList = ⟨1, s.length + 1⟩ := by
    rw [Place.behind_of_notMem (newline_notMem_of_isWord word), String.length_toList]
  cases same : s.toList with
  | nil =>
    rw [same] at word
    cases word
  | cons c cs =>
    have text : String.ofList (c :: cs) = s := by rw [← same, String.ofList_toList]
    rw [same] at word stop
    have read : Lexeme.read c (cs ++ []) = .ok ⟨Lexeme.wordToken s, cs.length⟩ := by
      rw [Lexeme.read_word word (by simp), text]
    have ink : isInk c = true := isInk_of_isNameStart (Bool.and_eq_true_iff.1 word).1
    rw [tokenize_lexeme (by rw [same, List.append_nil]) ink read (depthAfter_wordToken 0 s),
      Lexer.run_amid_nil, stop]
    rfl

/-- The identifiers are the texts that are read as one name, which is the text itself. -/
theorem isIdentifier_iff_reading (s : String) :
    isIdentifier s = true ↔ reading (tokenize s) = .ok [.name s, .newline, .endOfInput] := by
  constructor
  · intro identifier
    rw [tokenize_of_isWord (Bool.and_eq_true_iff.1 identifier).1,
      wordToken_of_isIdentifier identifier]
    rfl
  · intro read
    cases outcome : tokenize s with
    | error e =>
      rw [outcome] at read
      cases read
    | ok tokens =>
      rw [outcome] at read
      have texts : tokens.map PlacedToken.token = [.name s, .newline, .endOfInput] :=
        Except.ok.inj read
      obtain ⟨t, mem, name⟩ : ∃ t ∈ tokens, t.token = .name s :=
        List.mem_map.1 (texts ▸ List.mem_cons_self)
      have spelled := isSpelled_of_tokenize outcome t mem
      rw [name] at spelled
      exact spelled

end RobotCell.Script
