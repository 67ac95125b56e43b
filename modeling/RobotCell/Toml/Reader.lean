/-!
# Readers

A reader takes characters from the start of a text and gives a result, or fails.

## Main definitions

- `Toml.Reader` — readers
- `Reader.many` — a reader repeated until it fails
- `Reader.separated` — a reader repeated with a separator
-/

namespace RobotCell.Toml

/-- A reader of texts. A reader that fails takes nothing. -/
abbrev Reader (α : Type) : Type := StateT (List Char) Option α

namespace Reader

/-- The next character, which is not taken. -/
def peek : Reader (Option Char) :=
  fun cs => some (cs.head?, cs)

/-- The next character, if it has the property `p`. -/
def satisfy (p : Char → Bool) : Reader Char
  | [] => none
  | c :: rest => if p c then some (c, rest) else none

/-- The given character. -/
def char (c : Char) : Reader Char :=
  satisfy (· == c)

/-- The given characters. -/
def word : List Char → Reader Unit
  | [] => pure ()
  | c :: rest => do
    let _ ← char c
    word rest

/-- All next characters with the property `p`. -/
def takeWhile (p : Char → Bool) : Reader (List Char) :=
  fun cs => some (cs.takeWhile p, cs.dropWhile p)

/-- The end of the text. -/
def atEnd : Reader Unit
  | [] => some ((), [])
  | _ => none

/-- What `r` reads, or nothing if it fails. -/
def optionally {α : Type} (r : Reader α) : Reader (Option α) :=
  (some <$> r) <|> pure none

/-- What `r` reads, again and again up to `n` times, until it fails. -/
def upTo {α : Type} (r : Reader α) : Nat → Reader (List α)
  | 0 => pure []
  | n + 1 => (do
      let a ← r
      let rest ← upTo r n
      return a :: rest) <|> pure []

/-- What `r` reads, again and again, until it fails. The reader takes at least one character each
time. -/
def many {α : Type} (r : Reader α) : Reader (List α) := fun cs =>
  upTo r cs.length cs

/-- What `r` reads once or more, with `sep` in between. -/
def separated {α : Type} (sep : Char) (r : Reader α) : Reader (List α) := do
  let first ← r
  let rest ← many (do
    let _ ← char sep
    r)
  return first :: rest

end Reader

end RobotCell.Toml
