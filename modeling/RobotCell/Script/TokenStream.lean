import RobotCell.Script.Fault

/-!
# Streams of tokens

The grammar reads tokens from a stream. A stream always has a current token; the last token stays
current however often it is passed, so that looking ahead never fails. A failure is a cause and the
number of tokens behind the one that it is found at, from which the place is told later.

## Main definitions

- `TokenStream` — a current token and the tokens behind it
- `Failure` — a cause, and how far from the end it is found
- `Parser` — a reader of a part of the grammar
- `repeated` — a part read again and again
-/

namespace RobotCell.Script

/-- A current token and the tokens behind it. -/
structure TokenStream where
  current : Token
  rest : List Token

namespace TokenStream

/-- The stream of a list of tokens; an empty list is the end of a script. -/
def ofTokens : List Token → TokenStream
  | [] => ⟨.endOfInput, []⟩
  | t :: rest => ⟨t, rest⟩

/-- The stream behind the current token. -/
def advance (s : TokenStream) : TokenStream :=
  match s.rest with
  | [] => s
  | t :: rest => ⟨t, rest⟩

/-- The token behind the current one. -/
def ahead (s : TokenStream) : Token :=
  s.advance.current

/-- The current token is the given symbol. -/
def sees (s : TokenStream) (symbol : Symbol) : Bool :=
  s.current == .symbol symbol

/-- The current token is the given keyword. -/
def seesKeyword (s : TokenStream) (k : Keyword) : Bool :=
  s.current == .keyword k

end TokenStream

/-- A cause, and the number of tokens behind the one that it is found at. -/
structure Failure where
  fault : Fault
  behind : Nat
  deriving DecidableEq

/-- A failure at the current token. -/
def TokenStream.fail (s : TokenStream) (fault : Fault) : Failure :=
  ⟨fault, s.rest.length⟩

/-- The current token makes no sense. -/
def TokenStream.unexpected (s : TokenStream) (context : Context) : Failure :=
  s.fail (.unexpected s.current context)

/-- A reader of a part of the grammar: what it has read, and the stream behind that. -/
abbrev Parser (α : Type) := TokenStream → Except Failure (α × TokenStream)

/-- The stream behind a token that must be the given one. -/
def expect (wanted : Token) (s : TokenStream) : Except Failure TokenStream :=
  if s.current = wanted then .ok s.advance else .error (s.fail (.missing wanted s.current))

/-- The stream behind a token that must be the given symbol. -/
def expectSymbol (symbol : Symbol) (s : TokenStream) : Except Failure TokenStream :=
  expect (.symbol symbol) s

/-- The stream behind a token that must be the given keyword. -/
def expectKeyword (k : Keyword) (s : TokenStream) : Except Failure TokenStream :=
  if s.seesKeyword k then .ok s.advance else .error (s.fail (.missingKeyword k s.current))

/-- A name. -/
def expectName : Parser String := fun s =>
  match s.current with
  | .name id => .ok (id, s.advance)
  | _ => .error (s.unexpected .name)

/-- Parts read one after another, at most `limit` attempts, until an attempt reads none. -/
def repeatedWithin {α : Type} (part : Parser (Option α)) : Nat → Parser (List α)
  | 0, s => .error (s.fail .endless)
  | limit + 1, s => do
    match ← part s with
    | (none, s) => return ([], s)
    | (some a, s) => do
      let (as, s) ← repeatedWithin part limit s
      return (a :: as, s)

/-- Parts read one after another, until an attempt reads none. A part takes at least one token, so
the number of tokens bounds the number of parts. -/
def repeated {α : Type} (part : Parser (Option α)) : Parser (List α) := fun s =>
  repeatedWithin part (s.rest.length + 1) s

/-- Further items, each after a comma. A comma at which `stop` holds for the next token ends the
list. -/
def moreItems {α : Type} (stop : Token → Bool) (item : Parser α) : Parser (List α) :=
  repeated fun s =>
    if s.sees .comma then
      let s := s.advance
      if stop s.current then .ok (none, s)
      else do
        let (a, s) ← item s
        return (some a, s)
    else .ok (none, s)

/-- One or more items with commas between them. -/
def oneOrMore {α : Type} (stop : Token → Bool) (item : Parser α) : Parser (List α) := fun s => do
  let (first, s) ← item s
  let (more, s) ← moreItems stop item s
  return (first :: more, s)

/-- Items with commas between them up to the symbol `closing`, which is left in the stream. -/
def itemsUpTo {α : Type} (closing : Symbol) (item : Parser α) : Parser (List α) := fun s =>
  if s.sees closing then .ok ([], s)
  else oneOrMore (· == .symbol closing) item s

end RobotCell.Script
