import RobotCell.Script.Fault
import RobotCell.Script.Identifier
import RobotCell.Script.Literal

/-!
# Lexemes

A lexeme is a token together with the stretch of text that spells it. Each class of tokens has its
own small reader; `Lexeme.read` chooses the reader by the first character. A stretch is given by the
number of characters after its first one, so that no stretch is empty.

## Main definitions

- `Lexeme` — a token and the length of its spelling
- `LexFault` — a cause, its distance from the first character, and the length to pass over
- `Lexeme.read` — the lexeme at the start of a text
-/

namespace RobotCell.Script

/-- A token and the number of characters that its spelling has after the first one. -/
structure Lexeme where
  token : Token
  tail : Nat
  deriving DecidableEq

/-- A cause that stands `offset` characters behind the first one, and the number of characters after
the first one that are passed over because of it. -/
structure LexFault where
  fault : Fault
  offset : Nat
  tail : Nat
  deriving DecidableEq

/-- The character is a decimal digit of ASCII. -/
def isDigit (c : Char) : Bool :=
  '0' ≤ c && c ≤ '9'

/-- The character is one of the two quotes. -/
def isQuote (c : Char) : Bool :=
  c == '"' || c == '\''

namespace Lexeme

/-! ### Numbers -/

/-- The letter announces a number in another base. -/
def isRadixLetter (c : Char) : Bool :=
  c == 'x' || c == 'X' || c == 'o' || c == 'O' || c == 'b' || c == 'B'

/-- The letter starts an exponent. -/
def isExponentLetter (c : Char) : Bool :=
  c == 'e' || c == 'E'

/-- The letter may end a number. -/
def isNumberSuffix (c : Char) : Bool :=
  c == 'j' || c == 'J' || c == 'l' || c == 'L'

/-- The longest run of characters that continue a decimal number after the character `before`: a
sign belongs to the number directly after the letter of an exponent. -/
def decimalRun (before : Char) : List Char → List Char
  | [] => []
  | c :: rest =>
    if isDigit c || c == '.' || c == '_' || isExponentLetter c ||
        ((c == '+' || c == '-') && isExponentLetter before) then
      c :: decimalRun c rest
    else []

/-- The characters of a number without its last letter. -/
def numberBody : List Char → List Char
  | [] => []
  | [c] => [c]
  | c :: d :: rest =>
    if c == '0' && isRadixLetter d then
      c :: d :: rest.takeWhile fun x => Text.isHexDigit x || x == '_'
    else c :: decimalRun c (d :: rest)

/-- The characters of the number at the start of a text. -/
def numberText (cs : List Char) : List Char :=
  let body := numberBody cs
  body ++ (cs.drop body.length).head?.toList.filter isNumberSuffix

/-- The text starts a number: with a digit, or with a point before a digit. -/
def startsNumber (c : Char) (rest : List Char) : Bool :=
  isDigit c || (c == '.' && rest.head?.any isDigit)

/-- The number at the start of a text. -/
def number (cs : List Char) : Lexeme :=
  let text := numberText cs
  ⟨.number (String.ofList text), text.length - 1⟩

/-! ### Strings -/

/-- The body of a literal up to the closing quote, and the number of characters up to and with the
closing quote. A literal on one line ends without success at a newline, and any literal does at the
end of the text; then only the number of characters passed over is given. -/
def singleBody (mark : Char) : List Char → Except Nat (List Char × Nat)
  | [] => .error 0
  | '\\' :: [] => .error 1
  | '\\' :: c :: rest =>
    match singleBody mark rest with
    | .ok (body, n) => .ok ('\\' :: c :: body, n + 2)
    | .error n => .error (n + 2)
  | c :: rest =>
    if c = '\n' then .error 1
    else if c = mark then .ok ([], 1)
    else match singleBody mark rest with
      | .ok (body, n) => .ok (c :: body, n + 1)
      | .error n => .error (n + 1)

/-- The text starts with two of the given quotes. -/
def twoMarks (mark : Char) (cs : List Char) : Bool :=
  cs.take 2 == [mark, mark]

/-- The body of a literal between triple quotes, with counts as for a literal on one line. -/
def tripleBody (mark : Char) : List Char → Except Nat (List Char × Nat)
  | [] => .error 0
  | '\\' :: [] => .error 1
  | '\\' :: c :: rest =>
    match tripleBody mark rest with
    | .ok (body, n) => .ok ('\\' :: c :: body, n + 2)
    | .error n => .error (n + 2)
  | c :: rest =>
    if c = mark ∧ twoMarks mark rest then .ok ([], 3)
    else match tripleBody mark rest with
      | .ok (body, n) => .ok (c :: body, n + 1)
      | .error n => .error (n + 1)

/-- The letters before the quote leave the escapes of the literal to be resolved. -/
def isPlainMark (letters : List Char) : Bool :=
  letters == [] || letters == ['u'] || letters == ['U']

/-- The token of a literal with the given letters before its quotes, quotes and body. -/
def stringToken (letters fence body : List Char) : Token :=
  if isPlainMark letters then .str (String.ofList (Literal.resolve body))
  else .verbatim (String.ofList (letters ++ fence ++ body ++ fence))

/-- The string literal that has the given letters before its first quote `mark` and the text `rest`
after it. -/
def string (letters : List Char) (mark : Char) (rest : List Char) : Except LexFault Lexeme :=
  let triple := twoMarks mark rest
  let fence := if triple then [mark, mark, mark] else [mark]
  let body := if triple then tripleBody mark (rest.drop 2) else singleBody mark rest
  let before := letters.length + fence.length
  match body with
  | .ok (body, n) => .ok ⟨stringToken letters fence body, before + n - 1⟩
  | .error n => .error ⟨.openString, letters.length, before + n - 1⟩

/-! ### Words -/

/-- The letter may stand before the quotes of a literal. -/
def isLiteralLetter (c : Char) : Bool :=
  ['r', 'R', 'b', 'B', 'u', 'U', 'f', 'F'].contains c

/-- The characters may stand before the quotes of a literal. -/
def isLiteralMark (letters : List Char) : Bool :=
  letters.length ≤ 2 && letters.all isLiteralLetter

/-- The token of a word. -/
def wordToken (word : String) : Token :=
  match Keyword.ofSpelling? word with
  | some k => .keyword k
  | none => .name word

/-- The word at the start of a text, or the literal whose quotes it stands before. -/
def word (cs : List Char) : Except LexFault Lexeme :=
  let letters := cs.takeWhile isNameChar
  match cs.dropWhile isNameChar with
  | mark :: rest =>
    if isLiteralMark letters && isQuote mark then string letters mark rest
    else .ok ⟨wordToken (String.ofList letters), letters.length - 1⟩
  | [] => .ok ⟨wordToken (String.ofList letters), letters.length - 1⟩

/-! ### Symbols -/

/-- The longest symbol at the start of a text. -/
def symbol? (cs : List Char) : Option Lexeme :=
  (Token.spellings.find? fun (spelling, _) => spelling.isPrefixOf cs).map fun (spelling, token) =>
    ⟨token, spelling.length - 1⟩

/-! ### All lexemes -/

/-- The lexeme that starts with the character `c` and goes on in `rest`. -/
def read (c : Char) (rest : List Char) : Except LexFault Lexeme :=
  if startsNumber c rest then .ok (number (c :: rest))
  else if isNameStart c then word (c :: rest)
  else if isQuote c then string [] c rest
  else match symbol? (c :: rest) with
    | some lexeme => .ok lexeme
    | none => .error ⟨.strayChar c, 1, 0⟩

end Lexeme

end RobotCell.Script
