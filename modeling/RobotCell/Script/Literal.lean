import RobotCell.Text.HexDigit

/-!
# Plain string literals

A string literal is written between quotes, and some characters inside it as escapes. `resolve`
replaces the escapes of a literal's body by what they stand for; `quote` chooses quotes and escapes
for a given text. A text that spans several lines may also be written between triple quotes, as
`docLiteral` does.

## Main definitions

- `resolve` — the text that the body of a literal stands for
- `quote` — a text as a literal on one line
- `docLiteral` — a text as a literal between triple quotes
-/

namespace RobotCell.Script.Literal

/-- The value of a run of hexadecimal digits, read after the value `n`. -/
def hexRun? (n : Nat) : List Char → Option Nat
  | [] => some n
  | c :: rest => (Text.hexDigit? c).bind fun d => hexRun? (16 * n + d) rest

/-- The value of one or more hexadecimal digits, with a plus sign allowed in front. -/
def hexValue? : List Char → Option Nat
  | [] => none
  | ['+'] => none
  | '+' :: digits => hexRun? 0 digits
  | digits => hexRun? 0 digits

/-- The character with the given hexadecimal code, if there is one. -/
def hexChar? (digits : List Char) : Option Char :=
  (hexValue? digits).bind fun n => if n.isValidChar then some (Char.ofNat n) else none

/-- The number of digits that a hexadecimal escape takes. -/
def hexEscapeLength? (letter : Char) : Option Nat :=
  if letter = 'x' then some 2
  else if letter = 'u' then some 4
  else if letter = 'U' then some 8
  else none

/-- The character is an octal digit. -/
def isOctalDigit (c : Char) : Bool :=
  '0' ≤ c && c ≤ '7'

/-- The value of a run of octal digits. -/
def octalValue (digits : List Char) : Nat :=
  digits.foldl (fun n c => 8 * n + (c.toNat - '0'.toNat)) 0

/-- The character that a backslash and one letter stand for. -/
def simpleEscape? (letter : Char) : Option Char :=
  if letter = '\\' then some '\\'
  else if letter = '\'' then some '\''
  else if letter = '"' then some '"'
  else if letter = 'a' then some '\x07'
  else if letter = 'b' then some '\x08'
  else if letter = 'f' then some '\x0c'
  else if letter = 'n' then some '\n'
  else if letter = 'r' then some '\r'
  else if letter = 't' then some '\t'
  else if letter = 'v' then some '\x0b'
  else none

/-- What one escape stands for, given the characters after its backslash, together with the number
of those characters that belong to it. A backslash before a newline joins two lines; an escape that
means nothing stands for itself. -/
def escape (letter : Char) (rest : List Char) : List Char × Nat :=
  if letter = '\n' then ([], 0)
  else match simpleEscape? letter with
    | some c => ([c], 0)
    | none =>
      match hexEscapeLength? letter with
      | some n =>
        let digits := rest.take n
        match hexChar? digits with
        | some c => if digits.length = n then ([c], n) else ('\\' :: letter :: digits, n)
        | none => ('\\' :: letter :: digits, n)
      | none =>
        if isOctalDigit letter then
          let more := (rest.take 2).takeWhile isOctalDigit
          ([Char.ofNat (octalValue (letter :: more))], more.length)
        else (['\\', letter], 0)

/-- The text that the body of a literal stands for. -/
def resolve : List Char → List Char
  | [] => []
  | ['\\'] => ['\\']
  | '\\' :: letter :: rest =>
    let (text, used) := escape letter rest
    text ++ resolve (rest.drop used)
  | c :: rest => c :: resolve rest
termination_by cs => cs.length
decreasing_by
  · simp only [List.length_cons, List.length_drop]; omega
  · simp

/-- The quotes for a text: double quotes if it holds a single quote and no double quote. -/
def quoteMark (cs : List Char) : Char :=
  if cs.contains '\'' && !cs.contains '"' then '"' else '\''

/-- A code point below 256 as two hexadecimal digits in lower case. -/
def twoHexDigits (n : Nat) : List Char :=
  [Nat.digitChar (n / 16), Nat.digitChar (n % 16)]

/-- A character between the quotes `mark`. -/
def quotedChar (mark c : Char) : List Char :=
  if c = '\\' then ['\\', '\\']
  else if c = '\n' then ['\\', 'n']
  else if c = '\r' then ['\\', 'r']
  else if c = '\t' then ['\\', 't']
  else if c = mark then ['\\', c]
  else if c.toNat < 0x20 ∨ c.toNat = 0x7f then '\\' :: 'x' :: twoHexDigits c.toNat
  else [c]

/-- The characters of a literal on one line that stands for the given text. -/
def quoteChars (cs : List Char) : List Char :=
  let mark := quoteMark cs
  mark :: (cs.flatMap (quotedChar mark) ++ [mark])

/-- A literal on one line that stands for the given text. -/
def quote (s : String) : String :=
  String.ofList (quoteChars s.toList)

/-- The body of a literal between triple quotes. -/
def docBody : List Char → List Char
  | [] => []
  | '"' :: '"' :: '"' :: rest => '\\' :: '"' :: '\\' :: '"' :: '\\' :: '"' :: docBody rest
  | c :: rest => if c = '\\' then '\\' :: '\\' :: docBody rest else c :: docBody rest

/-- A literal between triple quotes, with the line breaks of the text kept as they are. -/
def docLiteral (s : String) : String :=
  "\"\"\"" ++ String.ofList (docBody s.toList) ++ "\"\"\""

end RobotCell.Script.Literal
