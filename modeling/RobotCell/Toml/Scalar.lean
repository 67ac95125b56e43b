import RobotCell.Text.HexDigit
import RobotCell.Toml.Reader

/-!
# Strings, numbers and times

Of numbers and times only the form is checked: a number has to fit into its type, and a time has to
exist.

## Main definitions

- `Toml.text` — a string in one of its four forms
- `Toml.number` — an integer or a floating-point number
- `Toml.time` — a date, a time of day, or both
- `Toml.isTimeText` — a string that holds a time
-/

namespace RobotCell.Toml

open Reader

/-- Blanks within a line. -/
def isGap (c : Char) : Bool :=
  c == ' ' || c == '\t'

/-- Characters that can stand in a comment: all but control characters other than the tab. -/
def isPlain (c : Char) : Bool :=
  c == '\t' || (0x20 ≤ c.toNat && c.toNat ≠ 0x7F)

/-- Blanks within a line. -/
def gap : Reader Unit := do
  let _ ← takeWhile isGap

/-- The end of a line. -/
def newline : Reader Char :=
  char '\n' <|> (char '\r' *> char '\n')

/-- A comment up to the end of its line. -/
def comment : Reader Unit := do
  let _ ← char '#'
  let _ ← takeWhile isPlain

/-! ### Strings -/

/-- The value of a digit. -/
def digitValue (c : Char) : Nat :=
  (Text.hexDigit? c).getD 0

/-- The given number of hexadecimal digits, and the number that they stand for together with the
digits before them. -/
def hexDigits (value : Nat) : Nat → Reader Nat
  | 0 => pure value
  | n + 1 => do
    let d ← satisfy Text.isHexDigit
    hexDigits (value * 16 + digitValue d) n

/-- The character with the code point that the next digits stand for. -/
def codePoint (digits : Nat) : Reader Char := do
  let n ← hexDigits 0 digits
  if n.isValidChar then return Char.ofNat n else failure

/-- The character that stands behind a backslash. -/
def escape : Reader Char := do
  let _ ← char '\\'
  match ← satisfy fun _ => true with
  | 'b' => return '\x08'
  | 't' => return '\t'
  | 'n' => return '\n'
  | 'f' => return '\x0c'
  | 'r' => return '\r'
  | '"' => return '"'
  | '\\' => return '\\'
  | 'u' => codePoint 4
  | 'U' => codePoint 8
  | _ => failure

/-- A character of a string between quotes. -/
def basicChar : Reader Char :=
  satisfy (fun c => isPlain c && c != '"' && c != '\\') <|> escape

/-- A string between quotes. -/
def basicString : Reader String := do
  let _ ← char '"'
  let cs ← many basicChar
  let _ ← char '"'
  return String.ofList cs

/-- A string between apostrophes, without escapes. -/
def literalString : Reader String := do
  let _ ← char '\''
  let cs ← takeWhile fun c => isPlain c && c != '\''
  let _ ← char '\''
  return String.ofList cs

/-- A backslash at the end of a line, and all blanks and newlines behind it. -/
def joinedLines : Reader (List Char) := do
  let _ ← char '\\'
  gap
  let _ ← newline
  let _ ← many (newline <|> satisfy isGap)
  return []

/-- One or two quotes that do not end the string, and what follows them. -/
def innerQuotes (quote : Char) (content : Reader (List Char)) : Reader (List Char) := do
  let one ← char quote
  (do let two ← char quote
      let cs ← content
      return one :: two :: cs) <|>
  (do let cs ← content
      return one :: cs)

/-- Up to two quotes before the three that end a string over several lines. -/
def closingQuotes (quote : Char) : Reader (List Char) := do
  let quotes ← takeWhile (· == quote)
  if 3 ≤ quotes.length ∧ quotes.length ≤ 5 then return quotes.drop 3 else failure

/-- A string over several lines, of the given content. A newline at its start does not count. -/
def multiLine (quote : Char) (content : Reader (List Char)) : Reader String := do
  word [quote, quote, quote]
  let _ ← optionally newline
  let parts ← many (content <|> innerQuotes quote content)
  let final ← closingQuotes quote
  return String.ofList (parts.flatten ++ final)

/-- A newline as content. -/
def newlineContent : Reader (List Char) := do
  let c ← newline
  return [c]

/-- A character as content. -/
def charContent (r : Reader Char) : Reader (List Char) := do
  let c ← r
  return [c]

/-- A string over several lines between quotes. -/
def multiLineBasic : Reader String :=
  multiLine '"' (joinedLines <|> charContent basicChar <|> newlineContent)

/-- A string over several lines between apostrophes, without escapes. -/
def multiLineLiteral : Reader String :=
  multiLine '\''
    (charContent (satisfy fun c => isPlain c && c != '\'') <|> newlineContent)

/-- A string. -/
def text : Reader String :=
  multiLineBasic <|> multiLineLiteral <|> basicString <|> literalString

/-! ### Numbers -/

/-- One or more digits, with single underscores between them. -/
def digitGroup (p : Char → Bool) : Reader (List Char) := do
  let first ← satisfy p
  let rest ← many (satisfy p <|> (char '_' *> satisfy p))
  return first :: rest

/-- A sign, true if it is a minus. -/
def sign : Reader Bool := do
  match ← optionally (char '+' <|> char '-') with
  | some '-' => return true
  | _ => return false

/-- The number that digits to the given base stand for. -/
def digitsValue (base : Nat) (digits : List Char) : Nat :=
  digits.foldl (fun n d => n * base + digitValue d) 0

/-- Decimal digits without a zero in front, unless it is the only digit. -/
def wholeDigits : Reader (List Char) := do
  match ← peek with
  | some '0' => do
    let zero ← char '0'
    return [zero]
  | _ => digitGroup Char.isDigit

/-- An integer to another base than ten. -/
def basedInteger (letter : Char) (base : Nat) (isBaseDigit : Char → Bool) : Reader Unit := do
  word ['0', letter]
  let digits ← digitGroup isBaseDigit
  if digitsValue base digits < Nat.pow 2 63 then return () else failure

/-- A decimal integer. -/
def decimalInteger : Reader Unit := do
  let negative ← sign
  let digits ← wholeDigits
  let value := digitsValue 10 digits
  if value < Nat.pow 2 63 ∨ (negative = true ∧ value = Nat.pow 2 63) then return () else failure

/-- An integer of 64 bits. -/
def integer : Reader Unit :=
  basedInteger 'x' 16 Text.isHexDigit <|>
  basedInteger 'o' 8 (fun c => '0' ≤ c && c ≤ '7') <|>
  basedInteger 'b' 2 (fun c => c == '0' || c == '1') <|>
  decimalInteger

/-- The digits behind a point. -/
def fraction : Reader (List Char) := do
  let _ ← char '.'
  digitGroup Char.isDigit

/-- An exponent. -/
def exponent : Reader Int := do
  let _ ← char 'e' <|> char 'E'
  let negative ← sign
  let digits ← digitGroup Char.isDigit
  let value : Int := digitsValue 10 digits
  return if negative then -value else value

/-- The least number that is rounded up to infinity. -/
def overflowBound : Nat := Nat.pow 2 1024 - Nat.pow 2 970

/-- The decimal `digits · 10 ^ scale` is rounded up to infinity. Whether it is follows from the
number of its digits, unless that is about the same as for the bound. -/
def overflows (digits : Nat) (scale : Int) : Bool :=
  let size : Int := (Nat.toDigits 10 digits).length + scale
  if digits = 0 ∨ size < 300 then false
  else if 320 < size then true
  else if 0 ≤ scale then overflowBound ≤ digits * Nat.pow 10 scale.toNat
  else overflowBound * Nat.pow 10 (-scale).toNat ≤ digits

/-- A floating-point number with a point or an exponent. -/
def decimalFloat : Reader Unit := do
  let negative ← sign
  let whole ← wholeDigits
  let (places, power) ← (do
      let places ← fraction
      let power ← optionally exponent
      return (places, power.getD 0)) <|>
    (do let power ← exponent
        return ([], power))
  let digits := digitsValue 10 (whole ++ places)
  if !negative && overflows digits (power - places.length) then failure else return ()

/-- A floating-point number that is no decimal. -/
def specialFloat : Reader Unit := do
  let _ ← sign
  word ['i', 'n', 'f'] <|> word ['n', 'a', 'n']

/-- An integer or a floating-point number. -/
def number : Reader Unit :=
  decimalFloat <|> specialFloat <|> integer

/-! ### Times -/

/-- A number of exactly the given number of digits. -/
def fixedDigits (value : Nat) : Nat → Reader Nat
  | 0 => pure value
  | n + 1 => do
    let d ← satisfy Char.isDigit
    fixedDigits (value * 10 + digitValue d) n

/-- A number of two digits between the given bounds. -/
def twoDigits (least greatest : Nat) : Reader Nat := do
  let n ← fixedDigits 0 2
  if least ≤ n ∧ n ≤ greatest then return n else failure

/-- The number of days of a month. -/
def daysOf (year month : Nat) : Nat :=
  if month = 2 then
    if year % 4 = 0 ∧ (year % 100 ≠ 0 ∨ year % 400 = 0) then 29 else 28
  else if month = 4 ∨ month = 6 ∨ month = 9 ∨ month = 11 then 30
  else 31

/-- A day. -/
def date : Reader Unit := do
  let year ← fixedDigits 0 4
  let _ ← char '-'
  let month ← twoDigits 1 12
  let _ ← char '-'
  let day ← twoDigits 1 31
  if day ≤ daysOf year month then return () else failure

/-- A time of day. -/
def timeOfDay : Reader Unit := do
  let _ ← twoDigits 0 23
  let _ ← char ':'
  let _ ← twoDigits 0 59
  let _ ← char ':'
  let _ ← twoDigits 0 60
  let _ ← optionally (do
    let _ ← char '.'
    let _ ← satisfy Char.isDigit
    takeWhile Char.isDigit)

/-- The distance of a time zone. -/
def zone : Reader Unit := do
  if (← optionally (char 'Z' <|> char 'z')).isSome then return ()
  let _ ← char '+' <|> char '-'
  let _ ← twoDigits 0 23
  let _ ← char ':'
  let _ ← twoDigits 0 59

/-- A day with or without a time of day and a zone, or a time of day. -/
def time : Reader Unit :=
  (do date
      let _ ← optionally (do
        let _ ← char 'T' <|> char 't' <|> char ' '
        timeOfDay
        optionally zone)) <|>
  timeOfDay

/-- The string holds a time and nothing else. -/
def isTimeText (s : String) : Bool :=
  (StateT.run (do time; atEnd) s.toList).isSome

end RobotCell.Toml
