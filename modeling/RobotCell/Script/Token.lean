import RobotCell.Script.Keyword
import RobotCell.Script.Operator
import RobotCell.Text.Shown

/-!
# Tokens of a script

A script is read as a list of tokens: words, literals, symbols, and the layout tokens that mark the
ends of lines and the bounds of indented blocks.

## Main definitions

- `Symbol` — punctuation and operators with one fixed spelling
- `Token` — the tokens of a script
- `Token.spellings` — the tokens with a fixed spelling, longest spelling first
- `Token.shown` — a token as it appears in messages
-/

namespace RobotCell.Script

/-- Punctuation and operators. -/
inductive Symbol where
  | leftParen | rightParen | leftBracket | rightBracket | leftBrace | rightBrace
  | colon | colonEq | comma | semicolon | dot | ellipsis | arrow | atSign | assign
  | plus | minus | star | doubleStar | slash | doubleSlash | percent | tilde | amper | pipe | caret
  | leftShift | rightShift
  | eq | ne | lt | gt | le | ge
  deriving DecidableEq

/-- The tokens of a script. -/
inductive Token where
  /-- A word that is not reserved. -/
  | name (id : String)
  /-- A reserved word. -/
  | keyword (k : Keyword)
  /-- A number as it is written. -/
  | number (text : String)
  /-- A plain string literal with its escapes resolved. -/
  | str (text : String)
  /-- A string literal with a prefix, as it is written. -/
  | verbatim (text : String)
  /-- Punctuation or an operator. -/
  | symbol (s : Symbol)
  /-- An operator joined with an equals sign. -/
  | augAssign (op : BinaryOp)
  /-- The end of a line that holds other tokens. -/
  | newline
  /-- The start of an indented block. -/
  | indent
  /-- The end of an indented block. -/
  | dedent
  /-- The end of the script. -/
  | endOfInput
  deriving DecidableEq

/-- The name of the symbol in messages. -/
def Symbol.label : Symbol → String
  | .leftParen => "LParen"
  | .rightParen => "RParen"
  | .leftBracket => "LBracket"
  | .rightBracket => "RBracket"
  | .leftBrace => "LBrace"
  | .rightBrace => "RBrace"
  | .colon => "Colon"
  | .colonEq => "ColonEq"
  | .comma => "Comma"
  | .semicolon => "Semicolon"
  | .dot => "Dot"
  | .ellipsis => "Ellipsis"
  | .arrow => "Arrow"
  | .atSign => "At"
  | .assign => "Assign"
  | .plus => "Plus"
  | .minus => "Minus"
  | .star => "Star"
  | .doubleStar => "DoubleStar"
  | .slash => "Slash"
  | .doubleSlash => "DoubleSlash"
  | .percent => "Percent"
  | .tilde => "Tilde"
  | .amper => "Amper"
  | .pipe => "Pipe"
  | .caret => "Caret"
  | .leftShift => "LShift"
  | .rightShift => "RShift"
  | .eq => "Eq"
  | .ne => "Ne"
  | .lt => "Lt"
  | .gt => "Gt"
  | .le => "Le"
  | .ge => "Ge"

namespace Token

/-- The tokens with a fixed spelling. Longer spellings come first, so that the first entry that
starts a text is also the longest one. -/
def spellings : List (List Char × Token) :=
  [(['.', '.', '.'], .symbol .ellipsis),
   (['<', '<', '='], .augAssign .leftShift),
   (['>', '>', '='], .augAssign .rightShift),
   (['*', '*', '='], .augAssign .pow),
   (['/', '/', '='], .augAssign .floorDiv),
   ([':', '='], .symbol .colonEq),
   (['-', '>'], .symbol .arrow),
   (['=', '='], .symbol .eq),
   (['!', '='], .symbol .ne),
   (['<', '='], .symbol .le),
   (['>', '='], .symbol .ge),
   (['<', '<'], .symbol .leftShift),
   (['>', '>'], .symbol .rightShift),
   (['*', '*'], .symbol .doubleStar),
   (['/', '/'], .symbol .doubleSlash),
   (['+', '='], .augAssign .add),
   (['-', '='], .augAssign .sub),
   (['*', '='], .augAssign .mult),
   (['@', '='], .augAssign .matMult),
   (['/', '='], .augAssign .div),
   (['%', '='], .augAssign .mod),
   (['|', '='], .augAssign .bitOr),
   (['^', '='], .augAssign .bitXor),
   (['&', '='], .augAssign .bitAnd),
   (['('], .symbol .leftParen),
   ([')'], .symbol .rightParen),
   (['['], .symbol .leftBracket),
   ([']'], .symbol .rightBracket),
   (['{'], .symbol .leftBrace),
   (['}'], .symbol .rightBrace),
   ([':'], .symbol .colon),
   ([','], .symbol .comma),
   ([';'], .symbol .semicolon),
   (['.'], .symbol .dot),
   (['@'], .symbol .atSign),
   (['='], .symbol .assign),
   (['+'], .symbol .plus),
   (['-'], .symbol .minus),
   (['*'], .symbol .star),
   (['/'], .symbol .slash),
   (['%'], .symbol .percent),
   (['~'], .symbol .tilde),
   (['&'], .symbol .amper),
   (['|'], .symbol .pipe),
   (['^'], .symbol .caret),
   (['<'], .symbol .lt),
   (['>'], .symbol .gt)]

/-- A token as it appears in messages. -/
def shown : Token → String
  | .name id => "Name(" ++ Text.shown id ++ ")"
  | .keyword k => "Kw(" ++ k.label ++ ")"
  | .number text => "Number(" ++ Text.shown text ++ ")"
  | .str text => "Str(" ++ Text.shown text ++ ")"
  | .verbatim text => "VerbatimStr(" ++ Text.shown text ++ ")"
  | .symbol s => s.label
  | .augAssign op => "AugAssign(" ++ op.label ++ ")"
  | .newline => "Newline"
  | .indent => "Indent"
  | .dedent => "Dedent"
  | .endOfInput => "Eof"

end Token

end RobotCell.Script
