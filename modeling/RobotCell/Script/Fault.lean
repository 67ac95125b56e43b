import RobotCell.Script.Place
import RobotCell.Script.Token

/-!
# Faults in a script

Why a text is not a script, as a cause and a place. The wording of every cause is in one function.

## Main definitions

- `Fault` — the causes
- `Fault.message` — the wording of a cause
- `SyntaxError` — a cause at a place
-/

namespace RobotCell.Script

/-- The part of the grammar in which a token makes no sense. -/
inductive Context where
  | expression
  | statementEnd
  | statementKind
  | name
  | decorated
  deriving DecidableEq

/-- Why a text is not a script. -/
inductive Fault where
  /-- A line is indented less than its block and does not return to an outer block. -/
  | unmatchedIndent
  /-- A backslash outside a literal is not at the end of its line. -/
  | brokenContinuation
  /-- A character starts no token. -/
  | strayChar (c : Char)
  /-- A string literal has no closing quote. -/
  | openString
  /-- A token makes no sense where it stands. -/
  | unexpected (found : Token) (context : Context)
  /-- Another token is required. -/
  | missing (wanted found : Token)
  /-- A keyword is required. -/
  | missingKeyword (wanted : Keyword) (found : Token)
  /-- The word `async` stands before something other than a function. -/
  | asyncWithoutDef
  /-- The script ends inside a block. -/
  | openBlock
  /-- A `try` has neither handlers nor a final block. -/
  | bareTry
  /-- A parameter list holds a slash. -/
  | positionalOnly
  /-- A `yield` stands in an expression. -/
  | yieldExpression
  /-- A dictionary display unpacks another dictionary. -/
  | dictUnpacking
  /-- The token at the end of the list would be read again and again. -/
  | endless
  deriving DecidableEq

/-- The words for a context. -/
def Context.message : Context → String
  | .expression => "in expression"
  | .statementEnd => "at end of statement"
  | .statementKind => "(statement kind not supported)"
  | .name => "where a name was expected"
  | .decorated => "after decorator"

/-- The wording of a cause. -/
def Fault.message : Fault → String
  | .unmatchedIndent => "unindent does not match any outer indentation level"
  | .brokenContinuation => "unexpected character after line continuation"
  | .strayChar c => "unexpected character `" ++ String.singleton c ++ "`"
  | .openString => "unterminated string literal"
  | .unexpected found context => "unexpected " ++ found.shown ++ " " ++ context.message
  | .missing wanted found => "expected " ++ wanted.shown ++ ", got " ++ found.shown
  | .missingKeyword wanted found => "expected " ++ wanted.label ++ ", got " ++ found.shown
  | .asyncWithoutDef => "only `async def` is supported"
  | .openBlock => "unexpected end of input inside a block"
  | .bareTry => "`try` without `except` or `finally`"
  | .positionalOnly => "positional-only parameters are not supported"
  | .yieldExpression => "`yield` expressions are not supported"
  | .dictUnpacking => "dict unpacking is not supported"
  | .endless => "the last token repeats without end"

/-- A cause at a place. -/
structure SyntaxError where
  place : Place
  fault : Fault
  deriving DecidableEq

/-- The wording of an error, with its place. -/
def SyntaxError.message (e : SyntaxError) : String :=
  "failed to parse the code (line " ++ toString e.place.line ++ ", column " ++
    toString e.place.column ++ "): " ++ e.fault.message

end RobotCell.Script
