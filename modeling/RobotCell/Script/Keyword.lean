/-!
# Keywords of the script language

A keyword is a reserved word: it is spelt like a name but never is one.

## Main definitions

- `Keyword` — the reserved words
- `Keyword.spelling` — the word itself
- `Keyword.ofSpelling?` — the keyword spelt by a word, if it is reserved
-/

namespace RobotCell.Script

/-- The reserved words. -/
inductive Keyword where
  | falseKw | noneKw | trueKw | andKw | asKw | assertKw | asyncKw | awaitKw | breakKw | classKw
  | continueKw | defKw | delKw | elifKw | elseKw | exceptKw | finallyKw | forKw | fromKw
  | globalKw | ifKw | importKw | inKw | isKw | lambdaKw | nonlocalKw | notKw | orKw | passKw
  | raiseKw | returnKw | tryKw | whileKw | withKw | yieldKw
  deriving DecidableEq

namespace Keyword

/-- The word as it is written. -/
def spelling : Keyword → String
  | .falseKw => "False"
  | .noneKw => "None"
  | .trueKw => "True"
  | .andKw => "and"
  | .asKw => "as"
  | .assertKw => "assert"
  | .asyncKw => "async"
  | .awaitKw => "await"
  | .breakKw => "break"
  | .classKw => "class"
  | .continueKw => "continue"
  | .defKw => "def"
  | .delKw => "del"
  | .elifKw => "elif"
  | .elseKw => "else"
  | .exceptKw => "except"
  | .finallyKw => "finally"
  | .forKw => "for"
  | .fromKw => "from"
  | .globalKw => "global"
  | .ifKw => "if"
  | .importKw => "import"
  | .inKw => "in"
  | .isKw => "is"
  | .lambdaKw => "lambda"
  | .nonlocalKw => "nonlocal"
  | .notKw => "not"
  | .orKw => "or"
  | .passKw => "pass"
  | .raiseKw => "raise"
  | .returnKw => "return"
  | .tryKw => "try"
  | .whileKw => "while"
  | .withKw => "with"
  | .yieldKw => "yield"

/-- Every keyword. -/
def all : List Keyword :=
  [.falseKw, .noneKw, .trueKw, .andKw, .asKw, .assertKw, .asyncKw, .awaitKw, .breakKw, .classKw,
   .continueKw, .defKw, .delKw, .elifKw, .elseKw, .exceptKw, .finallyKw, .forKw, .fromKw,
   .globalKw, .ifKw, .importKw, .inKw, .isKw, .lambdaKw, .nonlocalKw, .notKw, .orKw, .passKw,
   .raiseKw, .returnKw, .tryKw, .whileKw, .withKw, .yieldKw]

/-- The keyword with the given spelling. -/
def ofSpelling? (word : String) : Option Keyword :=
  all.find? fun k => k.spelling = word

/-- The name of the keyword in messages: its spelling with a capital letter. -/
def label (k : Keyword) : String :=
  k.spelling.capitalize

end Keyword

end RobotCell.Script
