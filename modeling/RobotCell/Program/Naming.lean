import RobotCell.Script.Identifier
import RobotCell.Text.Join
import RobotCell.Text.Lowercase

/-!
# Names

Types are named in camel case, modules and variables in snake case.

## Main definitions

- `Naming.snakeCase`, `Naming.camelCase` — a name in the other style
- `Naming.variableName` — the variable of an object
- `Naming.typeReference?` — the parts of a reference to a type
-/

namespace RobotCell.Naming

/-! ### Snake case -/

/-- Letters with an underscore before each capital letter that starts a word, that is, before a
capital letter with a small letter behind it. The first letter starts no word, nor does a letter
behind a newline or directly behind another word. If `inWord` holds, the letters start within a
word. -/
def markWords (inWord : Bool) : List Char → List Char
  | c :: u :: l :: rest =>
    if inWord && c.isLower then c :: markWords true (u :: l :: rest)
    else if c ≠ '\n' && u.isUpper && l.isLower then c :: '_' :: u :: l :: markWords true rest
    else c :: markWords false (u :: l :: rest)
  | cs => cs

/-- Letters with an underscore between a small letter or digit and a capital letter. -/
def markCapitals : List Char → List Char
  | c :: u :: rest =>
    if (c.isLower || c.isDigit) && u.isUpper then c :: '_' :: u :: markCapitals rest
    else c :: markCapitals (u :: rest)
  | cs => cs

/-- A name in snake case. -/
def snakeCase (name : String) : String :=
  String.ofList (Text.lowerChars (markCapitals (markWords false name.toList)))

/-! ### Camel case -/

/-- A word with a capital letter at its start. -/
def capitalized : List Char → List Char
  | [] => []
  | c :: rest => Text.upperChar c ++ Text.lowerChars rest

/-- A name in camel case: small letters up to the first underscore, and a capital letter at the
start of each later word. -/
def camelCase (name : String) : String :=
  match Text.splitChars '_' name.toList with
  | [] => ""
  | word :: rest => String.ofList (Text.lowerChars word ++ rest.flatMap capitalized)

/-! ### Variables and types -/

/-- A character that can stand in a name, or else an underscore. -/
def nameChar (c : Char) : Char :=
  if Script.isAlphanumeric c || c == '_' then c else '_'

/-- The letters start with a digit, or there are none. -/
def needsUnderscore : List Char → Bool
  | [] => true
  | c :: _ => c.isDigit

/-- The variable for the object with the given id. Different ids may have the same variable. -/
def variableName (id : String) : String :=
  let chars := (snakeCase id).toList.map nameChar
  let name := String.ofList (if needsUnderscore chars then '_' :: chars else chars)
  if Script.isKeyword name then name ++ "_" else name

/-- The module and the class of a reference to a type, which has a slash between them. -/
def typeReference? (reference : String) : Option (String × String) :=
  Text.splitPair '/' reference

end RobotCell.Naming
