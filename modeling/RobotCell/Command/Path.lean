import RobotCell.Text.Join

/-!
# Paths

A path is a text. It is kept as it is given, also if it has superfluous parts.

## Main definitions

- `Path.join` — a path seen from a directory
- `Path.names` — the names that a path consists of
- `Path.isTypeSource` — a file name of an object type
- `Path.maxSize`, `Path.maxNameSize` — how long paths and names may be
- `Path.maxLinks` — how many links may be followed
-/

namespace RobotCell.Path

/-- The path starts at the root. -/
def isAbsolute (path : String) : Bool :=
  path.toList.head? == some '/'

/-- The path ends with a slash. -/
def endsInSlash (path : String) : Bool :=
  path.toList.getLast? == some '/'

/-- The path seen from a directory. -/
def join (dir path : String) : String :=
  if isAbsolute path then path
  else if dir = "" || endsInSlash dir then dir ++ path
  else dir ++ "/" ++ path

/-- The names that a path consists of. -/
def names (path : String) : List String :=
  (Text.splitAtChar '/' path).filter (· ≠ "")

/-- The size of the longest path, in bytes. -/
def maxSize : Nat := 4095

/-- The size of the longest name in a path, in bytes. -/
def maxNameSize : Nat := 255

/-- The number of links that a path may lead through. -/
def maxLinks : Nat := 40

/-- The file holds the source of an object type. -/
def isTypeSource (name : String) : Bool :=
  ['.', 'p', 'y'].isSuffixOf name.toList && name ≠ ".py" && name ≠ "__init__.py"

end RobotCell.Path
