import RobotCell.Toml.Value

/-!
# Documents

A document is a list of lines: keys with values, and headers that open a table or one more table of
an array. A table is opened at most once, and a table that comes from a key with several parts is
not opened by a header. The keys of a table are in the order in which they are written, where a
table that a header opens counts from there.

## Main definitions

- `Toml.Line`, `Toml.line` — what a line says
- `Toml.Draft` — a document that is being written
- `Value.resolved` — a value in which tables stand for times
- `Toml.parse` — the value that a text stands for
-/

namespace RobotCell.Toml

open Reader

/-- What a line says. -/
inductive Line where
  | blank
  | header (path : List String)
  | arrayHeader (path : List String)
  | pair (path : List String) (v : Value)

/-- The end of a line, with blanks and a comment before it. -/
def lineEnd : Reader Unit := do
  gap
  let _ ← optionally comment
  (newline *> pure ()) <|> atEnd

/-- What a line says before its end. The line must not be empty. -/
def statement : Reader Line := do
  match ← peek with
  | some '[' =>
    (do word ['[', '[']
        let path ← key
        word [']', ']']
        return .arrayHeader path) <|>
    (do let _ ← char '['
        let path ← key
        let _ ← char ']'
        return .header path)
  | some c =>
    if c == '#' || c == '\n' || c == '\r' then return .blank
    else do
      let (path, v) ← pairOf value
      return .pair path v
  | none => failure

/-- A line that is not empty. -/
def line : Reader Line := do
  let l ← statement
  lineEnd
  gap
  return l

/-- All lines of a document, which may start with a byte order mark. -/
def lines : Reader (List Line) := do
  let _ ← optionally (char '\ufeff')
  gap
  let ls ← many line
  atEnd
  return ls

/-! ### Tables -/

/-- How a table has come about. -/
inductive Origin where
  /-- A header opens it. -/
  | header
  /-- A header names it on the way to another table. -/
  | implied
  /-- A key with several parts names it. -/
  | dotted
  deriving DecidableEq

/-- A part of a document that is being written. -/
inductive Draft where
  | value (v : Value)
  | table (origin : Origin) (members : List (String × Draft))
  /-- An array of tables, the last one first. -/
  | tables (last : List (String × Draft)) (earlier : List (List (String × Draft)))

/-- The members of a table. -/
abbrev Members : Type := List (String × Draft)

/-- The members of a table changed at the end of a path by `change`, which is given how that table
has come about. Tables on the path that are missing come about as `fresh`. A key with several parts
does not lead into a table that a header opens. -/
def changeAt (fresh : Origin) (change : Origin → Members → Option Members) :
    List String → Origin → Members → Option Members
  | [], origin, members => change origin members
  | name :: rest, _, members =>
    match members.lookup name with
    | none =>
      (changeAt fresh change rest fresh []).map fun inner =>
        putNamed name (.table fresh inner) members
    | some (.table origin inner) =>
      if fresh = .dotted ∧ origin = .header then none
      else
        (changeAt fresh change rest origin inner).map fun inner =>
          putNamed name (.table origin inner) members
    | some (.tables last earlier) =>
      (changeAt fresh change rest .header last).map fun last =>
        putNamed name (.tables last earlier) members
    | some (.value _) => none

/-- The members with a table opened by a header. -/
def openTable (name : String) (members : Members) : Option Members :=
  match members.lookup name with
  | none => some (putNamed name (.table .header []) members)
  | some (.table .implied inner) =>
    some (members.filter (fun m => m.1 ≠ name) ++ [(name, .table .header inner)])
  | _ => none

/-- The members with one more table of an array. -/
def openElement (name : String) (members : Members) : Option Members :=
  match members.lookup name with
  | none => some (putNamed name (.tables [] []) members)
  | some (.tables last earlier) => some (putNamed name (.tables [] (last :: earlier)) members)
  | _ => none

/-- The members with a new value. -/
def addValue (name : String) (v : Value) (members : Members) : Option Members :=
  match members.lookup name with
  | none => some (putNamed name (.value v) members)
  | some _ => none

/-- A path cut before its last part. -/
def splitLast : List String → Option (List String × String)
  | [] => none
  | [name] => some ([], name)
  | name :: rest => (splitLast rest).map fun (front, last) => (name :: front, last)

/-- The members of the open table with a value under a key. Several parts lead to a table that
comes from such keys, one part belongs to the open table itself. -/
def addPairHere (path : List String) (v : Value) (members : Members) : Option Members := do
  let (front, name) ← splitLast path
  changeAt .dotted (fun origin members =>
    if origin = .dotted ↔ front = [] then none else addValue name v members) front .header
    members

/-- The document after one more line, with the path of the table that is open. -/
def addLine (state : List String × Members) (l : Line) : Option (List String × Members) := do
  let (current, root) := state
  match l with
  | .blank => return state
  | .header path =>
    let (front, name) ← splitLast path
    let root ← changeAt .implied (fun _ => openTable name) front .header root
    return (path, root)
  | .arrayHeader path =>
    let (front, name) ← splitLast path
    let root ← changeAt .implied (fun _ => openElement name) front .header root
    return (path, root)
  | .pair path v =>
    let root ← changeAt .implied (fun _ => addPairHere path v) current .header root
    return (current, root)

mutual

/-- The value that is written. -/
def Draft.toValue : Draft → Value
  | .value v => v
  | .table _ members => .table (draftMembers members)
  | .tables last earlier => .array (draftTables earlier ++ [.table (draftMembers last)])

/-- The values of the members of a table. -/
def draftMembers : List (String × Draft) → List (String × Value)
  | [] => []
  | (name, d) :: rest => (name, d.toValue) :: draftMembers rest

/-- The tables of an array that is given last one first. -/
def draftTables : List (List (String × Draft)) → List Value
  | [] => []
  | members :: rest => draftTables rest ++ [.table (draftMembers members)]

end

/-! ### Times -/

/-- The key of a table that stands for a time. -/
def timeKey : String := "$__toml_private_datetime"

/-- The table stands for a time: the key of times comes first. -/
def isTimeTable : List (String × Value) → Bool
  | [] => false
  | (name, _) :: _ => name == timeKey

/-- The time that a table stands for, which is a string under the first key. -/
def timeOfTable : List (String × Value) → Option Value
  | (_, .text s) :: _ => if isTimeText s then some .plain else none
  | _ => none

mutual

/-- The value with times in the place of the tables that stand for them. There is none if such a
table holds no time. What else is in such a table does not count. -/
def Value.resolved : Value → Option Value
  | .text s => some (.text s)
  | .array items => (resolvedItems items).map .array
  | .table members =>
    if isTimeTable members then timeOfTable members else (resolvedMembers members).map .table
  | .plain => some .plain

/-- The items of an array with times in the place of the tables that stand for them. -/
def resolvedItems : List Value → Option (List Value)
  | [] => some []
  | v :: rest =>
    match v.resolved, resolvedItems rest with
    | some v, some rest => some (v :: rest)
    | _, _ => none

/-- The members of a table with times in the place of the tables that stand for them. -/
def resolvedMembers : List (String × Value) → Option (List (String × Value))
  | [] => some []
  | (name, v) :: rest =>
    match v.resolved, resolvedMembers rest with
    | some v, some rest => some ((name, v) :: rest)
    | _, _ => none

end

/-- The value that a text stands for: a table, unless that stands for a time. -/
def parse (source : String) : Option Value := do
  let (ls, _) ← lines source.toList
  let (_, root) ← ls.foldlM addLine ([], [])
  (Value.table (draftMembers root)).resolved

end RobotCell.Toml
