import RobotCell.Command.FileTree

/-!
# Machines

A command takes steps on a machine: it reads files, writes them and prints texts. Each step can fail,
and what the steps before it did stays done. The steps are given for every kind of machine. One kind
is a session on a file tree, which says what can be seen of a command.

## Main definitions

- `Machine` — the steps that a command can take
- `Host` — who runs a command, and what the standard output takes
- `Session` — a file tree and what was printed so far
- `Machine.ofHost` — the steps in a session
-/

namespace RobotCell.Command

/-- The steps that a command can take. Files are given by their paths. -/
structure Machine (m : Type → Type) where
  read : String → m (Except FileError String)
  isPresent : String → m Bool
  isDirectory : String → m Bool
  list : String → m (Except FileError (List String))
  /-- A text is written to a file. -/
  write : String → String → m (Except FileError Unit)
  mode : String → m (Except FileError Nat)
  setMode : String → Nat → m (Except FileError Unit)
  /-- A text goes to the standard output. -/
  print : String → m (Except FileError Unit)
  /-- A text goes to the standard error output. -/
  report : String → m Unit

/-- Who runs a command, and where its output goes. -/
structure Host where
  user : User
  /-- How many characters the standard output takes, and the error behind them, unless it takes all.
  -/
  limit? : Option (Nat × FileError)

/-- The files, and what was printed and reported so far. -/
structure Session where
  tree : FileTree
  out : String
  err : String

namespace Session

/-- The session after a step that changes the files, unless it fails. -/
def change (s : Session) : Except FileError FileTree → Except FileError Unit × Session
  | .ok tree => (.ok (), { s with tree })
  | .error e => (.error e, s)

/-- The session after a text is printed. Of a text that does not fit a part is printed. -/
def print (s : Session) (limit? : Option (Nat × FileError)) (text : String) :
    Except FileError Unit × Session :=
  match limit? with
  | none => (.ok (), { s with out := s.out ++ text })
  | some (size, e) =>
    if (s.out ++ text).length ≤ size then (.ok (), { s with out := s.out ++ text })
    else (.error e, { s with out := String.ofList ((s.out ++ text).toList.take size) })

end Session

/-- The steps in a session. -/
def Machine.ofHost (h : Host) : Machine (StateM Session) where
  read path := fun s => (s.tree.read h.user path, s)
  isPresent path := fun s => (s.tree.isPresent h.user path, s)
  isDirectory path := fun s => (s.tree.isDirectory h.user path, s)
  list path := fun s => (s.tree.list h.user path, s)
  write path text := fun s => s.change (s.tree.write h.user path text)
  mode path := fun s => (s.tree.mode h.user path, s)
  setMode path mode := fun s => s.change (s.tree.setMode h.user path mode)
  print text := fun s => s.print h.limit? text
  report text := fun s => ((), { s with err := s.err ++ text })

end RobotCell.Command
