import RobotCell.Command.Run

/-!
# The command line

The commands on the machine at hand.

## Main definitions

- `Command.thisMachine` — the steps on the machine at hand
- `main` — the entry point
-/

namespace RobotCell.Command

/-- The codes of the machine for errors that have no case of their own. -/
def namedError? (code : UInt32) : Option FileError :=
  [(36, .tooLong), (40, .tooManyLinks), (1, .notPermitted), (13, .denied)].lookup code

/-- The cause of an error of the machine, which gives a code with either sign. -/
def fileError (e : IO.Error) : FileError :=
  let named (code : UInt32) : FileError :=
    ((namedError? code).or (namedError? (-code))).getD (.other (toString e))
  match e with
  | .noFileOrDirectory .. => .notFound
  | .inappropriateType .. => .notDirectory
  | .invalidArgument _ code _ => named code
  | .permissionDenied _ code _ => named code
  | e => .other (toString e)

/-- A step on a file of the machine, unless its path cannot be looked up at all. -/
def onFile {α : Type} (path : String) (step : IO (Except FileError α)) :
    IO (Except FileError α) := do
  if let .error e := Path.check path then return .error e
  try step catch e => return .error (fileError e)

/-- The text of a file of the machine. -/
def readFile (path : String) : IO (Except FileError String) := onFile path do
  if ← (( ← IO.currentDir) / path).isDir then return .error .isDirectory
  let content ← IO.FS.readBinFile path
  match String.fromUTF8? content with
  | some text => return .ok text
  | none => return .error .notText

/-- The names in a directory of the machine. -/
def listDirectory (path : String) : IO (Except FileError (List String)) := onFile path do
  let entries ← (( ← IO.currentDir) / path).readDir
  return .ok (entries.toList.map fun e => e.fileName)

/-- A text written to a file of the machine. -/
def writeFile (path text : String) : IO (Except FileError Unit) := onFile path do
  if ← (( ← IO.currentDir) / path).isDir then return .error .isDirectory
  IO.FS.writeFile path text
  return .ok ()

/-- The mode of a file of the machine. The library for files does not tell it: this is the one that
new files usually have. -/
def fileMode (path : String) : IO (Except FileError Nat) := onFile path do
  let _ ← (( ← IO.currentDir) / path).metadata
  return .ok 0o644

/-- Three bits of a mode. -/
def accessRight (bits : Nat) : IO.AccessRight :=
  ⟨bits &&& 4 != 0, bits &&& 2 != 0, bits &&& 1 != 0⟩

/-- Another mode of a file of the machine. -/
def setFileMode (path : String) (mode : Nat) : IO (Except FileError Unit) := onFile path do
  IO.setAccessRights path ⟨accessRight (mode >>> 6), accessRight (mode >>> 3), accessRight mode⟩
  return .ok ()

/-- A text on the standard output of the machine. -/
def printHere (text : String) : IO (Except FileError Unit) := do
  try
    let out ← IO.getStdout
    out.putStr text
    out.flush
    return .ok ()
  catch e => return .error (fileError e)

/-- The steps on the machine at hand. -/
def thisMachine : Machine IO where
  read := readFile
  isPresent path := do return ← (( ← IO.currentDir) / path).pathExists
  isDirectory path := do return ← (( ← IO.currentDir) / path).isDir
  list := listDirectory
  write := writeFile
  mode := fileMode
  setMode := setFileMode
  print := printHere
  report := IO.eprint

end RobotCell.Command

/-- Runs the command that the arguments give. -/
def main (args : List String) : IO UInt32 := do
  let cwd ← IO.currentDir
  let code ← RobotCell.Command.start RobotCell.Command.thisMachine cwd.toString args
  return code.toUInt32
