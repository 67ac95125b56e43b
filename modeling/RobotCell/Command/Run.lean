import RobotCell.Cell.Document
import RobotCell.Cell.Inspection
import RobotCell.Command.Arguments
import RobotCell.Command.Machine
import RobotCell.Json.Reader
import RobotCell.Json.Writer
import RobotCell.Program.Recovery
import RobotCell.Program.Resources

/-!
# Commands

A command reads files and prints what it finds, or writes it to a file. Each of its steps can fail,
which ends the command.

## Main definitions

- `inspect`, `check`, `emit`, `recover`, `resources` — the commands
- `start` — a command on a machine
- `run` — a command on a file tree
-/

namespace RobotCell.Command

section Steps

variable {m : Type → Type} [Monad m] (machine : Machine m)

/-- A step on files that ends the command if it fails. -/
def orFail {α : Type} (failure : FileError → CommandError) (step : m (Except FileError α)) :
    ExceptT CommandError m α := do
  match ← step with
  | .ok a => return a
  | .error e => throw (failure e)

/-! ### Reading -/

/-- The text of a file. -/
def readText (path : String) : ExceptT CommandError m String :=
  orFail (.unreadable path) (machine.read path)

/-- How deep a document may be nested. -/
def maxDepth : Nat := 127

/-- The value in a file with a JSON document. -/
def readDocument {α : Type} (ofJson : Json → Option α) (path : String) :
    ExceptT CommandError m α := do
  let text ← readText machine path
  match (Json.parse text).bind fun document => ofJson (document.bounded maxDepth) with
  | some a => return a
  | none => throw (.invalidJson path)

/-- A result of a compilation that is about the given file. -/
def compiled {α : Type} (path : String) (r : Except CompileError α) :
    ExceptT CommandError m α :=
  match r with
  | .ok a => return a
  | .error e => throw (.compile path e)

/-- The settings of a directory. -/
def readSettings (dir : String) : ExceptT CommandError m Settings := do
  let path := Path.join dir "cellflow.toml"
  if ← machine.isPresent path then
    match ← machine.read path with
    | .error _ => throw (.noSettings dir)
    | .ok text =>
      match Settings.parse text with
      | .ok settings => return settings
      | .error .malformed => throw (.noSettings dir)
      | .error (.invalidField field reason) => throw (.badSetting dir field reason)
  else return {}

/-- The object type in a file. -/
def readType (path : String) : ExceptT CommandError m TypeEntry := do
  let source ← readText machine path
  compiled path (Inspection.entryOf source)

/-- The catalog with the types of a directory, in the order of their file names. -/
def readTypes (catalog : Catalog) (dir : String) : ExceptT CommandError m Catalog := do
  let names ← orFail (.unreadable dir) (machine.list dir)
  let sources := (names.filter Path.isTypeSource).mergeSort fun a b => !(decide (b < a))
  sources.foldlM (fun catalog name => do
    let entry ← readType machine (Path.join dir name)
    return catalog.insert entry) catalog

/-! ### Output -/

/-- Prints a text. -/
def printText (text : String) : ExceptT CommandError m Unit :=
  orFail .unprintable (machine.print text)

/-- Writes a text to a file. -/
def writeText (path text : String) : ExceptT CommandError m Unit :=
  orFail (.unwritable path) (machine.write path text)

/-- Lets everyone execute a file. -/
def makeExecutable (path : String) : ExceptT CommandError m Unit := do
  let mode ← orFail (.unwritable path) (machine.mode path)
  orFail (.unwritable path) (machine.setMode path (mode ||| Rights.executeBits))

/-- Writes a program to a file that everyone can execute. -/
def writeScript (path text : String) : ExceptT CommandError m Unit := do
  writeText machine path text
  makeExecutable machine path

/-- Prints a text, or writes it to a file if the arguments name one. -/
def output (write : String → String → ExceptT CommandError m Unit) (cwd : String)
    (args : List String) (text : String) : ExceptT CommandError m Unit :=
  match flagValue? "--out" args with
  | some path => write (Path.join cwd path) text
  | none => printText machine text

/-! ### The commands -/

/-- Shows an object type. -/
def inspect (cwd : String) (args : List String) : ExceptT CommandError m Unit := do
  let path ← sourceArgument args
  let entry ← readType machine (Path.join cwd path)
  printText machine (entry.toJson.render ++ "\n")

/-- Checks an object type. -/
def check (cwd : String) (args : List String) : ExceptT CommandError m Unit := do
  let path ← sourceArgument args
  let path := Path.join cwd path
  let _ ← readType machine path
  printText machine (path ++ ": ok\n")

/-- Writes the program of a project. -/
def emit (cwd : String) (args : List String) : ExceptT CommandError m Unit := do
  let project ← requiredFlag "--project" args
  let scene ← requiredFlag "--scene" args
  let projectPath := Path.join cwd project
  let root := ((flagValue? "--path" args).map (Path.join cwd)).getD cwd
  let settings ← readSettings machine root
  let dirOf (flag preset : String) : String :=
    ((flagValue? flag args).map (Path.join cwd)).getD (Path.join root preset)
  let project ← readDocument machine Project.ofJson projectPath
  let scene ← readDocument machine Scene.ofJson (Path.join cwd scene)
  let builtIns := dirOf "--built-ins" settings.builtInTypesDir
  let catalog ←
    if ← machine.isDirectory builtIns then readTypes machine .empty builtIns else pure .empty
  let catalog ← readTypes machine catalog (dirOf "--types" settings.typesDir)
  let text ← compiled projectPath (program settings project scene catalog)
  output machine (writeScript machine) cwd args text

/-- Writes a project with the links of a program. -/
def recover (cwd : String) (args : List String) : ExceptT CommandError m Unit := do
  let project ← requiredFlag "--project" args
  let script ← requiredFlag "--script" args
  let scriptPath := Path.join cwd script
  let project ← readDocument machine Project.ofJson (Path.join cwd project)
  let source ← readText machine scriptPath
  let project ← compiled scriptPath (RobotCell.recover source project)
  output machine (writeText machine) cwd args (project.toJson.render ++ "\n")

/-- Writes the resources of a project. -/
def resources (cwd : String) (args : List String) : ExceptT CommandError m Unit := do
  let project ← requiredFlag "--project" args
  let path := Path.join cwd project
  let project ← readDocument machine Project.ofJson path
  let text ← compiled path (RobotCell.resources project.id project.parameters)
  output machine (writeText machine) cwd args text

/-- Shows how the commands are used, and ends with the given code. -/
def usage (code : Nat) : ExceptT CommandError m Nat := do
  machine.report usageText
  return code

/-- The command of the given arguments, and the code that it ends with unless it fails. The first
argument is its name. -/
def dispatch (cwd : String) (args : List String) : ExceptT CommandError m Nat :=
  match args.head? with
  | none => usage machine 2
  | some name =>
    match name with
    | "inspect" => do inspect machine cwd args; return 0
    | "check" => do check machine cwd args; return 0
    | "emit" => do emit machine cwd args; return 0
    | "recover" => do recover machine cwd args; return 0
    | "resources" => do resources machine cwd args; return 0
    | "-h" => usage machine 0
    | "--help" => usage machine 0
    | "help" => usage machine 0
    | _ => usage machine 2

/-- Runs the command of the given arguments, and gives the code that it ends with. -/
def start (cwd : String) (args : List String) : m Nat := do
  match ← (dispatch machine cwd args).run with
  | .ok code => return code
  | .error e =>
    machine.report e.report
    return e.code

end Steps

/-- What can be seen after a command. -/
structure Outcome where
  code : Nat
  out : String
  err : String
  tree : FileTree

/-- A command on a file tree, with the given working directory. -/
def run (h : Host) (t : FileTree) (cwd : String) (args : List String) : Outcome :=
  let ended := Id.run (StateT.run (start (.ofHost h) cwd args) ⟨t, "", ""⟩)
  ⟨ended.1, ended.2.out, ended.2.err, ended.2.tree⟩

end RobotCell.Command
