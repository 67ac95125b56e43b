import RobotCell.Command.FileTree
import RobotCell.CompileError
import RobotCell.Program.SettingsFile

/-!
# Arguments and reports of commands

## Main definitions

- `CommandError` — why a command fails
- `CommandError.report`, `CommandError.code` — how a command that fails ends
- `flagValue?` — the argument behind a flag
-/

namespace RobotCell.Command

/-- Why a command fails. -/
inductive CommandError where
  /-- An argument is missing. -/
  | missing (what : String)
  | unreadable (path : String) (e : FileError)
  | invalidJson (path : String)
  /-- The settings of a directory cannot be read at all. -/
  | noSettings (dir : String)
  | badSetting (dir field reason : String)
  | compile (path : String) (e : CompileError)
  /-- A file cannot be written, or its mode cannot be changed behind that. -/
  | unwritable (path : String) (e : FileError)
  /-- The standard output does not take a text. -/
  | unprintable (e : FileError)
  deriving DecidableEq

/-- The wording of an error. -/
def CommandError.message : CommandError → String
  | .missing what => "missing " ++ what
  | .unreadable path e => "failed to read " ++ path ++ ": " ++ e.message
  | .invalidJson path => "invalid JSON in " ++ path
  | .noSettings dir => "failed to load config from " ++ dir
  | .badSetting dir field reason =>
    "failed to load config from " ++ dir ++ ": " ++
      (SettingsError.invalidField field reason).message
  | .compile path e =>
    if e.isInternal then path ++ ": internal compiler error: " ++ e.message
    else path ++ ": " ++ e.message ++ " [" ++ e.kind ++ "]"
  | .unwritable path e => "failed to write " ++ path ++ ": " ++ e.message
  | .unprintable e => "failed printing to stdout: " ++ e.message

/-- The code that a command ends with if it fails. -/
def CommandError.code : CommandError → Nat
  | .unprintable _ => 101
  | _ => 1

/-- How the commands are used. -/
def usageText : String :=
  Text.joinWith "\n" [
    "Usage:",
    "  cellflow inspect <object_type.py>          # print the type and its actions as JSON",
    "  cellflow check <object_type.py>            # validate an object type source",
    "  cellflow emit --project <p.json> --scene <s.json> [--types <dir>] " ++
      "[--built-ins <dir>] [--out <script.py>]",
    "  cellflow recover --project <p.json> --script <script.py> [--out <p.json>]",
    "  cellflow resources --project <p.json> [--out <resources.py>]",
    "",
    "  --path <dir> selects the directory holding cellflow.toml (default: current dir)",
    ""]

/-- What is reported about an error. A missing argument is reported with the usage. -/
def CommandError.report (e : CommandError) : String :=
  match e with
  | .missing _ => usageText ++ e.message ++ "\n"
  | _ => e.message ++ "\n"

/-- The argument behind the first occurrence of a flag. -/
def flagValue? (flag : String) : List String → Option String
  | [] => none
  | a :: rest => if a = flag then rest.head? else flagValue? flag rest

/-- The argument behind a flag that must be given. -/
def requiredFlag (flag : String) (args : List String) : Except CommandError String :=
  match flagValue? flag args with
  | some value => .ok value
  | none => .error (.missing ("required flag `" ++ flag ++ "`"))

/-- The argument behind the name of the command, unless it is a flag. -/
def sourceArgument : List String → Except CommandError String
  | _ :: path :: _ =>
    if path.toList.head? = some '-' then .error (.missing "object type source") else .ok path
  | _ => .error (.missing "object type source")

end RobotCell.Command
