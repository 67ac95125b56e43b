import RobotCell.Program.Settings
import RobotCell.Toml.Document

/-!
# Files with settings

## Main definitions

- `SettingsError` — what is wrong with a file
- `Settings.parse` — the settings that a text stands for
-/

namespace RobotCell

open Toml (Value)

/-- What is wrong with a file with settings. -/
inductive SettingsError where
  /-- The text is no document. -/
  | malformed
  | invalidField (field reason : String)
  deriving DecidableEq

namespace Settings

/-- The module path consists of identifiers with points between them. -/
def isModulePath (path : String) : Bool :=
  path ≠ "" && (Text.splitAtChar '.' path).all Script.isIdentifier

/-- The field with the given name. -/
def fieldName (name : String) : String :=
  "compiler." ++ name

/-- The list of type names in a table, or the given one if there is none. -/
def typeNames (members : List (String × Value)) (preset : List String) :
    Except SettingsError (List String) :=
  let name := "built_in_types"
  let refusal := SettingsError.invalidField (fieldName name) "must be an array of type names"
  match members.lookup name with
  | none => .ok preset
  | some (.array items) => items.mapM fun
    | .text s => .ok s
    | _ => .error refusal
  | some _ => .error refusal

/-- The text in a table, or the given one if there is none. -/
def textField (members : List (String × Value)) (name preset : String) :
    Except SettingsError String :=
  match members.lookup name with
  | none => .ok preset
  | some (.text s) => .ok s
  | some _ => .error (.invalidField (fieldName name) "must be a string")

/-- The module path in a table, or the given one if there is none. -/
def moduleField (members : List (String × Value)) (name preset : String) :
    Except SettingsError String := do
  let path ← textField members name preset
  if isModulePath path then return path
  throw (.invalidField (fieldName name)
    "must be a dotted module path, for example `arcor2.object_types`")

/-- The settings in a table. -/
def ofMembers (members : List (String × Value)) : Except SettingsError Settings := do
  let preset : Settings := {}
  let builtInTypes ← typeNames members preset.builtInTypes
  let builtInModule ← moduleField members "built_in_module" preset.builtInModule
  let typesPackage ← moduleField members "object_types_package" preset.typesPackage
  let resourcesModule ← moduleField members "resources_module" preset.resourcesModule
  let typesDir ← textField members "object_types_dir" preset.typesDir
  let builtInTypesDir ← textField members "built_in_types_dir" preset.builtInTypesDir
  return { builtInTypes, builtInModule, typesPackage, resourcesModule, typesDir, builtInTypesDir }

/-- The settings that a text stands for. -/
def parse (source : String) : Except SettingsError Settings :=
  match Toml.parse source with
  | none => .error .malformed
  | some (.table members) =>
    match members.lookup "compiler" with
    | none => .ok {}
    | some (.table members) => ofMembers members
    | some _ => .error (.invalidField "compiler" "must be a table")
  | some _ => .ok {}

end Settings

/-- The wording of an error about a field. -/
def SettingsError.message : SettingsError → String
  | .malformed => "not a document"
  | .invalidField field reason => "invalid field `" ++ field ++ "`: " ++ reason

end RobotCell
