import RobotCell.Program.Naming

/-!
# Settings

The settings say where programs import the types of their objects from, and where the sources of
these types are.

## Main definitions

- `Settings` — the settings of a project
- `Settings.typeModule` — the module of a type
-/

namespace RobotCell

/-- Where types come from. -/
structure Settings where
  /-- The types of the runtime library. -/
  builtInTypes : List String := ["Generic", "Robot"]
  /-- The module of the types of the runtime library. -/
  builtInModule : String := "arcor2.object_types"
  /-- The package of all other types, each with a module of its own. -/
  typesPackage : String := "object_types"
  /-- The module of the resources of the project. -/
  resourcesModule : String := "resources"
  /-- The directory with the sources of the types of the project. -/
  typesDir : String := "object_types"
  /-- The directory with the sources of the types of the runtime library. -/
  builtInTypesDir : String := "built_in_types"
  deriving DecidableEq

/-- The type belongs to the runtime library. -/
def Settings.isBuiltIn (s : Settings) (type : String) : Bool :=
  s.builtInTypes.contains type

/-- The module of a type. -/
def Settings.typeModule (s : Settings) (type : String) : String :=
  if s.isBuiltIn type then s.builtInModule
  else s.typesPackage ++ "." ++ Naming.snakeCase type

end RobotCell
