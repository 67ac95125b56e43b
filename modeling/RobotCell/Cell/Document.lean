import RobotCell.Cell.Catalog
import RobotCell.Cell.Project
import RobotCell.Json.Record

/-!
# Cells as JSON documents

Each record of a cell has a reader and a writer. The writers give every field. The readers also
accept records without the fields that have a value of their own.

## Main definitions

- `Project.ofJson`, `Project.toJson`
- `Scene.ofJson`, `Scene.toJson`
- `Catalog.ofJson`, `Catalog.toJson`
-/

namespace RobotCell

open Json (fields required withDefault toText? toBool? toList? toOption?)

/-! ### Projects -/

/-- A link as text. -/
def Link.toJson (l : Link) : Json :=
  .string l.text

/-- The link that a text stands for. -/
def Link.ofJson (j : Json) : Option Link :=
  (toText? j).map Link.ofText

/-- A parameter as a record. -/
def Parameter.toJson (p : Parameter) : Json :=
  .object [("id", .string p.id), ("type", .string p.type), ("value", p.value)]

/-- The parameter that a record stands for. -/
def Parameter.ofJson (j : Json) : Option Parameter := do
  match ← fields ["id", "type", "value"] j with
  | [id, type, value] =>
    return {
      id := ← required toText? id
      type := ← required toText? type
      value := ← withDefault .null Json.settle value }
  | _ => none

/-- An action as a record. -/
def Action.toJson (a : Action) : Json :=
  .object [("id", .string a.id), ("type", .string a.type),
    ("inputs", .array (a.inputs.map Link.toJson)),
    ("outputs", .array (a.outputs.map Link.toJson)),
    ("parameters", .array (a.parameters.map Parameter.toJson))]

/-- The action that a record stands for. -/
def Action.ofJson (j : Json) : Option Action := do
  match ← fields ["id", "type", "inputs", "outputs", "parameters"] j with
  | [id, type, inputs, outputs, parameters] =>
    return {
      id := ← required toText? id
      type := ← required toText? type
      inputs := ← withDefault [] (toList? Link.ofJson) inputs
      outputs := ← withDefault [] (toList? Link.ofJson) outputs
      parameters := ← withDefault [] (toList? Parameter.ofJson) parameters }
  | _ => none

/-- A project as a record. -/
def Project.toJson (p : Project) : Json :=
  .object [("id", .string p.id), ("sceneId", .string p.sceneId), ("desc", .string p.desc),
    ("actions", .array (p.actions.map Action.toJson)),
    ("parameters", .array (p.parameters.map .string))]

/-- The project that a record stands for. -/
def Project.ofJson (j : Json) : Option Project := do
  match ← fields ["id", "sceneId", "desc", "actions", "parameters"] j with
  | [id, sceneId, desc, actions, parameters] =>
    return {
      id := ← required toText? id
      sceneId := ← required toText? sceneId
      desc := ← withDefault "" toText? desc
      actions := ← withDefault [] (toList? Action.ofJson) actions
      parameters := ← withDefault [] (toList? toText?) parameters }
  | _ => none

/-! ### Scenes -/

/-- An object of a scene as a record. -/
def SceneObject.toJson (o : SceneObject) : Json :=
  .object [("id", .string o.id), ("type", .string o.type)]

/-- The object of a scene that a record stands for. -/
def SceneObject.ofJson (j : Json) : Option SceneObject := do
  match ← fields ["id", "type"] j with
  | [id, type] =>
    return {
      id := ← required toText? id
      type := ← required toText? type }
  | _ => none

/-- A scene as a record. -/
def Scene.toJson (s : Scene) : Json :=
  .object [("id", .string s.id), ("desc", .string s.desc),
    ("objects", .array (s.objects.map SceneObject.toJson))]

/-- The scene that a record stands for. -/
def Scene.ofJson (j : Json) : Option Scene := do
  match ← fields ["id", "desc", "objects"] j with
  | [id, desc, objects] =>
    return {
      id := ← required toText? id
      desc := ← withDefault "" toText? desc
      objects := ← withDefault [] (toList? SceneObject.ofJson) objects }
  | _ => none

/-! ### Object types -/

/-- A type as a record. -/
def ObjectType.toJson (t : ObjectType) : Json :=
  .object [("name", .string t.name), ("base", t.base.elim .null .string),
    ("description", .string t.description)]

/-- The type that a record stands for. -/
def ObjectType.ofJson (j : Json) : Option ObjectType := do
  match ← fields ["name", "base", "description"] j with
  | [name, base, description] =>
    return {
      name := ← required toText? name
      base := ← withDefault none (toOption? toText?) base
      description := ← withDefault "" toText? description }
  | _ => none

/-- The flags of an action as a record. -/
def ActionFlags.toJson (f : ActionFlags) : Json :=
  .object [("free", .bool f.free), ("blocking", .bool f.blocking),
    ("composite", .bool f.composite), ("blackbox", .bool f.blackbox)]

/-- The flags that a record stands for. -/
def ActionFlags.ofJson (j : Json) : Option ActionFlags := do
  match ← fields ["free", "blocking", "composite", "blackbox"] j with
  | [free, blocking, composite, blackbox] =>
    return {
      free := ← withDefault false toBool? free
      blocking := ← withDefault false toBool? blocking
      composite := ← withDefault false toBool? composite
      blackbox := ← withDefault false toBool? blackbox }
  | _ => none

/-- An argument of a method as a record. -/
def ActionArg.toJson (a : ActionArg) : Json :=
  .object [("name", .string a.name), ("type", .string a.type)]

/-- The argument of a method that a record stands for. -/
def ActionArg.ofJson (j : Json) : Option ActionArg := do
  match ← fields ["name", "type"] j with
  | [name, type] =>
    return {
      name := ← required toText? name
      type := ← required toText? type }
  | _ => none

/-- A method as a record. -/
def ObjectAction.toJson (a : ObjectAction) : Json :=
  .object [("name", .string a.name), ("meta", a.flags.toJson),
    ("actionArgs", .array (a.args.map ActionArg.toJson))]

/-- The method that a record stands for. -/
def ObjectAction.ofJson (j : Json) : Option ObjectAction := do
  match ← fields ["name", "meta", "actionArgs"] j with
  | [name, flags, args] =>
    return {
      name := ← required toText? name
      flags := ← withDefault ActionFlags.none ActionFlags.ofJson flags
      args := ← withDefault [] (toList? ActionArg.ofJson) args }
  | _ => none

/-- A type with its actions as a record. -/
def TypeEntry.toJson (e : TypeEntry) : Json :=
  .object [("objectType", e.objectType.toJson),
    ("actions", .array (e.actions.map ObjectAction.toJson))]

/-- The type with its actions that a record stands for. -/
def TypeEntry.ofJson (j : Json) : Option TypeEntry := do
  match ← fields ["objectType", "actions"] j with
  | [objectType, actions] =>
    return {
      objectType := ← required ObjectType.ofJson objectType
      actions := ← withDefault [] (toList? ObjectAction.ofJson) actions }
  | _ => none

/-- A catalog as a list of types. -/
def Catalog.toJson (c : Catalog) : Json :=
  .array (c.types.map TypeEntry.toJson)

/-- The catalog that a list of types stands for. -/
def Catalog.ofJson (j : Json) : Option Catalog :=
  (toList? TypeEntry.ofJson j).map Catalog.ofList

end RobotCell
