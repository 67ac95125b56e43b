import RobotCell.Cell.Catalog
import RobotCell.Program.Chain
import RobotCell.Program.Settings
import RobotCell.Script.Edit

/-!
# Programs

A program binds a variable to each object of the scene and calls the actions of the project in a
loop, in the order of their path. The arguments of a call are looked up in the resources by the id
of the action.

## Main definitions

- `checkScene`, `checkAction` — what a program needs of a scene and of an action
- `program` — the text of the program of a project
-/

namespace RobotCell

open Script

/-- The lines in front of each program. -/
def scriptHeader : String := "#!/usr/bin/env python3\n# -*- coding: utf-8 -*-\n\n"

/-- The variable that holds the resources. -/
def resourcesVar : String := "res"

/-- The class of the resources. -/
def resourcesClass : String := "Resources"

/-! ### Checks -/

/-- The objects have distinct ids, distinct variables and types that can be imported; `earlier` are
the objects before them. -/
def checkObjects (earlier : List SceneObject) : List SceneObject → Except CompileError Unit
  | [] => .ok ()
  | o :: rest =>
    if earlier.any fun e => e.id = o.id then .error (.duplicateObjectId o.id)
    else if !isIdentifier o.type then .error (.cell (.unknownObjectType o.type))
    else
      let name := Naming.variableName o.id
      match earlier.find? fun e => Naming.variableName e.id = name with
      | some first => .error (.ambiguousObjectName name first.id o.id)
      | none => checkObjects (o :: earlier) rest

/-- The objects of a scene can be told apart and imported. -/
def checkScene (s : Scene) : Except CompileError Unit :=
  checkObjects [] s.objects

/-- The first thing that is wrong with the parameter for an argument. -/
def argumentFault? (a : Action) (arg : ActionArg) : Option ParameterFault :=
  match a.parameter? arg.name with
  | none => some (.missing arg.name)
  | some p => if p.type = arg.type then none else some (.wrongType arg.name p.type arg.type)

/-- The first thing that is wrong with the parameters of an action: each argument of the method
needs a parameter of its type, and there must be no others. -/
def parameterFault? (a : Action) (method : ObjectAction) : Option ParameterFault :=
  match method.args.findSome? (argumentFault? a) with
  | some fault => some fault
  | none =>
    (a.parameters.find? fun p => (method.arg? p.id).isNone).map fun p => .unknown p.id

/-- The action can be called: it names a method of an object of the scene, and its parameters are
the arguments of the method. -/
def checkAction (scene : Scene) (catalog : Catalog) (a : Action) : Except CompileError Unit := do
  if !isIdentifier a.id then throw (.invalidActionId a.id)
  let (objectId, method) ← CompileError.ofCell a.target
  match scene.object? objectId with
  | none => throw (.unknownObject a.id objectId)
  | some object =>
    match ← CompileError.ofCell (catalog.action? object.type method) with
    | none => throw (.unknownObjectAction object.type method)
    | some action =>
      match parameterFault? a action with
      | some fault => throw (.parameterMismatch a.id fault)
      | none => return ()

/-! ### The script -/

/-- The script of a program without objects and actions. -/
def emptyScript : Block :=
  [.functionDef {
      name := mainName
      params := []
      body := [.whileLoop (.constant (.bool true)) [.pass] []]
      decorators := []
      returns := some (.constant .none)
      isAsync := false },
   .ifElse (.compare (.name "__name__") [.eq] [.str "__main__"])
      [.expr (.call (.name mainName) [] [])] []]

/-- The script with an import and a variable for an object. -/
def addObject (settings : Settings) (script : Block) (o : SceneObject) :
    Except SourceError Block :=
  bindFromRegistry (addImport script (settings.typeModule o.type) o.type)
    (Naming.variableName o.id) o.type resourcesVar o.id

/-- The call of an action. -/
def actionCall (a : Action) : Except CellError Stmt := do
  let (objectId, method) ← a.target
  return .methodCall (Naming.variableName objectId) method [] [⟨none, .nameAttr resourcesVar a.id⟩]

/-- The script that calls the given actions in a loop. -/
def programScript (settings : Settings) (scene : Scene) (path : List Action) :
    Except CompileError Block := do
  let script := addImport emptyScript settings.resourcesModule resourcesClass
  let script ← CompileError.ofSource (addInstance script resourcesClass resourcesVar)
  let script ← CompileError.ofSource (scene.objects.foldlM (addObject settings) script)
  let loop ← CompileError.ofSource (mainLoopPlace script)
  let calls ← CompileError.ofCell (path.mapM actionCall)
  return setBlockAt (calls.foldl appendCall loop.value) loop.path script

/-- The text of the program of a project. -/
def program (settings : Settings) (project : Project) (scene : Scene) (catalog : Catalog) :
    Except CompileError String := do
  checkScene scene
  let path ← chain project
  path.forM (checkAction scene catalog)
  let script ← programScript settings scene path
  let text ← CompileError.ofRender (render script)
  return scriptHeader ++ text

end RobotCell
