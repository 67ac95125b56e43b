import RobotCell.Program.Emission

/-!
# Resources

The resources of a program are a class with a property for each parameter of the project. The
values are loaded once, when the resources are created.

## Main definitions

- `resourcesScript` — the script of the class
- `resources` — its text
-/

namespace RobotCell

open Script

/-- The first parameter of a method. -/
def selfName : String := "self"

/-- The attribute that holds the value of a parameter. -/
def heldValue (parameter : String) : Expr :=
  .nameAttr selfName ("_" ++ parameter)

/-- A method without further parameters. -/
def plainMethod (name : String) (decorators : List Expr) (body : Block) : Stmt :=
  .functionDef {
    name
    params := [{ name := selfName, kind := .positional, hint := none, preset := none }]
    body
    decorators
    returns := none
    isAsync := false }

/-- The statement that loads a parameter. -/
def loadStatement (parameter : String) : Stmt :=
  .assign [heldValue parameter]
    (.call (.nameAttr selfName "parameters") [.str parameter] [])

/-- The method that creates the resources. -/
def loadMethod (projectId : String) (parameters : List String) : Stmt :=
  let base := Expr.call (.name "super") [.name resourcesClass, .name selfName] []
  plainMethod "__init__" []
    (.expr (.call (.attribute base "__init__") [.str projectId] []) ::
      parameters.map loadStatement)

/-- The property of a parameter. -/
def property (parameter : String) : Stmt :=
  plainMethod parameter [.name "property"]
    [.expr (.call (.nameAttr resourcesClass "print_info")
      [.str parameter, heldValue parameter] []),
     .ret (some (heldValue parameter))]

/-- The script of the resources of a project. -/
def resourcesScript (projectId : String) (parameters : List String) : Block :=
  [.importFrom "arcor2.resources" [⟨"ResourcesBase", none⟩] 0,
   .classDef {
     name := resourcesClass
     bases := [.name "ResourcesBase"]
     keywords := []
     body := loadMethod projectId parameters :: parameters.map property
     decorators := [] }]

/-- The text of the resources of a project. -/
def resources (projectId : String) (parameters : List String) : Except CompileError String :=
  match parameters.find? fun p => !isIdentifier p with
  | some bad => .error (.invalidParameterName bad)
  | none => CompileError.ofRender (render (resourcesScript projectId parameters))

end RobotCell
