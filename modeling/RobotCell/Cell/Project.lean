import RobotCell.Cell.Action

/-!
# Projects and scenes

A project says what happens in a cell, a scene says which objects are in it.

## Main definitions

- `Project`, `Project.action?` — the actions of a cell
- `Scene`, `Scene.object?` — the objects of a cell
-/

namespace RobotCell

/-- The actions of a cell, in any order. -/
structure Project where
  id : String
  sceneId : String
  desc : String
  actions : List Action
  /-- The names of the resources of the program. -/
  parameters : List String

/-- The first action with the given id. -/
def Project.action? (p : Project) (id : String) : Option Action :=
  p.actions.find? fun a => a.id = id

/-- An object of a cell. -/
structure SceneObject where
  id : String
  type : String
  deriving DecidableEq

/-- The objects of a cell. -/
structure Scene where
  id : String
  desc : String
  objects : List SceneObject
  deriving DecidableEq

/-- The first object with the given id. -/
def Scene.object? (s : Scene) (id : String) : Option SceneObject :=
  s.objects.find? fun o => o.id = id

end RobotCell
