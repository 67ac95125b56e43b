import RobotCell.Json.Value
import RobotCell.Text.Join

/-!
# Actions

An action is a call of a method of an object of the cell. Its links say what runs before and after
it.

## Main definitions

- `CellError` — what is wrong with a description of a cell
- `Link` — one end of a connection between actions
- `Action` — an action with its links and parameters
- `Action.target` — the object and the method of an action
-/

namespace RobotCell

/-- What is wrong with a description of a cell. -/
inductive CellError where
  | invalidActionType (type : String)
  | duplicateActionId (id : String)
  | unknownObjectType (name : String)
  | baseChainCycle (name : String)
  deriving DecidableEq

/-- The wording of an error. -/
def CellError.message : CellError → String
  | .invalidActionType type =>
    "invalid action type `" ++ type ++ "`, expected `<object id>/<method>`"
  | .duplicateActionId id => "duplicate action id `" ++ id ++ "`"
  | .unknownObjectType name => "unknown object type `" ++ name ++ "`"
  | .baseChainCycle name => "cycle in the base types of `" ++ name ++ "`"

/-- One end of a connection between actions: another action, or an end of the program. -/
inductive Link where
  | action (id : String)
  | first
  | last
  deriving DecidableEq

/-- The text of a link. The ends of the program have texts of their own. -/
def Link.text : Link → String
  | .action id => id
  | .first => "start"
  | .last => "end"

/-- The link with the given text. -/
def Link.ofText (s : String) : Link :=
  if s = "start" then .first else if s = "end" then .last else .action s

/-- The action that a link leads to. -/
def Link.actionId? : Link → Option String
  | .action id => some id
  | _ => none

/-- A parameter of an action. -/
structure Parameter where
  id : String
  type : String
  value : Json

/-- A call of a method, with what runs before and after it. -/
structure Action where
  id : String
  /-- The object and the method, with a slash between them. -/
  type : String
  inputs : List Link
  outputs : List Link
  parameters : List Parameter

namespace Action

/-- The object and the method of an action. -/
def target (a : Action) : Except CellError (String × String) :=
  match Text.splitPair '/' a.type with
  | some target => .ok target
  | none => .error (.invalidActionType a.type)

/-- The action starts the program. -/
def isFirst (a : Action) : Bool :=
  a.inputs.head? == some .first

/-- The action ends the program. -/
def isLast (a : Action) : Bool :=
  a.outputs.head? == some .last

/-- The parameter with the given name. -/
def parameter? (a : Action) (id : String) : Option Parameter :=
  a.parameters.find? fun p => p.id = id

end Action

end RobotCell
