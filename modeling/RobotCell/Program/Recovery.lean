import RobotCell.Program.Emission
import RobotCell.Text.Blank

/-!
# Links from programs

The order of the calls in the main loop of a program gives back the links of the actions. Every
action has to be called exactly once, and a call has to name the object and the method of its
action.

## Main definitions

- `ActionCall`, `Stmt.actionCall?` — a statement that calls an action
- `ActionTable.readCall` — the action that a statement calls, if the call is accepted
- `ActionTable.linkCalls` — the actions linked one call after another
- `recoverLinks` — the table with the links of a program
- `recover` — the project with the links of a program
-/

namespace RobotCell

open Script

/-- The call of an action. -/
structure ActionCall where
  /-- The variable of the object. -/
  object : String
  method : String
  action : String
  deriving DecidableEq

/-- The call of an action that a statement is. -/
def Script.Stmt.actionCall? : Stmt → Option ActionCall
  | .expr (.call (.attribute (.name object) method) [] [⟨none, .attribute (.name res) action⟩]) =>
    if res = resourcesVar then some ⟨object, method, action⟩ else none
  | _ => none

/-- The text of a statement in a report. -/
def Script.Stmt.shown (s : Stmt) : String :=
  match render [s] with
  | .ok text => Text.trimEnd text
  | .error _ => "<unprintable statement>"

/-- The action that a statement calls. The action must not be among the ones called before, and its
type has to name the object and the method of the call. -/
def ActionTable.readCall (t : ActionTable) (called : List String) (s : Stmt) :
    Except CompileError String :=
  match s.actionCall? with
  | none => .error (.unexpectedContent s.shown)
  | some call =>
    if call.action ∈ called then .error (.duplicateAction call.action)
    else
      match t.get? call.action with
      | none => .error (.unknownAction call.action)
      | some a =>
        match a.target with
        | .error e => .error (.cell e)
        | .ok (objectId, method) =>
          if Naming.variableName objectId = call.object ∧ method = call.method then
            .ok call.action
          else .error (.actionTypeMismatch a.type (call.object ++ "/" ++ call.method))

/-- The link to the action before. -/
def Link.before : Option String → Link
  | none => .first
  | some id => .action id

/-- The table after the call of an action: the action gets a link to the one that was called before,
and that one gets a link to it. The program ends behind the last call. -/
def ActionTable.linkCall (t : ActionTable) (previous : Option String) (last : Bool) (id : String) :
    ActionTable :=
  let t := t.update id fun a =>
    { a with inputs := [Link.before previous], outputs := if last then [.last] else [] }
  match previous with
  | none => t
  | some previous => t.update previous fun a => { a with outputs := a.outputs ++ [.action id] }

/-- The table with the actions linked that statements call, one call after another, up to the first
statement that is refused; then the actions called so far, the latest first, and the reason for the
refusal. -/
def ActionTable.linkCalls (called : List String) :
    Block → ActionTable → ActionTable × List String × Option CompileError
  | [], t => (t, called, none)
  | s :: rest, t =>
    match t.readCall called s with
    | .error e => (t, called, some e)
    | .ok id => linkCalls (id :: called) rest (t.linkCall called.head? rest.isEmpty id)

/-- The body of the main loop holds no calls at all. -/
def isIdle : Block → Bool
  | [] => true
  | [.pass] => true
  | _ => false

/-- The statements of the main loop of a program. -/
def loopStatements (source : String) : Except CompileError Block := do
  let script ← CompileError.parseScript source
  let body ← CompileError.ofSource (mainLoopBody script)
  if isIdle body then throw .noActionCalls
  return body

/-- The table with the links of a program, and the reason why the program is refused, if it is. Up
to the refused statement the actions are linked also then. -/
def ActionTable.recoverLinks (t : ActionTable) (source : String) :
    ActionTable × Option CompileError :=
  match loopStatements source with
  | .error e => (t, some e)
  | .ok body =>
    match linkCalls [] body t with
    | (linked, _, some e) => (linked, some e)
    | (linked, called, none) =>
      if called.length = linked.size then (linked, none)
      else (linked, some (.brokenChain (.notCalled (linked.without called))))

/-- The project with the links of a program. -/
def recover (source : String) (p : Project) : Except CompileError Project := do
  let table ← CompileError.ofCell (ActionTable.ofProject p)
  match table.recoverLinks source with
  | (linked, none) => return linked.applyTo p
  | (_, some e) => throw e

end RobotCell
