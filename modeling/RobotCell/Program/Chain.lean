import RobotCell.Cell.ActionTable
import RobotCell.CompileError

/-!
# The path of a program

The actions of a program form one path: it starts at the only action that is marked as the first
one, each action leads to the one that its first output names, and the path ends at the only action
that is marked as the last one. All actions are on it.

## Main definitions

- `ActionTable.follow` — the path from an action to the end
- `chain` — the actions of a project in the order in which they run
-/

namespace RobotCell

/-- The path from an action to the end, given the ids of the actions before it. A path of more than
`bound` actions visits an action twice if no more than `bound` actions remain. -/
def ActionTable.follow (t : ActionTable) : Nat → List String → Action →
    Except CompileError (List Action)
  | 0, _, a => .error (.brokenChain (.cycle a.id))
  | bound + 1, visited, a =>
    if a.id ∈ visited then .error (.brokenChain (.cycle a.id))
    else if a.isLast then .ok [a]
    else
      match a.outputs.head? with
      | some (.action next) =>
        match t.get? next with
        | none => .error (.unknownAction next)
        | some b => (t.follow bound (a.id :: visited) b).map (a :: ·)
      | _ => .error (.brokenChain (.noSuccessor a.id))

/-- The only action that starts the program. -/
def ActionTable.start (t : ActionTable) : Except CompileError Action :=
  match t.actions.filter Action.isFirst with
  | [] => .error .startActionNotFound
  | [a] => .ok a
  | many => .error (.multipleStartActions (many.map Action.id))

/-- Exactly one action ends the program. -/
def ActionTable.checkEnd (t : ActionTable) : Except CompileError Unit :=
  match t.actions.filter Action.isLast with
  | [] => .error .endActionNotFound
  | [_] => .ok ()
  | many => .error (.multipleEndActions (many.map Action.id))

/-- The ids of the table that are not among the given ones. -/
def ActionTable.without (t : ActionTable) (ids : List String) : List String :=
  (t.actions.map Action.id).filter fun id => id ∉ ids

/-- The actions of a table in the order in which they run. -/
def ActionTable.chain (t : ActionTable) : Except CompileError (List Action) := do
  let start ← t.start
  t.checkEnd
  let path ← t.follow t.size [] start
  if path.length = t.size then return path
  throw (.brokenChain (.notReachable (t.without (path.map Action.id))))

/-- The actions of a project in the order in which they run. -/
def chain (p : Project) : Except CompileError (List Action) := do
  let table ← CompileError.ofCell (ActionTable.ofProject p)
  table.chain

end RobotCell
