import RobotCell.Cell.Project

/-!
# Tables of actions

A table holds the actions of a project by id, in the order of the project. It is a copy: a change
reaches the project only when the table is written back.

## Main definitions

- `ActionTable` — actions with distinct ids
- `ActionTable.ofActions` — the table of a list of actions, if no id occurs twice
- `ActionTable.update` — the table with one action changed
- `ActionTable.applyTo` — the project with the actions of a table
-/

namespace RobotCell

/-! ### Repetitions -/

/-- The first text that has occurred before, among the ones seen or earlier in the list. -/
def firstRepeated (seen : List String) : List String → Option String
  | [] => none
  | a :: rest => if a ∈ seen then some a else firstRepeated (a :: seen) rest

theorem firstRepeated_eq_none_iff {seen l : List String} :
    firstRepeated seen l = none ↔ l.Nodup ∧ ∀ a ∈ l, a ∉ seen := by
  induction l generalizing seen with
  | nil => simp [firstRepeated]
  | cons a rest ih =>
    by_cases h : a ∈ seen
    · simp [firstRepeated, h]
    · simp only [firstRepeated, h, if_false, ih, List.nodup_cons, List.mem_cons, not_or,
        forall_eq_or_imp]
      constructor
      · rintro ⟨hn, hs⟩
        exact ⟨⟨fun ha => (hs a ha).1 rfl, hn⟩, not_false, fun b hb => (hs b hb).2⟩
      · rintro ⟨⟨ha, hn⟩, -, hs⟩
        exact ⟨hn, fun b hb => ⟨fun e => ha (e ▸ hb), hs b hb⟩⟩

/-! ### Tables -/

/-- Actions with distinct ids, in order. -/
structure ActionTable where
  actions : List Action
  distinct : (actions.map Action.id).Nodup

namespace ActionTable

/-- The table of the given actions. -/
def ofActions (actions : List Action) : Except CellError ActionTable :=
  match h : firstRepeated [] (actions.map Action.id) with
  | some id => .error (.duplicateActionId id)
  | none => .ok ⟨actions, (firstRepeated_eq_none_iff.1 h).1⟩

/-- The table of the actions of a project. -/
def ofProject (p : Project) : Except CellError ActionTable :=
  ofActions p.actions

/-- The action with the given id. -/
def get? (t : ActionTable) (id : String) : Option Action :=
  t.actions.find? fun a => a.id = id

/-- An action has the given id. -/
def contains (t : ActionTable) (id : String) : Bool :=
  t.actions.any fun a => a.id = id

/-- The number of actions. -/
def size (t : ActionTable) : Nat :=
  t.actions.length

/-- The id of the first action that starts the program. -/
def firstId? (t : ActionTable) : Option String :=
  (t.actions.find? Action.isFirst).map Action.id

/-- The id of the first action that ends the program. -/
def lastId? (t : ActionTable) : Option String :=
  (t.actions.find? Action.isLast).map Action.id

/-- A change of the action with the given id, which keeps the id. -/
def updateAt (id : String) (change : Action → Action) (a : Action) : Action :=
  if a.id = id then { change a with id := a.id } else a

@[simp]
theorem updateAt_id (id : String) (change : Action → Action) (a : Action) :
    (updateAt id change a).id = a.id := by
  unfold updateAt
  split <;> rfl

/-- The table with the action of the given id changed. -/
def update (t : ActionTable) (id : String) (change : Action → Action) : ActionTable where
  actions := t.actions.map (updateAt id change)
  distinct := by
    have h : (Action.id ∘ updateAt id change) = Action.id := by
      funext a
      exact updateAt_id id change a
    rw [List.map_map, h]
    exact t.distinct

/-- The project with each action replaced by the action of the table with the same id. -/
def applyTo (t : ActionTable) (p : Project) : Project :=
  { p with actions := p.actions.map fun a => (t.get? a.id).getD a }

end ActionTable

end RobotCell
