import Mathlib.Data.List.Forall2
import RobotCell.Program.Recovery
import RobotCell.Proofs.Program.Path
import RobotCell.Proofs.Text.Split

/-!
# The links of a program

A program gives back the links of a project if its main loop calls every action exactly once.
`Project.IsCalledBy` says which programs do, `LinkedIn` what links the actions then have, by their
position among the calls. The links are written one call after another, and those of an action in two
steps; `ActionTable.linkCalls_of_acceptedCalls` says what all these changes together do to an action.
-/

namespace RobotCell

open Script

/-! ### Calls -/

/-- The call of an action as a statement. -/
def ActionCall.stmt (c : ActionCall) : Stmt :=
  .expr (.call (.attribute (.name c.object) c.method) []
    [⟨none, .attribute (.name resourcesVar) c.action⟩])

theorem actionCall?_eq_some_iff (s : Stmt) (c : ActionCall) :
    s.actionCall? = some c ↔ s = c.stmt := by
  constructor
  · intro h
    unfold Stmt.actionCall? at h
    split at h
    · next object method res action =>
      split_ifs at h with hres
      cases h
      rw [hres]
      rfl
    · cases h
  · rintro rfl
    simp [ActionCall.stmt, Stmt.actionCall?]

/-- The type of the action names the object and the method of the call. -/
def ActionCall.Fits (c : ActionCall) (a : Action) : Prop :=
  ∃ object, a.type = object ++ "/" ++ c.method ∧ object ≠ "" ∧ c.method ≠ "" ∧
    '/' ∉ object.toList ∧ '/' ∉ c.method.toList ∧ Naming.variableName object = c.object

theorem Action.target_eq_ok_iff (a : Action) (object method : String) :
    a.target = .ok (object, method) ↔
      a.type = object ++ "/" ++ method ∧ object ≠ "" ∧ method ≠ "" ∧
        '/' ∉ object.toList ∧ '/' ∉ method.toList := by
  have slash : String.singleton '/' = "/" := rfl
  rw [← slash, ← Text.splitPair_eq_some_iff, Action.target]
  cases Text.splitPair '/' a.type <;> simp

theorem ActionCall.fits_iff (c : ActionCall) (a : Action) :
    c.Fits a ↔
      ∃ object, a.target = .ok (object, c.method) ∧ Naming.variableName object = c.object := by
  simp only [ActionCall.Fits, Action.target_eq_ok_iff, and_assoc]

namespace ActionTable

/-- A statement is accepted exactly when it is a call of an action of the table that has not been
called before and that the call fits. -/
theorem readCall_eq_ok_iff (t : ActionTable) (called : List String) (s : Stmt) (id : String) :
    t.readCall called s = .ok id ↔
      ∃ c : ActionCall, s = c.stmt ∧ c.action = id ∧ id ∉ called ∧
        ∃ a ∈ t.actions, a.id = id ∧ c.Fits a := by
  unfold readCall
  simp only [ActionCall.fits_iff]
  constructor
  · intro h
    split at h
    · cases h
    · next c hc =>
      split_ifs at h with again
      split at h
      · cases h
      · next a found =>
        split at h
        · cases h
        · next object method target =>
          split_ifs at h with fits
          cases h
          obtain ⟨ha, hid⟩ := (t.get?_eq_some_iff _ _).1 found
          refine ⟨c, (actionCall?_eq_some_iff s c).1 hc, rfl, again, a, ha, hid, object, ?_, fits.1⟩
          rw [target, fits.2]
  · rintro ⟨c, hs, rfl, fresh, a, ha, hid, object, target, fits⟩
    rw [(actionCall?_eq_some_iff s c).2 hs]
    simp [fresh, (t.get?_eq_some_iff _ _).2 ⟨ha, hid⟩, target, fits]

/-- The actions that statements call, up to the first statement that is refused, and the reason for
that; `called` are the actions called before. -/
def acceptedCalls (t : ActionTable) (called : List String) : Block → List String × Option CompileError
  | [] => ([], none)
  | s :: rest =>
    match t.readCall called s with
    | .error e => ([], some e)
    | .ok id =>
      let (ids, refusal) := t.acceptedCalls (id :: called) rest
      (id :: ids, refusal)

/-- The first statement is accepted, and the others are accepted after it. -/
theorem acceptedCalls_cons_eq_iff (t : ActionTable) (called : List String) (s : Stmt)
    (rest : Block) (ids : List String) :
    t.acceptedCalls called (s :: rest) = (ids, none) ↔
      ∃ id more, t.readCall called s = .ok id ∧ t.acceptedCalls (id :: called) rest = (more, none) ∧
        ids = id :: more := by
  rw [acceptedCalls]
  cases read : t.readCall called s with
  | error e => simp
  | ok id =>
    rcases walk : t.acceptedCalls (id :: called) rest with ⟨more, refusal⟩
    dsimp only
    rw [walk]
    constructor
    · intro h
      cases h
      exact ⟨id, more, rfl, walk, rfl⟩
    · rintro ⟨_, more', ⟨⟩, walk', rfl⟩
      cases walk.symm.trans walk'
      rfl

/-- A list of statements is accepted exactly when they are calls of distinct actions that have not
been called before. -/
theorem acceptedCalls_eq_iff (t : ActionTable) (called : List String) (body : Block)
    (ids : List String) :
    t.acceptedCalls called body = (ids, none) ↔
      ∃ calls : List ActionCall, body = calls.map ActionCall.stmt ∧
        ids = calls.map ActionCall.action ∧ ids.Nodup ∧ (∀ id ∈ ids, id ∉ called) ∧
        ∀ c ∈ calls, ∃ a ∈ t.actions, a.id = c.action ∧ c.Fits a := by
  induction body generalizing called ids with
  | nil =>
    constructor
    · intro h
      cases h
      exact ⟨[], rfl, rfl, List.nodup_nil, by simp, by simp⟩
    · rintro ⟨calls, hb, rfl, -⟩
      rw [List.map_eq_nil_iff.1 hb.symm]
      rfl
  | cons s rest ih =>
    simp only [acceptedCalls_cons_eq_iff, readCall_eq_ok_iff]
    constructor
    · rintro ⟨_, more, ⟨c, rfl, rfl, fresh, fits⟩, walk, rfl⟩
      obtain ⟨calls, rfl, rfl, nodup, unseen, all⟩ := (ih _ _).1 walk
      refine ⟨c :: calls, rfl, rfl, ?_, ?_, List.forall_mem_cons.2 ⟨fits, all⟩⟩
      · exact List.nodup_cons.2 ⟨fun hc => unseen _ hc List.mem_cons_self, nodup⟩
      · refine List.forall_mem_cons.2 ⟨fresh, fun id hid hcalled => ?_⟩
        exact unseen id hid (List.mem_cons_of_mem _ hcalled)
    · rintro ⟨calls, hbody, rfl, nodup, unseen, all⟩
      cases calls with
      | nil => cases hbody
      | cons c calls =>
        cases hbody
        rw [List.map_cons, List.nodup_cons] at nodup
        rw [List.map_cons, List.forall_mem_cons] at unseen
        rw [List.forall_mem_cons] at all
        refine ⟨c.action, calls.map ActionCall.action, ⟨c, rfl, rfl, unseen.1, all.1⟩, ?_, rfl⟩
        refine (ih _ _).2 ⟨calls, rfl, rfl, nodup.2, fun id hid hcalled => ?_, all.2⟩
        rcases List.mem_cons.1 hcalled with rfl | hcalled
        · exact nodup.1 hid
        · exact unseen.2 id hid hcalled

/-- A list of statements is refused exactly when the first of them are accepted and the next one is
refused after those. -/
theorem acceptedCalls_eq_some_iff (t : ActionTable) (called : List String) (body : Block)
    (ids : List String) (e : CompileError) :
    t.acceptedCalls called body = (ids, some e) ↔
      ∃ accepted s rest, body = accepted ++ s :: rest ∧
        t.acceptedCalls called accepted = (ids, none) ∧
        t.readCall (ids.reverse ++ called) s = .error e := by
  induction body generalizing called ids with
  | nil => simp [acceptedCalls]
  | cons s rest ih =>
    constructor
    · intro h
      rw [acceptedCalls] at h
      cases read : t.readCall called s with
      | error e' =>
        rw [read] at h
        cases h
        exact ⟨[], s, rest, rfl, rfl, read⟩
      | ok id =>
        rcases walk : t.acceptedCalls (id :: called) rest with ⟨more, refusal⟩
        simp only [read, walk, Prod.mk.injEq] at h
        obtain ⟨rfl, rfl⟩ := h
        obtain ⟨accepted, s', rest', rfl, before, refused⟩ := (ih _ _).1 walk
        refine ⟨s :: accepted, s', rest', rfl, ?_, by simpa using refused⟩
        exact (acceptedCalls_cons_eq_iff t called s accepted _).2 ⟨id, more, read, before, rfl⟩
    · rintro ⟨accepted, s', rest', same, before, refused⟩
      cases accepted with
      | nil =>
        cases same
        cases before
        rw [List.reverse_nil, List.nil_append] at refused
        rw [acceptedCalls, refused]
      | cons first accepted =>
        cases same
        obtain ⟨id, more, read, later, rfl⟩ :=
          (acceptedCalls_cons_eq_iff t called s accepted ids).1 before
        have walk := (ih (id :: called) more).2
          ⟨accepted, s', rest', rfl, later, by simpa using refused⟩
        simp only [acceptedCalls, read, walk]

/-- The accepted actions are distinct and have not been called before. -/
theorem nodup_of_acceptedCalls {t : ActionTable} {called : List String} {body : Block}
    {ids : List String} {refusal : Option CompileError}
    (h : t.acceptedCalls called body = (ids, refusal)) :
    ids.Nodup ∧ ∀ id ∈ ids, id ∉ called := by
  obtain ⟨accepted, h⟩ : ∃ accepted, t.acceptedCalls called accepted = (ids, none) := by
    cases refusal with
    | none => exact ⟨body, h⟩
    | some e =>
      obtain ⟨accepted, -, -, -, h, -⟩ := (acceptedCalls_eq_some_iff t called body ids e).1 h
      exact ⟨accepted, h⟩
  obtain ⟨calls, -, -, nodup, fresh, -⟩ := (t.acceptedCalls_eq_iff called accepted ids).1 h
  exact ⟨nodup, fresh⟩

end ActionTable

/-! ### Links -/

/-- The links to the action behind: to the next one, to the end, or none if the rest is unknown. -/
def Link.behind (complete : Bool) : List String → List Link
  | next :: _ => [.action next]
  | [] => if complete then [.last] else []

namespace ActionTable

/-- What linking the given actions in order does to one action, where `previous` runs before them. If
the list is complete, the program ends behind the last of them. -/
def linkedAction (complete : Bool) (previous : Option String) : List String → Action → Action
  | [], a => a
  | id :: rest, a =>
    if a.id = id then
      { a with inputs := [Link.before previous], outputs := Link.behind complete rest }
    else linkedAction complete (some id) rest a

@[simp]
theorem linkedAction_id (complete : Bool) (previous : Option String) (ids : List String)
    (a : Action) : (linkedAction complete previous ids a).id = a.id := by
  induction ids generalizing previous with
  | nil => rfl
  | cons id rest ih =>
    unfold linkedAction
    split_ifs with h
    · rfl
    · exact ih (some id)

theorem linkedAction_of_notMem (complete : Bool) (previous : Option String) {ids : List String}
    {a : Action} (h : a.id ∉ ids) : linkedAction complete previous ids a = a := by
  induction ids generalizing previous with
  | nil => rfl
  | cons id rest ih =>
    rw [List.mem_cons, not_or] at h
    rw [linkedAction, if_neg h.1]
    exact ih (some id) h.2

theorem map_id_map_linkedAction (complete : Bool) (previous : Option String) (ids : List String)
    (actions : List Action) :
    (actions.map (linkedAction complete previous ids)).map Action.id = actions.map Action.id := by
  rw [List.map_map]
  exact List.map_congr_left fun a _ => linkedAction_id complete previous ids a

/-- The table with the given actions linked in order. -/
def link (complete : Bool) (ids : List String) (t : ActionTable) : ActionTable where
  actions := t.actions.map (linkedAction complete none ids)
  distinct := by
    rw [map_id_map_linkedAction]
    exact t.distinct

theorem without_link (complete : Bool) (ids : List String) (t : ActionTable) :
    (link complete ids t).without = t.without := by
  funext others
  rw [without, link, map_id_map_linkedAction, without]

theorem eq_of_actions_eq {t u : ActionTable} (h : t.actions = u.actions) : t = u := by
  cases t
  cases u
  cases h
  rfl

/-! ### Linking one call after another -/

theorem get?_update (t : ActionTable) (id : String) (change : Action → Action) (key : String) :
    (t.update id change).get? key = (t.get? key).map (updateAt id change) := by
  have keeps : ((fun a : Action => decide (a.id = key)) ∘ updateAt id change) =
      fun a => decide (a.id = key) := by
    funext a
    rw [Function.comp_apply, updateAt_id]
  rw [get?, update, List.find?_map, keeps, get?]

/-- Whether a call is accepted depends on the types of the actions and not on their links. -/
theorem readCall_update (t : ActionTable) (id : String) {change : Action → Action}
    (keeps : ∀ a, (change a).type = a.type) (called : List String) (s : Stmt) :
    (t.update id change).readCall called s = t.readCall called s := by
  have type_eq (a : Action) : (updateAt id change a).type = a.type := by
    unfold updateAt
    split_ifs
    · exact keeps a
    · rfl
  have target_eq (a : Action) : (updateAt id change a).target = a.target := by
    rw [Action.target, type_eq, Action.target]
  unfold readCall
  cases s.actionCall? with
  | none => rfl
  | some c =>
    dsimp only
    rw [get?_update]
    cases t.get? c.action with
    | none => rfl
    | some a => simp only [Option.map_some, target_eq, type_eq]

theorem readCall_linkCall (t : ActionTable) (previous : Option String) (last : Bool) (id : String)
    (called : List String) (s : Stmt) :
    (t.linkCall previous last id).readCall called s = t.readCall called s := by
  unfold linkCall
  cases previous with
  | none => exact readCall_update t id (by intro; rfl) called s
  | some previous =>
    refine (readCall_update _ previous ?_ called s).trans (readCall_update t id ?_ called s)
    · intro
      rfl
    · intro
      rfl

theorem acceptedCalls_linkCall (t : ActionTable) (previous : Option String) (last : Bool)
    (id : String) (called : List String) (body : Block) :
    (t.linkCall previous last id).acceptedCalls called body = t.acceptedCalls called body := by
  induction body generalizing called with
  | nil => rfl
  | cons s rest ih =>
    rw [acceptedCalls, readCall_linkCall, acceptedCalls]
    cases t.readCall called s with
    | error e => rfl
    | ok next => simp only [ih]

/-- What one call does to an action. -/
def linkedByCall (previous : Option String) (last : Bool) (id : String) (a : Action) : Action :=
  if a.id = id then
    { a with inputs := [Link.before previous], outputs := if last then [.last] else [] }
  else if previous = some a.id then { a with outputs := a.outputs ++ [.action id] }
  else a

theorem actions_linkCall (t : ActionTable) {previous : Option String} (last : Bool) {id : String}
    (fresh : previous ≠ some id) :
    (t.linkCall previous last id).actions = t.actions.map (linkedByCall previous last id) := by
  unfold linkCall
  cases previous with
  | none => exact List.map_congr_left fun a _ => by simp [linkedByCall, updateAt]
  | some previous =>
    simp only [update, List.map_map]
    refine List.map_congr_left fun a _ => ?_
    have other : ¬ id = previous := fun same => fresh (by rw [same])
    by_cases here : a.id = id
    · simp [linkedByCall, updateAt, here, other]
    · by_cases before : a.id = previous
      · simp [linkedByCall, updateAt, before, Ne.symm other]
      · simp [linkedByCall, updateAt, here, before, Ne.symm before]

/-- What the calls of the given actions do to an action: to the one called before them, the link to
the first of them is added, and they are linked in order. -/
def linkedByCalls (complete : Bool) (previous : Option String) (ids : List String) (a : Action) :
    Action :=
  if previous = some a.id then
    { a with outputs := a.outputs ++ (ids.head?.map Link.action).toList }
  else linkedAction complete previous ids a

@[simp]
theorem linkedByCalls_nil (complete : Bool) (previous : Option String) :
    linkedByCalls complete previous [] = id := by
  funext a
  unfold linkedByCalls
  split_ifs
  · simp
  · rfl

@[simp]
theorem linkedByCalls_none (complete : Bool) (ids : List String) :
    linkedByCalls complete none ids = linkedAction complete none ids := by
  funext a
  simp [linkedByCalls]

/-- The first of some calls does its part, and the others, which come after it, do the rest. -/
theorem linkedByCalls_cons {complete last : Bool} {previous : Option String} {id : String}
    {more : List String} (fresh : previous ≠ some id) (later : ∀ other ∈ more, previous ≠ some other)
    (ends : (if last then [Link.last] else []) ++ (more.head?.map Link.action).toList =
      Link.behind complete more) :
    linkedByCalls complete (some id) more ∘ linkedByCall previous last id =
      linkedByCalls complete previous (id :: more) := by
  funext a
  rw [Function.comp_apply]
  by_cases here : a.id = id
  · subst here
    simp [linkedByCalls, linkedByCall, linkedAction, fresh, ends]
  · have away : ¬ some id = some a.id := fun same => here (Option.some.inj same).symm
    by_cases before : previous = some a.id
    · -- the link to the next action is all that the one called before still gets
      have unseen : a.id ∉ more := fun inside => later a.id inside before
      rw [linkedByCall, if_neg here, if_pos before, linkedByCalls, if_neg away, linkedByCalls,
        if_pos before]
      exact linkedAction_of_notMem _ _ unseen
    · rw [linkedByCall, if_neg here, if_neg before, linkedByCalls, if_neg away, linkedByCalls,
        if_neg before, linkedAction, if_neg here]

/-- An action whose call is the last statement gets the link to the end at once, the others get the
link to the next one with its call. -/
theorem ends_of_acceptedCalls {t : ActionTable} {called : List String} {body : Block}
    {ids : List String} {refusal : Option CompileError}
    (h : t.acceptedCalls called body = (ids, refusal)) :
    (if body.isEmpty then [Link.last] else []) ++ (ids.head?.map Link.action).toList =
      Link.behind refusal.isNone ids := by
  cases body with
  | nil =>
    cases h
    rfl
  | cons s rest =>
    rw [acceptedCalls] at h
    cases read : t.readCall called s with
    | error e =>
      rw [read] at h
      cases h
      rfl
    | ok id =>
      rw [read] at h
      cases h
      rfl

/-- The calls of a list of statements change each action of the table on its own: the accepted ones
are linked in order. -/
theorem linkCalls_of_acceptedCalls {t : ActionTable} {called : List String} {body : Block}
    {ids : List String} {refusal : Option CompileError}
    (h : t.acceptedCalls called body = (ids, refusal)) :
    (linkCalls called body t).1.actions =
        t.actions.map (linkedByCalls refusal.isNone called.head? ids) ∧
      (linkCalls called body t).2 = (ids.reverse ++ called, refusal) := by
  -- the table changes from call to call; the actions called so far say what is still to be written
  induction body generalizing t called ids refusal with
  | nil =>
    cases h
    exact ⟨by simp [linkCalls], rfl⟩
  | cons s rest ih =>
    rw [acceptedCalls] at h
    cases read : t.readCall called s with
    | error e =>
      rw [read] at h
      cases h
      rw [linkCalls, read]
      exact ⟨by simp, rfl⟩
    | ok id =>
      rcases walk : t.acceptedCalls (id :: called) rest with ⟨more, refusal'⟩
      simp only [read, walk, Prod.mk.injEq] at h
      obtain ⟨rfl, rfl⟩ := h
      obtain ⟨-, -, -, fresh, -⟩ := (readCall_eq_ok_iff t called s id).1 read
      obtain ⟨-, unseen⟩ := nodup_of_acceptedCalls walk
      have isNew (other : String) (h : other ∉ called) : called.head? ≠ some other :=
        fun same => h (List.mem_of_head? same)
      have later : ∀ other ∈ more, called.head? ≠ some other := fun other inside =>
        isNew other fun old => unseen other inside (List.mem_cons_of_mem _ old)
      have ends := ends_of_acceptedCalls walk
      -- the links that are written do not change which calls are accepted later
      rw [← acceptedCalls_linkCall t called.head? rest.isEmpty id] at walk
      obtain ⟨actions, found⟩ := ih walk
      rw [linkCalls, read]
      refine ⟨?_, by simpa using found⟩
      dsimp only
      rw [actions, actions_linkCall t rest.isEmpty (isNew id fresh), List.map_map, List.head?_cons,
        linkedByCalls_cons (isNew id fresh) later ends]

/-- The loop over the calls links the accepted actions in order. -/
theorem linkCalls_eq {t : ActionTable} {body : Block} {ids : List String}
    {refusal : Option CompileError} (h : t.acceptedCalls [] body = (ids, refusal)) :
    linkCalls [] body t = (link refusal.isNone ids t, ids.reverse, refusal) := by
  obtain ⟨actions, found⟩ := linkCalls_of_acceptedCalls h
  refine Prod.ext (eq_of_actions_eq ?_) (by simpa using found)
  rw [actions, List.head?_nil, linkedByCalls_none]
  rfl

end ActionTable

/-! ### Positions -/

/-- The link to what runs before the action at a position. -/
def inputAt (ids : List String) : Nat → Link
  | 0 => .first
  | k + 1 => ids[k]?.elim .first .action

/-- The link to what runs after the action at a position. -/
def outputAt (ids : List String) (k : Nat) : Link :=
  ids[k + 1]?.elim .last .action

/-- The second action is the first one with the links of its position among the given ones. -/
def LinkedIn (ids : List String) (a b : Action) : Prop :=
  ∃ k, ids[k]? = some a.id ∧
    b = { a with inputs := [inputAt ids k], outputs := [outputAt ids k] }

theorem LinkedIn.id_eq {ids : List String} {a b : Action} (h : LinkedIn ids a b) : b.id = a.id := by
  obtain ⟨k, -, rfl⟩ := h
  rfl

theorem ActionTable.linkedAction_eq_behind_drop (complete : Bool) (previous : Option String)
    {ids : List String} (nodup : ids.Nodup) {k : Nat} {a : Action} (h : ids[k]? = some a.id) :
    linkedAction complete previous ids a = { a with
      inputs := [Link.before (match k with | 0 => previous | k + 1 => ids[k]?)]
      outputs := Link.behind complete (ids.drop (k + 1)) } := by
  induction ids generalizing previous k with
  | nil => cases h
  | cons id rest ih =>
    rw [List.nodup_cons] at nodup
    cases k with
    | zero =>
      cases h
      rw [linkedAction, if_pos rfl]
      rfl
    | succ k =>
      rw [List.getElem?_cons_succ] at h
      have other : a.id ≠ id := by
        rintro rfl
        exact nodup.1 (List.mem_of_getElem? h)
      rw [linkedAction, if_neg other, ih (some id) nodup.2 h]
      cases k with
      | zero => rfl
      | succ k => rfl

theorem Link.behind_drop (complete : Bool) (ids : List String) (k : Nat) :
    Link.behind complete (ids.drop k) =
      ids[k]?.elim (Link.behind complete []) fun next => [.action next] := by
  rw [← List.head?_drop]
  cases ids.drop k with
  | nil => rfl
  | cons next rest => rfl

/-- Linking actions in order gives each of them the links of its position. -/
theorem ActionTable.linkedAction_eq_of_getElem? (complete : Bool) {ids : List String}
    (nodup : ids.Nodup) {k : Nat} {a : Action} (h : ids[k]? = some a.id) :
    linkedAction complete none ids a = { a with
      inputs := [inputAt ids k]
      outputs := ids[k + 1]?.elim (Link.behind complete []) fun next => [.action next] } := by
  rw [linkedAction_eq_behind_drop complete none nodup h, Link.behind_drop]
  cases k with
  | zero => rfl
  | succ k => cases before : ids[k]? <;> simp [inputAt, Link.before, before]

/-- Linking a complete list of actions gives each of them the links of its position. -/
theorem ActionTable.linkedIn_linkedAction {ids : List String} (nodup : ids.Nodup) {a : Action}
    (h : a.id ∈ ids) : LinkedIn ids a (linkedAction true none ids a) := by
  obtain ⟨k, hk⟩ := List.mem_iff_getElem?.1 h
  refine ⟨k, hk, ?_⟩
  rw [linkedAction_eq_of_getElem? true nodup hk, outputAt]
  cases ids[k + 1]? with
  | none => rfl
  | some next => rfl

/-- Each action of the list has the links of its position, and no others. -/
def IsLinked (path : List Action) : Prop :=
  ∀ k a, path[k]? = some a → a.inputs = [inputAt (path.map Action.id) k] ∧
    a.outputs = [outputAt (path.map Action.id) k]

theorem inputAt_eq_first_iff {ids : List String} {k : Nat} (h : k < ids.length) :
    inputAt ids k = .first ↔ k = 0 := by
  cases k with
  | zero => simp [inputAt]
  | succ k => simp [inputAt, List.getElem?_eq_getElem (Nat.lt_of_succ_lt h)]

theorem outputAt_eq_last_iff {ids : List String} {k : Nat} (h : k < ids.length) :
    outputAt ids k = .last ↔ k + 1 = ids.length := by
  unfold outputAt
  cases next : ids[k + 1]? with
  | none =>
    have := List.getElem?_eq_none_iff.1 next
    simp
    omega
  | some id =>
    obtain ⟨hk, -⟩ := List.getElem?_eq_some_iff.1 next
    simp
    omega

/-- A project has an order of its actions as its path if exactly the first of them is marked as the
start and each one leads to the next. -/
theorem Project.isPath_of_links {p : Project} {path : List Action}
    (distinct : (p.actions.map Action.id).Nodup) (enumerates : path.Perm p.actions)
    (nonempty : path ≠ [])
    (inputs : ∀ k a, path[k]? = some a → (a.inputs.head? = some .first ↔ k = 0))
    (outputs : ∀ k a, path[k]? = some a →
      a.outputs.head? = some (outputAt (path.map Action.id) k)) : p.IsPath path := by
  have positive : 0 < path.length := List.length_pos_iff.2 nonempty
  have position : ∀ a ∈ p.actions, ∃ k, k < path.length ∧ path[k]? = some a := by
    intro a ha
    obtain ⟨k, hk⟩ := List.mem_iff_getElem?.1 (enumerates.symm.subset ha)
    exact ⟨k, (List.getElem?_eq_some_iff.1 hk).1, hk⟩
  have first : path[0]? = some path[0] := List.getElem?_eq_getElem positive
  have last : path[path.length - 1]? = some path[path.length - 1] :=
    List.getElem?_eq_getElem (by omega)
  have startsAt : path[0].inputs.head? = some .first := (inputs 0 _ first).2 rfl
  have endsAt : path[path.length - 1].outputs.head? = some .last := by
    rw [outputs _ _ last, Option.some_inj,
      outputAt_eq_last_iff (by rw [List.length_map]; omega), List.length_map]
    omega
  refine ⟨distinct, ⟨path[0], ⟨?_, startsAt⟩, ?_⟩, ⟨path[path.length - 1], ⟨?_, endsAt⟩, ?_⟩,
    enumerates, ?_, ?_, ?_⟩
  · exact enumerates.subset (List.getElem_mem positive)
  · rintro a ⟨ha, hfirst⟩
    obtain ⟨k, hk, at_k⟩ := position a ha
    rw [inputs k a at_k] at hfirst
    subst hfirst
    exact Option.some.inj (at_k.symm.trans first)
  · exact enumerates.subset (List.getElem_mem (by omega))
  · rintro a ⟨ha, hlast⟩
    obtain ⟨k, hk, at_k⟩ := position a ha
    rw [outputs k a at_k, Option.some_inj,
      outputAt_eq_last_iff (by simpa using hk), List.length_map] at hlast
    obtain rfl : k = path.length - 1 := by omega
    exact Option.some.inj (at_k.symm.trans last)
  · exact ⟨path[0], by rw [List.head?_eq_getElem?, first], startsAt⟩
  · exact ⟨path[path.length - 1], by rw [List.getLast?_eq_getElem?, last], endsAt⟩
  · rw [List.isChain_iff_getElem]
    intro k hk
    rw [Action.LeadsTo, outputs k _ (List.getElem?_eq_getElem (Nat.lt_of_succ_lt hk))]
    simp [outputAt, hk]

/-- A project whose actions have the links of their positions in some order has that order as its
path. -/
theorem Project.isPath_of_isLinked {p : Project} {path : List Action}
    (distinct : (p.actions.map Action.id).Nodup) (enumerates : path.Perm p.actions)
    (nonempty : path ≠ []) (linked : IsLinked path) : p.IsPath path := by
  refine Project.isPath_of_links distinct enumerates nonempty ?_ ?_
  · intro k a hk
    have inside : k < (path.map Action.id).length := by
      rw [List.length_map]
      exact (List.getElem?_eq_some_iff.1 hk).1
    rw [(linked k a hk).1, List.head?_cons, Option.some_inj, inputAt_eq_first_iff inside]
  · intro k a hk
    rw [(linked k a hk).2, List.head?_cons]

/-! ### Recovery -/

/-- The main loop of a program calls every action of the project exactly once, with calls that fit
the actions, and does nothing else. -/
structure Project.IsCalledBy (p : Project) (source : String) (calls : List ActionCall) : Prop where
  /-- No two actions share an id. -/
  distinct : (p.actions.map Action.id).Nodup
  /-- The calls are all that the main loop of the program holds. -/
  loop : ∃ script, parse source = .ok script ∧
    mainLoopBody script = .ok (calls.map ActionCall.stmt)
  nonempty : calls ≠ []
  /-- Every action is called exactly once. -/
  enumerates : (calls.map ActionCall.action).Perm (p.actions.map Action.id)
  fits : ∀ c ∈ calls, ∀ a ∈ p.actions, a.id = c.action → c.Fits a

theorem isIdle_map_stmt (calls : List ActionCall) :
    isIdle (calls.map ActionCall.stmt) = true ↔ calls = [] := by
  cases calls with
  | nil => simp [isIdle]
  | cons c calls =>
    cases calls with
    | nil => simp [isIdle, ActionCall.stmt]
    | cons d calls => simp [isIdle, ActionCall.stmt]

theorem loopStatements_eq_ok_iff (source : String) (body : Block) :
    loopStatements source = .ok body ↔
      ∃ script, parse source = .ok script ∧ mainLoopBody script = .ok body ∧
        isIdle body = false := by
  simp only [loopStatements, bind_eq_ok_iff, CompileError.parseScript_eq_ok_iff,
    CompileError.ofSource_eq_ok_iff]
  constructor
  · rintro ⟨script, hparse, found, hloop, h⟩
    split_ifs at h with idle
    · cases h
    · cases h
      exact ⟨script, hparse, hloop, by simpa using idle⟩
  · rintro ⟨script, hparse, hloop, busy⟩
    refine ⟨script, hparse, body, hloop, ?_⟩
    rw [if_neg (by simp [busy])]
    rfl

/-- The links of a program are those of the accepted calls, and it is refused if a call is refused
or, behind the last call, if some action has not been called. -/
theorem ActionTable.recoverLinks_eq {t : ActionTable} {source : String} {body : Block}
    {ids : List String} {refusal : Option CompileError} (loop : loopStatements source = .ok body)
    (calls : t.acceptedCalls [] body = (ids, refusal)) :
    t.recoverLinks source = (link refusal.isNone ids t, refusal.or
      (if ids.length = t.size then none
        else some (.brokenChain (.notCalled (t.without ids))))) := by
  have size_link : (link refusal.isNone ids t).size = t.size := List.length_map _
  have without_reverse : t.without ids.reverse = t.without ids := by simp [without]
  simp only [recoverLinks, loop, linkCalls_eq calls]
  cases refusal with
  | some e => rfl
  | none =>
    dsimp only
    rw [List.length_reverse, size_link, without_link, without_reverse, Option.none_or]
    split_ifs
    · rfl
    · rfl

/-- The links of a program are accepted without a refusal exactly when its main loop calls all the
actions of the table. -/
theorem ActionTable.recoverLinks_eq_iff (t linked : ActionTable) (source : String) :
    t.recoverLinks source = (linked, none) ↔
      ∃ body ids, loopStatements source = .ok body ∧ t.acceptedCalls [] body = (ids, none) ∧
        ids.length = t.size ∧ linked = link true ids t := by
  cases loop : loopStatements source with
  | error e => simp [recoverLinks, loop]
  | ok body =>
    rcases calls : t.acceptedCalls [] body with ⟨ids, refusal⟩
    rw [recoverLinks_eq loop calls]
    cases refusal with
    | some e => simp [calls]
    | none =>
      simp only [Option.isNone_none, Option.none_or, Prod.mk.injEq, ite_eq_left_iff, reduceCtorEq,
        imp_false, Decidable.not_not]
      constructor
      · rintro ⟨rfl, full⟩
        exact ⟨body, ids, rfl, calls, full, rfl⟩
      · rintro ⟨body', ids', same, calls', full, rfl⟩
        cases same
        cases calls.symm.trans calls'
        exact ⟨rfl, full⟩

/-- Writing back a table whose actions are changed one by one, with their ids kept, changes the
actions of the project in the same way. -/
theorem ActionTable.applyTo_eq_of_map {p : Project} {t : ActionTable} {change : Action → Action}
    (keeps : ∀ a, (change a).id = a.id) (h : t.actions = p.actions.map change) :
    t.applyTo p = { p with actions := p.actions.map change } := by
  unfold applyTo
  congr 1
  refine List.map_congr_left fun a ha => ?_
  have found : t.get? a.id = some (change a) :=
    (t.get?_eq_some_iff _ _).2 ⟨h ▸ List.mem_map_of_mem ha, keeps a⟩
  rw [found, Option.getD_some]

/-- A table that accepts all statements of a main loop, as many as it has actions, is the one of a
project whose actions are called by the program. -/
theorem ActionTable.exists_isCalledBy {p : Project} {t : ActionTable} (same : t.actions = p.actions)
    {source : String} {body : Block} {ids : List String} (loop : loopStatements source = .ok body)
    (accepted : t.acceptedCalls [] body = (ids, none)) (full : ids.length = t.size) :
    ∃ calls, p.IsCalledBy source calls ∧ ids = calls.map ActionCall.action := by
  obtain ⟨script, hparse, hloop, busy⟩ := (loopStatements_eq_ok_iff _ _).1 loop
  obtain ⟨calls, rfl, rfl, nodup, -, all⟩ := (t.acceptedCalls_eq_iff _ _ _).1 accepted
  refine ⟨calls, ⟨same ▸ t.distinct, ⟨script, hparse, hloop⟩, ?_, ?_, ?_⟩, rfl⟩
  · rintro rfl
    cases busy
  · -- the called ids are distinct, among the declared ones, and as many
    have inside : calls.map ActionCall.action ⊆ p.actions.map Action.id := by
      intro id hid
      obtain ⟨c, hc, rfl⟩ := List.mem_map.1 hid
      obtain ⟨a, ha, hid, -⟩ := all c hc
      exact hid ▸ List.mem_map_of_mem (same ▸ ha)
    refine (nodup.subperm inside).perm_of_length_le ?_
    rw [full, ActionTable.size, same, List.length_map]
  · intro c hc a ha hid
    obtain ⟨b, hb, hid', fits⟩ := all c hc
    have : a = b := List.inj_on_of_nodup_map t.distinct (same ▸ ha) hb (hid.trans hid'.symm)
    exact this ▸ fits

theorem Project.IsCalledBy.loopStatements_eq_ok {p : Project} {source : String}
    {calls : List ActionCall} (h : p.IsCalledBy source calls) :
    loopStatements source = .ok (calls.map ActionCall.stmt) := by
  obtain ⟨script, hparse, hloop⟩ := h.loop
  refine (loopStatements_eq_ok_iff _ _).2 ⟨script, hparse, hloop, ?_⟩
  rw [← Bool.not_eq_true, isIdle_map_stmt]
  exact h.nonempty

theorem Project.IsCalledBy.acceptedCalls_eq {p : Project} {t : ActionTable} {source : String}
    {calls : List ActionCall} (h : p.IsCalledBy source calls) (same : t.actions = p.actions) :
    t.acceptedCalls [] (calls.map ActionCall.stmt) = (calls.map ActionCall.action, none) := by
  have nodup : (calls.map ActionCall.action).Nodup := h.enumerates.nodup_iff.2 h.distinct
  refine (t.acceptedCalls_eq_iff _ _ _).2 ⟨calls, rfl, rfl, nodup, by simp, fun c hc => ?_⟩
  obtain ⟨a, ha, hid⟩ := List.mem_map.1 (h.enumerates.subset (List.mem_map_of_mem hc))
  exact ⟨a, same ▸ ha, hid, h.fits c hc a ha hid⟩

/-- A project takes the links of a program exactly when the program calls all its actions. -/
theorem recover_eq_ok_iff (source : String) (p q : Project) :
    recover source p = .ok q ↔
      ∃ calls, p.IsCalledBy source calls ∧
        q = { p with actions :=
          p.actions.map (ActionTable.linkedAction true none (calls.map ActionCall.action)) } := by
  simp only [recover, ActionTable.ofProject, bind_eq_ok_iff, CompileError.ofCell_eq_ok_iff,
    ActionTable.ofActions_eq_ok_iff]
  constructor
  · rintro ⟨t, same, h⟩
    split at h
    · next linked found =>
      cases h
      obtain ⟨body, ids, loop, accepted, full, rfl⟩ := (t.recoverLinks_eq_iff _ _).1 found
      obtain ⟨calls, called, rfl⟩ := ActionTable.exists_isCalledBy same loop accepted full
      exact ⟨calls, called, ActionTable.applyTo_eq_of_map (fun a => by simp) (same ▸ rfl)⟩
    · cases h
  · rintro ⟨calls, h, rfl⟩
    let t : ActionTable := ⟨p.actions, h.distinct⟩
    have full : (calls.map ActionCall.action).length = t.size := by
      rw [h.enumerates.length_eq, List.length_map]
      rfl
    have found := (t.recoverLinks_eq_iff _ source).2
      ⟨_, _, h.loopStatements_eq_ok, h.acceptedCalls_eq rfl, full, rfl⟩
    refine ⟨t, rfl, ?_⟩
    rw [found]
    exact congrArg Except.ok (ActionTable.applyTo_eq_of_map (fun a => by simp) rfl)

/-- If the given ids are those of all actions, each action gets the links of its position. -/
theorem forall₂_linkedIn {ids : List String} {actions : List Action} (nodup : ids.Nodup)
    (enumerates : ids.Perm (actions.map Action.id)) :
    List.Forall₂ (LinkedIn ids) actions
      (actions.map (ActionTable.linkedAction true none ids)) := by
  rw [List.forall₂_map_right_iff, List.forall₂_same]
  intro a ha
  exact ActionTable.linkedIn_linkedAction nodup
    (enumerates.symm.subset (List.mem_map_of_mem ha))

/-- Actions with the links of their positions run in the order of these positions. -/
theorem chain_of_forall₂_linkedIn {ids : List String} {p : Project} {actions : List Action}
    (nodup : ids.Nodup) (nonempty : ids ≠ []) (enumerates : ids.Perm (actions.map Action.id))
    (linked : List.Forall₂ (LinkedIn ids) actions p.actions) :
    ∃ path, chain p = .ok path ∧ path.map Action.id = ids ∧ IsLinked path := by
  have same : actions.map Action.id = p.actions.map Action.id := by
    rw [← List.forall₂_eq_eq_eq, List.forall₂_map_left_iff, List.forall₂_map_right_iff]
    exact linked.imp fun a b h => h.id_eq.symm
  -- the actions of the project in the order of the ids
  obtain ⟨path, named, perm⟩ : ∃ path, List.Forall₂ (fun id a => id = a.id) ids path ∧
      path.Perm p.actions := by
    refine List.perm_comp_forall₂ (same ▸ enumerates) ?_
    rw [List.forall₂_map_left_iff, List.forall₂_same]
    exact fun a _ => rfl
  have names : path.map Action.id = ids := by
    rw [← List.forall₂_map_right_iff, List.forall₂_eq_eq_eq] at named
    exact named.symm
  have positions : IsLinked path := by
    intro k a hk
    obtain ⟨b, j, hj, rfl⟩ : ∃ b, LinkedIn ids b a := by
      obtain ⟨n, hn, rfl⟩ := List.getElem_of_mem (perm.subset (List.mem_of_getElem? hk))
      exact ⟨_, (List.forall₂_iff_get.1 linked).2 n (by rwa [linked.length_eq]) hn⟩
    have here : ids[k]? = some b.id := by
      rw [← names, List.getElem?_map, hk]
      rfl
    obtain rfl : j = k :=
      (List.getElem?_inj (List.getElem?_eq_some_iff.1 hj).1 nodup).1 (hj.trans here.symm)
    rw [names]
    exact ⟨rfl, rfl⟩
  refine ⟨path, (chain_eq_ok_iff p path).2 ?_, names, positions⟩
  refine Project.isPath_of_isLinked ?_ perm ?_ positions
  · rw [← same]
    exact enumerates.nodup_iff.1 nodup
  · rintro rfl
    exact nonempty names.symm

/-- A project takes the links of a program that calls all its actions. -/
theorem Project.IsCalledBy.exists_recover_eq_ok {p : Project} {source : String}
    {calls : List ActionCall} (h : p.IsCalledBy source calls) :
    ∃ q, recover source p = .ok q ∧ q = { p with actions := q.actions } ∧
      List.Forall₂ (LinkedIn (calls.map ActionCall.action)) p.actions q.actions ∧
      ∃ path, chain q = .ok path ∧ path.map Action.id = calls.map ActionCall.action := by
  have nodup : (calls.map ActionCall.action).Nodup := h.enumerates.nodup_iff.2 h.distinct
  have linked := forall₂_linkedIn nodup h.enumerates
  obtain ⟨path, hpath, names, -⟩ := chain_of_forall₂_linkedIn (p := { p with actions := _ })
    nodup (by simpa using h.nonempty) h.enumerates linked
  exact ⟨_, (recover_eq_ok_iff source p _).2 ⟨calls, h, rfl⟩, rfl, linked, path, hpath, names⟩

/-- A program gives back the links of a project exactly when its main loop calls every action once
and does nothing else. Then each action has the links of its position among the calls, nothing else
of the project is changed, and its actions run in the order of the calls. -/
theorem recover_iff_isCalledBy (source : String) (p : Project) :
    ((∃ q, recover source p = .ok q) ↔ ∃ calls, p.IsCalledBy source calls) ∧
      ∀ q calls, recover source p = .ok q → p.IsCalledBy source calls →
        q = { p with actions := q.actions } ∧
        List.Forall₂ (LinkedIn (calls.map ActionCall.action)) p.actions q.actions ∧
        ∃ path, chain q = .ok path ∧ path.map Action.id = calls.map ActionCall.action := by
  refine ⟨⟨?_, ?_⟩, ?_⟩
  · rintro ⟨q, found⟩
    obtain ⟨calls, h, -⟩ := (recover_eq_ok_iff source p q).1 found
    exact ⟨calls, h⟩
  · rintro ⟨calls, h⟩
    obtain ⟨q, found, -⟩ := h.exists_recover_eq_ok
    exact ⟨q, found⟩
  · intro q calls found h
    obtain ⟨q', found', result⟩ := h.exists_recover_eq_ok
    cases found'.symm.trans found
    exact result

end RobotCell
