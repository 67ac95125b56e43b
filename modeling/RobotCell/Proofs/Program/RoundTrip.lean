import RobotCell.Proofs.Program.Meaning

/-!
# From a project to its program and back

A project takes its links back from the program that was made of it, even if the links have been
lost since and the actions are declared in another order.

## Main definitions

- `Project.SameButLinks` — two projects that differ at most in the links of their actions

## Main results

- `isCalledBy_of_program` — the program of a project calls the actions of every project with the
  same ids and types
- `recover_program` — the links come back
-/

namespace RobotCell

open Script

/-! ### Projects up to links -/

/-- The second action is the first one with any links. -/
def Action.SameButLinks (a b : Action) : Prop :=
  b = { a with inputs := b.inputs, outputs := b.outputs }

/-- The second project is the first one with any links of its actions. -/
def Project.SameButLinks (p q : Project) : Prop :=
  q = { p with actions := q.actions } ∧ List.Forall₂ Action.SameButLinks p.actions q.actions

theorem LinkedIn.sameButLinks {ids : List String} {a b : Action} (h : LinkedIn ids a b) :
    a.SameButLinks b := by
  obtain ⟨k, -, rfl⟩ := h
  rfl

/-- An action with the links of its position does not change if it loses them and gets the links of
its position again. -/
theorem IsLinked.eq_of_linkedIn {path : List Action} (linked : IsLinked path)
    (nodup : (path.map Action.id).Nodup) {a b c : Action} (ha : a ∈ path)
    (lost : a.SameButLinks b) (found : LinkedIn (path.map Action.id) b c) : c = a := by
  obtain ⟨k, hk⟩ := List.mem_iff_getElem?.1 ha
  obtain ⟨j, hj, rfl⟩ := found
  have id_eq : b.id = a.id := by rw [lost]
  have here : (path.map Action.id)[k]? = some a.id := by
    rw [List.getElem?_map, hk]
    rfl
  obtain rfl : j = k :=
    (List.getElem?_inj (List.getElem?_eq_some_iff.1 hj).1 nodup).1
      (hj.trans (id_eq ▸ here.symm))
  obtain ⟨inputs, outputs⟩ := linked j a hk
  rw [lost, ← inputs, ← outputs]

/-- Actions that had the links of their positions and lost them are the same again when they get
the links of their positions. -/
theorem IsLinked.eq_of_forall₂_linkedIn {path actions lost found : List Action}
    (linked : IsLinked path) (nodup : (path.map Action.id).Nodup)
    (inside : ∀ a ∈ actions, a ∈ path) (same : List.Forall₂ Action.SameButLinks actions lost)
    (relinked : List.Forall₂ (LinkedIn (path.map Action.id)) lost found) : found = actions := by
  induction same generalizing found with
  | nil =>
    cases relinked
    rfl
  | cons first _ ih =>
    cases relinked with
    | cons firstFound laterFound =>
      rw [List.forall_mem_cons] at inside
      rw [linked.eq_of_linkedIn nodup inside.1 first firstFound, ih inside.2 laterFound]

/-! ### The round trip -/

variable {settings : Settings} {p q : Project} {scene : Scene} {catalog : Catalog} {text : String}

/-- A call fits all actions of the same type. -/
theorem ActionCall.Fits.of_type_eq {c : ActionCall} {a b : Action} (h : c.Fits a)
    (same : b.type = a.type) : c.Fits b := by
  rw [ActionCall.Fits, same]
  exact h

theorem map_action_eq_of_isOf {path : List Action} {calls : List ActionCall}
    (h : List.Forall₂ (fun a c => ActionCall.IsOf c a) path calls) :
    calls.map ActionCall.action = path.map Action.id := by
  rw [← List.forall₂_eq_eq_eq, List.forall₂_map_left_iff, List.forall₂_map_right_iff]
  exact h.flip.imp fun c a call => call.1

/-- The program of a project calls the actions of every project with the same ids and types, in the
order of the path. -/
theorem isCalledBy_of_program (h : program settings p scene catalog = .ok text)
    (same : (q.actions.map fun a => (a.id, a.type)).Perm
      (p.actions.map fun a => (a.id, a.type))) :
    ∃ path calls, chain p = .ok path ∧ calls.map ActionCall.action = path.map Action.id ∧
      q.IsCalledBy text calls := by
  obtain ⟨path, calls, hpath, called, parsed⟩ := exists_calls_of_program h
  have names := map_action_eq_of_isOf called
  have isPath := (chain_eq_ok_iff p path).1 hpath
  have ids : (q.actions.map Action.id).Perm (p.actions.map Action.id) := by
    have := same.map Prod.fst
    rwa [List.map_map, List.map_map] at this
  refine ⟨path, calls, hpath, names, ?_⟩
  refine ⟨ids.nodup_iff.2 isPath.distinct, ⟨_, parsed, mainLoopBody_programBlock _⟩, ?_, ?_, ?_⟩
  · rintro rfl
    exact ne_nil_of_chain_eq_ok hpath (List.forall₂_nil_right_iff.1 called)
  · rw [names]
    exact (isPath.enumerates.map Action.id).trans ids.symm
  · intro c hc b hb hid
    -- the action of the call and the one of the same id in the other project have one type
    obtain ⟨a, ha, call⟩ : ∃ a ∈ p.actions, c.IsOf a := by
      obtain ⟨n, hn, rfl⟩ := List.getElem_of_mem hc
      have hn' : n < path.length := by rwa [called.length_eq]
      exact ⟨_, isPath.enumerates.subset (List.getElem_mem hn'),
        (List.forall₂_iff_get.1 called).2 n hn' hn⟩
    obtain ⟨a', ha', pair⟩ := List.mem_map.1 (same.subset (List.mem_map_of_mem hb))
    obtain ⟨id_eq, type_eq⟩ := Prod.mk.inj pair
    obtain rfl : a' = a := List.inj_on_of_nodup_map isPath.distinct ha' ha
      (id_eq.trans (hid.trans call.1))
    exact call.2.of_type_eq type_eq.symm

/-- A project takes back the links of a program that was made of a project with the same ids and
types. Nothing else of it changes, and its actions run in the order in which they ran when the
program was made. If they had the links of this order and lost nothing else, all is as before. -/
theorem recover_program (h : program settings p scene catalog = .ok text)
    (same : (q.actions.map fun a => (a.id, a.type)).Perm
      (p.actions.map fun a => (a.id, a.type))) :
    ∃ r path path', recover text q = .ok r ∧ q.SameButLinks r ∧ chain p = .ok path ∧
      chain r = .ok path' ∧ path'.map Action.id = path.map Action.id ∧
      (IsLinked path → p.SameButLinks q → r = p) := by
  obtain ⟨path, calls, hpath, names, called⟩ := isCalledBy_of_program h same
  obtain ⟨r, found, fields, linked, path', hpath', names'⟩ := called.exists_recover_eq_ok
  refine ⟨r, path, path', found, ⟨fields, ?_⟩, hpath, hpath', names'.trans names, ?_⟩
  · exact linked.imp fun a b => LinkedIn.sameButLinks
  · rintro canonical ⟨kept, lost⟩
    rw [names] at linked
    have isPath := (chain_eq_ok_iff p path).1 hpath
    have restored := canonical.eq_of_forall₂_linkedIn
      ((isPath.enumerates.map Action.id).nodup_iff.2 isPath.distinct)
      (fun a ha => isPath.enumerates.symm.subset ha) lost linked
    rw [fields, kept, restored]

/-- The project for the arm and the camera with wrong links. -/
def unlinkedProject : Project :=
  { cameraProject with actions :=
      cameraProject.actions.map fun a => { a with inputs := [.last, .first], outputs := [] } }

theorem recover_cameraText :
    program {} cameraProject cameraScene cameraCatalog = .ok cameraText ∧
      recover cameraText unlinkedProject = .ok cameraProject := by
  refine ⟨program_cameraProject, ?_⟩
  obtain ⟨r, path, path', found, -, hpath, -, -, restored⟩ :=
    recover_program (q := unlinkedProject) program_cameraProject (.refl _)
  have path_eq : chain cameraProject = .ok cameraPath := rfl
  cases path_eq.symm.trans hpath
  have linked : IsLinked cameraPath := by
    intro k a hk
    match k with
    | 0 | 1 =>
      cases hk
      exact ⟨rfl, rfl⟩
  have same : cameraProject.SameButLinks unlinkedProject :=
    ⟨rfl, .cons rfl (.cons rfl .nil)⟩
  rw [found, restored linked same]

end RobotCell
