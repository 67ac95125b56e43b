import RobotCell.Proofs.Cell.SavedProject
import RobotCell.Proofs.Program.RoundTrip

/-!
# A recovered project that is saved and loaded

A project with the links of its program can be saved, loaded and made into a program again. The
program is the same one, unless the path starts at an action with the id `start` and goes on: the
second action is then linked to the first, the text of this link is that of the start of the
program, and after loading there are two starts.
-/

namespace RobotCell

open Script

/-! ### The links that come back -/

/-- The action that comes back if an action gets the links of its position and is then saved and
loaded. -/
theorem reloaded_linkedAction {ids : List String} (nodup : ids.Nodup) {k : Nat} {a : Action}
    (hk : ids[k]? = some a.id) :
    (ActionTable.linkedAction true none ids a).reloaded =
      { a with inputs := [(inputAt ids k).reloaded], outputs := [(outputAt ids k).reloaded] } := by
  obtain ⟨j, hj, linked⟩ := ActionTable.linkedIn_linkedAction nodup (List.mem_of_getElem? hk)
  obtain rfl : j = k :=
    (List.getElem?_inj (List.getElem?_eq_some_iff.1 hj).1 nodup).1 (hj.trans hk.symm)
  rw [linked]
  rfl

variable {p : Project} {path : List Action}

/-- In a project from a document, only the first action of the path can be called as an end of the
program: the others have a link that leads to them. -/
theorem Project.IsLoaded.ne_of_getElem?_succ (loaded : p.IsLoaded) (isPath : p.IsPath path)
    {k : Nat} {id : String} (h : (path.map Action.id)[k + 1]? = some id) :
    id ≠ "start" ∧ id ≠ "end" := by
  rw [List.getElem?_map, Option.map_eq_some_iff] at h
  obtain ⟨b, hb, rfl⟩ := h
  obtain ⟨hk, rfl⟩ := List.getElem?_eq_some_iff.1 hb
  have leads := List.isChain_iff_getElem.1 isPath.leads k hk
  have inside : path[k] ∈ p.actions := isPath.enumerates.subset (List.getElem_mem _)
  exact Link.reloaded_action_eq_iff.1
    ((loaded _ inside).outputs _ (List.mem_of_mem_head? leads))

theorem Project.IsLoaded.reloaded_outputAt (loaded : p.IsLoaded) (isPath : p.IsPath path)
    (k : Nat) :
    (outputAt (path.map Action.id) k).reloaded = outputAt (path.map Action.id) k := by
  unfold outputAt
  cases next : (path.map Action.id)[k + 1]? with
  | none => rfl
  | some id => exact Link.reloaded_action_eq_iff.2 (loaded.ne_of_getElem?_succ isPath next)

/-- The second action counts as a start too if the first one is called `start`. -/
theorem Project.IsLoaded.reloaded_inputAt_eq_first_iff (loaded : p.IsLoaded)
    (isPath : p.IsPath path) {k : Nat} (hk : k < path.length) :
    (inputAt (path.map Action.id) k).reloaded = .first ↔
      k = 0 ∨ k = 1 ∧ path.head?.map Action.id = some "start" := by
  match k with
  | 0 => exact iff_of_true rfl (.inl rfl)
  | 1 =>
    have first : path[0]? = some path[0] := List.getElem?_eq_getElem (by omega)
    simp [inputAt, List.head?_eq_getElem?, first, Link.reloaded_action_eq_first_iff]
  | k + 2 =>
    have before : (path.map Action.id)[k + 1]? = some path[k + 1].id := by
      rw [List.getElem?_map, List.getElem?_eq_getElem (by omega)]
      rfl
    have other := (loaded.ne_of_getElem?_succ isPath before).1
    rw [inputAt, before, Option.elim_some, Link.reloaded_action_eq_first_iff]
    exact iff_of_false other (by omega)

/-! ### The project that comes back -/

/-- The project that comes back if a project gets the links of its path and is then saved and
loaded. -/
def Project.relinked (p : Project) (path : List Action) : Project :=
  { p with actions := p.actions.map fun a =>
      (ActionTable.linkedAction true none (path.map Action.id) a).reloaded }

/-- A relinked project has the same path, unless its first action is called `start` and is not the
only one. -/
theorem Project.IsLoaded.isPath_relinked (loaded : p.IsLoaded) (isPath : p.IsPath path)
    (h : path.length = 1 ∨ path.head?.map Action.id ≠ some "start") :
    (p.relinked path).IsPath (path.map fun a =>
      (ActionTable.linkedAction true none (path.map Action.id) a).reloaded) := by
  set relink := fun a => (ActionTable.linkedAction true none (path.map Action.id) a).reloaded
  have nodup := isPath.nodup_ids
  have keeps : ∀ a, (relink a).id = a.id := fun a => ActionTable.linkedAction_id _ _ _ a
  have names : ∀ actions : List Action,
      (actions.map relink).map Action.id = actions.map Action.id := by
    intro actions
    rw [List.map_map]
    exact List.map_congr_left fun a _ => keeps a
  have relinkedAt : ∀ k b, (path.map relink)[k]? = some b → k < path.length ∧
      b.inputs = [(inputAt (path.map Action.id) k).reloaded] ∧
      b.outputs = [(outputAt (path.map Action.id) k).reloaded] := by
    intro k b hb
    rw [List.getElem?_map, Option.map_eq_some_iff] at hb
    obtain ⟨a, ha, rfl⟩ := hb
    have here : (path.map Action.id)[k]? = some a.id := by
      rw [List.getElem?_map, ha]
      rfl
    show _ ∧ (ActionTable.linkedAction true none (path.map Action.id) a).reloaded.inputs = _ ∧
      (ActionTable.linkedAction true none (path.map Action.id) a).reloaded.outputs = _
    rw [reloaded_linkedAction nodup here]
    exact ⟨(List.getElem?_eq_some_iff.1 ha).1, rfl, rfl⟩
  refine Project.isPath_of_links ?_ (isPath.enumerates.map relink) ?_ ?_ ?_
  · show ((p.actions.map relink).map Action.id).Nodup
    rw [names]
    exact isPath.distinct
  · intro empty
    exact ne_nil_of_chain_eq_ok ((chain_eq_ok_iff p path).2 isPath) (List.map_eq_nil_iff.1 empty)
  · intro k b hb
    obtain ⟨hk, inputs, -⟩ := relinkedAt k b hb
    rw [inputs, List.head?_cons, Option.some_inj, loaded.reloaded_inputAt_eq_first_iff isPath hk]
    constructor
    · rintro (rfl | ⟨rfl, start⟩)
      · rfl
      · rcases h with single | other
        · omega
        · exact absurd start other
    · exact .inl
  · intro k b hb
    obtain ⟨-, -, outputs⟩ := relinkedAt k b hb
    rw [names, outputs, List.head?_cons, loaded.reloaded_outputAt isPath]

/-- A relinked project has no path at all if its first action is called `start` and is not the only
one: the second action is marked as a start as well. -/
theorem Project.IsLoaded.not_isPath_relinked (loaded : p.IsLoaded) (isPath : p.IsPath path)
    (long : path.length ≠ 1) (start : path.head?.map Action.id = some "start")
    (other : List Action) : ¬(p.relinked path).IsPath other := by
  intro isOther
  have nodup := isPath.nodup_ids
  have several : 1 < path.length := by
    have : path.length ≠ 0 := by
      intro empty
      rw [List.length_eq_zero_iff.1 empty] at start
      cases start
    omega
  -- the relinked action at each of the first two positions is a start
  have starts : ∀ k (hk : k < path.length), k ≤ 1 →
      ∃ b ∈ (p.relinked path).actions, b.inputs.head? = some .first ∧ b.id = path[k].id := by
    intro k hk le
    have here : (path.map Action.id)[k]? = some path[k].id := by
      rw [List.getElem?_map, List.getElem?_eq_getElem hk]
      rfl
    have inside : path[k] ∈ p.actions := isPath.enumerates.subset (List.getElem_mem hk)
    refine ⟨_, List.mem_map_of_mem inside, ?_, ?_⟩
    · rw [reloaded_linkedAction nodup here, List.head?_cons, Option.some_inj,
        loaded.reloaded_inputAt_eq_first_iff isPath hk]
      by_cases first : k = 0
      · exact .inl first
      · exact .inr ⟨by omega, start⟩
    · rw [reloaded_linkedAction nodup here]
  obtain ⟨a, ha, first, ida⟩ := starts 0 (by omega) (by omega)
  obtain ⟨b, hb, second, idb⟩ := starts 1 several (by omega)
  have same : a = b := isOther.oneStart.unique ⟨ha, first⟩ ⟨hb, second⟩
  have ids : (path.map Action.id)[0]? = (path.map Action.id)[1]? := by
    rw [List.getElem?_map, List.getElem?_map, List.getElem?_eq_getElem (by omega),
      List.getElem?_eq_getElem several, Option.map_some, Option.map_some, ← ida, ← idb, same]
  exact absurd ((List.getElem?_inj (by rw [List.length_map]; omega) nodup).1 ids) (by decide)

/-! ### The program that comes back -/

variable {j : Json} {settings : Settings} {scene : Scene} {catalog : Catalog} {text : String}

/-- The program of a project depends on the links only through the path. -/
theorem program_relinked (isPath : p.IsPath path)
    (relinked : (p.relinked path).IsPath (path.map fun a =>
      (ActionTable.linkedAction true none (path.map Action.id) a).reloaded))
    (h : program settings p scene catalog = .ok text) :
    program settings (p.relinked path) scene catalog = .ok text := by
  obtain ⟨hscene, keep, path', calls, hpath, checks, called, checked, rfl⟩ := program_eq_ok_iff.1 h
  obtain rfl : path = path' :=
    Except.ok.inj (((chain_eq_ok_iff p path).2 isPath).symm.trans hpath)
  have nodup := isPath.nodup_ids
  have links : ∀ a ∈ path, ∃ inputs outputs,
      (ActionTable.linkedAction true none (path.map Action.id) a).reloaded =
        { a with inputs := inputs, outputs := outputs } := by
    intro a ha
    obtain ⟨k, hk⟩ := List.mem_iff_getElem?.1 (List.mem_map_of_mem (f := Action.id) ha)
    exact ⟨_, _, reloaded_linkedAction nodup hk⟩
  refine program_eq_ok_iff.2 ⟨hscene, keep, _, calls, (chain_eq_ok_iff _ _).2 relinked, ?_, ?_,
    checked, rfl⟩
  · rw [List.forall_mem_map]
    intro a ha
    obtain ⟨inputs, outputs, eq⟩ := links a ha
    rw [eq]
    exact checks a ha
  · rw [List.forall₂_map_left_iff, List.forall₂_iff_get]
    refine ⟨called.length_eq, fun n hn hn' => ?_⟩
    obtain ⟨inputs, outputs, eq⟩ := links _ (List.getElem_mem hn)
    show ActionCall.IsOf _
      (ActionTable.linkedAction true none (path.map Action.id) path[n]).reloaded
    rw [eq]
    exact (List.forall₂_iff_get.1 called).2 n hn hn'

/-- A project from a document takes the links of its program, and what is then saved can be
loaded. -/
theorem ofJson_recover_program (loaded : p.IsLoaded)
    (h : program settings p scene catalog = .ok text) :
    ∃ path q, chain p = .ok path ∧ recover text p = .ok q ∧
      Project.ofJson q.toJson = some (p.relinked path) := by
  obtain ⟨path, calls, hpath, names, called⟩ := isCalledBy_of_program h (q := p) (.refl _)
  have isPath := (chain_eq_ok_iff p path).1 hpath
  have recovered := (recover_eq_ok_iff text p _).2 ⟨calls, called, rfl⟩
  rw [names] at recovered
  refine ⟨path, _, hpath, recovered, ?_⟩
  rw [Project.ofJson_toJson, Project.reloaded, Project.relinked, List.map_map]
  · rfl
  · -- the parameters are those of the document, so they are saved and loaded as they are
    rw [List.forall_mem_map]
    intro a ha
    have inside : a.id ∈ path.map Action.id :=
      List.mem_map_of_mem (isPath.enumerates.symm.subset ha)
    obtain ⟨k, -, linked⟩ := ActionTable.linkedIn_linkedAction isPath.nodup_ids inside
    rw [linked]
    exact (loaded a ha).values

/-- A project from a document takes the links of its program, and can be saved and loaded. What is
loaded gives the same program again exactly if the first action is not called `start`, which is how
the start of the program is saved, or is the only one. -/
theorem program_reloaded_iff (loaded : Project.ofJson j = some p)
    (h : program settings p scene catalog = .ok text) :
    ∃ path q r, chain p = .ok path ∧ recover text p = .ok q ∧ Project.ofJson q.toJson = some r ∧
      (program settings r scene catalog = .ok text ↔
        path.length = 1 ∨ path.head?.map Action.id ≠ some "start") := by
  have loaded := Project.isLoaded_of_ofJson loaded
  obtain ⟨path, q, hpath, recovered, back⟩ := ofJson_recover_program loaded h
  have isPath := (chain_eq_ok_iff p path).1 hpath
  refine ⟨path, q, p.relinked path, hpath, recovered, back, ?_, ?_⟩
  · intro again
    by_contra bad
    rw [not_or, not_not] at bad
    obtain ⟨-, -, other, -, hother, -⟩ := program_eq_ok_iff.1 again
    exact loaded.not_isPath_relinked isPath bad.1 bad.2 other ((chain_eq_ok_iff _ _).1 hother)
  · intro good
    exact program_relinked isPath (loaded.isPath_relinked isPath good) h

theorem program_reloaded_cameraProject :
    Project.ofJson cameraProject.toJson = some cameraProject ∧
      program {} cameraProject cameraScene cameraCatalog = .ok cameraText ∧
      ∃ q r, recover cameraText cameraProject = .ok q ∧ Project.ofJson q.toJson = some r ∧
        program {} r cameraScene cameraCatalog = .ok cameraText := by
  have loaded : Project.ofJson cameraProject.toJson = some cameraProject := rfl
  obtain ⟨path, q, r, hpath, recovered, back, same⟩ :=
    program_reloaded_iff loaded program_cameraProject
  have path_eq : chain cameraProject = .ok cameraPath := rfl
  cases path_eq.symm.trans hpath
  exact ⟨loaded, program_cameraProject, q, r, recovered, back, same.2 (by decide)⟩

/-! ### An action with the name of an end -/

def startPath : List Action :=
  [⟨"start", "LeftArm/grip", [.first], [.action "look"], [⟨"force", "double", .null⟩]⟩,
   ⟨"look", "camera/scan", [], [.last], []⟩]

/-- The project for the arm and the camera, where the first action is called `start`. -/
def startProject : Project :=
  { cameraProject with actions := startPath }

def startCalls : List ActionCall :=
  [⟨"left_arm", "grip", "start"⟩, ⟨"camera", "scan", "look"⟩]

def startText : String :=
  scriptHeader ++ blockText 0 none (calledScript {} cameraScene startCalls)

theorem program_startProject :
    program {} startProject cameraScene cameraCatalog = .ok startText := by
  have called : List.Forall₂ (fun a c => ActionCall.IsOf c a) startPath startCalls := by
    refine .cons ⟨rfl, ?_⟩ (.cons ⟨rfl, ?_⟩ .nil)
    · exact (ActionCall.fits_iff _ _).2 ⟨"LeftArm", rfl, by decide⟩
    · exact (ActionCall.fits_iff _ _).2 ⟨"camera", rfl, by decide⟩
  refine program_eq_ok_iff.2 ⟨rfl, ?_, startPath, startCalls, rfl, ?_, called, rfl, rfl⟩
  · simp only [cameraScene, SceneObject.KeepsResources, List.forall_mem_cons]
    decide
  · exact List.forall_mem_cons.2 ⟨rfl, List.forall_mem_singleton.2 rfl⟩

/-- After it was saved and loaded, the project has two starts and no program any more. -/
theorem program_reloaded_startProject :
    Project.ofJson startProject.toJson = some startProject ∧
      program {} startProject cameraScene cameraCatalog = .ok startText ∧
      ∃ q r, recover startText startProject = .ok q ∧ Project.ofJson q.toJson = some r ∧
        program {} r cameraScene cameraCatalog =
          .error (.multipleStartActions ["start", "look"]) := by
  have loaded : Project.ofJson startProject.toJson = some startProject := rfl
  obtain ⟨path, q, hpath, recovered, back⟩ :=
    ofJson_recover_program (Project.isLoaded_of_ofJson loaded) program_startProject
  have path_eq : chain startProject = .ok startPath := rfl
  cases path_eq.symm.trans hpath
  exact ⟨loaded, program_startProject, q, _, recovered, back, rfl⟩

end RobotCell
