import RobotCell.Proofs.Program.Links
import RobotCell.Proofs.Program.Shape
import RobotCell.Proofs.Script.Checked
import RobotCell.Proofs.Script.ReadStmt

/-!
# The meaning of a program

The text of a program is a script that does what the project says: it imports the classes that it
uses, has a variable for each object of the scene, and calls the actions in the order of their path.

## Main results

- `program_eq_ok_iff` — when a project has a program
- `parse_program` — what its text is read as
-/

namespace RobotCell

open Script

/-! ### Scenes -/

theorem checkObjects_eq_ok_iff {earlier objects : List SceneObject} :
    checkObjects earlier objects = .ok () ↔
      (∀ o ∈ objects, isIdentifier o.type = true ∧
        ∀ e ∈ earlier, Naming.variableName e.id ≠ Naming.variableName o.id) ∧
      (objects.map fun o => Naming.variableName o.id).Nodup := by
  induction objects generalizing earlier with
  | nil => simp [checkObjects]
  | cons o objects ih =>
    rw [checkObjects, List.map_cons, List.nodup_cons, List.forall_mem_cons]
    constructor
    · intro h
      split_ifs at h with twin word
      dsimp only at h
      split at h
      · cases h
      · next none =>
        obtain ⟨later, distinct⟩ := ih.1 h
        refine ⟨⟨⟨by simpa using word, ?_⟩, fun p hp => ⟨(later p hp).1, fun e he => ?_⟩⟩, ?_,
          distinct⟩
        · intro e he
          simpa using List.find?_eq_none.1 none e he
        · exact (later p hp).2 e (List.mem_cons_of_mem _ he)
        · intro twice
          obtain ⟨p, hp, same⟩ := List.mem_map.1 twice
          exact (later p hp).2 o List.mem_cons_self same.symm
    · rintro ⟨⟨⟨word, fresh⟩, later⟩, first, distinct⟩
      -- objects with one id have one variable, so this check adds nothing
      have twin : ¬(earlier.any fun e => e.id = o.id) = true := by
        rw [List.any_eq_true]
        rintro ⟨e, he, same⟩
        exact fresh e he (congrArg Naming.variableName (of_decide_eq_true same))
      have none : (earlier.find? fun e => Naming.variableName e.id = Naming.variableName o.id) =
          none := by
        rw [List.find?_eq_none]
        exact fun e he => by simpa using fresh e he
      rw [if_neg twin, if_neg (by simpa using word)]
      simp only [none]
      refine ih.2 ⟨fun p hp => ⟨(later p hp).1, ?_⟩, distinct⟩
      refine List.forall_mem_cons.2 ⟨?_, (later p hp).2⟩
      intro same
      exact first (List.mem_map.2 ⟨p, hp, same.symm⟩)

/-- A scene has a program if its types can be imported and its objects have distinct variables. -/
theorem checkScene_eq_ok_iff {scene : Scene} :
    checkScene scene = .ok () ↔ (∀ o ∈ scene.objects, isIdentifier o.type = true) ∧
      (scene.objects.map fun o => Naming.variableName o.id).Nodup := by
  simp [checkScene, checkObjects_eq_ok_iff]

/-! ### Actions -/

/-- An action can be called if its id can be written, its target is an object of the scene with a
method in the catalog, and nothing is wrong with its parameters. -/
theorem checkAction_eq_ok_iff {scene : Scene} {catalog : Catalog} {a : Action} :
    checkAction scene catalog a = .ok () ↔ isIdentifier a.id = true ∧
      ∃ objectId name o method, a.target = .ok (objectId, name) ∧
        scene.object? objectId = some o ∧ catalog.action? o.type name = .ok (some method) ∧
        parameterFault? a method = none := by
  by_cases named : isIdentifier a.id = true
  · simp only [checkAction, named, Bool.not_true, Bool.false_eq_true, if_false, true_and]
    constructor
    · intro h
      obtain ⟨⟨objectId, name⟩, target, h⟩ := bind_eq_ok_iff.1 h
      dsimp only at h
      split at h
      · cases h
      · next o found =>
        obtain ⟨method, known, h⟩ := bind_eq_ok_iff.1 h
        split at h
        · cases h
        · next method =>
          split at h
          · cases h
          · next fits =>
            exact ⟨objectId, name, o, method, CompileError.ofCell_eq_ok_iff.1 target, found,
              CompileError.ofCell_eq_ok_iff.1 known, fits⟩
    · rintro ⟨objectId, name, o, method, target, found, known, fits⟩
      simp [target, found, known, fits, CompileError.ofCell]
  · refine iff_of_false (fun h => ?_) fun h => named h.1
    simp only [checkAction, named, Bool.not_false, if_true] at h
    cases h

/-! ### Calls -/

/-- The call is the one of the action in a program. -/
def ActionCall.IsOf (c : ActionCall) (a : Action) : Prop :=
  c.action = a.id ∧ c.Fits a

theorem ActionCall.stmt_eq_methodCall (c : ActionCall) :
    c.stmt = .methodCall c.object c.method [] [⟨none, .nameAttr resourcesVar c.action⟩] := rfl

theorem actionCall_eq_ok_iff_isOf {a : Action} {s : Stmt} :
    actionCall a = .ok s ↔ ∃ c : ActionCall, c.IsOf a ∧ s = c.stmt := by
  simp only [actionCall_eq_ok_iff, ActionCall.IsOf, ActionCall.fits_iff,
    ActionCall.stmt_eq_methodCall]
  constructor
  · rintro ⟨object, method, target, same⟩
    generalize named : Naming.variableName object = name at same
    exact ⟨⟨name, method, a.id⟩, ⟨rfl, object, target, named⟩, same⟩
  · rintro ⟨c, ⟨action, object, target, named⟩, same⟩
    rw [action, ← named] at same
    exact ⟨object, c.method, target, same⟩

theorem forall₂_actionCall_iff {path : List Action} {body : Block} :
    List.Forall₂ (fun a s => actionCall a = .ok s) path body ↔
      ∃ calls : List ActionCall, List.Forall₂ (fun a c => c.IsOf a) path calls ∧
        body = calls.map ActionCall.stmt := by
  constructor
  · intro h
    induction h with
    | nil => exact ⟨[], .nil, rfl⟩
    | cons first _ ih =>
      obtain ⟨c, call, rfl⟩ := actionCall_eq_ok_iff_isOf.1 first
      obtain ⟨calls, later, rfl⟩ := ih
      exact ⟨c :: calls, .cons call later, rfl⟩
  · rintro ⟨calls, called, rfl⟩
    rw [List.forall₂_map_right_iff]
    exact called.imp fun a c h => actionCall_eq_ok_iff_isOf.2 ⟨c, h, rfl⟩

/-! ### Programs -/

/-- The script of a program with the given calls. -/
def calledScript (settings : Settings) (scene : Scene) (calls : List ActionCall) : Block :=
  programBlock (programImports settings scene) (bindings scene.objects) (calls.map ActionCall.stmt)

variable {settings : Settings} {project : Project} {scene : Scene} {catalog : Catalog}
  {text : String}

/-- A project has a program if its scene, its path and the actions on it pass their checks and the
script that calls the actions can be written. -/
theorem program_eq_ok_iff :
    program settings project scene catalog = .ok text ↔
      checkScene scene = .ok () ∧ (∀ o ∈ scene.objects, o.KeepsResources) ∧
        ∃ path calls, chain project = .ok path ∧
          (∀ a ∈ path, checkAction scene catalog a = .ok ()) ∧
          List.Forall₂ (fun a c => ActionCall.IsOf c a) path calls ∧
          checkBlock (calledScript settings scene calls) = .ok () ∧
          text = scriptHeader ++ blockText 0 none (calledScript settings scene calls) := by
  simp only [program, render, bind_eq_ok_iff, CompileError.ofRender_eq_ok_iff]
  constructor
  · rintro ⟨⟨⟩, hscene, path, hpath, ⟨⟩, actions, script, hscript, _, ⟨⟨⟩, checked, ⟨⟩⟩, ⟨⟩⟩
    have distinct := (checkScene_eq_ok_iff.1 hscene).2
    obtain ⟨keep, body, steps, rfl⟩ :=
      (programScript_eq_ok_iff (ne_nil_of_chain_eq_ok hpath) distinct).1 hscript
    obtain ⟨calls, called, rfl⟩ := forall₂_actionCall_iff.1 steps
    exact ⟨hscene, keep, path, calls, hpath, forM_eq_ok_iff.1 actions, called, checked, rfl⟩
  · rintro ⟨hscene, keep, path, calls, hpath, actions, called, checked, rfl⟩
    have distinct := (checkScene_eq_ok_iff.1 hscene).2
    have steps := forall₂_actionCall_iff.2 ⟨calls, called, rfl⟩
    have hscript : programScript settings scene path = .ok (calledScript settings scene calls) :=
      (programScript_eq_ok_iff (ne_nil_of_chain_eq_ok hpath) distinct).2 ⟨keep, _, steps, rfl⟩
    exact ⟨(), hscene, path, hpath, (), forM_eq_ok_iff.2 actions, _, hscript, _,
      ⟨(), checked, rfl⟩, rfl⟩

/-! ### Programs are legible scripts -/

theorem isBlankLines_scriptHeader : IsBlankLines scriptHeader.toList := by
  have lines : scriptHeader.toList =
      ('#' :: ("!/usr/bin/env python3".toList ++ ['\n'])) ++
        (('#' :: (" -*- coding: utf-8 -*-".toList ++ ['\n'])) ++ ['\n']) := by
    decide
  rw [lines]
  exact (isBlankLines_comment (by decide)).append
    ((isBlankLines_comment (by decide)).append isBlankLines_newline)

theorem legible_resourcesVar : Legible (.name resourcesVar) :=
  .name (by decide)

theorem legible_call_name {name : String} (identifier : isIdentifier name = true) :
    Legible (.call (.name name) [] []) :=
  .call (.name identifier) rfl (List.forall_mem_nil _) (List.forall_mem_nil _)
    (List.forall_mem_nil _) (List.forall_mem_nil _) (List.forall_mem_nil _)

theorem legibleStmt_importStmt {i : ModuleImport} (checked : (importStmt i).check "if" = .ok ())
    (filled : i.2 ≠ []) (identifiers : ∀ n ∈ i.2, isIdentifier n = true) :
    LegibleStmt (importStmt i) := by
  simp only [importStmt, Stmt.check, checkSimple, checkImportFrom_eq_ok_iff] at checked
  refine .importFrom 0 checked.2.1 ?_
  have listed : (i.2.map fun n => (⟨n, none⟩ : Alias)).all (fun a => isIdentifier a.name &&
      a.asName.all isIdentifier) = true := by
    simpa using identifiers
  simp [areImported, listed, filled]

theorem legibleStmt_objectBinding {o : SceneObject}
    (checked : (objectBinding o).check "if" = .ok ()) : LegibleStmt (objectBinding o) := by
  simp only [objectBinding, Stmt.check, checkSimple, Expr.check, checkOption, Expr.nameAttr,
    Expr.str, check_bind_eq_ok_iff, checkIdentifier_eq_ok_iff] at checked
  obtain ⟨target, type, -⟩ := checked
  have objects : Legible (.nameAttr resourcesVar "objects") :=
    .dotted legible_resourcesVar rfl rfl (by decide)
  have value : Legible (.subscript (.nameAttr resourcesVar "objects") (.str o.id)) :=
    .subscript objects rfl (.constant trivial) rfl
  exact .annAssign (.name target) rfl (.name type) rfl (fun e he => Option.some.inj he ▸ value)
    (fun e he => Option.some.inj he ▸ rfl)

theorem legibleStmt_of_mem_bindings {objects : List SceneObject}
    (checked : ∀ s ∈ bindings objects, s.check "if" = .ok ()) :
    ∀ s ∈ bindings objects, LegibleStmt s := by
  rw [bindings, List.forall_mem_cons, List.forall_mem_map] at checked ⊢
  refine ⟨.assign (List.cons_ne_nil _ _) (List.forall_mem_singleton.2 legible_resourcesVar)
    (List.forall_mem_singleton.2 rfl) (legible_call_name (by decide)) rfl, ?_⟩
  exact fun o ho => legibleStmt_objectBinding (checked.2 o ho)

theorem ActionCall.legibleStmt_stmt {c : ActionCall} (checked : c.stmt.check "if" = .ok ()) :
    LegibleStmt c.stmt := by
  simp only [ActionCall.stmt, Stmt.check, checkSimple, Expr.check, checkArguments, checkAll,
    check_bind_eq_ok_iff, checkIdentifier_eq_ok_iff] at checked
  obtain ⟨⟨method, object⟩, -, -, ⟨action, -⟩, -⟩ := checked
  have func : Legible (.nameAttr c.object c.method) := .dotted (.name object) rfl rfl method
  have arg : Legible (.nameAttr resourcesVar c.action) :=
    .dotted legible_resourcesVar rfl rfl action
  refine .expr (.call func rfl (List.forall_mem_nil _) (List.forall_mem_nil _) ?_ ?_ ?_) rfl
  · exact List.forall_mem_singleton.2 fun n hn => by cases hn
  · exact List.forall_mem_singleton.2 arg
  · exact List.forall_mem_singleton.2 rfl

theorem legibleStmt_mainLoop {calls : List ActionCall} (filled : calls ≠ [])
    (checked : (mainLoop (calls.map ActionCall.stmt)).check "if" = .ok ()) :
    LegibleStmt (mainLoop (calls.map ActionCall.stmt)) := by
  simp only [mainLoop, Stmt.check, check_bind_eq_ok_iff, checkBlock_eq_ok_iff,
    List.forall_mem_map] at checked
  have suite : isSuite (calls.map ActionCall.stmt) = true := by
    cases calls with
    | nil => exact absurd rfl filled
    | cons c calls => rfl
  refine .whileLoop (.constant trivial) rfl suite (fun h => absurd rfl h)
    (List.forall_mem_map.2 fun c hc => ?_) (List.forall_mem_nil _)
  exact ActionCall.legibleStmt_stmt (checked.2.2.1 c hc)

theorem legibleStmt_mainGuard : LegibleStmt mainGuard := by
  refine .ifElse ?_ rfl rfl (fun h => absurd rfl h) ?_ (List.forall_mem_nil _)
  · exact .compare (.name (by decide)) rfl (List.cons_ne_nil _ _) rfl
      (List.forall_mem_singleton.2 (.constant trivial)) (List.forall_mem_singleton.2 rfl)
  · exact List.forall_mem_singleton.2 (.expr (legible_call_name (by decide)) rfl)

theorem legibleStmt_mainFunction {objects : List SceneObject} {loop : Stmt}
    (vars : ∀ s ∈ bindings objects, LegibleStmt s) (last : LegibleStmt loop) :
    LegibleStmt (.functionDef (mainFunction (bindings objects ++ [loop]))) := by
  have result : Legible (.constant .none) := .constant trivial
  refine .functionDef (List.forall_mem_nil _) (List.forall_mem_nil _) (by decide)
    (List.forall_mem_nil _) rfl (List.forall_mem_nil _) (List.forall_mem_nil _)
    (List.forall_mem_nil _) (fun e he => Option.some.inj he ▸ result)
    (fun e he => Option.some.inj he ▸ rfl) rfl ?_
  rw [List.forall_mem_append, List.forall_mem_singleton]
  exact ⟨vars, last⟩

/-- A script of the shape of a program that passes the check is one that can be read back. -/
theorem legibleStmt_of_mem_programBlock {imports : List ModuleImport} {objects : List SceneObject}
    {calls : List ActionCall} (tidy : IsTidy imports)
    (identifiers : ∀ pair ∈ importedPairs imports, isIdentifier pair.2 = true)
    (filled : calls ≠ [])
    (checked : checkBlock (programBlock imports (bindings objects) (calls.map ActionCall.stmt)) =
      .ok ()) :
    ∀ s ∈ programBlock imports (bindings objects) (calls.map ActionCall.stmt), LegibleStmt s := by
  rw [checkBlock_eq_ok_iff, programBlock] at checked
  simp only [List.forall_mem_append, List.forall_mem_map, List.forall_mem_cons] at checked
  obtain ⟨checkedImports, checkedMain, -⟩ := checked
  -- the check of `main` goes through its variables and its loop
  simp only [mainFunction, Stmt.check, check_bind_eq_ok_iff, checkBlock_eq_ok_iff,
    List.forall_mem_append, List.forall_mem_singleton] at checkedMain
  obtain ⟨-, -, -, -, -, checkedBindings, checkedLoop⟩ := checkedMain
  simp only [programBlock, List.forall_mem_append, List.forall_mem_map, List.forall_mem_cons]
  refine ⟨fun i hi => ?_, ?_, legibleStmt_mainGuard, List.forall_mem_nil _⟩
  · refine legibleStmt_importStmt (checkedImports i hi) (tidy.names i hi).1 fun n hn => ?_
    exact identifiers (i.1, n) (List.mem_flatMap.2 ⟨i, hi, List.mem_map_of_mem hn⟩)
  · exact legibleStmt_mainFunction (legibleStmt_of_mem_bindings checkedBindings)
      (legibleStmt_mainLoop filled checkedLoop)

/-! ### Reading a program back -/

theorem isIdentifier_of_mem_importedPairs (hscene : checkScene scene = .ok ())
    {pair : String × String} (hpair : pair ∈ importedPairs (programImports settings scene)) :
    isIdentifier pair.2 = true := by
  rcases mem_importedPairs_programImports.1 hpair with rfl | ⟨o, ho, rfl⟩
  · show isIdentifier resourcesClass = true
    decide
  · exact (checkScene_eq_ok_iff.1 hscene).1 o ho

/-- The text of a script that calls actions is read as the script. -/
theorem parse_calledScript {calls : List ActionCall} (hscene : checkScene scene = .ok ())
    (filled : calls ≠ [])
    (checked : checkBlock (calledScript settings scene calls) = .ok ()) :
    parse (scriptHeader ++ blockText 0 none (calledScript settings scene calls)) =
      .ok (calledScript settings scene calls) := by
  refine parse_blockText ?_ isBlankLines_scriptHeader
  exact legibleStmt_of_mem_programBlock (isTidy_programImports settings scene)
    (fun _ hpair => isIdentifier_of_mem_importedPairs hscene hpair) filled checked

theorem ne_nil_of_isOf {path : List Action} {calls : List ActionCall}
    (hpath : chain project = .ok path)
    (called : List.Forall₂ (fun a c => ActionCall.IsOf c a) path calls) : calls ≠ [] := by
  rintro rfl
  exact ne_nil_of_chain_eq_ok hpath (List.forall₂_nil_right_iff.1 called)

/-- The text of a program is read as the script that calls the actions on the path. -/
theorem exists_calls_of_program (h : program settings project scene catalog = .ok text) :
    ∃ path calls, chain project = .ok path ∧
      List.Forall₂ (fun a c => ActionCall.IsOf c a) path calls ∧
      parse text = .ok (calledScript settings scene calls) := by
  obtain ⟨hscene, -, path, calls, hpath, -, called, checked, rfl⟩ := program_eq_ok_iff.1 h
  exact ⟨path, calls, hpath, called,
    parse_calledScript hscene (ne_nil_of_isOf hpath called) checked⟩

/-- The text of a program starts with the header and is a script that imports the resources and the
types of the scene, each once, has a variable for each object, and calls the actions on the path in
a loop that never ends. -/
theorem parse_program (h : program settings project scene catalog = .ok text) :
    (∃ rest, text = scriptHeader ++ rest) ∧
      ∃ imports path calls, chain project = .ok path ∧
        List.Forall₂ (fun a c => ActionCall.IsOf c a) path calls ∧
        parse text =
          .ok (programBlock imports (bindings scene.objects) (calls.map ActionCall.stmt)) ∧
        (importedPairs imports).Nodup ∧
        ∀ pair, pair ∈ importedPairs imports ↔
          pair = (settings.resourcesModule, resourcesClass) ∨
            ∃ o ∈ scene.objects, pair = (settings.typeModule o.type, o.type) := by
  obtain ⟨path, calls, hpath, called, parsed⟩ := exists_calls_of_program h
  refine ⟨?_, programImports settings scene, path, calls, hpath, called, parsed, ?_, ?_⟩
  · obtain ⟨-, -, -, calls, -, -, -, -, rfl⟩ := program_eq_ok_iff.1 h
    exact ⟨_, rfl⟩
  · exact (isTidy_programImports settings scene).nodup_importedPairs
  · exact fun pair => mem_importedPairs_programImports

/-! ### A cell with an arm and a camera -/

/-- A scene where one object is in the place of the resources. -/
def cameraScene : Scene where
  id := "cell"
  desc := ""
  objects := [⟨"LeftArm", "Robot"⟩, ⟨"res", "Resources"⟩, ⟨"camera", "Camera"⟩]

def cameraCatalog : Catalog :=
  .ofList [
    ⟨⟨"Robot", none, ""⟩, [⟨"grip", .none, [⟨"force", "double"⟩]⟩]⟩,
    ⟨⟨"Camera", none, ""⟩, [⟨"scan", .none, []⟩]⟩]

def cameraPath : List Action :=
  [⟨"pick", "LeftArm/grip", [.first], [.action "look"], [⟨"force", "double", .null⟩]⟩,
   ⟨"look", "camera/scan", [.action "pick"], [.last], []⟩]

/-- A project where the actions are not declared in the order of their path. -/
def cameraProject : Project where
  id := "inspection"
  sceneId := "cell"
  desc := ""
  actions := cameraPath.reverse
  parameters := []

def cameraCalls : List ActionCall :=
  [⟨"left_arm", "grip", "pick"⟩, ⟨"camera", "scan", "look"⟩]

def cameraText : String :=
  scriptHeader ++ blockText 0 none (calledScript {} cameraScene cameraCalls)

theorem isOf_cameraCalls :
    List.Forall₂ (fun a c => ActionCall.IsOf c a) cameraPath cameraCalls := by
  refine .cons ⟨rfl, ?_⟩ (.cons ⟨rfl, ?_⟩ .nil)
  · exact (ActionCall.fits_iff _ _).2 ⟨"LeftArm", rfl, by decide⟩
  · exact (ActionCall.fits_iff _ _).2 ⟨"camera", rfl, by decide⟩

theorem program_cameraProject :
    program {} cameraProject cameraScene cameraCatalog = .ok cameraText := by
  refine program_eq_ok_iff.2 ⟨rfl, ?_, cameraPath, cameraCalls, rfl, ?_, isOf_cameraCalls, rfl, rfl⟩
  · simp only [cameraScene, SceneObject.KeepsResources, List.forall_mem_cons]
    decide
  · exact List.forall_mem_cons.2 ⟨rfl, List.forall_mem_singleton.2 rfl⟩

/-- The object in the place of the resources has an import but no variable of its own. -/
theorem parse_cameraText :
    program {} cameraProject cameraScene cameraCatalog = .ok cameraText ∧
      ∃ imports path calls, chain cameraProject = .ok path ∧
        List.Forall₂ (fun a c => ActionCall.IsOf c a) path calls ∧
        parse cameraText = .ok (programBlock imports
          [resourcesBinding, objectBinding ⟨"LeftArm", "Robot"⟩, objectBinding ⟨"camera", "Camera"⟩]
          (calls.map ActionCall.stmt)) ∧
        (importedPairs imports).Nodup ∧
        ("object_types.resources", "Resources") ∈ importedPairs imports := by
  refine ⟨program_cameraProject, ?_⟩
  obtain ⟨-, imports, path, calls, hpath, called, parsed, once, pairs⟩ :=
    parse_program program_cameraProject
  have variables_eq : bindings cameraScene.objects = [resourcesBinding,
      objectBinding ⟨"LeftArm", "Robot"⟩, objectBinding ⟨"camera", "Camera"⟩] := rfl
  refine ⟨imports, path, calls, hpath, called, variables_eq ▸ parsed, once, (pairs _).2 (.inr ?_)⟩
  exact ⟨⟨"res", "Resources"⟩, by decide, by decide⟩

end RobotCell
