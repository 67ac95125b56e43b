import RobotCell.Proofs.Program.Meaning

/-!
# Programs that can be written

The script of a program is written if the words in it are identifiers: the modules that it imports
from, the variables of its objects, and the three words of each call. Nothing else is asked for,
since the types of the objects have been checked before.

## Main results

- `checkBlock_calledScript_iff` — when the script with the given calls is written
-/

namespace RobotCell

open Script

/-- The module can stand in an import: it is a path of identifiers, or nothing is written. -/
def isImportable (module : String) : Bool :=
  module.isEmpty || isPath module

theorem check_importStmt_iff {i : ModuleImport} (filled : i.2 ≠ [])
    (identifiers : ∀ n ∈ i.2, isIdentifier n = true) :
    (importStmt i).check "if" = .ok () ↔ isImportable i.1 = true := by
  have names : checkAliases false (i.2.map fun n => ⟨n, none⟩) = .ok () := by
    rw [checkAliases_eq_ok_iff, List.forall_mem_map]
    exact fun n hn => ⟨identifiers n hn, by simp⟩
  show checkImportFrom i.1 (i.2.map fun n => ⟨n, none⟩) = .ok () ↔ _
  rw [checkImportFrom_eq_ok_iff]
  simp [isImportable, filled, names]

theorem check_objectBinding_iff {o : SceneObject} :
    (objectBinding o).check "if" = .ok () ↔
      isIdentifier (Naming.variableName o.id) = true ∧ isIdentifier o.type = true := by
  have objects : isIdentifier "objects" = true ∧ isIdentifier resourcesVar = true := by decide
  simp [objectBinding, Stmt.check, checkSimple, Expr.check, checkOption, Expr.nameAttr, Expr.str,
    check_bind_eq_ok_iff, objects]

theorem ActionCall.check_stmt_iff {c : ActionCall} :
    c.stmt.check "if" = .ok () ↔ isIdentifier c.object = true ∧ isIdentifier c.method = true ∧
      isIdentifier c.action = true := by
  have res : isIdentifier resourcesVar = true := by decide
  simp [ActionCall.stmt, Stmt.check, checkSimple, Expr.check, checkAll, checkArguments,
    checkIdentifiers, check_bind_eq_ok_iff, res]
  tauto

theorem checkBlock_bindings_iff {objects : List SceneObject} :
    checkBlock (bindings objects) = .ok () ↔
      ∀ o ∈ objects, Naming.variableName o.id ≠ resourcesVar →
        isIdentifier (Naming.variableName o.id) = true ∧ isIdentifier o.type = true := by
  have res : resourcesBinding.check "if" = .ok () := rfl
  rw [checkBlock_eq_ok_iff, bindings, List.forall_mem_cons, List.forall_mem_map]
  simp [res, check_objectBinding_iff]

theorem check_mainGuard : mainGuard.check "if" = .ok () := rfl

/-- A script of the shape of a program is written if its imports, its variables and the calls in its
loop are. -/
theorem checkBlock_programBlock_iff {imports : List ModuleImport} {vars loop : Block} :
    checkBlock (programBlock imports vars loop) = .ok () ↔
      (∀ i ∈ imports, (importStmt i).check "if" = .ok ()) ∧ checkBlock vars = .ok () ∧
        loop ≠ [] ∧ checkBlock loop = .ok () := by
  have main : isIdentifier mainName = true := by decide
  simp only [programBlock, checkBlock_eq_ok_iff, List.forall_mem_append, List.forall_mem_map,
    List.forall_mem_cons, check_mainGuard, mainFunction, mainLoop, Stmt.check,
    check_bind_eq_ok_iff, checkFilled_eq_ok_iff]
  simp [checkAll, checkParams, checkOption, Expr.check, main]

variable {settings : Settings} {scene : Scene} {calls : List ActionCall}

theorem mem_importedPairs_iff {imports : List ModuleImport} {module name : String} :
    (module, name) ∈ importedPairs imports ↔ ∃ i ∈ imports, i.1 = module ∧ name ∈ i.2 := by
  simp [importedPairs]

/-- The script with the given calls is written if the modules of the classes can be imported and all
other words in it are identifiers. -/
theorem checkBlock_calledScript_iff (hscene : checkScene scene = .ok ()) :
    checkBlock (calledScript settings scene calls) = .ok () ↔
      isImportable settings.resourcesModule = true ∧
      (∀ o ∈ scene.objects, isImportable (settings.typeModule o.type) = true ∧
        (Naming.variableName o.id ≠ resourcesVar →
          isIdentifier (Naming.variableName o.id) = true)) ∧
      calls ≠ [] ∧ ∀ c ∈ calls, isIdentifier c.object = true ∧ isIdentifier c.method = true ∧
        isIdentifier c.action = true := by
  have types := (checkScene_eq_ok_iff.1 hscene).1
  have tidy := isTidy_programImports settings scene
  have identifiers : ∀ i ∈ programImports settings scene, ∀ n ∈ i.2, isIdentifier n = true :=
    fun i hi n hn => isIdentifier_of_mem_importedPairs hscene
      (mem_importedPairs_iff.2 ⟨i, hi, rfl, hn⟩)
  -- every import names something, so the modules are those of the imported pairs
  have modules : (∀ i ∈ programImports settings scene, isImportable i.1 = true) ↔
      isImportable settings.resourcesModule = true ∧
        ∀ o ∈ scene.objects, isImportable (settings.typeModule o.type) = true := by
    constructor
    · intro h
      constructor
      · obtain ⟨i, hi, same, -⟩ := mem_importedPairs_iff.1
          (mem_importedPairs_programImports.2 (.inl rfl))
        exact same ▸ h i hi
      · intro o ho
        obtain ⟨i, hi, same, -⟩ := mem_importedPairs_iff.1
          (mem_importedPairs_programImports.2 (.inr ⟨o, ho, rfl⟩))
        exact same ▸ h i hi
    · rintro ⟨res, objects⟩ i hi
      obtain ⟨n, hn⟩ := List.exists_mem_of_ne_nil _ (tidy.names i hi).1
      have pair := mem_importedPairs_programImports.1 (mem_importedPairs_iff.2 ⟨i, hi, rfl, hn⟩)
      rcases pair with same | ⟨o, ho, same⟩
      · rwa [(Prod.mk.inj same).1]
      · rw [(Prod.mk.inj same).1]
        exact objects o ho
  have imports : (∀ i ∈ programImports settings scene, (importStmt i).check "if" = .ok ()) ↔
      ∀ i ∈ programImports settings scene, isImportable i.1 = true :=
    forall₂_congr fun i hi => check_importStmt_iff (tidy.names i hi).1 (identifiers i hi)
  rw [calledScript, checkBlock_programBlock_iff, imports, modules, checkBlock_bindings_iff,
    checkBlock_eq_ok_iff, List.forall_mem_map]
  simp only [ActionCall.check_stmt_iff, ne_eq, List.map_eq_nil_iff]
  constructor
  · rintro ⟨⟨res, objects⟩, vars, filled, words⟩
    exact ⟨res, fun o ho => ⟨objects o ho, fun other => (vars o ho other).1⟩, filled, words⟩
  · rintro ⟨res, objects, filled, words⟩
    exact ⟨⟨res, fun o ho => (objects o ho).1⟩,
      fun o ho other => ⟨(objects o ho).2 other, types o ho⟩, filled, words⟩

end RobotCell
