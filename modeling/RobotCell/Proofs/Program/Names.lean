import RobotCell.Proofs.Program.Printable

/-!
# The names in a program

A name in a program means what was bound to it last. The resources are the first class that a
program imports and the first variable that it has, so the objects of the scene can take both names
over: an object whose variable is that of the resources gets no variable of its own, and a type with
the name of the class of the resources is imported over it.

## Main definitions

- `moduleOf?` — the module that a name at the top level of a script comes from

## Main results

- `program_binds_objects_iff` — which objects have a variable
- `program_imports_nodup_iff` — when no import is hidden by another
-/

namespace RobotCell

open Script

variable {settings : Settings} {p : Project} {scene : Scene} {catalog : Catalog} {text : String}

/-! ### A cell without an object in the place of the resources -/

def armScene : Scene :=
  { cameraScene with objects := [⟨"LeftArm", "Robot"⟩, ⟨"camera", "Camera"⟩] }

def armText : String :=
  scriptHeader ++ blockText 0 none (calledScript {} armScene cameraCalls)

theorem program_armScene : program {} cameraProject armScene cameraCatalog = .ok armText := by
  refine program_eq_ok_iff.2 ⟨rfl, ?_, cameraPath, cameraCalls, rfl, ?_, isOf_cameraCalls, rfl, rfl⟩
  · simp only [armScene, SceneObject.KeepsResources, List.forall_mem_cons]
    decide
  · exact List.forall_mem_cons.2 ⟨rfl, List.forall_mem_singleton.2 rfl⟩

/-! ### Variables -/

theorem objectBinding_mem_bindings_iff {objects : List SceneObject} {o : SceneObject}
    (ho : o ∈ objects) :
    objectBinding o ∈ bindings objects ↔ Naming.variableName o.id ≠ resourcesVar := by
  rw [bindings, List.mem_cons, List.mem_map]
  constructor
  · rintro (same | ⟨o', ho', same⟩)
    · cases same
    · -- the binding of an object holds its variable
      have name : Naming.variableName o'.id = Naming.variableName o.id := by
        simp only [objectBinding, Stmt.annAssign.injEq, Expr.name.injEq] at same
        exact same.1
      rw [← name]
      exact of_decide_eq_true (List.mem_filter.1 ho').2
  · intro other
    exact .inr ⟨o, List.mem_filter.2 ⟨ho, decide_eq_true other⟩, rfl⟩

/-- The function `main` of a program has a variable for an object of the scene if this is not the
variable of the resources. All objects have one if none of them is of the class of the resources and
in their place; the program is refused if one of another type is. -/
theorem program_binds_objects_iff (h : program settings p scene catalog = .ok text) :
    ∃ script main, parse text = .ok script ∧ findFunction script mainName = .ok main ∧
      (∀ o ∈ scene.objects,
        objectBinding o ∈ main.body ↔ Naming.variableName o.id ≠ resourcesVar) ∧
      ((∀ o ∈ scene.objects, Naming.variableName o.id ≠ resourcesVar ∧
          objectBinding o ∈ main.body) ↔
        ∀ o ∈ scene.objects, ¬(Naming.variableName o.id = resourcesVar ∧
          o.type = resourcesClass)) := by
  obtain ⟨path, calls, -, -, parsed⟩ := exists_calls_of_program h
  obtain ⟨-, keep, -⟩ := program_eq_ok_iff.1 h
  have bound : ∀ o ∈ scene.objects, objectBinding o ∈
      bindings scene.objects ++ [mainLoop (calls.map ActionCall.stmt)] ↔
        Naming.variableName o.id ≠ resourcesVar := by
    intro o ho
    rw [List.mem_append, objectBinding_mem_bindings_iff ho, List.mem_singleton]
    exact or_iff_left Stmt.noConfusion
  refine ⟨_, _, parsed, findFunction_programBlock, bound, ?_⟩
  refine forall₂_congr fun o ho => ?_
  rw [mainFunction, bound o ho, and_self]
  constructor
  · rintro other ⟨same, -⟩
    exact other same
  · intro apart same
    exact apart ⟨same, keep o ho same⟩

theorem program_binds_objects_armScene :
    program {} cameraProject armScene cameraCatalog = .ok armText ∧
      ∃ script main, parse armText = .ok script ∧ findFunction script mainName = .ok main ∧
        objectBinding ⟨"LeftArm", "Robot"⟩ ∈ main.body ∧
        objectBinding ⟨"camera", "Camera"⟩ ∈ main.body := by
  refine ⟨program_armScene, ?_⟩
  obtain ⟨script, main, parsed, found, -, all⟩ := program_binds_objects_iff program_armScene
  have bound := all.2 (by decide)
  exact ⟨script, main, parsed, found, (bound ⟨"LeftArm", "Robot"⟩ (by decide)).2,
    (bound ⟨"camera", "Camera"⟩ (by decide)).2⟩

/-- An object of the class of the resources takes their variable over, and has none of its own. -/
theorem resources_taken_over_cameraScene :
    ∃ o ∈ cameraScene.objects, Naming.variableName o.id = resourcesVar ∧
      ∃ script main, program {} cameraProject cameraScene cameraCatalog = .ok cameraText ∧
        parse cameraText = .ok script ∧ findFunction script mainName = .ok main ∧
        objectBinding o ∉ main.body := by
  obtain ⟨path, calls, -, -, parsed⟩ := exists_calls_of_program program_cameraProject
  refine ⟨⟨"res", "Resources"⟩, by decide, by decide, _, _, program_cameraProject, parsed,
    findFunction_programBlock, fun bound => ?_⟩
  rw [mainFunction, List.mem_append, List.mem_singleton,
    objectBinding_mem_bindings_iff (by decide)] at bound
  rcases bound with other | loop
  · exact absurd other (by decide)
  · cases loop

/-! ### Imports -/

/-- The names that the imports at the top level of a script bind. -/
def importedNamesOf (script : Block) : List String :=
  script.flatMap Stmt.importedNames

/-- What a statement binds the name to: something from a module, or something else. -/
def originOf? (name : String) : Stmt → Option (Option String)
  | .importFrom module names _ =>
    if name ∈ names.map Alias.boundName then some (some module) else none
  | .importModules names => if name ∈ names.map Alias.boundName then some none else none
  | .functionDef d => if d.name = name then some none else none
  | .classDef d => if d.name = name then some none else none
  | _ => none

/-- The module that a name at the top level of a script comes from. What was bound last counts. -/
def moduleOf? (script : Block) (name : String) : Option String :=
  (script.filterMap (originOf? name)).getLast?.join

/-- The modules of the imports with the given name. -/
def modulesWith (name : String) (imports : List ModuleImport) : List String :=
  (imports.filter fun i => name ∈ i.2).map Prod.fst

variable {imports : List ModuleImport} {vars loop : Block} {name module : String}

theorem mem_modulesWith_iff :
    module ∈ modulesWith name imports ↔ (module, name) ∈ importedPairs imports := by
  rw [mem_importedPairs_iff]
  simp [modulesWith, and_comm]

theorem importedNamesOf_programBlock :
    importedNamesOf (programBlock imports vars loop) = (importedPairs imports).map Prod.snd := by
  have names (i : ModuleImport) : (importStmt i).importedNames = i.2 := by
    simp [importStmt, Stmt.importedNames, Alias.boundName, Function.comp_def]
  have rest (d : FunctionDef Stmt) :
      [.functionDef d, mainGuard].flatMap Stmt.importedNames = [] := rfl
  rw [importedNamesOf, programBlock, List.flatMap_append, rest, List.append_nil, importedPairs]
  simp [List.flatMap_map, List.map_flatMap, names, Function.comp_def]

theorem filterMap_originOf?_importStmt :
    (imports.map importStmt).filterMap (originOf? name) = (modulesWith name imports).map some := by
  have origin (i : ModuleImport) :
      originOf? name (importStmt i) = if name ∈ i.2 then some (some i.1) else none := by
    simp [importStmt, originOf?, Alias.boundName, Function.comp_def]
  induction imports with
  | nil => rfl
  | cons i imports ih =>
    rw [List.map_cons, List.filterMap_cons, origin, ih, modulesWith, modulesWith, List.filter_cons]
    by_cases listed : name ∈ i.2
    · simp [listed]
    · simp [listed]

/-- The function `main` hides an import of this name; any other name comes from the last import. -/
theorem moduleOf?_programBlock :
    moduleOf? (programBlock imports vars loop) name =
      if name = mainName then none else (modulesWith name imports).getLast? := by
  have guard : originOf? name mainGuard = none := rfl
  have main (body : Block) : originOf? name (.functionDef (mainFunction body)) =
      if mainName = name then some none else none := rfl
  rw [moduleOf?, programBlock, List.filterMap_append, filterMap_originOf?_importStmt,
    List.filterMap_cons, main, List.filterMap_cons, guard]
  by_cases same : name = mainName
  · simp [same]
  · simp only [same, Ne.symm same, if_false, List.filterMap_nil, List.append_nil,
      List.getLast?_map]
    cases (modulesWith name imports).getLast? <;> rfl

theorem head?_addName {type : String} (h : (imports.map Prod.fst).head? = some module)
    (m : String) : ((addName m type imports).map Prod.fst).head? = some module := by
  match imports with
  | [] => cases h
  | (first, names) :: imports =>
    by_cases same : first = m
    · rw [addName, if_pos same]
      exact h
    · rw [addName, if_neg same]
      exact h

/-- The first import stays the first one. -/
theorem head?_addTypes (settings : Settings) (objects : List SceneObject)
    (h : (imports.map Prod.fst).head? = some module) :
    ((addTypes settings imports objects).map Prod.fst).head? = some module := by
  induction objects generalizing imports with
  | nil => exact h
  | cons o objects ih => exact ih (head?_addName h _)

theorem typeModule_mem_modulesWith {o : SceneObject} (ho : o ∈ scene.objects) :
    settings.typeModule o.type ∈ modulesWith o.type (programImports settings scene) := by
  rw [mem_modulesWith_iff, mem_importedPairs_programImports]
  exact .inr ⟨o, ho, rfl⟩

theorem eq_of_mem_modulesWith (h : module ∈ modulesWith name (programImports settings scene)) :
    (module = settings.resourcesModule ∧ name = resourcesClass) ∨
      module = settings.typeModule name ∧ ∃ o ∈ scene.objects, o.type = name := by
  rw [mem_modulesWith_iff, mem_importedPairs_programImports] at h
  rcases h with same | ⟨o, ho, same⟩
  · exact .inl (Prod.mk.inj same)
  · obtain ⟨rfl, rfl⟩ := Prod.mk.inj same
    exact .inr ⟨rfl, o, ho, rfl⟩

/-- If the last import of a name is the one from the first module, it is the only one. -/
theorem IsTidy.modulesWith_eq_singleton (tidy : IsTidy imports)
    (first : (imports.map Prod.fst).head? = some module)
    (h : (modulesWith name imports).getLast? = some module) : modulesWith name imports = [module] := by
  cases imports with
  | nil => cases first
  | cons i imports =>
    have same : i.1 = module := Option.some.inj first
    have distinct := tidy.modules
    rw [List.map_cons, List.nodup_cons, same] at distinct
    have later : module ∉ modulesWith name imports := by
      intro inside
      obtain ⟨j, hj, rfl⟩ := List.mem_map.1 inside
      exact distinct.1 (List.mem_map_of_mem (List.mem_filter.1 hj).1)
    by_cases listed : name ∈ i.2
    · have split : modulesWith name (i :: imports) = module :: modulesWith name imports := by
        simp [modulesWith, listed, same]
      rw [split] at h ⊢
      cases rest : modulesWith name imports with
      | nil => rfl
      | cons m ms =>
        rw [rest, List.getLast?_cons_cons] at h
        exact absurd (rest ▸ List.mem_of_getLast? h) later
    · have split : modulesWith name (i :: imports) = modulesWith name imports := by
        simp [modulesWith, listed]
      rw [split] at h
      exact absurd (List.mem_of_getLast? h) later

theorem modulesWith_programImports_eq_singleton
    (h : (modulesWith name (programImports settings scene)).getLast? =
      some settings.resourcesModule) :
    modulesWith name (programImports settings scene) = [settings.resourcesModule] :=
  (isTidy_programImports settings scene).modulesWith_eq_singleton
    (head?_addTypes settings scene.objects rfl) h

/-- The last import of a type of the scene is the one from the module of the type. -/
theorem getLast?_modulesWith_type {o : SceneObject} (ho : o ∈ scene.objects) :
    (modulesWith o.type (programImports settings scene)).getLast? =
      some (settings.typeModule o.type) := by
  have listed : settings.typeModule o.type ∈ _ := typeModule_mem_modulesWith ho
  have last := List.getLast?_eq_getLast_of_ne_nil (List.ne_nil_of_mem listed)
  generalize List.getLast _ _ = module at last
  rw [last]
  rcases eq_of_mem_modulesWith (List.mem_of_getLast? last) with ⟨rfl, -⟩ | ⟨rfl, -⟩
  · rw [modulesWith_programImports_eq_singleton last, List.mem_singleton] at listed
    rw [listed]
  · rfl

/-- The last import of the class of the resources is their own if no type of the scene has its name
and another module. -/
theorem getLast?_modulesWith_resourcesClass_iff :
    (modulesWith resourcesClass (programImports settings scene)).getLast? =
        some settings.resourcesModule ↔
      ∀ o ∈ scene.objects, o.type = resourcesClass →
        settings.typeModule o.type = settings.resourcesModule := by
  constructor
  · intro last o ho same
    have listed : settings.typeModule o.type ∈ _ := typeModule_mem_modulesWith ho
    rw [same, modulesWith_programImports_eq_singleton last, List.mem_singleton] at listed
    rw [same, listed]
  · intro alike
    have listed : settings.resourcesModule ∈
        modulesWith resourcesClass (programImports settings scene) := by
      rw [mem_modulesWith_iff, mem_importedPairs_programImports]
      exact .inl rfl
    have last := List.getLast?_eq_getLast_of_ne_nil (List.ne_nil_of_mem listed)
    generalize List.getLast _ _ = module at last
    rw [last]
    rcases eq_of_mem_modulesWith (List.mem_of_getLast? last) with ⟨rfl, -⟩ | ⟨rfl, o, ho, same⟩
    · rfl
    · rw [← same, alike o ho same]

theorem nodup_importedPairs_snd_iff :
    ((importedPairs (programImports settings scene)).map Prod.snd).Nodup ↔
      ∀ o ∈ scene.objects, o.type = resourcesClass →
        settings.typeModule o.type = settings.resourcesModule := by
  have once := (isTidy_programImports settings scene).nodup_importedPairs
  rw [List.nodup_map_iff_inj_on once]
  constructor
  · intro inj o ho same
    have := inj _ (mem_importedPairs_programImports.2 (.inr ⟨o, ho, rfl⟩)) _
      (mem_importedPairs_programImports.2 (.inl rfl)) same
    exact congrArg Prod.fst this
  · intro alike pair hpair pair' hpair' same
    rw [mem_importedPairs_programImports] at hpair hpair'
    rcases hpair with rfl | ⟨o, ho, rfl⟩ <;> rcases hpair' with rfl | ⟨o', ho', rfl⟩
    · rfl
    · replace same : resourcesClass = o'.type := same
      rw [alike o' ho' same.symm, same]
    · replace same : o.type = resourcesClass := same
      rw [alike o ho same, same]
    · replace same : o.type = o'.type := same
      rw [same]

/-- The imports of a program bind distinct names if no type of the scene has the name of the class of
the resources and another module. This is also when the class of the resources comes from its own
module. Each type of the scene comes from its own module, unless `main` hides it. -/
theorem program_imports_nodup_iff (h : program settings p scene catalog = .ok text) :
    ∃ script, parse text = .ok script ∧
      ((importedNamesOf script).Nodup ↔
        ∀ o ∈ scene.objects, o.type = resourcesClass →
          settings.typeModule o.type = settings.resourcesModule) ∧
      (moduleOf? script resourcesClass = some settings.resourcesModule ↔
        ∀ o ∈ scene.objects, o.type = resourcesClass →
          settings.typeModule o.type = settings.resourcesModule) ∧
      ∀ o ∈ scene.objects,
        moduleOf? script o.type = some (settings.typeModule o.type) ↔ o.type ≠ mainName := by
  obtain ⟨path, calls, -, -, parsed⟩ := exists_calls_of_program h
  refine ⟨_, parsed, ?_, ?_, fun o ho => ?_⟩
  · rw [calledScript, importedNamesOf_programBlock]
    exact nodup_importedPairs_snd_iff
  · rw [calledScript, moduleOf?_programBlock, if_neg (by decide)]
    exact getLast?_modulesWith_resourcesClass_iff
  · rw [calledScript, moduleOf?_programBlock, getLast?_modulesWith_type ho]
    by_cases same : o.type = mainName
    · simp [same]
    · simp [same]

theorem program_imports_nodup_armScene :
    program {} cameraProject armScene cameraCatalog = .ok armText ∧
      ∃ script, parse armText = .ok script ∧ (importedNamesOf script).Nodup ∧
        moduleOf? script "Resources" = some "resources" ∧
        moduleOf? script "Robot" = some "arcor2.object_types" ∧
        moduleOf? script "Camera" = some "object_types.camera" := by
  refine ⟨program_armScene, ?_⟩
  obtain ⟨script, parsed, once, resources, types⟩ := program_imports_nodup_iff program_armScene
  exact ⟨script, parsed, once.2 (by decide), resources.2 (by decide),
    (types ⟨"LeftArm", "Robot"⟩ (by decide)).2 (by decide),
    (types ⟨"camera", "Camera"⟩ (by decide)).2 (by decide)⟩

/-- A type with the name of the class of the resources is imported over it, so that the resources of
the program are not those of the project. -/
theorem resources_hidden_cameraScene :
    program {} cameraProject cameraScene cameraCatalog = .ok cameraText ∧
      ∃ script, parse cameraText = .ok script ∧ ¬(importedNamesOf script).Nodup ∧
        moduleOf? script "Resources" = some "object_types.resources" := by
  refine ⟨program_cameraProject, ?_⟩
  obtain ⟨path, calls, -, -, parsed⟩ := exists_calls_of_program program_cameraProject
  refine ⟨_, parsed, ?_, ?_⟩
  · rw [calledScript, importedNamesOf_programBlock, nodup_importedPairs_snd_iff]
    decide
  · rw [calledScript, moduleOf?_programBlock, if_neg (by decide)]
    decide

end RobotCell
