import Mathlib.Data.List.Nodup
import RobotCell.Program.Emission
import RobotCell.Proofs.Script.FunctionPlace

/-!
# The shape of a program

A program is put together by edits of a script. Each of them keeps the script in one shape: imports,
the function `main` with variables and a loop, and the call of `main`. What an edit does is told in
terms of that shape.

## Main definitions

- `programBlock` — a script of the shape of a program
- `addName` — imports with one more name
- `bindings`, `programImports` — the variables and the imports of a program

## Main results

- `programScript_eq_ok_iff` — the script of a program
- `mem_importedPairs_programImports`, `isTidy_programImports` — what it imports, each name once
-/

namespace RobotCell

open Script

/-! ### Scripts of programs -/

/-- The names imported from one module. -/
abbrev ModuleImport := String × List String

/-- The import of names from a module. -/
def importStmt (i : ModuleImport) : Stmt :=
  .importFrom i.1 (i.2.map fun n => ⟨n, none⟩) 0

/-- The function `main` with the given body. -/
def mainFunction (body : Block) : FunctionDef Stmt :=
  { name := mainName, params := [], body := body, decorators := [],
    returns := some (.constant .none), isAsync := false }

/-- The loop that never ends. -/
def mainLoop (body : Block) : Stmt :=
  .whileLoop (.constant (.bool true)) body []

/-- The call of `main` where the script is the one that is run. -/
def mainGuard : Stmt :=
  .ifElse (.compare (.name "__name__") [.eq] [.str "__main__"])
    [.expr (.call (.name mainName) [] [])] []

/-- A script of the shape of a program: imports, then `main` with variables and a loop, then the
call of `main`. -/
def programBlock (imports : List ModuleImport) (vars loop : Block) : Block :=
  imports.map importStmt ++ [.functionDef (mainFunction (vars ++ [mainLoop loop])), mainGuard]

variable {imports : List ModuleImport} {vars loop : Block}

theorem functionPlaceFrom?_importStmts (imports : List ModuleImport) (name : String) (i : Nat)
    (rest : Block) :
    functionPlaceFrom? name i (imports.map importStmt ++ rest) =
      functionPlaceFrom? name (i + imports.length) rest := by
  induction imports generalizing i with
  | nil => rfl
  | cons m imports ih =>
    have later := ih (i + 1)
    rw [Nat.add_right_comm] at later
    exact later

theorem functionPlace_programBlock :
    functionPlace (programBlock imports vars loop) mainName =
      .ok ⟨[(imports.length, 0)], mainFunction (vars ++ [mainLoop loop])⟩ := by
  rw [functionPlace, programBlock, functionPlaceFrom?_importStmts, Nat.zero_add]
  rfl

theorem findFunction_programBlock :
    findFunction (programBlock imports vars loop) mainName =
      .ok (mainFunction (vars ++ [mainLoop loop])) :=
  (functionPlace_eq_ok_iff.1 functionPlace_programBlock).2

/-- Another body of `main`. -/
theorem setBlockAt_programBlock (body : Block) :
    setBlockAt body [(imports.length, 0)] (programBlock imports vars loop) =
      imports.map importStmt ++ [.functionDef (mainFunction body), mainGuard] := by
  have place : imports.length = (imports.map importStmt).length := (List.length_map _).symm
  rw [place, programBlock, setBlockAt_append_cons]
  rfl

/-! ### Imports -/

/-- The imports with one more name: in the import of its module, or in a new one at the end. -/
def addName (module name : String) : List ModuleImport → List ModuleImport
  | [] => [(module, [name])]
  | (m, names) :: rest =>
    if m = module then (m, if name ∈ names then names else names ++ [name]) :: rest
    else (m, names) :: addName module name rest

theorem addName_of_notMem {module name : String} (h : module ∉ imports.map Prod.fst) :
    addName module name imports = imports ++ [(module, [name])] := by
  induction imports with
  | nil => rfl
  | cons i imports ih =>
    rw [List.map_cons, List.mem_cons, not_or] at h
    rw [addName, if_neg fun same => h.1 same.symm, ih h.2, List.cons_append]

theorem addAlias_map (names : List String) (name : String) :
    addAlias (names.map fun n => ⟨n, none⟩) name =
      (if name ∈ names then names else names ++ [name]).map fun n => ⟨n, none⟩ := by
  by_cases h : name ∈ names
  · simp [addAlias, h]
  · simp [addAlias, h]

theorem extendImport?_importStmts (module name : String) {rest : Block}
    (none : extendImport? module name rest = none) :
    extendImport? module name (imports.map importStmt ++ rest) =
      if module ∈ imports.map Prod.fst then
        some ((addName module name imports).map importStmt ++ rest)
      else .none := by
  induction imports with
  | nil => simpa using none
  | cons i imports ih =>
    by_cases same : i.1 = module
    · simp [importStmt, extendImport?, same, addName, addAlias_map]
    · have other : module ≠ i.1 := fun h => same h.symm
      simp only [List.map_cons, List.cons_append, importStmt, extendImport?, same, if_false, ih,
        List.mem_cons, other, false_or, addName]
      split_ifs with h <;> simp

theorem splitAfterLast_append {α : Type} {p : α → Bool} {front tail : List α}
    (hfront : ∀ a ∈ front, p a = true) (htail : ∀ a ∈ tail, p a = false) :
    splitAfterLast p (front ++ tail) = (front, tail) := by
  induction front with
  | nil =>
    induction tail with
    | nil => rfl
    | cons a tail ih =>
      have later := ih fun b hb => htail b (List.mem_cons_of_mem _ hb)
      rw [List.nil_append] at later ⊢
      simp [splitAfterLast, later, htail a List.mem_cons_self]
  | cons a front ih =>
    have later := ih fun b hb => hfront b (List.mem_cons_of_mem _ hb)
    rw [List.cons_append, splitAfterLast, later]
    cases front with
    | nil => simp [hfront a List.mem_cons_self]
    | cons b front => rfl

/-- A new import goes into the import of its module or behind the other imports. -/
theorem addImport_programBlock (module name : String) :
    addImport (programBlock imports vars loop) module name =
      programBlock (addName module name imports) vars loop := by
  have other : extendImport? module name
      [.functionDef (mainFunction (vars ++ [mainLoop loop])), mainGuard] = none := rfl
  rw [addImport, programBlock, extendImport?_importStmts module name other]
  by_cases known : module ∈ imports.map Prod.fst
  · rw [if_pos known]
    rfl
  · rw [if_neg known, insertImport, splitAfterLast_append, addName_of_notMem known]
    · cases imports <;> simp [programBlock, importStmt, Stmt.isString]
    · exact List.forall_mem_map.2 fun i _ => rfl
    · simp [mainGuard, Stmt.isImport]

/-- The imported names, each with its module. -/
def importedPairs (imports : List ModuleImport) : List (String × String) :=
  imports.flatMap fun i => i.2.map fun n => (i.1, n)

theorem importedPairs_cons (i : ModuleImport) (imports : List ModuleImport) :
    importedPairs (i :: imports) = (i.2.map fun n => (i.1, n)) ++ importedPairs imports :=
  List.flatMap_cons

theorem mem_importedPairs_addName {module name : String} {pair : String × String} :
    pair ∈ importedPairs (addName module name imports) ↔
      pair ∈ importedPairs imports ∨ pair = (module, name) := by
  induction imports with
  | nil => simp [addName, importedPairs]
  | cons i imports ih =>
    rw [addName]
    split_ifs with same known
    · -- the name is listed already
      subst same
      refine ⟨Or.inl, fun h => h.elim id ?_⟩
      rintro rfl
      rw [importedPairs_cons]
      exact List.mem_append_left _ (List.mem_map_of_mem known)
    · subst same
      simp only [importedPairs_cons, List.map_append, List.map_singleton, List.mem_append,
        List.mem_singleton]
      tauto
    · simp only [importedPairs_cons, List.mem_append, ih, or_assoc]

/-- No module has two imports, and no import is empty or names anything twice. -/
structure IsTidy (imports : List ModuleImport) : Prop where
  modules : (imports.map Prod.fst).Nodup
  names : ∀ i ∈ imports, i.2 ≠ [] ∧ i.2.Nodup

theorem IsTidy.nodup_importedPairs (h : IsTidy imports) : (importedPairs imports).Nodup := by
  refine List.nodup_flatMap.2 ⟨fun i hi => ?_, ?_⟩
  · exact (h.names i hi).2.map fun m n same => (Prod.mk.inj same).2
  · refine (List.pairwise_map.1 h.modules).imp fun {i j} other => ?_
    intro pair hi hj
    obtain ⟨m, -, rfl⟩ := List.mem_map.1 hi
    obtain ⟨n, -, same⟩ := List.mem_map.1 hj
    exact other (Prod.mk.inj same).1.symm

theorem map_fst_addName (module name : String) (imports : List ModuleImport) :
    (addName module name imports).map Prod.fst =
      if module ∈ imports.map Prod.fst then imports.map Prod.fst
      else imports.map Prod.fst ++ [module] := by
  induction imports with
  | nil => simp [addName]
  | cons i imports ih =>
    by_cases same : i.1 = module
    · simp [addName, same]
    · have other : module ≠ i.1 := fun h => same h.symm
      rw [addName, if_neg same, List.map_cons, ih]
      simp only [List.map_cons, List.mem_cons, other, false_or]
      split_ifs with known <;> simp

theorem IsTidy.addName (h : IsTidy imports) (module name : String) :
    IsTidy (addName module name imports) where
  modules := by
    rw [map_fst_addName]
    split_ifs with known
    · exact h.modules
    · simpa using h.modules.concat known
  names := by
    obtain ⟨-, names⟩ := h
    induction imports with
    | nil => simp [RobotCell.addName]
    | cons i imports ih =>
      have first := names i List.mem_cons_self
      have later : ∀ j ∈ imports, j.2 ≠ [] ∧ j.2.Nodup :=
        fun j hj => names j (List.mem_cons_of_mem _ hj)
      rw [RobotCell.addName]
      split_ifs with same known
      · exact List.forall_mem_cons.2 ⟨first, later⟩
      · refine List.forall_mem_cons.2 ⟨⟨by simp, ?_⟩, later⟩
        simpa using first.2.concat known
      · exact List.forall_mem_cons.2 ⟨first, ih later⟩

/-! ### Variables -/

/-- The variable for the resources. -/
def resourcesBinding : Stmt :=
  .assign [.name resourcesVar] (.call (.name resourcesClass) [] [])

/-- The variable for an object, which is looked up in the resources. -/
def objectBinding (o : SceneObject) : Stmt :=
  .annAssign (.name (Naming.variableName o.id)) (.name o.type)
    (some (.subscript (.nameAttr resourcesVar "objects") (.str o.id)))

/-- The variables for the resources and for the objects. An object whose variable is the one of the
resources gets none. -/
def bindings (objects : List SceneObject) : Block :=
  resourcesBinding ::
    (objects.filter fun o => Naming.variableName o.id ≠ resourcesVar).map objectBinding

theorem isBinding_of_mem_bindings {objects : List SceneObject} :
    ∀ s ∈ bindings objects, s.isBinding = true :=
  List.forall_mem_cons.2 ⟨rfl, List.forall_mem_map.2 fun _ _ => rfl⟩

theorem addInstance_programBlock (module : String) :
    addInstance (programBlock [(module, [resourcesClass])] [] loop) resourcesClass resourcesVar =
      .ok (programBlock [(module, [resourcesClass])] (bindings []) loop) := by
  have imported : isImported (programBlock [(module, [resourcesClass])] [] loop) resourcesClass =
      true := by
    simp [isImported, programBlock, importStmt, Stmt.importedNames, Alias.boundName]
  have unbound : isBound (mainFunction ([] ++ [mainLoop loop])).body resourcesVar resourcesClass =
      .ok false := rfl
  simp only [addInstance, imported, functionPlace_programBlock, unbound, ok_bind, Bool.not_true,
    Bool.false_eq_true, if_false, setBlockAt_programBlock]
  rfl

theorem binding?_resourcesBinding (name : String) :
    resourcesBinding.binding? name = if name = resourcesVar then some resourcesClass else none := by
  by_cases h : name = resourcesVar
  · subst h
    rfl
  · have other : resourcesVar ≠ name := fun same => h same.symm
    simp [resourcesBinding, Stmt.binding?, Expr.name?, h, other]

theorem binding?_objectBinding {o : SceneObject} {name : String}
    (h : Naming.variableName o.id ≠ name) : (objectBinding o).binding? name = none := by
  simp [objectBinding, Stmt.binding?, Expr.name?, h]

/-- What a variable that is not the one of an object is bound to. -/
theorem findSome?_bindings (loop : Block) {objects : List SceneObject} {name : String}
    (fresh : ∀ o ∈ objects, Naming.variableName o.id ≠ name) :
    (bindings objects ++ [mainLoop loop]).findSome? (Stmt.binding? name) =
      if name = resourcesVar then some resourcesClass else none := by
  have objectsUnbound : ((objects.filter fun o => Naming.variableName o.id ≠ resourcesVar).map
      objectBinding).findSome? (Stmt.binding? name) = none := by
    rw [List.findSome?_eq_none_iff]
    refine List.forall_mem_map.2 fun o ho => binding?_objectBinding (fresh o ?_)
    exact List.mem_of_mem_filter ho
  rw [bindings, List.cons_append, List.findSome?_cons, binding?_resourcesBinding,
    List.findSome?_append, objectsUnbound]
  split_ifs with h <;> rfl

theorem insertAfterBindings_bindings (s : Stmt) (loop : Block) (objects : List SceneObject) :
    insertAfterBindings s (bindings objects ++ [mainLoop loop]) =
      bindings objects ++ [s] ++ [mainLoop loop] := by
  have loops : ∀ s ∈ [mainLoop loop], s.isBinding = false := by
    simp [mainLoop, Stmt.isBinding]
  rw [insertAfterBindings, splitAfterLast_append isBinding_of_mem_bindings loops]
  simp

/-- The object does not take the variable of the resources for another class. -/
def SceneObject.KeepsResources (o : SceneObject) : Prop :=
  Naming.variableName o.id = resourcesVar → o.type = resourcesClass

/-- The script with one more object of a scene. -/
theorem addObject_programBlock {settings : Settings} {objects : List SceneObject} {o : SceneObject}
    {script : Block}
    (fresh : ∀ e ∈ objects, Naming.variableName e.id ≠ Naming.variableName o.id) :
    addObject settings (programBlock imports (bindings objects) loop) o = .ok script ↔
      o.KeepsResources ∧
        script = programBlock (addName (settings.typeModule o.type) o.type imports)
          (bindings (objects ++ [o])) loop := by
  have found := findSome?_bindings loop fresh
  rw [addObject, addImport_programBlock, bindFromRegistry, functionPlace_programBlock, ok_bind]
  simp only [mainFunction, isBound, found, SceneObject.KeepsResources]
  by_cases taken : Naming.variableName o.id = resourcesVar
  · -- the variable is the one of the resources: it is not bound again
    have same : bindings (objects ++ [o]) = bindings objects := by
      simp [bindings, taken]
    by_cases cls : resourcesClass = o.type
    · simp [taken, cls, same, eq_comm]
    · have other : o.type ≠ resourcesClass := fun h => cls h.symm
      simp [taken, cls, other]
  · have more : bindings (objects ++ [o]) = bindings objects ++ [objectBinding o] := by
      simp [bindings, taken]
    simp only [taken, if_false, ok_bind, Bool.false_eq_true, insertAfterBindings_bindings,
      setBlockAt_programBlock, more, pure_eq_ok, Except.ok.injEq, false_imp_iff, true_and]
    exact eq_comm

/-- The imports with the types of objects. -/
def addTypes (settings : Settings) (imports : List ModuleImport) (objects : List SceneObject) :
    List ModuleImport :=
  objects.foldl (fun imports o => addName (settings.typeModule o.type) o.type imports) imports

/-- The script with the objects of a scene. -/
theorem foldlM_addObject {settings : Settings} {earlier objects : List SceneObject} {script : Block}
    (distinct : ((earlier ++ objects).map fun o => Naming.variableName o.id).Nodup) :
    objects.foldlM (addObject settings) (programBlock imports (bindings earlier) loop) =
        .ok script ↔
      (∀ o ∈ objects, o.KeepsResources) ∧
        script = programBlock (addTypes settings imports objects) (bindings (earlier ++ objects))
          loop := by
  induction objects generalizing imports earlier with
  | nil => simp [addTypes, eq_comm]
  | cons o objects ih =>
    have fresh : ∀ e ∈ earlier, Naming.variableName e.id ≠ Naming.variableName o.id := by
      rw [List.map_append, List.map_cons] at distinct
      intro e he
      exact (List.nodup_append.1 distinct).2.2 _ (List.mem_map_of_mem he) _ List.mem_cons_self
    -- the object moves over to the ones that have a variable already
    rw [List.append_cons] at distinct ⊢
    simp only [List.foldlM_cons, bind_eq_ok_iff, addObject_programBlock fresh]
    rw [List.forall_mem_cons]
    constructor
    · rintro ⟨_, ⟨first, rfl⟩, later⟩
      obtain ⟨rest, rfl⟩ := (ih distinct).1 later
      exact ⟨⟨first, rest⟩, rfl⟩
    · rintro ⟨⟨first, rest⟩, rfl⟩
      exact ⟨_, ⟨first, rfl⟩, (ih distinct).2 ⟨rest, rfl⟩⟩

theorem mem_importedPairs_addTypes {settings : Settings} {objects : List SceneObject}
    {pair : String × String} :
    pair ∈ importedPairs (addTypes settings imports objects) ↔
      pair ∈ importedPairs imports ∨
        ∃ o ∈ objects, pair = (settings.typeModule o.type, o.type) := by
  induction objects generalizing imports with
  | nil => simp [addTypes]
  | cons o objects ih =>
    have step : addTypes settings imports (o :: objects) =
        addTypes settings (addName (settings.typeModule o.type) o.type imports) objects := rfl
    rw [step, ih, mem_importedPairs_addName]
    simp [or_assoc]

theorem IsTidy.addTypes (h : IsTidy imports) (settings : Settings) (objects : List SceneObject) :
    IsTidy (addTypes settings imports objects) := by
  induction objects generalizing imports with
  | nil => exact h
  | cons o objects ih => exact ih (h.addName _ _)

/-! ### The main loop -/

theorem onlyLoop_bindings (objects : List SceneObject) (loop : Block) :
    onlyLoop (bindings objects ++ [mainLoop loop]) =
      .ok ⟨[((bindings objects).length, 0)], loop⟩ := by
  have others : ∀ s ∈ bindings objects ++ [], s.whileBody? = none := by
    rw [List.append_nil]
    exact List.forall_mem_cons.2 ⟨rfl, List.forall_mem_map.2 fun _ _ => rfl⟩
  exact onlyLoop_eq_ok_iff.2 ⟨bindings objects, _, _, [], rfl, rfl, others⟩

theorem mainLoopPlace_programBlock (objects : List SceneObject) :
    mainLoopPlace (programBlock imports (bindings objects) loop) =
      .ok ⟨[(imports.length, 0), ((bindings objects).length, 0)], loop⟩ :=
  mainLoopPlace_eq_ok_iff.2
    ⟨_, _, functionPlace_programBlock, onlyLoop_bindings objects loop, rfl⟩

theorem mainLoopBody_programBlock (objects : List SceneObject) :
    mainLoopBody (programBlock imports (bindings objects) loop) = .ok loop := by
  rw [mainLoopBody_eq_map, mainLoopPlace_programBlock]
  rfl

/-- Another body of the main loop. -/
theorem setBlockAt_mainLoop (objects : List SceneObject) (new : Block) :
    setBlockAt new [(imports.length, 0), ((bindings objects).length, 0)]
        (programBlock imports (bindings objects) loop) =
      programBlock imports (bindings objects) new := by
  have main : blockAt? [(imports.length, 0)] (programBlock imports (bindings objects) loop) =
      some (bindings objects ++ [mainLoop loop]) :=
    (functionAt_of_functionPlace functionPlace_programBlock).body
  have inner : setBlockAt new [((bindings objects).length, 0)]
      (bindings objects ++ [mainLoop loop]) = bindings objects ++ [mainLoop new] :=
    setBlockAt_append_cons
  calc setBlockAt new ([(imports.length, 0)] ++ [((bindings objects).length, 0)])
        (programBlock imports (bindings objects) loop)
      = setBlockAt (bindings objects ++ [mainLoop new]) [(imports.length, 0)]
          (programBlock imports (bindings objects) loop) := by rw [setBlockAt_append main, inner]
    _ = programBlock imports (bindings objects) new := setBlockAt_programBlock _

/-- The call of an action as a statement, given the object and the method. -/
theorem actionCall_eq_ok_iff {a : Action} {s : Stmt} :
    actionCall a = .ok s ↔ ∃ object method, a.target = .ok (object, method) ∧
      s = .methodCall (Naming.variableName object) method []
        [⟨none, .nameAttr resourcesVar a.id⟩] := by
  rw [actionCall, bind_eq_ok_iff]
  constructor
  · rintro ⟨⟨object, method⟩, target, same⟩
    exact ⟨object, method, target, (Except.ok.inj same).symm⟩
  · rintro ⟨object, method, target, rfl⟩
    exact ⟨(object, method), target, rfl⟩

theorem appendCall_of_ne {body : Block} (h : body ≠ [.pass]) (call : Stmt) :
    appendCall body call = body ++ [call] := by
  unfold appendCall
  split
  · exact absurd rfl h
  · rfl

theorem foldl_appendCall_of_ne {calls body : Block} (filled : body ≠ []) (h : body ≠ [.pass]) :
    calls.foldl appendCall body = body ++ calls := by
  induction calls generalizing body with
  | nil => rw [List.foldl_nil, List.append_nil]
  | cons call calls ih =>
    have longer : body ++ [call] ≠ [.pass] := by
      intro same
      have := congrArg List.length same
      rw [List.length_append, List.length_singleton, List.length_singleton] at this
      exact filled (List.length_eq_zero_iff.1 (by omega))
    rw [List.foldl_cons, appendCall_of_ne h, ih (by simp) longer, List.append_assoc,
      List.singleton_append]

/-- Calls take the place of the statement of an empty loop. -/
theorem foldl_appendCall {calls : Block} (filled : calls ≠ []) (notPass : ∀ s ∈ calls, s ≠ .pass) :
    calls.foldl appendCall [.pass] = calls := by
  cases calls with
  | nil => exact absurd rfl filled
  | cons call calls =>
    have first : [call] ≠ [Stmt.pass] := fun same =>
      notPass call List.mem_cons_self (List.singleton_inj.1 same)
    exact foldl_appendCall_of_ne (by simp) first

theorem foldl_appendCall_actionCalls {path : List Action} {calls : Block} (filled : path ≠ [])
    (h : List.Forall₂ (fun a s => actionCall a = .ok s) path calls) :
    calls.foldl appendCall [.pass] = calls := by
  have both : List.Forall₂ (fun s a => s ≠ .pass ∧ actionCall a = .ok s) calls path := by
    refine h.flip.imp fun {s a} call => ⟨?_, call⟩
    obtain ⟨object, method, -, rfl⟩ := actionCall_eq_ok_iff.1 call
    exact Stmt.noConfusion
  have some : calls ≠ [] := by
    rintro rfl
    exact filled (List.forall₂_nil_right_iff.1 h)
  exact foldl_appendCall some ((List.forall₂_and_left _ _).1 both).1

/-! ### The whole script -/

theorem emptyScript_eq : emptyScript = programBlock [] [] [.pass] := rfl

/-- The imports of a program. -/
def programImports (settings : Settings) (scene : Scene) : List ModuleImport :=
  addTypes settings [(settings.resourcesModule, [resourcesClass])] scene.objects

theorem isTidy_programImports (settings : Settings) (scene : Scene) :
    IsTidy (programImports settings scene) := by
  have first : IsTidy [(settings.resourcesModule, [resourcesClass])] :=
    ⟨List.nodup_singleton _, by simp⟩
  exact first.addTypes settings scene.objects

theorem mem_importedPairs_programImports {settings : Settings} {scene : Scene}
    {pair : String × String} :
    pair ∈ importedPairs (programImports settings scene) ↔
      pair = (settings.resourcesModule, resourcesClass) ∨
        ∃ o ∈ scene.objects, pair = (settings.typeModule o.type, o.type) := by
  rw [programImports, mem_importedPairs_addTypes]
  simp [importedPairs]

/-- The script of a program holds the imports, the variables of the objects, and the calls of the
actions in the order of the path. -/
theorem programScript_eq_ok_iff {settings : Settings} {scene : Scene} {path : List Action}
    {script : Block} (filled : path ≠ [])
    (distinct : (scene.objects.map fun o => Naming.variableName o.id).Nodup) :
    programScript settings scene path = .ok script ↔
      (∀ o ∈ scene.objects, o.KeepsResources) ∧
        ∃ calls, List.Forall₂ (fun a s => actionCall a = .ok s) path calls ∧
          script = programBlock (programImports settings scene) (bindings scene.objects) calls := by
  have added {next : Block} : scene.objects.foldlM (addObject settings)
      (programBlock [(settings.resourcesModule, [resourcesClass])] (bindings []) [.pass]) =
        .ok next ↔
      (∀ o ∈ scene.objects, o.KeepsResources) ∧
        next = programBlock (programImports settings scene) (bindings scene.objects) [.pass] :=
    foldlM_addObject distinct
  rw [programScript, emptyScript_eq, addImport_programBlock, addName, addInstance_programBlock]
  simp only [bind_eq_ok_iff, CompileError.ofSource_eq_ok_iff, CompileError.ofCell_eq_ok_iff,
    mapM_eq_ok_iff]
  constructor
  · rintro ⟨_, ⟨⟩, _, objects, place, placed, calls, hcalls, h⟩
    obtain ⟨keep, rfl⟩ := added.1 objects
    rw [mainLoopPlace_programBlock] at placed
    cases placed
    rw [setBlockAt_mainLoop, foldl_appendCall_actionCalls filled hcalls] at h
    cases h
    exact ⟨keep, calls, hcalls, rfl⟩
  · rintro ⟨keep, calls, hcalls, rfl⟩
    refine ⟨_, rfl, _, added.2 ⟨keep, rfl⟩, _, mainLoopPlace_programBlock _, calls, hcalls, ?_⟩
    rw [setBlockAt_mainLoop, foldl_appendCall_actionCalls filled hcalls]
    rfl

end RobotCell
