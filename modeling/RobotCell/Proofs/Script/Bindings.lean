import RobotCell.Proofs.Script.FunctionPlace
import RobotCell.Proofs.Script.Imports

/-!
# Variables of `main`

A variable of `main` is bound to a class once: a new object or an entry of a registry puts one
statement into the body of `main`, unless the first binding of the name there is to that class
already. To bind the name to another class fails. The new statement is the first binding of its name
wherever it is put, since there was none before.

## Main definitions

- `boundTo?` — what a name is bound to first in a body
- `bindInMain` — the step that both ways to bind a variable have in common
- `InsertsInMain` — a script with at most one more statement in `main`
- `AddsBinding` — a script with a name of `main` bound to a class

## Main results

- `bindInMain_eq_ok_iff` — when a variable can be bound, and what is done then
- `bindInMain_spec` — what the script is afterwards
- `binding_added_once` — new objects and entries of a registry are bound once
-/

namespace RobotCell.Script

variable {script script' body : Block} {name cls other : String} {insert : Block → Block}

/-! ### The first binding of a name -/

/-- What the first binding of a name in a body binds it to. -/
def boundTo? (body : Block) (name : String) : Option String :=
  body.findSome? (Stmt.binding? name)

theorem isBound_of_eq_none (h : boundTo? body name = none) : isBound body name cls = .ok false := by
  rw [boundTo?] at h
  rw [isBound, h]

theorem isBound_of_eq_some (h : boundTo? body name = some cls) :
    isBound body name cls = .ok true := by
  rw [boundTo?] at h
  simp only [isBound, h, if_true]

theorem isBound_of_ne (h : boundTo? body name = some cls) (ne : other ≠ cls) :
    isBound body name other = .error (.nameAlreadyBound name cls) := by
  rw [boundTo?] at h
  simp only [isBound, h, if_neg ne.symm]

/-- A binding among statements that do not bind its name is the first one. -/
theorem boundTo?_append_cons {front back : Block} {s : Stmt}
    (unbound : boundTo? (front ++ back) name = none) (binds : s.binding? name = some cls) :
    boundTo? (front ++ s :: back) name = some cls := by
  rw [boundTo?, List.findSome?_append, Option.or_eq_none_iff] at unbound
  rw [boundTo?, List.findSome?_append, unbound.1, Option.none_or, List.findSome?_cons, binds]

/-! ### Binding a variable -/

/-- The script with a variable of `main` that is bound to a class. Unless it is already there, it is
put into the body by `insert`. -/
def bindInMain (script : Block) (name cls : String) (insert : Block → Block) :
    Except SourceError Block := do
  let main ← functionPlace script mainName
  if ← isBound main.value.body name cls then return script
  return setBlockAt (insert main.value.body) main.path script

/-- The statement that binds a variable to a new object. -/
def instanceBinding (name cls : String) : Stmt :=
  .assign [.name name] (.call (.name cls) [] [])

/-- The statement that binds a variable to an entry of a registry. -/
def registryBinding (name cls accessor key : String) : Stmt :=
  .annAssign (.name name) (.name cls) (some (.subscript (.nameAttr accessor "objects") (.str key)))

theorem binding?_instanceBinding : (instanceBinding name cls).binding? name = some cls := by
  simp [instanceBinding, Stmt.binding?, Expr.name?, classLabel, Expr.dottedName?]

theorem binding?_registryBinding {accessor key : String} :
    (registryBinding name cls accessor key).binding? name = some cls := by
  simp [registryBinding, Stmt.binding?, Expr.name?, classLabel, Expr.dottedName?]

theorem bindFromRegistry_eq (script : Block) (name cls accessor key : String) :
    bindFromRegistry script name cls accessor key =
      bindInMain script name cls (insertAfterBindings (registryBinding name cls accessor key)) :=
  rfl

theorem addInstance_of_isImported (imported : isImported script cls = true) :
    addInstance script cls name =
      bindInMain script name cls fun body => instanceBinding name cls :: body := by
  rw [addInstance, imported]
  rfl

theorem addInstance_of_not_isImported (missing : isImported script cls = false) :
    addInstance script cls name = .error (.classNotImported cls) := by
  rw [addInstance, missing]
  rfl

theorem isImported_of_addInstance (h : addInstance script cls name = .ok script') :
    isImported script cls = true := by
  cases imported : isImported script cls with
  | true => rfl
  | false =>
    rw [addInstance_of_not_isImported imported] at h
    cases h

theorem isBound_then_eq_ok_iff {new : Block} :
    (do if ← isBound body name cls then return script
        return new : Except SourceError Block) = .ok script' ↔
      boundTo? body name = some cls ∧ script' = script ∨
        boundTo? body name = none ∧ new = script' := by
  cases bound : boundTo? body name with
  | none => simp [isBound_of_eq_none bound]
  | some existing =>
    by_cases same : existing = cls
    · subst same
      simp [isBound_of_eq_some bound, eq_comm]
    · simp [isBound_of_ne bound (Ne.symm same), same]

/-- A variable is bound if its name is free, and then its statement is inserted, or if it is bound to
the class already, and then nothing is changed. -/
theorem bindInMain_eq_ok_iff :
    bindInMain script name cls insert = .ok script' ↔
      ∃ main, findFunction script mainName = .ok main ∧
        (boundTo? main.body name = some cls ∧ script' = script ∨
          boundTo? main.body name = none ∧
            setFunctionBody script mainName (insert main.body) = .ok script') := by
  rw [bindInMain, bind_eq_ok_iff]
  constructor
  · rintro ⟨main, placed, h⟩
    refine ⟨main.value, (functionPlace_eq_ok_iff.1 placed).2, ?_⟩
    rw [setFunctionBody_of_functionPlace placed, Except.ok.injEq]
    exact isBound_then_eq_ok_iff.1 h
  · rintro ⟨main, found, h⟩
    obtain ⟨path, placed⟩ := exists_functionPlace found
    rw [setFunctionBody_of_functionPlace placed, Except.ok.injEq] at h
    exact ⟨_, placed, isBound_then_eq_ok_iff.2 h⟩

/-- The name is bound to the class in `main`. -/
def BindsInMain (script : Block) (name cls : String) : Prop :=
  ∃ main, findFunction script mainName = .ok main ∧ boundTo? main.body name = some cls

theorem BindsInMain.bindInMain_eq_ok (h : BindsInMain script name cls) :
    bindInMain script name cls insert = .ok script := by
  obtain ⟨main, found, bound⟩ := h
  exact bindInMain_eq_ok_iff.2 ⟨main, found, .inl ⟨bound, rfl⟩⟩

theorem BindsInMain.bindInMain_eq_error (h : BindsInMain script name cls) (ne : other ≠ cls) :
    bindInMain script name other insert = .error (.nameAlreadyBound name cls) := by
  obtain ⟨main, found, bound⟩ := h
  obtain ⟨path, placed⟩ := exists_functionPlace found
  rw [bindInMain, placed, ok_bind, isBound_of_ne bound ne, error_bind]

/-! ### One statement in `main` -/

/-- The second script is the first one, or it has one more statement in the body of the function
`main` that is found first. -/
def InsertsInMain (script script' : Block) : Prop :=
  script' = script ∨ ∃ path main front s back, FunctionAt script mainName path main ∧
    main.body = front ++ back ∧ ReplacesBlock script path (front ++ s :: back) script'

/-- A function puts a statement somewhere between those that are there. -/
def IsInsertion (s : Stmt) (insert : Block → Block) : Prop :=
  ∀ body, ∃ front back, body = front ++ back ∧ insert body = front ++ s :: back

theorem isInsertion_cons (s : Stmt) : IsInsertion s fun body => s :: body :=
  fun body => ⟨[], body, rfl, rfl⟩

theorem isInsertion_insertAfterBindings (s : Stmt) : IsInsertion s (insertAfterBindings s) :=
  fun body => ⟨_, _, (append_splitAfterLast Stmt.isBinding body).symm, rfl⟩

theorem importedNames_shell (s : Stmt) : s.shell.importedNames = s.importedNames := by
  cases s <;> rfl

/-- A body of `main` is not the script itself, so that the imports stay. -/
theorem isImported_of_replacesBlock {path : BlockPath} {new : Block}
    (finds : Finds mainName script path) (replaces : ReplacesBlock script path new script') :
    isImported script' cls = isImported script cls := by
  have inner : ¬ path <+: [] := by
    rw [List.prefix_nil]
    exact finds.ne_nil
  have shells : script'.map Stmt.shell = script.map Stmt.shell :=
    Option.some_inj.1 (replaces.outside [] inner)
  have names (script : Block) : isImported script cls =
      (script.map Stmt.shell).any fun s => s.importedNames.contains cls := by
    simp [isImported, List.any_map, Function.comp_def, importedNames_shell]
  rw [names, names, shells]

theorem bindInMain_spec {s : Stmt} (inserts : IsInsertion s insert)
    (binds : s.binding? name = some cls) (h : bindInMain script name cls insert = .ok script') :
    InsertsInMain script script' ∧ BindsInMain script' name cls ∧
      ∀ other, isImported script' other = isImported script other := by
  obtain ⟨main, found, ⟨bound, rfl⟩ | ⟨unbound, replaced⟩⟩ := bindInMain_eq_ok_iff.1 h
  · exact ⟨.inl rfl, ⟨main, found, bound⟩, fun _ => rfl⟩
  · obtain ⟨path, placed⟩ := exists_functionAt found
    obtain ⟨front, back, whole, inserted⟩ := inserts main.body
    rw [inserted] at replaced
    obtain ⟨script'', replaced', replaces, found'⟩ := placed.replaced (front ++ s :: back)
    cases replaced.symm.trans replaced'
    rw [whole] at unbound
    exact ⟨.inr ⟨path, main, front, s, back, placed, whole, replaces⟩,
      ⟨_, found', boundTo?_append_cons unbound binds⟩,
      fun _ => isImported_of_replacesBlock placed.finds replaces⟩

/-! ### Bound once -/

/-- The second script is the first one with a name of `main` bound to a class, at most one statement
longer. The name stays bound to that class: an entry of a registry for it changes nothing, and what
would bind the name to another class fails. -/
structure AddsBinding (script script' : Block) (name cls : String) : Prop where
  inserts : InsertsInMain script script'
  again : ∀ accessor key, bindFromRegistry script' name cls accessor key = .ok script'
  noInstance : ∀ other, other ≠ cls → isImported script' other = true →
    addInstance script' other name = .error (.nameAlreadyBound name cls)
  noEntry : ∀ other, other ≠ cls → ∀ accessor key,
    bindFromRegistry script' name other accessor key = .error (.nameAlreadyBound name cls)

theorem BindsInMain.addsBinding (h : BindsInMain script' name cls)
    (inserts : InsertsInMain script script') : AddsBinding script script' name cls where
  inserts := inserts
  again _ _ := (bindFromRegistry_eq ..).trans h.bindInMain_eq_ok
  noInstance _ ne imported := (addInstance_of_isImported imported).trans (h.bindInMain_eq_error ne)
  noEntry _ ne _ _ := (bindFromRegistry_eq ..).trans (h.bindInMain_eq_error ne)

theorem BindsInMain.addInstance_eq_ok (h : BindsInMain script name cls)
    (imported : isImported script cls = true) : addInstance script cls name = .ok script :=
  (addInstance_of_isImported imported).trans h.bindInMain_eq_ok

/-- A variable for a new object, or for an entry of a registry, is one more statement of `main` at
most, and its name stays bound to its class. A new object of the class changes nothing then, but for
an entry of a registry the class need not be imported, and a new object of it fails if it is not. -/
theorem binding_added_once (script : Block) (name cls : String) :
    (∀ script', addInstance script cls name = .ok script' →
      AddsBinding script script' name cls ∧ addInstance script' cls name = .ok script') ∧
    ∀ accessor key script', bindFromRegistry script name cls accessor key = .ok script' →
      AddsBinding script script' name cls ∧
        (isImported script' cls = true → addInstance script' cls name = .ok script') ∧
        (isImported script' cls = false →
          addInstance script' cls name = .error (.classNotImported cls)) := by
  constructor
  · intro script' h
    have imported := isImported_of_addInstance h
    rw [addInstance_of_isImported imported] at h
    obtain ⟨inserts, bound, imports⟩ := bindInMain_spec (isInsertion_cons _) binding?_instanceBinding h
    exact ⟨bound.addsBinding inserts, bound.addInstance_eq_ok ((imports cls).trans imported)⟩
  · intro accessor key script' h
    rw [bindFromRegistry_eq] at h
    obtain ⟨inserts, bound, -⟩ := bindInMain_spec (isInsertion_insertAfterBindings _)
      binding?_registryBinding h
    exact ⟨bound.addsBinding inserts, bound.addInstance_eq_ok, addInstance_of_not_isImported⟩

/-- A script in which `Arm` and `Box` are imported, and whose function `main` is in a branch. -/
def nestedMain : Block :=
  [.importFrom "tools" [⟨"Arm", none⟩, ⟨"Box", none⟩] 0,
    .ifElse (.name "ready") [.functionDef ⟨mainName, [], [.pass], [], none, false⟩] []]

theorem binding_added_once_nestedMain :
    ∃ armed boxed, addInstance nestedMain "Arm" "tool" = .ok armed ∧
      addInstance armed "Arm" "tool" = .ok armed ∧
      addInstance armed "Box" "tool" = .error (.nameAlreadyBound "tool" "Arm") ∧
      bindFromRegistry armed "box" "Box" "res" "box 1" = .ok boxed ∧
      AddsBinding armed boxed "box" "Box" ∧ addInstance boxed "Box" "box" = .ok boxed := by
  obtain ⟨armed, added⟩ : ∃ armed, addInstance nestedMain "Arm" "tool" = .ok armed := ⟨_, rfl⟩
  obtain ⟨first, again⟩ := (binding_added_once nestedMain "tool" "Arm").1 armed added
  have boxImported : isImported armed "Box" = true := by
    cases added
    rfl
  obtain ⟨boxed, bound⟩ : ∃ boxed, bindFromRegistry armed "box" "Box" "res" "box 1" = .ok boxed := by
    cases added
    exact ⟨_, rfl⟩
  obtain ⟨second, instance_, -⟩ := (binding_added_once armed "box" "Box").2 "res" "box 1" boxed bound
  have imported : isImported boxed "Box" = true := by
    cases added
    cases bound
    rfl
  exact ⟨armed, boxed, added, again, first.noInstance "Box" (by decide) boxImported, bound, second,
    instance_ imported⟩

/-- A script without imports. -/
def bareMain : Block :=
  [.functionDef ⟨mainName, [], [.pass], [], none, false⟩]

/-- The script with an entry of a registry as a variable. -/
def armMain : Block :=
  [.functionDef ⟨mainName, [], [registryBinding "arm" "Arm" "res" "arm", .pass], [], none, false⟩]

/-- A new object of a class that is not imported fails, though the variable is bound to that class. -/
theorem addInstance_after_bindFromRegistry :
    bindFromRegistry bareMain "arm" "Arm" "res" "arm" = .ok armMain ∧
      addInstance armMain "Arm" "arm" = .error (.classNotImported "Arm") :=
  ⟨rfl, rfl⟩

end RobotCell.Script
