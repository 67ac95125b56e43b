import RobotCell.Proofs.Script.Bindings
import RobotCell.Proofs.Script.FunctionBody

/-!
# Scripts that are edited can be written

An edit of a script that can be written gives a script that can be written again, whatever else is
in the script: it puts one statement into a body that is not empty, or one name into an import. The
exception is a name that is put beside the star of an import of everything. Whether this happens can
be told from the script before all edits, since no edit adds or removes such an import.

## Main definitions

- `ChangesMain` — a script is as before, or its function `main` has another body
- `Edit`, `Edit.IsWritable` — the edits of a script, and those with words and arguments that can be
  written
- `applyEdits` — the script after some edits

## Main results

- `Edit.apply_cases` — what an edit can do
- `Edit.Changes.isWritten` — an edit leaves a body that can be written
- `render_applyEdits_iff` — when a script can be written after some edits
-/

namespace RobotCell.Script

/-! ### Statements of `main` -/

theorem mem_insertAfterBindings_iff {s t : Stmt} {body : Block} :
    t ∈ insertAfterBindings s body ↔ t = s ∨ t ∈ body := by
  have whole := append_splitAfterLast Stmt.isBinding body
  conv_rhs => rw [← whole]
  simp only [insertAfterBindings, List.mem_append, List.mem_cons]
  exact or_left_comm

theorem mem_appendCall {call t : Stmt} {body : Block} (h : t ∈ appendCall body call) :
    t = call ∨ t ∈ body := by
  unfold appendCall at h
  split at h
  · exact .inl (List.mem_singleton.1 h)
  · exact (List.mem_append.1 h).symm.imp_left List.mem_singleton.1

theorem appendCall_ne_nil (body : Block) (call : Stmt) : appendCall body call ≠ [] := by
  unfold appendCall
  split <;> simp

/-- A body can be written: it holds a statement, and all its statements can be written. -/
def IsWritten (body : Block) : Prop :=
  body ≠ [] ∧ ∀ s ∈ body, s.check "if" = .ok ()

section Main

variable {script script' : Block} {change : Block → Block → Prop}

/-- The script is as before, or its function `main` has another body, to which `change` relates the
one before. -/
def ChangesMain (change : Block → Block → Prop) (script script' : Block) : Prop :=
  script' = script ∨ ∃ main new, findFunction script mainName = .ok main ∧ change main.body new ∧
    setFunctionBody script mainName new = .ok script'

theorem ChangesMain.checkBlock_eq_ok (h : ChangesMain change script script')
    (keeps : ∀ old new, change old new → IsWritten old → IsWritten new)
    (ok : checkBlock script = .ok ()) : checkBlock script' = .ok () := by
  obtain rfl | ⟨main, new, found, changed, replaced⟩ := h
  · exact ok
  · obtain ⟨filled, written⟩ := keeps _ _ changed (check_body_of_findFunction ok found)
    exact checkBlock_of_setFunctionBody ok filled written replaced

theorem ChangesMain.importedFrom?_eq (h : ChangesMain change script script') (module : String) :
    importedFrom? script' module = importedFrom? script module := by
  obtain rfl | ⟨main, new, -, -, replaced⟩ := h
  · rfl
  · exact importedFrom?_of_setFunctionBody replaced

theorem changesMain_bindInMain {name cls : String} {insert : Block → Block}
    (h : bindInMain script name cls insert = .ok script') :
    ChangesMain (fun old new => new = insert old) script script' := by
  obtain ⟨main, found, ⟨-, rfl⟩ | ⟨-, replaced⟩⟩ := bindInMain_eq_ok_iff.1 h
  · exact .inl rfl
  · exact .inr ⟨main, _, found, rfl, replaced⟩

theorem changesMain_addInstance {cls name : String} (h : addInstance script cls name = .ok script') :
    ChangesMain (fun old new => new = instanceBinding name cls :: old) script script' := by
  rw [addInstance_of_isImported (isImported_of_addInstance h)] at h
  exact changesMain_bindInMain h

theorem changesMain_bindFromRegistry {name cls accessor key : String}
    (h : bindFromRegistry script name cls accessor key = .ok script') :
    ChangesMain (fun old new =>
      new = insertAfterBindings (registryBinding name cls accessor key) old) script script' := by
  rw [bindFromRegistry_eq] at h
  exact changesMain_bindInMain h

theorem changesMain_callInMain {call : Stmt} (h : callInMain script call = .ok script') :
    ChangesMain (fun old new => new = insertAfterBindings call old) script script' := by
  obtain ⟨main, placed, same⟩ := bind_eq_ok_iff.1 h
  cases same
  exact .inr ⟨main.value, _, (functionPlace_eq_ok_iff.1 placed).2, rfl,
    setFunctionBody_of_functionPlace placed _⟩

theorem changesMain_callInMainLoop {call : Stmt} (h : callInMainLoop script call = .ok script') :
    ChangesMain (fun old new => ∃ loop, onlyLoop old = .ok loop ∧
      new = setBlockAt (appendCall loop.value call) loop.path old) script script' := by
  obtain ⟨place, placed, same⟩ := bind_eq_ok_iff.1 h
  cases same
  obtain ⟨main, loop, mainPlaced, only, rfl⟩ := mainLoopPlace_eq_ok_iff.1 placed
  refine .inr ⟨main.value, _, (functionPlace_eq_ok_iff.1 mainPlaced).2, ⟨loop, only, rfl⟩, ?_⟩
  rw [setFunctionBody_of_functionPlace mainPlaced,
    ← setBlockAt_append (functionAt_of_functionPlace mainPlaced).body]

end Main

/-! ### Edits -/

/-- An edit of a script. -/
inductive Edit where
  | importName (module name : String)
  | instantiate (cls name : String)
  | bind (name cls accessor key : String)
  | call (object method : String) (args : List Expr) (keywords : List (Argument Expr))
  | loopCall (object method : String) (args : List Expr) (keywords : List (Argument Expr))

/-- The words of a call are identifiers and its arguments can be written. -/
def IsWritableCall (object method : String) (args : List Expr) (keywords : List (Argument Expr)) :
    Prop :=
  isIdentifier object = true ∧ isIdentifier method = true ∧
    (∀ e ∈ args, ∃ text, renderExpr e = .ok text) ∧
    ∀ k ∈ keywords, (∀ n ∈ k.name, isIdentifier n = true) ∧ ∃ text, renderExpr k.value = .ok text

namespace Edit

/-- The script after an edit. -/
def apply (script : Block) : Edit → Except SourceError Block
  | importName module name => .ok (addImport script module name)
  | instantiate cls name => addInstance script cls name
  | bind name cls accessor key => bindFromRegistry script name cls accessor key
  | call object method args keywords =>
    callInMain script (.methodCall object method args keywords)
  | loopCall object method args keywords =>
    callInMainLoop script (.methodCall object method args keywords)

/-- The words of an edit are identifiers, or a path for a module, and its arguments can be
written. -/
def IsWritable : Edit → Prop
  | importName module name => isPath module = true ∧ isIdentifier name = true
  | instantiate cls name => isIdentifier cls = true ∧ isIdentifier name = true
  | bind name cls accessor _ =>
    isIdentifier name = true ∧ isIdentifier cls = true ∧ isIdentifier accessor = true
  | call object method args keywords => IsWritableCall object method args keywords
  | loopCall object method args keywords => IsWritableCall object method args keywords

/-- What an edit does to the body of `main`. -/
def Changes : Edit → Block → Block → Prop
  | importName .., _, _ => False
  | instantiate cls name, old, new => new = instanceBinding name cls :: old
  | bind name cls accessor key, old, new =>
    new = insertAfterBindings (registryBinding name cls accessor key) old
  | call object method args keywords, old, new =>
    new = insertAfterBindings (.methodCall object method args keywords) old
  | loopCall object method args keywords, old, new =>
    ∃ loop, onlyLoop old = .ok loop ∧
      new = setBlockAt (appendCall loop.value (.methodCall object method args keywords)) loop.path old

/-- An edit imports a name or changes `main`. -/
theorem apply_cases {script script' : Block} {e : Edit} (h : e.apply script = .ok script') :
    (∃ module name, e = .importName module name ∧ script' = addImport script module name) ∨
      ChangesMain e.Changes script script' := by
  cases e with
  | importName module name => exact .inl ⟨module, name, rfl, (Except.ok.inj h).symm⟩
  | instantiate cls name => exact .inr (changesMain_addInstance h)
  | bind name cls accessor key => exact .inr (changesMain_bindFromRegistry h)
  | call object method args keywords => exact .inr (changesMain_callInMain h)
  | loopCall object method args keywords => exact .inr (changesMain_callInMainLoop h)

end Edit

theorem check_of_renderExpr {e : Expr} (h : ∃ text, renderExpr e = .ok text) : e.check = .ok () := by
  obtain ⟨text, written⟩ := h
  obtain ⟨_, checked, -⟩ := bind_eq_ok_iff.1 written
  exact checked

theorem IsWritableCall.check_eq_ok {object method : String} {args : List Expr}
    {keywords : List (Argument Expr)} (h : IsWritableCall object method args keywords) :
    (Stmt.methodCall object method args keywords).check "if" = .ok () := by
  obtain ⟨objectWord, methodWord, argsWritten, keywordsWritten⟩ := h
  have arguments : checkAll args = .ok () :=
    checkAll_eq_ok_iff.2 fun e he => check_of_renderExpr (argsWritten e he)
  have named : checkArguments keywords = .ok () := checkArguments_eq_ok_iff.2 fun k hk =>
    ⟨(keywordsWritten k hk).1, check_of_renderExpr (keywordsWritten k hk).2⟩
  simp [Stmt.methodCall, Stmt.check, checkSimple, Expr.check, Expr.nameAttr, check_bind_eq_ok_iff,
    objectWord, methodWord, arguments, named]

theorem IsWritten.insertAfterBindings {s : Stmt} {body : Block} (written : IsWritten body)
    (ok : s.check "if" = .ok ()) : IsWritten (insertAfterBindings s body) := by
  refine ⟨List.ne_nil_of_mem (mem_insertAfterBindings_iff.2 (.inl rfl)), fun t ht => ?_⟩
  obtain rfl | inside := mem_insertAfterBindings_iff.1 ht
  · exact ok
  · exact written.2 t inside

/-- A loop among statements that are written. -/
theorem check_of_onlyLoop {body : Block} {loop : Placed Block} (h : onlyLoop body = .ok loop)
    (written : ∀ s ∈ body, s.check "if" = .ok ()) : ∀ s ∈ loop.value, s.check "if" = .ok () := by
  obtain ⟨before, test, orelse, after, rfl, -, -⟩ := onlyLoop_eq_ok_iff.1 h
  have ok := written (.whileLoop test loop.value orelse) (by simp)
  exact (check_whileLoop_eq_ok_iff.1 ok).2.2.1

theorem IsWritten.setBlockAt {body new : Block} (old : IsWritten body) (written : IsWritten new)
    (path : BlockPath) : IsWritten (setBlockAt new path body) := by
  obtain ⟨filled, inner⟩ := staysWritten_setBlockAt written.1 written.2 path old.2
  exact ⟨filled old.1, inner⟩

/-- An edit leaves a body that can be written. -/
theorem Edit.Changes.isWritten {e : Edit} {old new : Block} (change : e.Changes old new)
    (writable : e.IsWritable) (written : IsWritten old) : IsWritten new := by
  cases e with
  | importName module name => exact change.elim
  | instantiate cls name =>
    obtain rfl := change
    obtain ⟨clsWord, nameWord⟩ := writable
    refine ⟨List.cons_ne_nil _ _, List.forall_mem_cons.2 ⟨?_, written.2⟩⟩
    simp [instanceBinding, Stmt.check, checkSimple, Expr.check, checkAll, checkArguments,
      check_bind_eq_ok_iff, clsWord, nameWord]
  | bind name cls accessor key =>
    obtain rfl := change
    obtain ⟨nameWord, clsWord, accessorWord⟩ := writable
    refine written.insertAfterBindings ?_
    have objects : isIdentifier "objects" = true := by decide +kernel
    simp [registryBinding, Stmt.check, checkSimple, Expr.check, checkOption, Expr.nameAttr,
      Expr.str, check_bind_eq_ok_iff, nameWord, clsWord, accessorWord, objects]
  | call object method args keywords =>
    obtain rfl := change
    exact written.insertAfterBindings (IsWritableCall.check_eq_ok writable)
  | loopCall object method args keywords =>
    obtain ⟨loop, only, rfl⟩ := change
    have longer : IsWritten (appendCall loop.value (.methodCall object method args keywords)) := by
      refine ⟨appendCall_ne_nil _ _, fun t ht => ?_⟩
      obtain rfl | inside := mem_appendCall ht
      · exact IsWritableCall.check_eq_ok writable
      · exact check_of_onlyLoop only written.2 t inside
    exact written.setBlockAt longer loop.path

/-! ### Sequences of edits -/

/-- The script after some edits, all of which succeed. -/
def applyEdits (script : Block) (edits : List Edit) : Except SourceError Block :=
  edits.foldlM Edit.apply script

/-- A name stands beside the star of an import of everything. -/
def IsCrowded (script : Block) : Prop :=
  ∃ module names, importedFrom? script module = some names ∧ isStarImport names = false ∧
    ∃ a ∈ names, a.name = "*"

section Sequences

variable {script script' : Block} {e : Edit}

theorem IsCrowded.checkBlock_ne_ok (h : IsCrowded script) : checkBlock script ≠ .ok () := by
  obtain ⟨module, names, imported, crowded, a, ha, star⟩ := h
  intro ok
  have written := checkBlock_eq_ok_iff.1 ok _ (mem_of_importedFrom? imported)
  exact checkImportFrom_ne_ok ha star crowded written

/-- No edit takes a name out of an import. -/
theorem IsCrowded.apply (crowded : IsCrowded script) (writable : e.IsWritable)
    (h : e.apply script = .ok script') : IsCrowded script' := by
  obtain ⟨module, names, imported, several, a, ha, star⟩ := crowded
  obtain ⟨module', name, rfl, rfl⟩ | changes := Edit.apply_cases h
  · by_cases same : module' = module
    · subst same
      refine ⟨module', addAlias names name, ?_, isStarImport_addAlias writable.2, a,
        mem_addAlias_iff.2 (.inl ha), star⟩
      rw [importedFrom?_addImport, if_pos rfl, imported, Option.getD_some]
    · refine ⟨module, names, ?_, several, a, ha, star⟩
      rw [importedFrom?_addImport, if_neg same, imported]
  · exact ⟨module, names, (changes.importedFrom?_eq module).trans imported, several, a, ha, star⟩

theorem IsCrowded.applyEdits {edits : List Edit} (crowded : IsCrowded script)
    (writable : ∀ e ∈ edits, e.IsWritable) (h : applyEdits script edits = .ok script') :
    IsCrowded script' := by
  induction edits generalizing script with
  | nil => exact Except.ok.inj h ▸ crowded
  | cons e edits ih =>
    obtain ⟨middle, first, later⟩ := bind_eq_ok_iff.1 h
    rw [List.forall_mem_cons] at writable
    exact ih (crowded.apply writable.1 first) writable.2 later

theorem isCrowded_addImport {module name : String} (identifier : isIdentifier name = true)
    (all : importsAll script module = true) : IsCrowded (addImport script module name) := by
  obtain ⟨names, imported, star⟩ := (Option.any_eq_true _ _).1 all
  obtain ⟨a, rfl, named⟩ := isStarImport_eq_true_iff.1 star
  refine ⟨module, addAlias [a] name, ?_, isStarImport_addAlias identifier, a,
    mem_addAlias_iff.2 (.inl (List.mem_singleton_self a)), named⟩
  rw [importedFrom?_addImport, if_pos rfl, imported, Option.getD_some]

/-- An edit that puts no name beside a star keeps what is imported as a whole. -/
theorem importsAll_of_apply (writable : e.IsWritable) (h : e.apply script = .ok script')
    (apart : ∀ module name, e = .importName module name → importsAll script module = false)
    (module : String) : importsAll script' module = importsAll script module := by
  obtain ⟨module', name, rfl, rfl⟩ | changes := Edit.apply_cases h
  · by_cases same : module' = module
    · subst same
      rw [apart module' name rfl, importsAll, importedFrom?_addImport, if_pos rfl, Option.any_some,
        isStarImport_addAlias writable.2]
    · rw [importsAll, importedFrom?_addImport, if_neg same, importsAll]
  · rw [importsAll, changes.importedFrom?_eq module, importsAll]

theorem checkBlock_of_apply (ok : checkBlock script = .ok ()) (writable : e.IsWritable)
    (h : e.apply script = .ok script')
    (apart : ∀ module name, e = .importName module name → importsAll script module = false) :
    checkBlock script' = .ok () := by
  obtain ⟨module, name, rfl, rfl⟩ | changes := Edit.apply_cases h
  · exact (checkBlock_addImport_iff ok writable.1 writable.2).2 (apart module name rfl)
  · exact changes.checkBlock_eq_ok (fun _ _ change => change.isWritten writable) ok

end Sequences

theorem checkBlock_applyEdits_iff {script result : Block} {edits : List Edit}
    (ok : checkBlock script = .ok ()) (writable : ∀ e ∈ edits, e.IsWritable)
    (h : applyEdits script edits = .ok result) :
    checkBlock result = .ok () ↔
      ∀ module name, .importName module name ∈ edits → importsAll script module = false := by
  induction edits generalizing script with
  | nil =>
    obtain rfl := Except.ok.inj h
    exact iff_of_true ok fun _ _ absent => nomatch absent
  | cons e edits ih =>
    obtain ⟨middle, first, later⟩ := bind_eq_ok_iff.1 h
    rw [List.forall_mem_cons] at writable
    by_cases apart : ∀ module name, e = .importName module name → importsAll script module = false
    · rw [ih (checkBlock_of_apply ok writable.1 first apart) writable.2 later]
      simp only [importsAll_of_apply writable.1 first apart, List.mem_cons]
      refine ⟨fun all module name mem => ?_, fun all module name mem => all module name (.inr mem)⟩
      obtain here | mem := mem
      · exact apart module name here.symm
      · exact all module name mem
    · -- a name beside a star stays there, so that the result cannot be written
      push Not at apart
      obtain ⟨module, name, rfl, all⟩ := apart
      replace all := Bool.eq_true_of_not_eq_false all
      obtain rfl : addImport script module name = middle := Except.ok.inj first
      have crowded := (isCrowded_addImport writable.1.2 all).applyEdits writable.2 later
      refine iff_of_false crowded.checkBlock_ne_ok fun apart => ?_
      rw [apart module name List.mem_cons_self] at all
      cases all

/-- A script that can be written can be written after any edits with words and arguments that can be
written, unless a name is imported from a module from which everything is imported. -/
theorem render_applyEdits_iff {script result : Block} {edits : List Edit}
    (written : ∃ text, render script = .ok text) (writable : ∀ e ∈ edits, e.IsWritable)
    (h : applyEdits script edits = .ok result) :
    (∃ text, render result = .ok text) ↔
      ∀ module name, .importName module name ∈ edits → importsAll script module = false := by
  rw [exists_render_eq_ok_iff] at written ⊢
  exact checkBlock_applyEdits_iff written writable h

/-- A script with a main loop that imports everything from one module. -/
def shapesScript : Block :=
  [.importFrom "shapes" [⟨"*", none⟩] 0,
    .functionDef ⟨mainName, [], [.whileLoop (.name "running") [.pass] []], [], none, false⟩]

/-- One edit of each kind. -/
def armEdits : List Edit :=
  [.importName "tools" "Arm", .instantiate "Arm" "arm", .bind "box" "Box" "res" "box 1",
    .call "arm" "open" [] [⟨some "speed", .name "fast"⟩], .loopCall "arm" "move" [.name "box"] []]

theorem render_applyEdits_shapesScript :
    ∃ result text, applyEdits shapesScript armEdits = .ok result ∧ render result = .ok text := by
  have written : ∃ text, render shapesScript = .ok text := ⟨_, rfl⟩
  have speed : ∃ text, renderExpr (.name "fast") = .ok text := ⟨_, rfl⟩
  have box : ∃ text, renderExpr (.name "box") = .ok text := ⟨_, rfl⟩
  have writable : ∀ e ∈ armEdits, e.IsWritable := by
    simp only [armEdits, List.forall_mem_cons, Edit.IsWritable, IsWritableCall]
    refine ⟨by decide +kernel, by decide +kernel, by decide +kernel, ?_, ?_, List.forall_mem_nil _⟩
    · refine ⟨by decide +kernel, by decide +kernel, List.forall_mem_nil _, ?_, List.forall_mem_nil _⟩
      exact ⟨by decide +kernel, speed⟩
    · exact ⟨by decide +kernel, by decide +kernel, ⟨box, List.forall_mem_nil _⟩,
        List.forall_mem_nil _⟩
  have apart : ∀ module name, .importName module name ∈ armEdits →
      importsAll shapesScript module = false := by
    intro module name mem
    simp only [armEdits, List.mem_cons, Edit.importName.injEq, reduceCtorEq, List.not_mem_nil,
      or_false] at mem
    rw [mem.1]
    rfl
  obtain ⟨result, h⟩ : ∃ result, applyEdits shapesScript armEdits = .ok result := ⟨_, rfl⟩
  obtain ⟨text, rendered⟩ := (render_applyEdits_iff written writable h).2 apart
  exact ⟨result, text, h, rendered⟩

/-- A name that is imported beside a star makes a script that cannot be written. -/
theorem addImport_beside_star :
    (Edit.importName "shapes" "Box").IsWritable ∧
      render [.importFrom "shapes" [⟨"*", none⟩] 0] = .ok "from shapes import *\n" ∧
      render (addImport [.importFrom "shapes" [⟨"*", none⟩] 0] "shapes" "Box") =
        .error (.invalidIdentifier "*") :=
  ⟨⟨by decide +kernel, by decide +kernel⟩, rfl, rfl⟩

end RobotCell.Script
