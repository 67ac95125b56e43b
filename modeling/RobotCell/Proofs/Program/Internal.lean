import RobotCell.Program.SettingsFile
import RobotCell.Proofs.Cell.Inspected
import RobotCell.Proofs.Program.Printable

/-!
# Internal errors

A tree that cannot be written counts as an error of the compiler itself. Of the source of an object
type only expressions are written again, and every expression that was read can be written. A program
that passes all checks may still be refused when it is written. The checks cover the types of the
objects, the ids of the actions and their methods, and settings hold paths only. They miss two kinds
of words that are made from the scene: a variable gets an underscore in front of one of the ten
digits but not of other numbers, and the module of a type is its name in snake case, which may be
reserved.

## Main definitions

- `FailsInside` — an outcome is an internal error
- `Naming.startsWithOtherNumber` — the ids of objects that have no variable

## Main results

- `Inspection.never_unprintable` — sources of object types have no internal errors
- `Naming.isIdentifier_variableName` — which variables are identifiers
- `failsInside_program_iff` — when the program of a project is refused with an internal error
-/

namespace RobotCell

open Script

/-! ### Outcomes -/

/-- The outcome is an error of the compiler itself. -/
def FailsInside {α : Type} (outcome : Except CompileError α) : Prop :=
  ∃ e, outcome = .error e ∧ e.isInternal = true

section Outcomes

variable {α β : Type}

theorem not_failsInside_ok (a : α) : ¬FailsInside (.ok a) := by
  rintro ⟨e, ⟨⟩, -⟩

theorem not_failsInside_error {e : CompileError} (h : e.isInternal = false) :
    ¬FailsInside (.error e : Except CompileError α) := by
  rintro ⟨_, ⟨⟩, internal⟩
  rw [h] at internal
  cases internal

/-- Behind a step that does not fail inside, only the later steps can. -/
theorem failsInside_bind_iff {x : Except CompileError α} {f : α → Except CompileError β}
    (h : ¬FailsInside x) : FailsInside (x >>= f) ↔ ∃ a, x = .ok a ∧ FailsInside (f a) := by
  cases x with
  | ok a => simp
  | error e =>
    have external : ¬FailsInside (Except.error e : Except CompileError β) := by
      rintro ⟨_, ⟨⟩, internal⟩
      exact h ⟨e, rfl, internal⟩
    simpa using external

theorem not_failsInside_bind {x : Except CompileError α} {f : α → Except CompileError β}
    (hx : ¬FailsInside x) (hf : ∀ a, x = .ok a → ¬FailsInside (f a)) : ¬FailsInside (x >>= f) := by
  rw [failsInside_bind_iff hx]
  rintro ⟨a, ha, inside⟩
  exact hf a ha inside

theorem not_failsInside_ofCell (x : Except CellError α) : ¬FailsInside (CompileError.ofCell x) := by
  cases x with
  | ok a => exact not_failsInside_ok a
  | error e => exact not_failsInside_error rfl

theorem not_failsInside_ofSource (x : Except SourceError α) :
    ¬FailsInside (CompileError.ofSource x) := by
  cases x with
  | ok a => exact not_failsInside_ok a
  | error e => exact not_failsInside_error rfl

theorem not_failsInside_forM {f : α → Except CompileError Unit} (h : ∀ a, ¬FailsInside (f a))
    (as : List α) : ¬FailsInside (as.forM f) := by
  induction as with
  | nil => exact not_failsInside_ok ()
  | cons a as ih => exact not_failsInside_bind (h a) fun _ _ => ih

theorem not_failsInside_mapM {f : α → Except CompileError β} {as : List α}
    (h : ∀ a ∈ as, ¬FailsInside (f a)) : ¬FailsInside (as.mapM f) := by
  induction as with
  | nil => exact not_failsInside_ok []
  | cons a as ih =>
    obtain ⟨first, later⟩ := List.forall_mem_cons.1 h
    rw [List.mapM_cons]
    exact not_failsInside_bind first fun _ _ =>
      not_failsInside_bind (ih later) fun _ _ => not_failsInside_ok _

theorem not_failsInside_foldlM {f : β → α → Except CompileError β}
    (h : ∀ b a, ¬FailsInside (f b a)) (start : β) (as : List α) :
    ¬FailsInside (as.foldlM f start) := by
  induction as generalizing start with
  | nil => exact not_failsInside_ok start
  | cons a as ih =>
    rw [List.foldlM_cons]
    exact not_failsInside_bind (h start a) fun b _ => ih b

/-- The one kind of internal errors are those of writing. -/
theorem ne_render_of_not_failsInside {x : Except CompileError α} (h : ¬FailsInside x)
    (fault : RenderError) : x ≠ .error (.render fault) := by
  rintro rfl
  exact h ⟨_, rfl, rfl⟩

end Outcomes

/-! ### The checks -/

theorem not_failsInside_checkScene (scene : Scene) : ¬FailsInside (checkScene scene) := by
  have objects (earlier objects : List SceneObject) :
      ¬FailsInside (checkObjects earlier objects) := by
    induction objects generalizing earlier with
    | nil => exact not_failsInside_ok ()
    | cons o objects ih =>
      unfold checkObjects
      split
      · exact not_failsInside_error rfl
      · split
        · exact not_failsInside_error rfl
        · dsimp only
          split
          · exact not_failsInside_error rfl
          · exact ih _
  exact objects [] scene.objects

theorem ActionTable.not_failsInside_follow (t : ActionTable) (bound : Nat) (visited : List String)
    (a : Action) : ¬FailsInside (t.follow bound visited a) := by
  induction bound generalizing visited a with
  | zero => exact not_failsInside_error rfl
  | succ bound ih =>
    unfold follow
    split
    · exact not_failsInside_error rfl
    · split
      · exact not_failsInside_ok _
      · split
        · split
          · exact not_failsInside_error rfl
          · -- an error behind the action is passed on as it is
            next b _ =>
            have later := ih (a.id :: visited) b
            cases read : t.follow bound (a.id :: visited) b with
            | ok path => exact not_failsInside_ok _
            | error e =>
              rintro ⟨_, ⟨⟩, internal⟩
              exact later ⟨e, read, internal⟩
        · exact not_failsInside_error rfl

theorem not_failsInside_chain (project : Project) : ¬FailsInside (chain project) := by
  refine not_failsInside_bind (not_failsInside_ofCell _) fun t _ => ?_
  have start : ¬FailsInside t.start := by
    unfold ActionTable.start
    split
    · exact not_failsInside_error rfl
    · exact not_failsInside_ok _
    · exact not_failsInside_error rfl
  have checkEnd : ¬FailsInside t.checkEnd := by
    unfold ActionTable.checkEnd
    split
    · exact not_failsInside_error rfl
    · exact not_failsInside_ok _
    · exact not_failsInside_error rfl
  refine not_failsInside_bind start fun a _ => not_failsInside_bind checkEnd fun _ _ => ?_
  refine not_failsInside_bind (t.not_failsInside_follow t.size [] a) fun path _ => ?_
  split_ifs
  · exact not_failsInside_ok _
  · exact not_failsInside_error rfl

theorem not_failsInside_checkAction (scene : Scene) (catalog : Catalog) (a : Action) :
    ¬FailsInside (checkAction scene catalog a) := by
  unfold checkAction
  split
  · exact not_failsInside_error rfl
  · refine not_failsInside_bind (not_failsInside_ofCell _) fun target _ => ?_
    dsimp only
    split
    · exact not_failsInside_error rfl
    · refine not_failsInside_bind (not_failsInside_ofCell _) fun action _ => ?_
      split
      · exact not_failsInside_error rfl
      · split
        · exact not_failsInside_error rfl
        · exact not_failsInside_ok ()

theorem not_failsInside_programScript (settings : Settings) (scene : Scene) (path : List Action) :
    ¬FailsInside (programScript settings scene path) := by
  refine not_failsInside_bind (not_failsInside_ofSource _) fun _ _ => ?_
  refine not_failsInside_bind (not_failsInside_ofSource _) fun _ _ => ?_
  refine not_failsInside_bind (not_failsInside_ofSource _) fun _ _ => ?_
  exact not_failsInside_bind (not_failsInside_ofCell _) fun _ _ => not_failsInside_ok _

variable {settings : Settings} {project : Project} {scene : Scene} {catalog : Catalog}

/-- A program fails inside if all checks pass and the script that calls the actions cannot be
written. -/
theorem failsInside_program_iff_check :
    FailsInside (program settings project scene catalog) ↔
      checkScene scene = .ok () ∧ (∀ o ∈ scene.objects, o.KeepsResources) ∧
        ∃ path calls, chain project = .ok path ∧
          (∀ a ∈ path, checkAction scene catalog a = .ok ()) ∧
          List.Forall₂ (fun a c => ActionCall.IsOf c a) path calls ∧
          checkBlock (calledScript settings scene calls) ≠ .ok () := by
  have writes (script : Block) :
      FailsInside (CompileError.ofRender (render script) >>= fun text =>
        (pure (scriptHeader ++ text) : Except CompileError String)) ↔
        checkBlock script ≠ .ok () := by
    rw [render]
    cases checkBlock script with
    | ok _ => simpa [CompileError.ofRender] using not_failsInside_ok _
    | error e => simp [CompileError.ofRender, FailsInside, CompileError.isInternal]
  have actions (path : List Action) :=
    not_failsInside_forM (not_failsInside_checkAction scene catalog) path
  simp only [program, failsInside_bind_iff (not_failsInside_checkScene scene),
    failsInside_bind_iff (not_failsInside_chain project), failsInside_bind_iff (actions _),
    failsInside_bind_iff (not_failsInside_programScript settings scene _), writes]
  constructor
  · rintro ⟨⟨⟩, hscene, path, hpath, ⟨⟩, hactions, script, hscript, refused⟩
    have distinct := (checkScene_eq_ok_iff.1 hscene).2
    obtain ⟨keep, body, steps, rfl⟩ :=
      (programScript_eq_ok_iff (ne_nil_of_chain_eq_ok hpath) distinct).1 hscript
    obtain ⟨calls, called, rfl⟩ := forall₂_actionCall_iff.1 steps
    exact ⟨hscene, keep, path, calls, hpath, forM_eq_ok_iff.1 hactions, called, refused⟩
  · rintro ⟨hscene, keep, path, calls, hpath, hactions, called, refused⟩
    have distinct := (checkScene_eq_ok_iff.1 hscene).2
    have steps := forall₂_actionCall_iff.2 ⟨calls, called, rfl⟩
    exact ⟨(), hscene, path, hpath, (), forM_eq_ok_iff.2 hactions, _,
      (programScript_eq_ok_iff (ne_nil_of_chain_eq_ok hpath) distinct).2 ⟨keep, _, steps, rfl⟩,
      refused⟩

/-! ### Sources of object types -/

namespace Inspection

variable {cls : ClassDef Stmt}

theorem not_failsInside_classOf (source : String) : ¬FailsInside (classOf source) := by
  have read : ¬FailsInside (CompileError.parseScript source) := by
    unfold CompileError.parseScript
    split
    · exact not_failsInside_ok _
    · exact not_failsInside_error rfl
  refine not_failsInside_bind read fun script _ => ?_
  split
  · exact not_failsInside_error rfl
  · exact not_failsInside_ok _
  · exact not_failsInside_error rfl

/-- Where the base of a class is no name, its text is taken, which it has. -/
theorem not_failsInside_baseOf (formed : ∀ base ∈ cls.bases, Formed base) :
    ¬FailsInside (baseOf cls) := by
  unfold baseOf
  split
  · exact not_failsInside_ok _
  · next base only =>
    split
    · exact not_failsInside_ok _
    · have text := (formed base (only ▸ List.mem_singleton_self base)).renderExpr_eq_ok
      rw [text]
      exact not_failsInside_ok _
  · exact not_failsInside_error rfl

theorem not_failsInside_typeOf (formed : ∀ base ∈ cls.bases, Formed base) :
    ¬FailsInside (typeOf cls) := by
  have description : ¬FailsInside (descriptionOf cls) := by
    unfold descriptionOf
    split
    · exact not_failsInside_error rfl
    · split
      · exact not_failsInside_ok _
      · exact not_failsInside_ok _
  refine not_failsInside_bind (not_failsInside_baseOf formed) fun _ _ => ?_
  exact not_failsInside_bind description fun _ _ => not_failsInside_ok _

theorem not_failsInside_flagsOf (method : String) (value : Expr) :
    ¬FailsInside (flagsOf method value) := by
  have add (flags : ActionFlags) (argument : Argument Expr) :
      ¬FailsInside (addFlag method flags argument) := by
    unfold addFlag
    split
    · exact not_failsInside_error rfl
    · split
      · exact not_failsInside_error rfl
      · split
        · exact not_failsInside_ok _
        · exact not_failsInside_error rfl
  unfold flagsOf
  split
  · split
    · exact not_failsInside_foldlM add _ _
    · exact not_failsInside_error rfl
  · exact not_failsInside_error rfl

theorem not_failsInside_argOf {p : Param Expr} (formed : ∀ hint ∈ p.hint, Formed hint)
    (method : String) : ¬FailsInside (argOf method p) := by
  by_cases variadic : p.kind = .varArgs ∨ p.kind = .varKeywords
  · rw [argOf, if_pos variadic]
    exact not_failsInside_error rfl
  · rw [argOf, if_neg variadic]
    cases given : p.hint with
    | none => exact not_failsInside_error rfl
    | some hint =>
      obtain ⟨text, written⟩ := exists_typeText (formed hint given)
      simp only [written]
      exact not_failsInside_ok _

theorem not_failsInside_actionsAmong {methods : List (FunctionDef Stmt)}
    (formed : ∀ d ∈ methods, ∀ p ∈ d.params, ∀ hint ∈ p.hint, Formed hint)
    (table : List (String × ActionFlags)) : ¬FailsInside (actionsAmong table methods) := by
  induction methods generalizing table with
  | nil =>
    unfold actionsAmong
    split
    · exact not_failsInside_ok _
    · exact not_failsInside_error rfl
  | cons d methods ih =>
    obtain ⟨first, later⟩ := List.forall_mem_cons.1 formed
    have args : ¬FailsInside ((ownParams d.params).mapM (argOf d.name)) :=
      not_failsInside_mapM fun p hp => not_failsInside_argOf (first p (mem_of_mem_ownParams hp)) _
    unfold actionsAmong
    split
    · split
      · exact not_failsInside_error rfl
      · exact not_failsInside_bind args fun _ _ =>
          not_failsInside_bind (ih later _) fun _ _ => not_failsInside_ok _
    · split
      · exact not_failsInside_error rfl
      · exact ih later table

theorem not_failsInside_actionsOf (formed : ∀ s ∈ cls.body, FormedStmt s) :
    ¬FailsInside (actionsOf cls) := by
  have flags : ¬FailsInside (flagTable cls) := by
    refine not_failsInside_foldlM (fun table entry => ?_) _ _
    exact not_failsInside_bind (not_failsInside_flagsOf entry.1 entry.2) fun _ _ =>
      not_failsInside_ok _
  refine not_failsInside_bind flags fun table _ => not_failsInside_actionsAmong ?_ table
  intro d hd p hp hint given
  cases formed _ (mem_methodsOf_iff.1 hd) with
  | functionDef _ _ _ _ _ hints => exact hints p hp hint given

variable (source : String)

theorem not_failsInside_type : ¬FailsInside (classOf source >>= typeOf) := by
  refine not_failsInside_bind (not_failsInside_classOf source) fun cls found => ?_
  cases formedStmt_of_classOf found with
  | classDef _ _ bases => exact not_failsInside_typeOf bases

theorem not_failsInside_actions : ¬FailsInside (classOf source >>= actionsOf) :=
  not_failsInside_bind (not_failsInside_classOf source) fun _ found =>
    not_failsInside_actionsOf (formed_of_classOf found)

theorem not_failsInside_entryOf : ¬FailsInside (entryOf source) := by
  refine not_failsInside_bind (not_failsInside_classOf source) fun cls found => ?_
  cases formedStmt_of_classOf found with
  | classDef _ _ bases _ _ body =>
    refine not_failsInside_bind (not_failsInside_typeOf bases) fun _ _ => ?_
    exact not_failsInside_bind (not_failsInside_actionsOf body) fun _ _ => not_failsInside_ok _

/-- An expression that is read from the start of a text can be written. So no source of an object type
is refused because something that was read from it cannot be written, whether its type, its actions
or both are asked for, or it is only checked. -/
theorem never_unprintable :
    (∀ e, parseExpr source = .ok e → ∃ text, renderExpr e = .ok text) ∧
      ∀ fault, (classOf source >>= typeOf) ≠ .error (.render fault) ∧
        (classOf source >>= actionsOf) ≠ .error (.render fault) ∧
        entryOf source ≠ .error (.render fault) ∧
        (entryOf source).map (fun _ => ()) ≠ .error (.render fault) := by
  have entry := not_failsInside_entryOf source
  have checked : ¬FailsInside ((entryOf source).map fun _ => ()) :=
    not_failsInside_bind entry fun _ _ => not_failsInside_ok ()
  refine ⟨fun e read => ⟨e.bareText, (formed_of_parseExpr read).renderExpr_eq_ok⟩, fun fault => ?_⟩
  exact ⟨ne_render_of_not_failsInside (not_failsInside_type source) fault,
    ne_render_of_not_failsInside (not_failsInside_actions source) fault,
    ne_render_of_not_failsInside entry fault, ne_render_of_not_failsInside checked fault⟩

/-- An expression with most of the forms that cannot be written without one of their parts. -/
def slicesSource : String := "a[b:, ::-c] if not (d := e) < f and g else lambda *h: [i for j in k]"

theorem never_unprintable_slices :
    ∃ e text, parseExpr slicesSource = .ok e ∧ renderExpr e = .ok text := by
  have reads : (parseExpr slicesSource).toOption.isSome = true := by decide +kernel
  cases read : parseExpr slicesSource with
  | error fault => simp [read, Except.toOption] at reads
  | ok e =>
    obtain ⟨text, written⟩ := (never_unprintable slicesSource).1 e read
    exact ⟨e, text, rfl, written⟩

end Inspection

/-! ### Variables of objects -/

namespace Naming

/-- The name starts with a number that is none of the ten digits, such as a superscript. -/
def startsWithOtherNumber (id : String) : Bool :=
  (snakeCase id).toList.head?.any fun c => isAlphanumeric c && !Text.isAlphabetic c && !c.isDigit

theorem isNameChar_nameChar (c : Char) : isNameChar (nameChar c) = true := by
  unfold nameChar
  split_ifs with h
  · rwa [isNameChar, Bool.or_comm]
  · decide

/-- A reserved word is an identifier with an underscore behind it. -/
theorem isIdentifier_unreserved (name : String) :
    isIdentifier (if isKeyword name then name ++ "_" else name) = isWord name.toList := by
  split_ifs with reserved
  · -- there are only so many reserved words, and none has an underscore at its end
    obtain ⟨k, found⟩ := Option.isSome_iff_exists.1 reserved
    obtain rfl : k.spelling = name := by simpa using List.find?_some found
    cases k <;> decide
  · simp [isIdentifier, reserved]

/-- The variable of an object is an identifier unless it starts with another number than one of the
ten digits. -/
theorem isIdentifier_variableName (id : String) :
    isIdentifier (variableName id) = !startsWithOtherNumber id := by
  have tail (cs : List Char) : (cs.map nameChar).all isNameChar = true := by
    simp [isNameChar_nameChar]
  rw [variableName, isIdentifier_unreserved, String.toList_ofList, startsWithOtherNumber]
  cases (snakeCase id).toList with
  | nil => rfl
  | cons c cs =>
    rw [List.map_cons, List.head?_cons, Option.any_some]
    by_cases kept : (isAlphanumeric c || c == '_') = true
    · have name : isNameChar c = true := by rwa [isNameChar, Bool.or_comm]
      rw [nameChar, if_pos kept]
      by_cases digit : c.isDigit = true
      · -- the underscore in front of it starts the word
        have start : isNameStart '_' = true := rfl
        rw [needsUnderscore, if_pos digit, isWord, start, List.all_cons, name, tail cs]
        simp [digit]
      · have underscore : isAlphanumeric '_' = false := by decide
        rw [needsUnderscore, if_neg digit, isWord, tail cs, Bool.and_true]
        by_cases same : c = '_'
        · subst same
          rw [underscore]
          rfl
        · have number : isAlphanumeric c = true := by simpa [same] using kept
          simp [isNameStart, same, number, digit]
    · -- the underscore in its place starts the word
      have other : isAlphanumeric c = false := by
        by_contra number
        simp [number] at kept
      have start : isWord ('_' :: cs.map nameChar) = true := by
        rw [isWord, tail cs]
        rfl
      rw [nameChar, if_neg kept, needsUnderscore, if_neg (by decide), start, other]
      rfl

end Naming

/-! ### Modules -/

/-- The modules of the settings are paths. -/
def Settings.HasPaths (s : Settings) : Prop :=
  isPath s.builtInModule = true ∧ isPath s.typesPackage = true ∧ isPath s.resourcesModule = true

theorem Settings.hasPaths_default : Settings.HasPaths {} := by
  refine ⟨?_, ?_, ?_⟩ <;> decide

theorem Settings.isPath_of_moduleField {members : List (String × Toml.Value)}
    {name preset path : String} (h : moduleField members name preset = .ok path) :
    isPath path = true := by
  obtain ⟨found, -, h⟩ := bind_eq_ok_iff.1 h
  rw [guard_eq_ok_iff] at h
  obtain ⟨isModule, rfl⟩ := h
  rw [isModulePath, Bool.and_eq_true] at isModule
  exact isModule.2

theorem Settings.hasPaths_of_parse {source : String} {s : Settings}
    (h : Settings.parse source = .ok s) : s.HasPaths := by
  unfold Settings.parse at h
  split at h
  · cases h
  · split at h
    · obtain rfl := Except.ok.inj h
      exact hasPaths_default
    · obtain ⟨types, -, h⟩ := bind_eq_ok_iff.1 h
      obtain ⟨builtIn, hbuiltIn, h⟩ := bind_eq_ok_iff.1 h
      obtain ⟨package, hpackage, h⟩ := bind_eq_ok_iff.1 h
      obtain ⟨resources, hresources, h⟩ := bind_eq_ok_iff.1 h
      obtain ⟨typesDir, -, h⟩ := bind_eq_ok_iff.1 h
      obtain ⟨builtInDir, -, h⟩ := bind_eq_ok_iff.1 h
      obtain rfl := Except.ok.inj h
      exact ⟨isPath_of_moduleField hbuiltIn, isPath_of_moduleField hpackage,
        isPath_of_moduleField hresources⟩
    · cases h
  · obtain rfl := Except.ok.inj h
    exact hasPaths_default

/-- The module of a type can be imported from unless its name in snake case is no path. -/
theorem Settings.HasPaths.isImportable_typeModule (h : settings.HasPaths) (type : String) :
    isImportable (settings.typeModule type) = true ↔
      settings.isBuiltIn type = true ∨ isPath (Naming.snakeCase type) = true := by
  obtain ⟨builtIn, package, -⟩ := h
  unfold Settings.typeModule
  split_ifs with known
  · simp [isImportable, builtIn, known]
  · have filled : (settings.typesPackage ++ "." ++ Naming.snakeCase type).isEmpty = false := by
      simp
    rw [isImportable, filled, Bool.false_or, isPath_append, package, Bool.true_and]
    simp [known]

/-! ### Calls -/

/-- The words of the call of an action that was checked are identifiers, if the variables of the
objects are. -/
theorem isIdentifier_of_isOf
    (inspected : ∀ e ∈ catalog.types, ∃ source, Inspection.entryOf source = .ok e) {a : Action}
    {c : ActionCall} (checked : checkAction scene catalog a = .ok ()) (call : c.IsOf a)
    (named : ∀ o ∈ scene.objects, isIdentifier (Naming.variableName o.id) = true) :
    isIdentifier c.object = true ∧ isIdentifier c.method = true ∧ isIdentifier c.action = true := by
  obtain ⟨hid, objectId, method, o, action, target, found, known, -⟩ :=
    checkAction_eq_ok_iff.1 checked
  obtain ⟨same, fits⟩ := call
  obtain ⟨object, target', variable_⟩ := (ActionCall.fits_iff c a).1 fits
  obtain ⟨rfl, rfl⟩ := Prod.mk.inj (Except.ok.inj (target.symm.trans target'))
  obtain ⟨name, e, he, ha⟩ := Catalog.exists_entry_of_action? known
  obtain ⟨source, read⟩ := inspected e he
  have objectName : o.id = objectId := by simpa using List.find?_some found
  refine ⟨?_, ?_, same ▸ hid⟩
  · rw [← variable_, ← objectName]
    exact named o (List.mem_of_find?_eq_some found)
  · exact name ▸ Inspection.isIdentifier_of_entryOf read action ha

theorem isIdentifier_of_mem_calls
    (inspected : ∀ e ∈ catalog.types, ∃ source, Inspection.entryOf source = .ok e)
    {path : List Action} {calls : List ActionCall}
    (checked : ∀ a ∈ path, checkAction scene catalog a = .ok ())
    (called : List.Forall₂ (fun a c => ActionCall.IsOf c a) path calls)
    (named : ∀ o ∈ scene.objects, isIdentifier (Naming.variableName o.id) = true) :
    ∀ c ∈ calls, isIdentifier c.object = true ∧ isIdentifier c.method = true ∧
      isIdentifier c.action = true := by
  induction called with
  | nil => exact List.forall_mem_nil _
  | cons call _ ih =>
    obtain ⟨first, later⟩ := List.forall_mem_cons.1 checked
    exact List.forall_mem_cons.2 ⟨isIdentifier_of_isOf inspected first call named, ih later⟩

/-- Actions that were checked have calls. -/
theorem exists_calls_of_checkAction {path : List Action}
    (h : ∀ a ∈ path, checkAction scene catalog a = .ok ()) :
    ∃ calls : List ActionCall, List.Forall₂ (fun a c => c.IsOf a) path calls := by
  induction path with
  | nil => exact ⟨[], .nil⟩
  | cons a path ih =>
    obtain ⟨first, later⟩ := List.forall_mem_cons.1 h
    obtain ⟨calls, called⟩ := ih later
    obtain ⟨-, objectId, method, -, -, target, -, -, -⟩ := checkAction_eq_ok_iff.1 first
    obtain ⟨name, named⟩ : ∃ name, Naming.variableName objectId = name := ⟨_, rfl⟩
    refine ⟨⟨name, method, a.id⟩ :: calls, .cons ⟨rfl, ?_⟩ called⟩
    exact (ActionCall.fits_iff _ a).2 ⟨objectId, target, named⟩

/-! ### Programs -/

/-- The object has a variable, and its type has a module. -/
def SceneObject.IsWritable (settings : Settings) (o : SceneObject) : Prop :=
  Naming.startsWithOtherNumber o.id = false ∧
    (settings.isBuiltIn o.type = true ∨ isPath (Naming.snakeCase o.type) = true)

/-- The script that calls actions that were checked is written if its objects are. -/
theorem checkBlock_calledScript_iff_isWritable (paths : settings.HasPaths)
    (inspected : ∀ e ∈ catalog.types, ∃ source, Inspection.entryOf source = .ok e)
    (hscene : checkScene scene = .ok ()) {path : List Action} {calls : List ActionCall}
    (hpath : chain project = .ok path) (actions : ∀ a ∈ path, checkAction scene catalog a = .ok ())
    (called : List.Forall₂ (fun a c => ActionCall.IsOf c a) path calls) :
    checkBlock (calledScript settings scene calls) = .ok () ↔
      ∀ o ∈ scene.objects, o.IsWritable settings := by
  have resources : isImportable settings.resourcesModule = true := by
    rw [isImportable, paths.2.2, Bool.or_true]
  have res : isIdentifier resourcesVar = true := by decide
  have named (o : SceneObject) : (Naming.variableName o.id ≠ resourcesVar →
      isIdentifier (Naming.variableName o.id) = true) ↔
        Naming.startsWithOtherNumber o.id = false := by
    -- the variable of the resources is an identifier itself
    have same : (Naming.variableName o.id ≠ resourcesVar →
        isIdentifier (Naming.variableName o.id) = true) ↔
          isIdentifier (Naming.variableName o.id) = true := by
      constructor
      · intro h
        by_cases taken : Naming.variableName o.id = resourcesVar
        · rw [taken]
          exact res
        · exact h taken
      · exact fun h _ => h
    rw [same, Naming.isIdentifier_variableName, Bool.not_eq_true']
  rw [checkBlock_calledScript_iff hscene]
  simp only [named, paths.isImportable_typeModule]
  constructor
  · rintro ⟨-, objects, -⟩ o ho
    exact (objects o ho).symm
  · intro objects
    refine ⟨resources, fun o ho => (objects o ho).symm, ne_nil_of_isOf hpath called, ?_⟩
    refine isIdentifier_of_mem_calls inspected actions called fun o ho => ?_
    rw [Naming.isIdentifier_variableName, (objects o ho).1]
    rfl

/-- With settings from a file or the default ones, and with types that were read from sources, the
program of a project is refused with an internal error if all checks pass and the scene has an
object whose id starts with another number than one of the ten digits, or whose type is in no module
of the project: it is not one of the runtime library, and its name in snake case is no path. -/
theorem failsInside_program_iff
    (configured : settings = {} ∨ ∃ source, Settings.parse source = .ok settings)
    (inspected : ∀ e ∈ catalog.types, ∃ source, Inspection.entryOf source = .ok e) :
    FailsInside (program settings project scene catalog) ↔
      (checkScene scene = .ok () ∧ (∀ o ∈ scene.objects, o.KeepsResources) ∧
        ∃ path, chain project = .ok path ∧ ∀ a ∈ path, checkAction scene catalog a = .ok ()) ∧
      ∃ o ∈ scene.objects, Naming.startsWithOtherNumber o.id = true ∨
        settings.isBuiltIn o.type = false ∧ isPath (Naming.snakeCase o.type) = false := by
  have paths : settings.HasPaths := by
    rcases configured with rfl | ⟨source, read⟩
    · exact Settings.hasPaths_default
    · exact Settings.hasPaths_of_parse read
  have refused : (∃ o ∈ scene.objects, Naming.startsWithOtherNumber o.id = true ∨
      settings.isBuiltIn o.type = false ∧ isPath (Naming.snakeCase o.type) = false) ↔
        ¬∀ o ∈ scene.objects, o.IsWritable settings := by
    simp [SceneObject.IsWritable, imp_iff_not_or]
  rw [failsInside_program_iff_check, refused]
  constructor
  · rintro ⟨hscene, keep, path, calls, hpath, actions, called, unwritten⟩
    refine ⟨⟨hscene, keep, path, hpath, actions⟩, ?_⟩
    rwa [← checkBlock_calledScript_iff_isWritable paths inspected hscene hpath actions called]
  · rintro ⟨⟨hscene, keep, path, hpath, actions⟩, unwritable⟩
    obtain ⟨calls, called⟩ := exists_calls_of_checkAction actions
    refine ⟨hscene, keep, path, calls, hpath, actions, called, ?_⟩
    rwa [ne_eq, checkBlock_calledScript_iff_isWritable paths inspected hscene hpath actions called]

/-! ### A cell with one arm -/

def armSource : String :=
  "class Arm:\n @action\n def go(self): pass\n go.__action__ = ActionMetadata()\n"

def armCatalog : Catalog :=
  .ofList [⟨⟨"Arm", none, ""⟩, [⟨"go", .none, []⟩]⟩]

theorem inspected_armCatalog :
    ∀ e ∈ armCatalog.types, ∃ source, Inspection.entryOf source = .ok e :=
  List.forall_mem_singleton.2 ⟨armSource, by decide +kernel⟩

def armPath : List Action :=
  [⟨"pick", "arm/go", [.first], [.last], []⟩]

def armProject : Project where
  id := "picking"
  sceneId := "cell"
  desc := ""
  actions := armPath
  parameters := []

/-- The scene with the arm and one object more. -/
def sceneWith (o : SceneObject) : Scene where
  id := "cell"
  desc := ""
  objects := [⟨"arm", "Arm"⟩, o]

/-- The type of the other object would be in a module with a reserved name. -/
theorem failsInside_program_class :
    (∀ e ∈ armCatalog.types, ∃ source, Inspection.entryOf source = .ok e) ∧
      FailsInside (program {} armProject (sceneWith ⟨"tool", "Class"⟩) armCatalog) := by
  refine ⟨inspected_armCatalog, (failsInside_program_iff (.inl rfl) inspected_armCatalog).2
    ⟨⟨rfl, ?_, armPath, rfl, List.forall_mem_singleton.2 rfl⟩, ?_⟩⟩
  · simp only [sceneWith, SceneObject.KeepsResources, List.forall_mem_cons]
    decide
  · exact ⟨⟨"tool", "Class"⟩, by simp [sceneWith], .inr ⟨by decide, by decide⟩⟩

/-- A superscript stays as it is, but no identifier starts with one. -/
theorem Naming.variableName_superscript :
    variableName "²" = "²" ∧ isIdentifier "²" = false := by
  decide +kernel

/-- The variable of the other object is a superscript, which is no identifier. -/
theorem failsInside_program_superscript :
    (∀ e ∈ armCatalog.types, ∃ source, Inspection.entryOf source = .ok e) ∧
      FailsInside (program {} armProject (sceneWith ⟨"²", "Robot"⟩) armCatalog) := by
  have hscene : checkScene (sceneWith ⟨"²", "Robot"⟩) = .ok () := by
    rw [checkScene_eq_ok_iff]
    simp only [sceneWith, List.forall_mem_cons, List.map_cons, List.map_nil,
      Naming.variableName_superscript.1]
    decide
  have actions : ∀ a ∈ armPath, checkAction (sceneWith ⟨"²", "Robot"⟩) armCatalog a = .ok () :=
    List.forall_mem_singleton.2 rfl
  obtain ⟨calls, called⟩ := exists_calls_of_checkAction actions
  refine ⟨inspected_armCatalog, failsInside_program_iff_check.2
    ⟨hscene, ?_, armPath, calls, rfl, actions, called, ?_⟩⟩
  · simp only [sceneWith, SceneObject.KeepsResources, List.forall_mem_cons,
      Naming.variableName_superscript.1]
    decide
  · intro written
    obtain ⟨-, objects, -⟩ := (checkBlock_calledScript_iff hscene).1 written
    have identifier := (objects ⟨"²", "Robot"⟩ (by simp [sceneWith])).2
    rw [Naming.variableName_superscript.1, Naming.variableName_superscript.2] at identifier
    cases identifier (by decide)

end RobotCell
