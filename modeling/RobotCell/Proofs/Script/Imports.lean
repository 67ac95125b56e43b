import RobotCell.Proofs.Script.Checked
import RobotCell.Proofs.Script.FunctionPlace
import RobotCell.Script.Edit

/-!
# Names added to imports

A name that is imported goes into the first import from its module, or into a new import. This keeps
a script that can be written as it is, unless the import has everything of its module: the star has
to be alone in its import, but the name is put beside it.

## Main definitions

- `importedFrom?` — the names in the first import from a module
- `importsAll` — the first import from a module imports everything
- `IsImportPlace` — where a new import goes
- `AddsImport` — a script with a name imported

## Main results

- `addImport_cases` — where a name goes
- `importedFrom?_addImport` — what is imported afterwards
- `checkBlock_addImport_iff` — when the script can be written afterwards
- `addImport_adds_once` — a name is added in one place, once
-/

namespace RobotCell.Script

/-! ### Imports -/

/-- The names that a statement imports from a module. -/
def Stmt.namesFrom? (module : String) : Stmt → Option (List Alias)
  | .importFrom module' names 0 => if module' = module then some names else none
  | _ => none

/-- The names in the first import from a module at the top level of a script. -/
def importedFrom? (script : Block) (module : String) : Option (List Alias) :=
  script.findSome? (Stmt.namesFrom? module)

/-- The first import from the module imports everything. -/
def importsAll (script : Block) (module : String) : Bool :=
  (importedFrom? script module).any isStarImport

section Imports

variable {script script' : Block} {module name : String}

theorem namesFrom?_eq_some_iff {s : Stmt} {names : List Alias} :
    s.namesFrom? module = some names ↔ s = .importFrom module names 0 := by
  constructor
  · intro h
    unfold Stmt.namesFrom? at h
    split at h
    · split_ifs at h with same
      cases h
      rw [same]
    · cases h
  · rintro rfl
    exact if_pos rfl

theorem mem_of_importedFrom? {names : List Alias}
    (h : importedFrom? script module = some names) : .importFrom module names 0 ∈ script := by
  obtain ⟨s, hs, found⟩ := List.exists_of_findSome?_eq_some h
  exact namesFrom?_eq_some_iff.1 found ▸ hs

theorem importedFrom?_append_cons {front back : Block} {names : List Alias}
    (first : ∀ s ∈ front, s.namesFrom? module = none) :
    importedFrom? (front ++ .importFrom module names 0 :: back) module = some names := by
  rw [importedFrom?, List.findSome?_append, List.findSome?_eq_none_iff.2 first, Option.none_or,
    List.findSome?_cons, namesFrom?_eq_some_iff.2 rfl]

/-- The first statement is the import that gets the name, or the import is behind it. -/
theorem extendImport?_cons (module name : String) (s : Stmt) (script : Block) :
    (∃ names, s = .importFrom module names 0 ∧ extendImport? module name (s :: script) =
      some (.importFrom module (addAlias names name) 0 :: script)) ∨
    s.namesFrom? module = none ∧ extendImport? module name (s :: script) =
      (extendImport? module name script).map fun rest => s :: rest := by
  fun_cases Stmt.namesFrom? module s with
  | case1 names => exact .inl ⟨names, rfl, by rw [extendImport?, if_pos rfl]⟩
  | case2 module' names other => exact .inr ⟨rfl, by rw [extendImport?, if_neg other]⟩
  | case3 s other => exact .inr ⟨rfl, extendImport?.eq_3 module name s script other⟩

/-- An import that is there gets one more name. -/
theorem extendImport?_eq_some (h : extendImport? module name script = some script') :
    ∃ front names back, script = front ++ .importFrom module names 0 :: back ∧
      script' = front ++ .importFrom module (addAlias names name) 0 :: back ∧
      ∀ s ∈ front, s.namesFrom? module = none := by
  induction script generalizing script' with
  | nil => cases h
  | cons s script ih =>
    obtain ⟨names, rfl, here⟩ | ⟨other, behind⟩ := extendImport?_cons module name s script
    · rw [here, Option.some_inj] at h
      exact ⟨[], names, script, rfl, h.symm, List.forall_mem_nil _⟩
    · obtain ⟨rest, found, rfl⟩ := Option.map_eq_some_iff.1 (behind ▸ h)
      obtain ⟨front, names, back, rfl, rfl, none⟩ := ih found
      exact ⟨s :: front, names, back, rfl, rfl, List.forall_mem_cons.2 ⟨other, none⟩⟩

theorem namesFrom?_eq_none_of_extendImport? (h : extendImport? module name script = none) :
    ∀ s ∈ script, s.namesFrom? module = none := by
  induction script with
  | nil => exact List.forall_mem_nil _
  | cons s script ih =>
    obtain ⟨names, rfl, here⟩ | ⟨other, behind⟩ := extendImport?_cons module name s script
    · rw [here] at h
      cases h
    · exact List.forall_mem_cons.2 ⟨other, ih (Option.map_eq_none_iff.1 (behind ▸ h))⟩

theorem append_splitAfterLast {α : Type} (p : α → Bool) (l : List α) :
    (splitAfterLast p l).1 ++ (splitAfterLast p l).2 = l := by
  fun_induction splitAfterLast p l with
  | case1 => rfl
  | case2 a rest tail found holds ih => rw [found] at ih; exact congrArg (a :: ·) ih
  | case3 a rest tail found holds ih => rw [found] at ih; exact congrArg (a :: ·) ih
  | case4 a rest front tail _ found ih => rw [found] at ih; exact congrArg (a :: ·) ih

/-- Behind the cut no element has the property, and the one in front of it has. -/
theorem splitAfterLast_spec {α : Type} (p : α → Bool) (l : List α) :
    (∀ a ∈ (splitAfterLast p l).2, p a = false) ∧
      ((splitAfterLast p l).1 = [] ∨ ∃ front a, (splitAfterLast p l).1 = front ++ [a] ∧ p a = true) := by
  fun_induction splitAfterLast p l with
  | case1 => exact ⟨List.forall_mem_nil _, .inl rfl⟩
  | case2 a rest tail found holds ih =>
    rw [found] at ih
    exact ⟨ih.1, .inr ⟨[], a, rfl, holds⟩⟩
  | case3 a rest tail found fails ih =>
    rw [found] at ih
    exact ⟨List.forall_mem_cons.2 ⟨Bool.eq_false_of_not_eq_true fails, ih.1⟩, .inl rfl⟩
  | case4 a rest front tail filled found ih =>
    rw [found] at ih
    obtain empty | ⟨front, last, rfl, holds⟩ := ih.2
    · exact absurd empty filled
    · exact ⟨ih.1, .inr ⟨a :: front, last, rfl, holds⟩⟩

/-- The place of a new import between the statements of a script: behind the last import, or else at
the top, where a lone string stays in front. -/
inductive IsImportPlace : Block → Block → Prop where
  | behindLast {front back : Block} {last : Stmt} (import_ : last.isImport = true)
      (others : ∀ s ∈ back, s.isImport = false) : IsImportPlace (front ++ [last]) back
  | behindString {back : Block} {first : Stmt} (string : first.isString = true)
      (others : ∀ s ∈ back, s.isImport = false) : IsImportPlace [first] back
  | top {back : Block} (others : ∀ s ∈ back, s.isImport = false)
      (noString : ∀ s ∈ back.head?, s.isString = false) : IsImportPlace [] back

/-- A new import stands at its place between the statements that are there. -/
theorem insertImport_eq (new : Stmt) (script : Block) :
    ∃ front back, script = front ++ back ∧ insertImport new script = front ++ new :: back ∧
      IsImportPlace front back := by
  have whole := append_splitAfterLast Stmt.isImport script
  have cut := splitAfterLast_spec Stmt.isImport script
  fun_cases insertImport new script with
  | case1 found =>
    rw [found] at whole cut
    exact ⟨[], [], whole.symm, rfl, .top cut.1 (by simp)⟩
  | case2 s rest found string =>
    rw [found] at whole cut
    exact ⟨[s], rest, whole.symm, rfl, .behindString string (List.forall_mem_cons.1 cut.1).2⟩
  | case3 s rest found noString =>
    rw [found] at whole cut
    refine ⟨[], s :: rest, whole.symm, rfl, .top cut.1 fun t ht => ?_⟩
    cases ht
    exact Bool.eq_false_of_not_eq_true noString
  | case4 front tail notBoth filled found =>
    rw [found] at whole cut
    obtain empty | ⟨front, last, rfl, import_⟩ := cut.2
    · cases tail with
      | nil => exact (notBoth empty rfl).elim
      | cons s rest => exact (filled s rest empty rfl).elim
    · exact ⟨front ++ [last], tail, whole.symm, rfl, .behindLast import_ cut.1⟩

/-- A name goes into the first import from its module, or into a new import. -/
theorem addImport_cases (script : Block) (module name : String) :
    (∃ front names back, script = front ++ .importFrom module names 0 :: back ∧
      addImport script module name = front ++ .importFrom module (addAlias names name) 0 :: back ∧
      ∀ s ∈ front, s.namesFrom? module = none) ∨
    ∃ front back, script = front ++ back ∧
      addImport script module name = front ++ .importFrom module [⟨name, none⟩] 0 :: back ∧
      IsImportPlace front back ∧ ∀ s ∈ script, s.namesFrom? module = none := by
  unfold addImport
  split
  · next script' found => exact .inl (extendImport?_eq_some found)
  · next found =>
    obtain ⟨front, back, whole, inserted, place⟩ :=
      insertImport_eq (.importFrom module [⟨name, none⟩] 0) script
    exact .inr ⟨front, back, whole, inserted, place, namesFrom?_eq_none_of_extendImport? found⟩

/-- Only the first import from the module gets the name. -/
theorem importedFrom?_addImport (script : Block) (module name module' : String) :
    importedFrom? (addImport script module name) module' =
      if module = module' then some (addAlias ((importedFrom? script module).getD []) name)
      else importedFrom? script module' := by
  simp only [importedFrom?]
  obtain ⟨front, names, back, rfl, added, none⟩ | ⟨front, back, rfl, added, -, none⟩ :=
    addImport_cases script module name
  · rw [added]
    by_cases same : module = module'
    · subst same
      simp [List.findSome?_append, List.findSome?_eq_none_iff.2 none, Stmt.namesFrom?]
    · simp [List.findSome?_append, Stmt.namesFrom?, same]
  · rw [added]
    by_cases same : module = module'
    · subst same
      have absent := List.findSome?_eq_none_iff.2 (List.forall_mem_append.1 none).1
      simp [List.findSome?_append, List.findSome?_eq_none_iff.2 none, absent, Stmt.namesFrom?,
        addAlias]
    · simp [List.findSome?_append, Stmt.namesFrom?, same]

theorem namesFrom?_shell (s : Stmt) : s.shell.namesFrom? module = s.namesFrom? module := by
  cases s with
  | _ => rfl

/-- What a script imports does not depend on what is in the blocks of its statements. -/
theorem importedFrom?_eq_of_shells (h : script'.map Stmt.shell = script.map Stmt.shell) :
    importedFrom? script' module = importedFrom? script module := by
  have shells (body : Block) :
      importedFrom? body module = (body.map Stmt.shell).findSome? (Stmt.namesFrom? module) := by
    rw [List.findSome?_map]
    exact congrArg (body.findSome? ·) (funext fun s => (namesFrom?_shell s).symm)
  rw [shells, shells, h]

/-- The other edits leave the imports as they are. -/
theorem importedFrom?_of_setFunctionBody {new : Block}
    (h : setFunctionBody script name new = .ok script') :
    importedFrom? script' module = importedFrom? script module := by
  obtain ⟨place, placed, same⟩ := bind_eq_ok_iff.1 h
  cases same
  obtain ⟨step, path, inside⟩ := List.exists_cons_of_ne_nil (functionPlace_eq_ok_iff.1 placed).1.ne_nil
  rw [inside]
  exact importedFrom?_eq_of_shells (map_shell_setBlockAt step path)

end Imports

/-! ### Names of an import -/

section Aliases

variable {names : List Alias} {module name : String}

theorem mem_addAlias_iff {a : Alias} : a ∈ addAlias names name ↔ a ∈ names ∨ a = ⟨name, none⟩ := by
  unfold addAlias
  split_ifs with known
  · have mem : ⟨name, none⟩ ∈ names := List.contains_iff_mem.1 known
    exact ⟨.inl, fun h => h.elim id (· ▸ mem)⟩
  · simp

theorem isStarImport_eq_true_iff :
    isStarImport names = true ↔ ∃ a, names = [a] ∧ a.name = "*" := by
  unfold isStarImport
  split
  · simp
  · next single => simpa using fun a h => absurd h (single a)

theorem star_not_isIdentifier : isIdentifier "*" = false := by decide +kernel

/-- An import of a name is no import of everything, whatever else is in it. -/
theorem isStarImport_addAlias (identifier : isIdentifier name = true) :
    isStarImport (addAlias names name) = false := by
  refine Bool.eq_false_iff.2 fun star => ?_
  obtain ⟨a, single, named⟩ := isStarImport_eq_true_iff.1 star
  have added : ⟨name, none⟩ ∈ addAlias names name := mem_addAlias_iff.2 (.inr rfl)
  rw [single, List.mem_singleton] at added
  rw [← added] at named
  rw [show name = "*" from named, star_not_isIdentifier] at identifier
  cases identifier

/-- An import with a star and something else cannot be written. -/
theorem checkImportFrom_ne_ok {a : Alias} (ha : a ∈ names) (star : a.name = "*")
    (crowded : isStarImport names = false) : checkImportFrom module names ≠ .ok () := by
  rw [Ne, checkImportFrom_eq_ok_iff, crowded, checkAliases_eq_ok_iff]
  rintro ⟨-, -, single | aliases⟩
  · cases single
  · have identifier : isIdentifier a.name = true := (aliases a ha).1
    rw [star, star_not_isIdentifier] at identifier
    cases identifier

/-- A name can be put into an import unless that imports everything. -/
theorem checkImportFrom_addAlias_iff (identifier : isIdentifier name = true)
    (ok : checkImportFrom module names = .ok ()) :
    checkImportFrom module (addAlias names name) = .ok () ↔ isStarImport names = false := by
  constructor
  · intro written
    refine Bool.eq_false_iff.2 fun star => ?_
    obtain ⟨a, rfl, named⟩ := isStarImport_eq_true_iff.1 star
    exact checkImportFrom_ne_ok (mem_addAlias_iff.2 (.inl (List.mem_singleton_self a))) named
      (isStarImport_addAlias identifier) written
  · intro single
    rw [checkImportFrom_eq_ok_iff, single, checkAliases_eq_ok_iff] at ok
    obtain ⟨-, path, aliases⟩ := ok
    rw [checkImportFrom_eq_ok_iff, checkAliases_eq_ok_iff]
    refine ⟨List.ne_nil_of_mem (mem_addAlias_iff.2 (.inr rfl)), path, .inr fun a ha => ?_⟩
    obtain known | rfl := mem_addAlias_iff.1 ha
    · exact aliases.resolve_left Bool.false_ne_true a known
    · simpa using identifier

end Aliases

/-- A script that is written stays so with one more name imported, unless everything is imported
from the module. -/
theorem checkBlock_addImport_iff {script : Block} {module name : String}
    (ok : checkBlock script = .ok ()) (path : isPath module = true)
    (identifier : isIdentifier name = true) :
    checkBlock (addImport script module name) = .ok () ↔ importsAll script module = false := by
  rw [importsAll]
  obtain ⟨front, names, back, rfl, added, none⟩ | ⟨front, back, rfl, added, -, none⟩ :=
    addImport_cases script module name
  · simp only [checkBlock_eq_ok_iff, List.forall_mem_append, List.forall_mem_cons] at ok
    obtain ⟨before, here, after⟩ := ok
    rw [added, importedFrom?_append_cons none, Option.any_some, ← checkImportFrom_addAlias_iff identifier here]
    simp only [checkBlock_eq_ok_iff, List.forall_mem_append, List.forall_mem_cons]
    exact ⟨fun h => h.2.1, fun written => ⟨before, written, after⟩⟩
  · simp only [checkBlock_eq_ok_iff, List.forall_mem_append] at ok
    rw [added, importedFrom?, List.findSome?_eq_none_iff.2 none, Option.any_none,
      checkBlock_eq_ok_iff]
    have new : checkImportFrom module [⟨name, Option.none⟩] = .ok () := by
      rw [checkImportFrom_eq_ok_iff, checkAliases_eq_ok_iff]
      exact ⟨List.cons_ne_nil _ _, .inr path, .inr (by simpa using identifier)⟩
    exact iff_of_true (List.forall_mem_append.2 ⟨ok.1, List.forall_mem_cons.2 ⟨new, ok.2⟩⟩) rfl

/-! ### The script with a name imported -/

/-- The second script is the first one with a name imported from a module. It is the same if the
first import from the module has the name. Else the name is the last one there, or, if nothing is
imported from the module, there is one more import. -/
inductive AddsImport (module name : String) : Block → Block → Prop where
  | known {script : Block} {names : List Alias} (first : importedFrom? script module = some names)
      (listed : ⟨name, none⟩ ∈ names) : AddsImport module name script script
  | extended {front back : Block} {names : List Alias}
      (first : ∀ s ∈ front, s.namesFrom? module = none) (new : ⟨name, none⟩ ∉ names) :
      AddsImport module name (front ++ .importFrom module names 0 :: back)
        (front ++ .importFrom module (names ++ [⟨name, none⟩]) 0 :: back)
  | inserted {front back : Block} (place : IsImportPlace front back)
      (absent : ∀ s ∈ front ++ back, s.namesFrom? module = none) :
      AddsImport module name (front ++ back)
        (front ++ .importFrom module [⟨name, none⟩] 0 :: back)

section Added

variable {script : Block} {module name : String} {names : List Alias}

theorem isImported_of_mem {level : Nat} (h : .importFrom module names level ∈ script)
    (listed : ⟨name, none⟩ ∈ names) : isImported script name = true := by
  refine List.any_eq_true.2 ⟨_, h, List.contains_iff_mem.2 ?_⟩
  exact List.mem_map.2 ⟨_, listed, rfl⟩

theorem addAlias_of_mem (listed : ⟨name, none⟩ ∈ names) : addAlias names name = names :=
  if_pos (List.contains_iff_mem.2 listed)

theorem addAlias_of_notMem (new : ⟨name, none⟩ ∉ names) :
    addAlias names name = names ++ [⟨name, none⟩] :=
  if_neg (mt List.contains_iff_mem.1 new)

theorem addsImport_addImport (script : Block) (module name : String) :
    AddsImport module name script (addImport script module name) := by
  obtain ⟨front, names, back, rfl, added, first⟩ | ⟨front, back, rfl, added, place, absent⟩ :=
    addImport_cases script module name
  · rw [added]
    by_cases listed : ⟨name, none⟩ ∈ names
    · rw [addAlias_of_mem listed]
      exact .known (importedFrom?_append_cons first) listed
    · rw [addAlias_of_notMem listed]
      exact .extended first listed
  · rw [added]
    exact .inserted place absent

/-- A name that the first import from its module has is not added. -/
theorem addImport_of_mem (first : importedFrom? script module = some names)
    (listed : ⟨name, none⟩ ∈ names) : addImport script module name = script := by
  obtain ⟨front, names', back, rfl, added, none⟩ | ⟨front, back, rfl, -, -, absent⟩ :=
    addImport_cases script module name
  · rw [importedFrom?_append_cons none, Option.some_inj] at first
    rw [added, first, addAlias_of_mem listed]
  · rw [importedFrom?, List.findSome?_eq_none_iff.2 absent] at first
    cases first

/-- Importing a name adds it in one place and does nothing else: afterwards an import from the module
has the name, and importing it again changes nothing. -/
theorem addImport_adds_once (script : Block) (module name : String) :
    AddsImport module name script (addImport script module name) ∧
      (∃ names, .importFrom module names 0 ∈ addImport script module name ∧
        ⟨name, none⟩ ∈ names) ∧
      isImported (addImport script module name) name = true ∧
      addImport (addImport script module name) module name = addImport script module name := by
  have first := importedFrom?_addImport script module name module
  rw [if_pos rfl] at first
  have listed : (⟨name, none⟩ : Alias) ∈ addAlias ((importedFrom? script module).getD []) name :=
    mem_addAlias_iff.2 (.inr rfl)
  have here := mem_of_importedFrom? first
  exact ⟨addsImport_addImport script module name, ⟨_, here, listed⟩, isImported_of_mem here listed,
    addImport_of_mem first listed⟩

end Added

end RobotCell.Script
