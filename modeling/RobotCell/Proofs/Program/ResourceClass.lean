import RobotCell.Program.Resources
import RobotCell.Proofs.Outcome
import RobotCell.Proofs.Script.Skeleton

/-!
# The class of the resources

The text of the resources of a project is read as one class, whatever the id of the project is: it is
quoted, and a quoted text ends where it should and nowhere else. The parameters are names of methods
and parts of names of attributes, so they have to be identifiers; they are all that is asked for.

## Main results

- `resources_eq_error` — the first parameter that is no identifier is refused
- `legibleStmt_of_mem_resourcesScript` — the script of the resources can be read back
- `resources_read_as_class` — what the text of the resources is read as
-/

namespace RobotCell

open Script

/-! ### Names of attributes -/

theorem Script.Keyword.head?_spelling_ne (k : Keyword) : k.spelling.toList.head? ≠ some '_' := by
  cases k <;> decide

/-- An identifier behind an underscore is one, since no reserved word starts with an underscore. -/
theorem isIdentifier_underscore {name : String} (h : isIdentifier name = true) :
    isIdentifier ("_" ++ name) = true := by
  rw [isIdentifier, Bool.and_eq_true] at h ⊢
  have chars : ("_" ++ name).toList = '_' :: name.toList := by simp
  refine ⟨?_, ?_⟩
  · cases word : name.toList with
    | nil =>
      rw [word] at h
      exact absurd h.1 Bool.false_ne_true
    | cons c cs =>
      rw [word, isWord, Bool.and_eq_true] at h
      rw [chars, word, isWord, List.all_cons, isNameChar_of_isNameStart h.1.1, h.1.2]
      rfl
  · rw [Bool.not_eq_true', ← Bool.not_eq_true]
    intro reserved
    obtain ⟨k, found⟩ := Option.isSome_iff_exists.1 reserved
    have same : k.spelling = "_" ++ name := by simpa using List.find?_some found
    exact k.head?_spelling_ne (by rw [same, chars]; rfl)

/-! ### Statements -/

section Statements

variable {parameter : String}

theorem legible_selfName : Legible (.name selfName) :=
  .name (by decide)

theorem legible_heldValue (h : isIdentifier parameter = true) : Legible (heldValue parameter) :=
  .dotted legible_selfName rfl rfl (isIdentifier_underscore h)

/-- A call without keywords. -/
theorem legible_call {func : Expr} {args : List Expr} (hfunc : Legible func)
    (item : func.isItem = true) (legible : ∀ x ∈ args, Legible x)
    (items : ∀ x ∈ args, x.isItem = true) : Legible (.call func args []) :=
  .call hfunc item legible items (List.forall_mem_nil _) (List.forall_mem_nil _)
    (List.forall_mem_nil _)

theorem legibleStmt_plainMethod {name : String} {decorators : List Expr} {body : Block}
    (identifier : isIdentifier name = true) (decorated : ∀ e ∈ decorators, Legible e)
    (stand : ∀ e ∈ decorators, e.standsAt Level.test = true) (suite : isSuite body = true)
    (block : ∀ s ∈ body, LegibleStmt s) : LegibleStmt (plainMethod name decorators body) := by
  have self : isIdentifier selfName = true := by decide
  refine .functionDef decorated stand identifier (List.forall_mem_singleton.2 self) rfl ?_ ?_
    (List.forall_mem_singleton.2 rfl) ?_ ?_ suite block
  · exact List.forall_mem_singleton.2 fun _ hint => by cases hint
  · exact List.forall_mem_singleton.2 fun _ preset => by cases preset
  · exact fun _ result => by cases result
  · exact fun _ result => by cases result

theorem legibleStmt_loadStatement (h : isIdentifier parameter = true) :
    LegibleStmt (loadStatement parameter) := by
  have func : Legible (.nameAttr selfName "parameters") :=
    .dotted legible_selfName rfl rfl (by decide)
  have value : Legible (.call (.nameAttr selfName "parameters") [.str parameter] []) :=
    legible_call func rfl (List.forall_mem_singleton.2 (.constant trivial))
      (List.forall_mem_singleton.2 rfl)
  exact .assign (List.cons_ne_nil _ _) (List.forall_mem_singleton.2 (legible_heldValue h))
    (List.forall_mem_singleton.2 rfl) value rfl

theorem legibleStmt_loadMethod (projectId : String) {parameters : List String}
    (h : ∀ p ∈ parameters, isIdentifier p = true) :
    LegibleStmt (loadMethod projectId parameters) := by
  have resourcesName : Legible (.name resourcesClass) := .name (by decide)
  have super : Legible (.call (.name "super") [.name resourcesClass, .name selfName] []) := by
    refine legible_call (.name (by decide)) rfl ?_ ?_
    · exact List.forall_mem_cons.2 ⟨resourcesName, List.forall_mem_singleton.2 legible_selfName⟩
    · exact List.forall_mem_cons.2 ⟨rfl, List.forall_mem_singleton.2 rfl⟩
  -- the id of the project is a text in quotes, so there is nothing to ask of it
  have first := legible_call (.dotted super rfl rfl (by decide : isIdentifier "__init__" = true)) rfl
    (List.forall_mem_singleton.2 (.constant trivial : Legible (.str projectId)))
    (List.forall_mem_singleton.2 rfl)
  refine legibleStmt_plainMethod (by decide) (List.forall_mem_nil _) (List.forall_mem_nil _) rfl ?_
  rw [List.forall_mem_cons, List.forall_mem_map]
  exact ⟨.expr first rfl, fun p hp => legibleStmt_loadStatement (h p hp)⟩

theorem legibleStmt_property (h : isIdentifier parameter = true) :
    LegibleStmt (property parameter) := by
  have func : Legible (.nameAttr resourcesClass "print_info") :=
    .dotted (.name (by decide)) rfl rfl (by decide)
  have held := legible_heldValue h
  have printed : Legible (.call (.nameAttr resourcesClass "print_info")
      [.str parameter, heldValue parameter] []) := by
    refine legible_call func rfl ?_ ?_
    · exact List.forall_mem_cons.2 ⟨.constant trivial, List.forall_mem_singleton.2 held⟩
    · exact List.forall_mem_cons.2 ⟨rfl, List.forall_mem_singleton.2 rfl⟩
  have returned : LegibleStmt (.ret (some (heldValue parameter))) :=
    .ret (fun e he => Option.some.inj he ▸ held) (fun e he => Option.some.inj he ▸ rfl)
  refine legibleStmt_plainMethod h (List.forall_mem_singleton.2 (.name (by decide)))
    (List.forall_mem_singleton.2 rfl) rfl ?_
  exact List.forall_mem_cons.2 ⟨.expr printed rfl, List.forall_mem_singleton.2 returned⟩

end Statements

/-! ### The script -/

variable {projectId : String} {parameters : List String}

theorem legibleStmt_of_mem_resourcesScript (h : ∀ p ∈ parameters, isIdentifier p = true) :
    ∀ s ∈ resourcesScript projectId parameters, LegibleStmt s := by
  refine List.forall_mem_cons.2 ⟨.importFrom 0 (.inr (by decide)) (by decide), ?_⟩
  refine List.forall_mem_singleton.2 (.classDef (List.forall_mem_nil _) (List.forall_mem_nil _)
    (by decide) (List.forall_mem_singleton.2 (.name (by decide))) (List.forall_mem_singleton.2 rfl)
    (List.forall_mem_nil _) (List.forall_mem_nil _) (List.forall_mem_nil _) rfl ?_)
  rw [List.forall_mem_cons, List.forall_mem_map]
  exact ⟨legibleStmt_loadMethod projectId h, fun p hp => legibleStmt_property (h p hp)⟩

/-- Resources are written if all parameters are identifiers. -/
theorem resources_eq_ok (h : ∀ p ∈ parameters, isIdentifier p = true) :
    resources projectId parameters =
      .ok (blockText 0 none (resourcesScript projectId parameters)) := by
  have none : parameters.find? (fun p => !isIdentifier p) = none := by
    simpa [List.find?_eq_none] using h
  rw [resources, none, render_eq_ok (legibleStmt_of_mem_resourcesScript h)]
  rfl

/-- The first parameter that is no identifier is refused. -/
theorem resources_eq_error {front back : List String} {bad : String}
    (h : ∀ p ∈ front, isIdentifier p = true) (hbad : isIdentifier bad = false) :
    resources projectId (front ++ bad :: back) = .error (.invalidParameterName bad) := by
  have first : (front ++ bad :: back).find? (fun p => !isIdentifier p) = some bad := by
    have none : front.find? (fun p => !isIdentifier p) = none := by
      simpa [List.find?_eq_none] using h
    rw [List.find?_append, none, Option.none_or, List.find?_cons_of_pos (by simp [hbad])]
  rw [resources, first]

/-- The resources of a project are refused because of the first parameter that is no identifier. If
there is none, their text is read as an import of the base class and a class with nothing but a method
that hands the id of the project to the base class and then loads each parameter, and a property for
each parameter, all in the order of the parameters. The id may be any text. -/
theorem resources_read_as_class (projectId : String) (parameters : List String) :
    (∀ front bad back, parameters = front ++ bad :: back →
      (∀ p ∈ front, isIdentifier p = true) → isIdentifier bad = false →
        resources projectId parameters = .error (.invalidParameterName bad)) ∧
    ((∀ p ∈ parameters, isIdentifier p = true) →
      ∃ text, resources projectId parameters = .ok text ∧ parse text = .ok
        [.importFrom "arcor2.resources" [⟨"ResourcesBase", none⟩] 0,
         .classDef {
          name := "Resources"
          bases := [.name "ResourcesBase"]
          keywords := []
          body :=
            .functionDef {
              name := "__init__"
              params := [⟨"self", .positional, none, none⟩]
              body :=
                .expr (.call (.attribute (.call (.name "super") [.name "Resources", .name "self"] [])
                  "__init__") [.str projectId] []) ::
                parameters.map fun p => .assign [.attribute (.name "self") ("_" ++ p)]
                  (.call (.attribute (.name "self") "parameters") [.str p] [])
              decorators := []
              returns := none
              isAsync := false } ::
            parameters.map fun p => .functionDef {
              name := p
              params := [⟨"self", .positional, none, none⟩]
              body := [
                .expr (.call (.attribute (.name "Resources") "print_info")
                  [.str p, .attribute (.name "self") ("_" ++ p)] []),
                .ret (some (.attribute (.name "self") ("_" ++ p)))]
              decorators := [.name "property"]
              returns := none
              isAsync := false }
          decorators := [] }]) := by
  constructor
  · rintro front bad back rfl h hbad
    exact resources_eq_error h hbad
  · intro h
    refine ⟨_, resources_eq_ok h, ?_⟩
    have read : parse ("" ++ blockText 0 none (resourcesScript projectId parameters)) =
        .ok (resourcesScript projectId parameters) :=
      parse_blockText (legibleStmt_of_mem_resourcesScript h) isBlankLines_nil
    rwa [String.empty_append] at read

/-- The id tries to close the call and to add a method, and has a backslash and a control character at
its end; one parameter is not of ASCII letters. -/
theorem resources_read_as_class_injection :
    let id := "')\n    def evil(self): pass\r\n'''\"\\\x00"
    (∃ text, resources id ["speed", "größe"] = .ok text ∧
      parse text = .ok (resourcesScript id ["speed", "größe"])) ∧
    resources id ["speed", "max speed", "class"] = .error (.invalidParameterName "max speed") := by
  intro id
  constructor
  · obtain ⟨text, written, read⟩ := (resources_read_as_class id ["speed", "größe"]).2 (by decide)
    exact ⟨text, written, read⟩
  · exact (resources_read_as_class id ["speed", "max speed", "class"]).1 ["speed"] "max speed"
      ["class"] rfl (by decide) (by decide)

end RobotCell
