import RobotCell.Proofs.Cell.FlagTable
import RobotCell.Proofs.Script.Filled

/-!
# Methods and their flags

The actions of a class are the methods that are marked as such. Each of them takes its flags out of a
table, in the order of the class, and in the end the table has to be empty. So flags and marked
methods are paired: every marked method has flags, all flags are those of a marked method, and no two
marked methods have one name. A method that is not marked may share a name with a marked one only
behind it, when the flags are gone.

## Main definitions

- `Inspection.TakesUp` — methods that take up a table of flags
- `Inspection.IsPaired` — a class whose marked methods and flags are paired
- `Inspection.IsActionOf` — the action that a marked method stands for

## Main results

- `Inspection.actionsAmong_eq_ok_iff` — methods have actions if they take up the table
- `Inspection.exists_actionsOf_iff` — a class has actions if it is paired
- `Inspection.actions_accepted_iff_paired` — the same for sources
-/

namespace RobotCell.Inspection

open Script

/-- The method is marked as an action. -/
def isAction (d : FunctionDef Stmt) : Bool :=
  d.hasDecorator "action"

/-- The methods of a class, in order. -/
def methodsOf (cls : ClassDef Stmt) : List (FunctionDef Stmt) :=
  cls.body.filterMap method?

/-- The methods of a class that are marked as actions, in order. -/
def actionMethods (cls : ClassDef Stmt) : List (FunctionDef Stmt) :=
  (methodsOf cls).filter isAction

/-! ### Arguments -/

/-- The parameter takes one argument, of a type that is given. -/
def IsTyped (p : Param Expr) : Prop :=
  p.hint.isSome = true ∧ p.kind ≠ .varArgs ∧ p.kind ≠ .varKeywords

/-- The argument that a parameter stands for. -/
structure IsArgOf (p : Param Expr) (arg : ActionArg) : Prop where
  typed : IsTyped p
  name : arg.name = p.name
  type : ∀ hint, p.hint = some hint → typeText hint = .ok arg.type

section Arguments

variable {method : String} {p : Param Expr} {arg : ActionArg}

theorem argOf_eq_ok_iff : argOf method p = .ok arg ↔ IsArgOf p arg := by
  obtain ⟨name, kind, hint, preset⟩ := p
  unfold argOf
  constructor
  · intro h
    split_ifs at h with variadic
    · cases h
    · cases hint with
      | none => cases h
      | some hint =>
        obtain ⟨type, text, h⟩ := bind_eq_ok_iff.1 h
        cases h
        refine ⟨⟨rfl, not_or.1 variadic⟩, rfl, ?_⟩
        rintro _ ⟨⟩
        exact text
  · rintro ⟨⟨given, single⟩, named, text⟩
    obtain ⟨hint, rfl⟩ := Option.isSome_iff_exists.1 given
    obtain ⟨argName, type⟩ := arg
    obtain rfl : argName = name := named
    rw [if_neg (not_or.2 single)]
    simp [text hint rfl]

theorem exists_typeText {e : Expr} (h : Formed e) : ∃ text, typeText e = .ok text := by
  unfold typeText
  split
  · exact ⟨_, rfl⟩
  · exact ⟨e.bareText, by rw [h.renderExpr_eq_ok]; rfl⟩

/-- A parameter that was read from a text stands for an argument if its type is given. -/
theorem exists_isArgOf (formed : ∀ e ∈ p.hint, Formed e) (typed : IsTyped p) :
    ∃ arg, IsArgOf p arg := by
  obtain ⟨hint, given⟩ := Option.isSome_iff_exists.1 typed.1
  obtain ⟨text, written⟩ := exists_typeText (formed hint given)
  refine ⟨⟨p.name, text⟩, typed, rfl, fun hint' given' => ?_⟩
  rw [Option.some_inj.1 (given'.symm.trans given), written]

end Arguments

/-! ### Taking flags out of a table -/

/-- The action has the flags that the table has for the method. -/
structure TakesFlags (table : List (String × ActionFlags)) (d : FunctionDef Stmt)
    (a : ObjectAction) : Prop where
  name : a.name = d.name
  flags : table.lookup d.name = some a.flags
  args : List.Forall₂ IsArgOf (ownParams d.params) a.args

/-- The marked methods among the given ones take up the whole table, each one with flags of its own,
and are listed as actions. A method that is not marked does not come before a marked one of its
name. -/
structure TakesUp (table : List (String × ActionFlags)) (methods : List (FunctionDef Stmt))
    (actions : List ObjectAction) : Prop where
  names : ∀ name, name ∈ table.map Prod.fst ↔ name ∈ (methods.filter isAction).map FunctionDef.name
  distinct : ((methods.filter isAction).map FunctionDef.name).Nodup
  ordered : methods.Pairwise fun d d' => isAction d = false → isAction d' = true → d'.name ≠ d.name
  listed : List.Forall₂ (TakesFlags table) (methods.filter isAction) actions

section TakesUp

variable {table : List (String × ActionFlags)} {methods : List (FunctionDef Stmt)}
  {actions : List ObjectAction} {d : FunctionDef Stmt} {a : ObjectAction} {name : String}

theorem takesUp_nil_iff : TakesUp table [] actions ↔ table = [] ∧ actions = [] := by
  constructor
  · rintro ⟨names, -, -, listed⟩
    refine ⟨List.eq_nil_iff_forall_not_mem.2 fun e he => ?_, List.forall₂_nil_left_iff.1 listed⟩
    simpa using (names e.1).1 (List.mem_map_of_mem he)
  · rintro ⟨rfl, rfl⟩
    exact ⟨fun _ => Iff.rfl, .nil, .nil, .nil⟩

/-- A method that is not marked must find no flags. -/
theorem takesUp_cons_other_iff (other : isAction d = false) :
    TakesUp table (d :: methods) actions ↔
      table.lookup d.name = none ∧ TakesUp table methods actions := by
  have skipped : (d :: methods).filter isAction = methods.filter isAction :=
    List.filter_cons_of_neg (by simp [other])
  -- the flags of its name, if there are any, are those of a marked method behind it
  have behind (names : ∀ name, name ∈ table.map Prod.fst ↔
      name ∈ (methods.filter isAction).map FunctionDef.name) :
      table.lookup d.name = none ↔
        ∀ d' ∈ methods, isAction d = false → isAction d' = true → d'.name ≠ d.name := by
    rw [lookup_eq_none_iff_notMem, names, List.mem_map]
    simp only [List.mem_filter, other, forall_const, not_exists, not_and, and_imp, ne_eq]
  constructor
  · rintro ⟨names, distinct, ordered, listed⟩
    rw [skipped] at names distinct listed
    rw [List.pairwise_cons] at ordered
    exact ⟨(behind names).2 ordered.1, names, distinct, ordered.2, listed⟩
  · rintro ⟨missing, names, distinct, ordered, listed⟩
    refine ⟨?_, ?_, List.pairwise_cons.2 ⟨(behind names).1 missing, ordered⟩, ?_⟩
    · rwa [skipped]
    · rwa [skipped]
    · rwa [skipped]

theorem takesFlags_filter_iff (ne : d.name ≠ name) :
    TakesFlags (table.filter fun e => e.1 ≠ name) d a ↔ TakesFlags table d a := by
  constructor
  · rintro ⟨named, flags, args⟩
    exact ⟨named, lookup_filter_ne ne ▸ flags, args⟩
  · rintro ⟨named, flags, args⟩
    exact ⟨named, (lookup_filter_ne ne).trans flags, args⟩

/-- Flags that are taken by one method are not missed by methods of other names. -/
theorem forall₂_takesFlags_filter_iff (other : name ∉ methods.map FunctionDef.name) :
    List.Forall₂ (TakesFlags (table.filter fun e => e.1 ≠ name)) methods actions ↔
      List.Forall₂ (TakesFlags table) methods actions := by
  induction methods generalizing actions with
  | nil => simp
  | cons d methods ih =>
    rw [List.map_cons, List.mem_cons, not_or] at other
    simp only [List.forall₂_cons_left_iff, takesFlags_filter_iff (Ne.symm other.1), ih other.2]

/-- A marked method takes its flags, and the others take up what is left. -/
theorem takesUp_cons_action_iff (marked : isAction d = true) :
    TakesUp table (d :: methods) actions ↔
      ∃ a more, actions = a :: more ∧ TakesFlags table d a ∧
        TakesUp (table.filter fun e => e.1 ≠ d.name) methods more := by
  have first : (d :: methods).filter isAction = d :: methods.filter isAction :=
    List.filter_cons_of_pos marked
  constructor
  · rintro ⟨names, distinct, ordered, listed⟩
    rw [first, List.map_cons, List.nodup_cons] at distinct
    rw [first, List.forall₂_cons_left_iff] at listed
    obtain ⟨a, more, takes, listed, rfl⟩ := listed
    refine ⟨a, more, rfl, takes, fun name => ?_, distinct.2, (List.pairwise_cons.1 ordered).2,
      (forall₂_takesFlags_filter_iff distinct.1).2 listed⟩
    rw [mem_names_filter_ne_iff, names, first, List.map_cons, List.mem_cons]
    constructor
    · rintro ⟨rfl | later, ne⟩
      · exact absurd rfl ne
      · exact later
    · exact fun later => ⟨.inr later, fun same => distinct.1 (same ▸ later)⟩
  · rintro ⟨a, more, rfl, takes, names, distinct, ordered, listed⟩
    have new : d.name ∉ (methods.filter isAction).map FunctionDef.name := fun later =>
      (mem_names_filter_ne_iff.1 ((names _).2 later)).2 rfl
    have known : d.name ∈ table.map Prod.fst := exists_lookup_iff_mem.1 ⟨a.flags, takes.flags⟩
    refine ⟨fun name => ?_, ?_, List.pairwise_cons.2 ⟨fun _ _ other => ?_, ordered⟩, ?_⟩
    · rw [first, List.map_cons, List.mem_cons, ← names, mem_names_filter_ne_iff]
      by_cases same : name = d.name
      · simp [same, known]
      · simp [same]
    · rw [first, List.map_cons, List.nodup_cons]
      exact ⟨new, distinct⟩
    · rw [marked] at other
      cases other
    · rw [first]
      exact .cons takes ((forall₂_takesFlags_filter_iff new).1 listed)

/-- Methods have actions if they take up the table of flags. -/
theorem actionsAmong_eq_ok_iff :
    actionsAmong table methods = .ok actions ↔ TakesUp table methods actions := by
  induction methods generalizing table actions with
  | nil =>
    rw [takesUp_nil_iff]
    cases table with
    | nil => simp [actionsAmong, eq_comm]
    | cons e table => simp [actionsAmong]
  | cons d methods ih =>
    rw [actionsAmong]
    cases marked : d.hasDecorator "action" with
    | false =>
      rw [takesUp_cons_other_iff marked, ← ih]
      cases found : table.lookup d.name with
      | none => simp
      | some flags =>
        refine iff_of_false (fun h => ?_) fun missing => absurd missing.1 (by simp)
        cases (h : Except.error (CompileError.missingDecorator d.name) = .ok actions)
    | true =>
      simp only [takesUp_cons_action_iff marked, ← ih, if_true]
      cases found : table.lookup d.name with
      | none =>
        refine iff_of_false (fun h => ?_) ?_
        · cases h
        · rintro ⟨a, more, rfl, takes, -⟩
          rw [takes.flags] at found
          cases found
      | some flags =>
        simp only [bind_eq_ok_iff, mapM_eq_ok_iff, argOf_eq_ok_iff]
        constructor
        · rintro ⟨args, typed, more, later, ⟨⟩⟩
          exact ⟨_, more, rfl, ⟨rfl, found, typed⟩, later⟩
        · rintro ⟨⟨aName, aFlags, args⟩, more, rfl, ⟨named, takes, typed⟩, later⟩
          rw [found, Option.some_inj] at takes
          refine ⟨args, typed, more, later, ?_⟩
          rw [takes, show d.name = aName from named.symm]
          rfl

end TakesUp

/-! ### Classes -/

/-- The flags and the marked methods of a class are paired, and the marked methods have arguments of
given types. -/
structure IsPaired (cls : ClassDef Stmt) : Prop where
  /-- What is assigned as flags is a call with flags. -/
  calls : ∀ name value, flagAssignment name value ∈ cls.body → ∃ keywords, IsFlagCall value keywords
  /-- Flags are assigned for every marked method. -/
  flagged : ∀ d ∈ actionMethods cls, ∃ value, flagAssignment d.name value ∈ cls.body
  distinct : ((actionMethods cls).map FunctionDef.name).Nodup
  /-- All flags are those of a marked method. -/
  marked : ∀ name value, flagAssignment name value ∈ cls.body → ∃ d ∈ actionMethods cls, d.name = name
  /-- A method that is not marked does not come before a marked one of its name. -/
  ordered : (methodsOf cls).Pairwise fun d d' => isAction d = false →
    (∃ value, flagAssignment d.name value ∈ cls.body) → isAction d' = true → d'.name ≠ d.name
  typed : ∀ d ∈ actionMethods cls, ∀ p ∈ ownParams d.params, IsTyped p

/-- The action that a marked method of a class stands for: it has the flags that are assigned last,
and an argument for each parameter but the object itself. -/
structure IsActionOf (cls : ClassDef Stmt) (d : FunctionDef Stmt) (a : ObjectAction) : Prop where
  name : a.name = d.name
  flags : ∃ value, AssignsLast cls.body d.name value ∧ HasFlags value a.flags
  args : List.Forall₂ IsArgOf (ownParams d.params) a.args

section Classes

variable {cls : ClassDef Stmt} {actions : List ObjectAction} {d : FunctionDef Stmt}
  {table : List (String × ActionFlags)}

theorem exists_forall₂_iff {α β : Type} {R : α → β → Prop} {as : List α} :
    (∃ bs, List.Forall₂ R as bs) ↔ ∀ a ∈ as, ∃ b, R a b := by
  induction as with
  | nil => simp
  | cons a as ih =>
    rw [List.forall_mem_cons, ← ih]
    simp only [List.forall₂_cons_left_iff]
    constructor
    · rintro ⟨_, b, bs, first, later, rfl⟩
      exact ⟨⟨b, first⟩, bs, later⟩
    · rintro ⟨⟨b, first⟩, bs, later⟩
      exact ⟨_, b, bs, first, later, rfl⟩

theorem method?_eq_some_iff {s : Stmt} {d : FunctionDef Stmt} :
    method? s = some d ↔ s = .functionDef d := by
  cases s <;> simp [method?]

theorem mem_methodsOf_iff : d ∈ methodsOf cls ↔ .functionDef d ∈ cls.body := by
  simp only [methodsOf, List.mem_filterMap, method?_eq_some_iff, exists_eq_right]

theorem mem_of_mem_ownParams {p : Param Expr} {params : List (Param Expr)}
    (h : p ∈ ownParams params) : p ∈ params := by
  unfold ownParams at h
  split at h
  · exact h
  · split_ifs at h
    · exact List.mem_cons_of_mem _ h
    · exact h

theorem actionsOf_eq_ok_iff :
    actionsOf cls = .ok actions ↔
      ∃ table, flagTable cls = .ok table ∧ TakesUp table (methodsOf cls) actions := by
  rw [actionsOf, bind_eq_ok_iff]
  simp only [actionsAmong_eq_ok_iff, methodsOf]

theorem isPaired_of_takesUp (tabled : flagTable cls = .ok table)
    (takes : TakesUp table (methodsOf cls) actions) : IsPaired cls where
  calls := exists_flagTable_iff.1 ⟨table, tabled⟩
  flagged d hd :=
    (mem_names_flagTable_iff tabled).1 ((takes.names d.name).2 (List.mem_map_of_mem hd))
  distinct := takes.distinct
  marked name value assigned := by
    have known := (takes.names name).1 ((mem_names_flagTable_iff tabled).2 ⟨value, assigned⟩)
    obtain ⟨d, hd, rfl⟩ := List.mem_map.1 known
    exact ⟨d, hd, rfl⟩
  ordered := takes.ordered.imp fun apart other _ => apart other
  typed d hd p hp := by
    obtain ⟨a, taken⟩ := exists_forall₂_iff.1 ⟨actions, takes.listed⟩ d hd
    obtain ⟨arg, isArg⟩ := exists_forall₂_iff.1 ⟨a.args, taken.args⟩ p hp
    exact isArg.typed

theorem exists_isArgOf_of_formed (formed : ∀ s ∈ cls.body, FormedStmt s) (hd : d ∈ methodsOf cls)
    {p : Param Expr} (hp : p ∈ ownParams d.params) (typed : IsTyped p) : ∃ arg, IsArgOf p arg := by
  cases formed _ (mem_methodsOf_iff.1 hd) with
  | functionDef _ _ _ _ _ hints => exact exists_isArgOf (hints p (mem_of_mem_ownParams hp)) typed

/-- The methods of a paired class take up the table of its flags. -/
theorem IsPaired.exists_takesUp (paired : IsPaired cls) (formed : ∀ s ∈ cls.body, FormedStmt s)
    (tabled : flagTable cls = .ok table) : ∃ actions, TakesUp table (methodsOf cls) actions := by
  obtain ⟨actions, listed⟩ : ∃ actions,
      List.Forall₂ (TakesFlags table) (actionMethods cls) actions := by
    refine exists_forall₂_iff.2 fun d hd => ?_
    obtain ⟨args, isArgs⟩ := exists_forall₂_iff.2 fun p hp =>
      exists_isArgOf_of_formed formed (List.mem_of_mem_filter hd) hp (paired.typed d hd p hp)
    obtain ⟨flags, found⟩ := exists_lookup_iff_mem.2
      ((mem_names_flagTable_iff tabled).2 (paired.flagged d hd))
    exact ⟨⟨d.name, flags, args⟩, rfl, found, isArgs⟩
  refine ⟨actions, fun name => ?_, paired.distinct, ?_, listed⟩
  · rw [mem_names_flagTable_iff tabled]
    constructor
    · rintro ⟨value, assigned⟩
      obtain ⟨d, hd, rfl⟩ := paired.marked name value assigned
      exact List.mem_map_of_mem hd
    · intro known
      obtain ⟨d, hd, rfl⟩ := List.mem_map.1 known
      exact paired.flagged d hd
  · refine paired.ordered.imp_of_mem fun {d d'} _ hd' apart other marked same => ?_
    exact apart other (same ▸ paired.flagged d' (List.mem_filter.2 ⟨hd', marked⟩)) marked same

/-- A class that was read from a text has actions if its flags and its marked methods are paired. -/
theorem exists_actionsOf_iff (formed : ∀ s ∈ cls.body, FormedStmt s) :
    (∃ actions, actionsOf cls = .ok actions) ↔ IsPaired cls := by
  simp only [actionsOf_eq_ok_iff]
  constructor
  · rintro ⟨actions, table, tabled, takes⟩
    exact isPaired_of_takesUp tabled takes
  · intro paired
    obtain ⟨table, tabled⟩ := exists_flagTable_iff.2 paired.calls
    obtain ⟨actions, takes⟩ := paired.exists_takesUp formed tabled
    exact ⟨actions, table, tabled, takes⟩

/-- The actions of a class are its marked methods, in order. -/
theorem isActionOf_of_actionsOf (h : actionsOf cls = .ok actions) :
    List.Forall₂ (IsActionOf cls) (actionMethods cls) actions := by
  obtain ⟨table, tabled, takes⟩ := actionsOf_eq_ok_iff.1 h
  exact takes.listed.imp fun d a taken =>
    ⟨taken.name, assignsLast_of_lookup tabled taken.flags, taken.args⟩

theorem names_actionMethods (h : actionsOf cls = .ok actions) :
    (actionMethods cls).map FunctionDef.name = actions.map ObjectAction.name := by
  rw [← List.forall₂_eq_eq_eq, List.forall₂_map_left_iff, List.forall₂_map_right_iff]
  exact (isActionOf_of_actionsOf h).imp fun d a isAction => isAction.name.symm

theorem nodup_names_of_actionsOf (h : actionsOf cls = .ok actions) :
    (actions.map ObjectAction.name).Nodup := by
  obtain ⟨table, -, takes⟩ := actionsOf_eq_ok_iff.1 h
  exact names_actionMethods h ▸ takes.distinct

end Classes

/-! ### Sources -/

section Sources

variable {source : String} {cls : ClassDef Stmt}

theorem classOf_eq_ok_iff :
    classOf source = .ok cls ↔
      ∃ script, parse source = .ok script ∧ script.filterMap classDef? = [cls] := by
  rw [classOf, bind_eq_ok_iff]
  refine exists_congr fun script => and_congr CompileError.parseScript_eq_ok_iff ?_
  split <;> simp_all

theorem formedStmt_of_classOf (h : classOf source = .ok cls) : FormedStmt (.classDef cls) := by
  obtain ⟨script, read, only⟩ := classOf_eq_ok_iff.1 h
  have found : cls ∈ script.filterMap classDef? := only ▸ List.mem_singleton_self cls
  obtain ⟨s, hs, same⟩ := List.mem_filterMap.1 found
  unfold classDef? at same
  split at same
  · cases same
    exact formedStmt_of_parse read _ hs
  · cases same

theorem formed_of_classOf (h : classOf source = .ok cls) : ∀ s ∈ cls.body, FormedStmt s := by
  cases formedStmt_of_classOf h with
  | classDef _ _ _ _ _ block => exact block

end Sources

/-- A source with one class has actions exactly if the flags and the marked methods of the class are
paired. The actions are the marked methods in order, with distinct names, each one with the flags that
are assigned last and with its arguments. -/
theorem actions_accepted_iff_paired {source : String} {script : Block} {cls : ClassDef Stmt}
    (read : parse source = .ok script) (only : script.filterMap classDef? = [cls]) :
    ((∃ actions, (classOf source >>= actionsOf) = .ok actions) ↔ IsPaired cls) ∧
      ∀ actions, (classOf source >>= actionsOf) = .ok actions →
        List.Forall₂ (IsActionOf cls) (actionMethods cls) actions ∧
          (actions.map ObjectAction.name).Nodup := by
  have found : classOf source = .ok cls := classOf_eq_ok_iff.2 ⟨script, read, only⟩
  rw [found, ok_bind]
  exact ⟨exists_actionsOf_iff (formed_of_classOf found),
    fun _ listed => ⟨isActionOf_of_actionsOf listed, nodup_names_of_actionsOf listed⟩⟩

/-- A class with a method that is defined again behind its action, and a flag that is given twice. -/
def liftSource : String :=
  "class Lift:\n @action\n def go(self, to: Pose): pass\n def go(): pass\n" ++
    " go.__action__ = ActionMetadata(free=True, free=False, blackbox=True)\n"

theorem actions_accepted_liftSource :
    ∃ script cls, parse liftSource = .ok script ∧ script.filterMap classDef? = [cls] ∧
      IsPaired cls ∧ List.Forall₂ (IsActionOf cls) (actionMethods cls)
        [⟨"go", ⟨false, false, false, true⟩, [⟨"to", "Pose"⟩]⟩] := by
  have accepted : (classOf liftSource >>= actionsOf) =
      .ok [⟨"go", ⟨false, false, false, true⟩, [⟨"to", "Pose"⟩]⟩] := by
    decide +kernel
  obtain ⟨cls, found, -⟩ := bind_eq_ok_iff.1 accepted
  obtain ⟨script, read, only⟩ := classOf_eq_ok_iff.1 found
  obtain ⟨paired, listed⟩ := actions_accepted_iff_paired read only
  exact ⟨script, cls, read, only, paired.1 ⟨_, accepted⟩, (listed _ accepted).1⟩

end RobotCell.Inspection
