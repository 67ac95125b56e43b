import Mathlib.Data.List.Induction
import RobotCell.Cell.Inspection
import RobotCell.Proofs.Outcome

/-!
# Flags of methods

The flags of a method are the value that the last assignment in its class gives them. Every value
that is assigned has to be a call with flags as keyword arguments, also if a later one replaces it.
Of a flag that is given twice the last value counts, and a flag that is not given is not set.

## Main definitions

- `Inspection.IsFlagCall` — the value is a call with flags
- `Inspection.SetsFlag` — what keyword arguments set a flag to
- `Inspection.HasFlags` — the value stands for flags
- `Inspection.AssignsLast` — the last assignment for a method

## Main results

- `Inspection.exists_flagsOf_iff`, `Inspection.hasFlags_of_flagsOf` — the flags of a value
- `Inspection.exists_flagTable_iff` — when there is a table of flags
- `Inspection.mem_names_flagTable_iff`, `Inspection.assignsLast_of_lookup` — what is in it
-/

namespace RobotCell

/-! ### Lists of named things -/

section Named

variable {α : Type} {name other : String} {a : α} {table : List (String × α)}

theorem lookup_cons_eq (e : String × α) (table : List (String × α)) :
    (e :: table).lookup name = if name = e.1 then some e.2 else table.lookup name := by
  obtain ⟨key, a⟩ := e
  rw [List.lookup_cons]
  by_cases same : name = key
  · simp [same]
  · simp [same, beq_false_of_ne same]

theorem lookup_putNamed (name : String) (a : α) (table : List (String × α)) (other : String) :
    (putNamed name a table).lookup other = if other = name then some a else table.lookup other := by
  induction table with
  | nil => rw [putNamed, lookup_cons_eq]
  | cons e table ih =>
    by_cases here : e.1 = name
    · rw [putNamed, if_pos here, lookup_cons_eq, lookup_cons_eq, here]
      by_cases same : other = name <;> simp [same]
    · rw [putNamed, if_neg here, lookup_cons_eq, lookup_cons_eq, ih]
      by_cases same : other = e.1
      · simp [same, here]
      · simp [same]

theorem lookup_eq_none_iff_notMem : table.lookup name = none ↔ name ∉ table.map Prod.fst := by
  rw [List.lookup_eq_none_iff, List.mem_map]
  constructor
  · rintro h ⟨e, he, rfl⟩
    exact absurd rfl (bne_iff_ne.1 (h e he))
  · exact fun h e he => bne_iff_ne.2 fun same => h ⟨e, he, same.symm⟩

theorem exists_lookup_iff_mem :
    (∃ a, table.lookup name = some a) ↔ name ∈ table.map Prod.fst := by
  rw [← Option.ne_none_iff_exists', Ne, lookup_eq_none_iff_notMem, not_not]

theorem mem_names_filter_ne_iff :
    other ∈ (table.filter fun e => e.1 ≠ name).map Prod.fst ↔
      other ∈ table.map Prod.fst ∧ other ≠ name := by
  simp only [List.mem_map, List.mem_filter, decide_eq_true_eq]
  constructor
  · rintro ⟨e, ⟨he, ne⟩, rfl⟩
    exact ⟨⟨e, he, rfl⟩, ne⟩
  · rintro ⟨⟨e, he, rfl⟩, ne⟩
    exact ⟨e, ⟨he, ne⟩, rfl⟩

theorem lookup_filter_ne (ne : other ≠ name) :
    (table.filter fun e => e.1 ≠ name).lookup other = table.lookup other := by
  induction table with
  | nil => rfl
  | cons e table ih =>
    by_cases here : e.1 = name
    · rw [List.filter_cons_of_neg (by simpa using here), ih, lookup_cons_eq, if_neg (here ▸ ne)]
    · rw [List.filter_cons_of_pos (by simpa using here), lookup_cons_eq, lookup_cons_eq, ih]

end Named

/-- The flag with the given name. -/
def ActionFlags.isSet (flags : ActionFlags) : String → Bool
  | "free" => flags.free
  | "blocking" => flags.blocking
  | "composite" => flags.composite
  | "blackbox" => flags.blackbox
  | _ => false

namespace Inspection

open Script

/-! ### Flags of a value -/

/-- The names of the flags. -/
def flagNames : List String :=
  ["free", "blocking", "composite", "blackbox"]

/-- The keyword argument is a flag with a truth value. -/
def IsFlag (k : Argument Expr) : Prop :=
  ∃ flag ∈ flagNames, ∃ value, k = ⟨some flag, .constant (.bool value)⟩

/-- The value is a call with flags and nothing else. -/
def IsFlagCall (value : Expr) (keywords : List (Argument Expr)) : Prop :=
  value = .call (.name "ActionMetadata") [] keywords ∧ ∀ k ∈ keywords, IsFlag k

/-- The keyword arguments set a flag to a truth value: to the last one that is given for it, or to
false if none is given. -/
inductive SetsFlag (flag : String) : List (Argument Expr) → Bool → Prop where
  | last {before after : List (Argument Expr)} {value : Bool}
      (later : ∀ k ∈ after, k.name ≠ some flag) :
      SetsFlag flag (before ++ ⟨some flag, .constant (.bool value)⟩ :: after) value
  | missing {keywords : List (Argument Expr)} (absent : ∀ k ∈ keywords, k.name ≠ some flag) :
      SetsFlag flag keywords false

/-- The value is a call that sets the given flags. -/
def HasFlags (value : Expr) (flags : ActionFlags) : Prop :=
  ∃ keywords, IsFlagCall value keywords ∧
    ∀ flag ∈ flagNames, SetsFlag flag keywords (flags.isSet flag)

section Values

variable {method flag other : String} {flags flags' : ActionFlags} {value : Expr}
  {k : Argument Expr} {keywords : List (Argument Expr)}

theorem exists_flagSetter?_iff : (∃ set, flagSetter? flag = some set) ↔ flag ∈ flagNames := by
  unfold flagSetter?
  split <;> simp_all [flagNames]

theorem isSet_of_flagSetter? {set : ActionFlags → Bool → ActionFlags} {b : Bool}
    (h : flagSetter? flag = some set) (known : other ∈ flagNames) :
    (set flags b).isSet other = if other = flag then b else flags.isSet other := by
  simp only [flagNames, List.mem_cons, List.not_mem_nil, or_false] at known
  unfold flagSetter? at h
  split at h <;> cases h <;> rcases known with rfl | rfl | rfl | rfl <;> rfl

theorem addFlag_eq_ok_iff :
    addFlag method flags k = .ok flags' ↔
      ∃ flag b set, k = ⟨some flag, .constant (.bool b)⟩ ∧ flagSetter? flag = some set ∧
        flags' = set flags b := by
  constructor
  · intro h
    unfold addFlag at h
    split at h
    · cases h
    · next flag named =>
      split at h
      · cases h
      · next set setter =>
        split at h
        · next b same =>
          obtain ⟨name, value⟩ := k
          cases h
          exact ⟨flag, b, set, by simp_all, setter, rfl⟩
        · cases h
  · rintro ⟨flag, b, set, rfl, setter, rfl⟩
    simp only [addFlag, setter]

theorem isFlag_iff_exists_addFlag (method : String) (flags : ActionFlags) :
    IsFlag k ↔ ∃ flags', addFlag method flags k = .ok flags' := by
  simp only [IsFlag, addFlag_eq_ok_iff, ← exists_flagSetter?_iff]
  constructor
  · rintro ⟨flag, ⟨set, setter⟩, b, rfl⟩
    exact ⟨_, flag, b, set, rfl, setter, rfl⟩
  · rintro ⟨flags', flag, b, set, rfl, setter, -⟩
    exact ⟨flag, ⟨set, setter⟩, b, rfl⟩

theorem exists_foldlM_addFlag_iff (method : String) (flags : ActionFlags) :
    (∃ flags', keywords.foldlM (addFlag method) flags = .ok flags') ↔ ∀ k ∈ keywords, IsFlag k := by
  induction keywords generalizing flags with
  | nil => simp
  | cons k keywords ih =>
    rw [List.forall_mem_cons, isFlag_iff_exists_addFlag method flags]
    simp only [List.foldlM_cons, bind_eq_ok_iff]
    constructor
    · rintro ⟨flags', middle, first, later⟩
      exact ⟨⟨middle, first⟩, (ih middle).1 ⟨flags', later⟩⟩
    · rintro ⟨⟨middle, first⟩, rest⟩
      obtain ⟨flags', later⟩ := (ih middle).2 rest
      exact ⟨flags', middle, first, later⟩

theorem SetsFlag.append {b : Bool} (h : SetsFlag flag keywords b) (other : k.name ≠ some flag) :
    SetsFlag flag (keywords ++ [k]) b := by
  cases h with
  | last later =>
    rw [List.append_assoc]
    exact .last (List.forall_mem_append.2 ⟨later, List.forall_mem_singleton.2 other⟩)
  | missing absent =>
    exact .missing (List.forall_mem_append.2 ⟨absent, List.forall_mem_singleton.2 other⟩)

/-- One more keyword argument changes its flag only. -/
theorem setsFlag_of_foldlM (h : keywords.foldlM (addFlag method) .none = .ok flags)
    (known : flag ∈ flagNames) : SetsFlag flag keywords (flags.isSet flag) := by
  induction keywords using List.reverseRecOn generalizing flags with
  | nil =>
    cases h
    simp only [flagNames, List.mem_cons, List.not_mem_nil, or_false] at known
    rcases known with rfl | rfl | rfl | rfl <;> exact .missing (List.forall_mem_nil _)
  | append_singleton keywords k ih =>
    obtain ⟨middle, before, last⟩ := foldlM_concat_eq_ok_iff.1 h
    obtain ⟨other, b, set, rfl, setter, rfl⟩ := addFlag_eq_ok_iff.1 last
    rw [isSet_of_flagSetter? setter known]
    split_ifs with same
    · subst same
      exact .last (List.forall_mem_nil _)
    · exact (ih before).append fun named => same (Option.some_inj.1 named).symm

theorem dottedName?_eq_actionMetadata_iff {e : Expr} :
    e.dottedName? = some "ActionMetadata" ↔ e = .name "ActionMetadata" := by
  cases e with
  | name id => simp [Expr.dottedName?]
  | «attribute» value attr =>
    simp only [Expr.dottedName?, Option.map_eq_some_iff, reduceCtorEq, iff_false, not_exists]
    rintro text ⟨-, same⟩
    -- there is a dot in the name of an attribute
    have dot : '.' ∈ (text ++ "." ++ attr).toList := by simp
    rw [same] at dot
    exact absurd dot (by decide)
  | _ => simp [Expr.dottedName?]

theorem flagsOf_eq_ok_iff :
    flagsOf method value = .ok flags ↔
      ∃ keywords, value = .call (.name "ActionMetadata") [] keywords ∧
        keywords.foldlM (addFlag method) .none = .ok flags := by
  unfold flagsOf
  split
  · next func keywords =>
    split_ifs with named
    · rw [dottedName?_eq_actionMetadata_iff] at named
      simp [named]
    · rw [dottedName?_eq_actionMetadata_iff] at named
      simp [named]
  · next other =>
    constructor
    · intro h
      cases h
    · rintro ⟨keywords, rfl, -⟩
      exact absurd rfl (other _ keywords)

theorem exists_flagsOf_iff (method : String) :
    (∃ flags, flagsOf method value = .ok flags) ↔ ∃ keywords, IsFlagCall value keywords := by
  simp only [flagsOf_eq_ok_iff, IsFlagCall]
  constructor
  · rintro ⟨flags, keywords, rfl, folded⟩
    exact ⟨keywords, rfl, (exists_foldlM_addFlag_iff method .none).1 ⟨flags, folded⟩⟩
  · rintro ⟨keywords, rfl, all⟩
    obtain ⟨flags, folded⟩ := (exists_foldlM_addFlag_iff method .none).2 all
    exact ⟨flags, keywords, rfl, folded⟩

theorem hasFlags_of_flagsOf (h : flagsOf method value = .ok flags) : HasFlags value flags := by
  obtain ⟨keywords, rfl, folded⟩ := flagsOf_eq_ok_iff.1 h
  exact ⟨keywords, ⟨rfl, (exists_foldlM_addFlag_iff method .none).1 ⟨flags, folded⟩⟩,
    fun _ known => setsFlag_of_foldlM folded known⟩

end Values

/-! ### Assignments of flags -/

/-- The statement that assigns the flags of a method. -/
def flagAssignment (method : String) (value : Expr) : Stmt :=
  .assign [.attribute (.name method) "__action__"] value

/-- The last assignment for the method in the body has the given value. -/
def AssignsLast (body : Block) (method : String) (value : Expr) : Prop :=
  ∃ before after, body = before ++ flagAssignment method value :: after ∧
    ∀ later, flagAssignment method later ∉ after

/-- The table with the flags that one more assignment gives. -/
def addAssignment (table : List (String × ActionFlags)) (a : String × Expr) :
    Except CompileError (List (String × ActionFlags)) := do
  let flags ← flagsOf a.1 a.2
  return putNamed a.1 flags table

section Tables

variable {cls : ClassDef Stmt} {body : Block} {method : String} {value : Expr}
  {flags : ActionFlags} {table : List (String × ActionFlags)} {assignments : List (String × Expr)}

theorem flagAssignment?_eq_some_iff {s : Stmt} :
    flagAssignment? s = some (method, value) ↔ s = flagAssignment method value := by
  constructor
  · intro h
    unfold flagAssignment? at h
    split at h
    · split_ifs at h with action
      cases h
      rw [action, flagAssignment]
    · cases h
  · rintro rfl
    rw [flagAssignment, flagAssignment?, if_pos rfl]

theorem mem_assignments_iff :
    (method, value) ∈ body.filterMap flagAssignment? ↔ flagAssignment method value ∈ body := by
  simp only [List.mem_filterMap, flagAssignment?_eq_some_iff, exists_eq_right]

theorem addAssignment_eq_ok_iff {table' : List (String × ActionFlags)} {a : String × Expr} :
    addAssignment table a = .ok table' ↔
      ∃ flags, flagsOf a.1 a.2 = .ok flags ∧ table' = putNamed a.1 flags table := by
  rw [addAssignment, bind_eq_ok_iff]
  simp [eq_comm]

theorem flagTable_eq (cls : ClassDef Stmt) :
    flagTable cls = (cls.body.filterMap flagAssignment?).foldlM addAssignment [] :=
  rfl

theorem exists_foldlM_addAssignment_iff (table : List (String × ActionFlags)) :
    (∃ table', assignments.foldlM addAssignment table = .ok table') ↔
      ∀ a ∈ assignments, ∃ keywords, IsFlagCall a.2 keywords := by
  induction assignments generalizing table with
  | nil => simp
  | cons a assignments ih =>
    rw [List.forall_mem_cons, ← exists_flagsOf_iff a.1]
    simp only [List.foldlM_cons, bind_eq_ok_iff, addAssignment_eq_ok_iff]
    constructor
    · rintro ⟨table', middle, ⟨flags, first, -⟩, later⟩
      exact ⟨⟨flags, first⟩, (ih middle).1 ⟨table', later⟩⟩
    · rintro ⟨⟨flags, first⟩, rest⟩
      obtain ⟨table', later⟩ := (ih (putNamed a.1 flags table)).2 rest
      exact ⟨table', _, ⟨flags, first, rfl⟩, later⟩

/-- There is a table of flags if all values that are assigned are calls with flags. -/
theorem exists_flagTable_iff :
    (∃ table, flagTable cls = .ok table) ↔
      ∀ method value, flagAssignment method value ∈ cls.body →
        ∃ keywords, IsFlagCall value keywords := by
  rw [flagTable_eq, exists_foldlM_addAssignment_iff]
  simp only [Prod.forall, mem_assignments_iff]

/-- An entry of the table has the flags of the last assignment for its name. -/
theorem exists_last_of_foldlM (h : assignments.foldlM addAssignment [] = .ok table)
    (found : table.lookup method = some flags) :
    ∃ before value after, assignments = before ++ (method, value) :: after ∧
      (∀ a ∈ after, a.1 ≠ method) ∧ flagsOf method value = .ok flags := by
  induction assignments using List.reverseRecOn generalizing table with
  | nil =>
    cases h
    cases found
  | append_singleton assignments a ih =>
    obtain ⟨middle, before, last⟩ := foldlM_concat_eq_ok_iff.1 h
    obtain ⟨given, assigned, rfl⟩ := addAssignment_eq_ok_iff.1 last
    rw [lookup_putNamed] at found
    split_ifs at found with same
    · subst same
      cases found
      exact ⟨assignments, a.2, [], rfl, List.forall_mem_nil _, assigned⟩
    · obtain ⟨front, value, after, rfl, later, assigned'⟩ := ih before found
      refine ⟨front, value, after ++ [a], by simp, ?_, assigned'⟩
      exact List.forall_mem_append.2 ⟨later, List.forall_mem_singleton.2 (Ne.symm same)⟩

theorem lookup_eq_none_iff_of_foldlM (h : assignments.foldlM addAssignment [] = .ok table) :
    table.lookup method = none ↔ ∀ a ∈ assignments, a.1 ≠ method := by
  induction assignments using List.reverseRecOn generalizing table with
  | nil =>
    cases h
    simp
  | append_singleton assignments a ih =>
    obtain ⟨middle, before, last⟩ := foldlM_concat_eq_ok_iff.1 h
    obtain ⟨given, -, rfl⟩ := addAssignment_eq_ok_iff.1 last
    rw [lookup_putNamed, List.forall_mem_append, List.forall_mem_singleton, ← ih before]
    split_ifs with same
    · simp [same]
    · simp [Ne.symm same]

/-- The table has the names for which flags are assigned. -/
theorem mem_names_flagTable_iff (h : flagTable cls = .ok table) :
    method ∈ table.map Prod.fst ↔ ∃ value, flagAssignment method value ∈ cls.body := by
  rw [← not_iff_not, ← lookup_eq_none_iff_notMem, lookup_eq_none_iff_of_foldlM (flagTable_eq cls ▸ h)]
  simp only [Prod.forall, mem_assignments_iff, not_exists]
  exact ⟨fun none value assigned => none method value assigned rfl,
    fun none name value assigned same => none value (same ▸ assigned)⟩

/-- The table has the flags that are assigned last. -/
theorem assignsLast_of_lookup (h : flagTable cls = .ok table)
    (found : table.lookup method = some flags) :
    ∃ value, AssignsLast cls.body method value ∧ HasFlags value flags := by
  obtain ⟨before, value, after, split, later, assigned⟩ :=
    exists_last_of_foldlM (flagTable_eq cls ▸ h) found
  obtain ⟨front, rest, body, -, tail⟩ := List.filterMap_eq_append_iff.1 split
  obtain ⟨between, s, back, rfl, -, here, rfl⟩ := List.filterMap_eq_cons_iff.1 tail
  rw [flagAssignment?_eq_some_iff] at here
  subst here
  refine ⟨value, ⟨front ++ between, back, by simp [body], fun other mem => ?_⟩,
    hasFlags_of_flagsOf assigned⟩
  exact later (method, other) (mem_assignments_iff.2 mem) rfl

end Tables

end Inspection

end RobotCell
