import Mathlib.Data.List.Nodup
import Mathlib.Data.String.Basic
import RobotCell.Cell.Document

/-!
# Projects that are saved and loaded

A project that was loaded and is saved comes back as it was, but for the links that have the text of
another link: an action that is called as an end of the program is told apart from that end in
memory and not in the saved form. `Project.ofJson_toJson` says what comes back, `Project.IsLoaded`
what all projects that come from a document have in common.
-/

namespace RobotCell

/-! ### Free data -/

namespace Json

/-- One step of the removal of members with the same name, from the back. -/
def keepMember (kept : List (String × Json)) (m : String × Json) : List (String × Json) :=
  if kept.any (·.1 == m.1) then kept else m :: kept

theorem sortMembers_eq (members : List (String × Json)) :
    sortMembers members = (members.reverse.foldl keepMember []).mergeSort nameLE :=
  rfl

theorem any_name_eq_iff {kept : List (String × Json)} {name : String} :
    kept.any (·.1 == name) = true ↔ name ∈ kept.map Prod.fst := by
  simp [List.any_eq_true, List.mem_map]

theorem mem_of_mem_foldl_keepMember {rest kept : List (String × Json)} {m : String × Json}
    (h : m ∈ rest.foldl keepMember kept) : m ∈ rest ∨ m ∈ kept := by
  induction rest generalizing kept with
  | nil => exact .inr h
  | cons n rest ih =>
    rcases ih h with later | now
    · exact .inl (List.mem_cons_of_mem _ later)
    · unfold keepMember at now
      split_ifs at now
      · exact .inr now
      · rcases List.mem_cons.1 now with rfl | earlier
        · exact .inl List.mem_cons_self
        · exact .inr earlier

theorem nodup_foldl_keepMember {rest kept : List (String × Json)}
    (nodup : (kept.map Prod.fst).Nodup) : ((rest.foldl keepMember kept).map Prod.fst).Nodup := by
  induction rest generalizing kept with
  | nil => exact nodup
  | cons n rest ih =>
    refine ih ?_
    unfold keepMember
    split_ifs with seen
    · exact nodup
    · rw [any_name_eq_iff] at seen
      exact List.nodup_cons.2 ⟨seen, nodup⟩

theorem foldl_keepMember_of_nodup {rest kept : List (String × Json)}
    (nodup : ((rest ++ kept).map Prod.fst).Nodup) :
    rest.foldl keepMember kept = rest.reverse ++ kept := by
  induction rest generalizing kept with
  | nil => rfl
  | cons n rest ih =>
    rw [List.cons_append, List.map_cons, List.nodup_cons] at nodup
    have unseen : ¬kept.any (·.1 == n.1) = true := by
      rw [any_name_eq_iff]
      intro seen
      exact nodup.1 (by simp only [List.map_append, List.mem_append, seen, or_true])
    have moved : ((rest ++ n :: kept).map Prod.fst).Nodup := by
      rw [List.map_append, List.map_cons, List.nodup_middle, ← List.map_append]
      exact List.nodup_cons.2 nodup
    rw [List.foldl_cons, keepMember, if_neg unseen, ih moved]
    simp

theorem mem_of_mem_sortMembers {members : List (String × Json)} {m : String × Json}
    (h : m ∈ sortMembers members) : m ∈ members := by
  rw [sortMembers_eq, List.mem_mergeSort] at h
  simpa using mem_of_mem_foldl_keepMember h

theorem nodup_sortMembers (members : List (String × Json)) :
    ((sortMembers members).map Prod.fst).Nodup := by
  rw [sortMembers_eq, ((List.mergeSort_perm _ _).map Prod.fst).nodup_iff]
  exact nodup_foldl_keepMember List.nodup_nil

theorem pairwise_sortMembers (members : List (String × Json)) :
    (sortMembers members).Pairwise fun a b => nameLE a b = true := by
  refine List.pairwise_mergeSort ?_ ?_ _
  · intro a b c hab hbc
    simp only [nameLE, Bool.not_eq_true', decide_eq_false_iff_not, not_lt] at hab hbc ⊢
    exact hab.trans hbc
  · intro a b
    simp only [nameLE, Bool.or_eq_true, Bool.not_eq_true', decide_eq_false_iff_not, not_lt]
    exact le_total _ _

theorem sortMembers_sortMembers (members : List (String × Json)) :
    sortMembers (sortMembers members) = sortMembers members := by
  have nodup : (((sortMembers members).reverse ++ []).map Prod.fst).Nodup := by
    rw [List.append_nil, List.map_reverse, List.nodup_reverse]
    exact nodup_sortMembers members
  rw [sortMembers_eq (sortMembers members), foldl_keepMember_of_nodup nodup,
    List.reverse_reverse, List.append_nil]
  exact List.mergeSort_of_pairwise (pairwise_sortMembers members)

theorem settleItems_eq_self {items : List Json} (h : ∀ j ∈ items, settle j = some j) :
    settleItems items = some items := by
  induction items with
  | nil => rfl
  | cons j items ih =>
    rw [List.forall_mem_cons] at h
    rw [settleItems, h.1, ih h.2]

theorem settleMembers_eq_self {members : List (String × Json)}
    (h : ∀ m ∈ members, settle m.2 = some m.2) : settleMembers members = some members := by
  induction members with
  | nil => rfl
  | cons m members ih =>
    rw [List.forall_mem_cons] at h
    rw [settleMembers, h.1, ih h.2]

mutual

/-- Free data does not change any more. -/
theorem settle_eq_self {j v : Json} (h : settle j = some v) : settle v = some v := by
  cases j with
  | null | bool | number | string =>
    cases h
    rfl
  | invalid => cases h
  | array items =>
    obtain ⟨vs, found, rfl⟩ := Option.map_eq_some_iff.1 h
    rw [settle, settleItems_eq_self (settle_eq_self_of_mem_items found), Option.map_some]
  | object members =>
    obtain ⟨ms, found, rfl⟩ := Option.map_eq_some_iff.1 h
    have settled : settleMembers (sortMembers ms) = some (sortMembers ms) :=
      settleMembers_eq_self fun m hm =>
        settle_eq_self_of_mem_members found m (mem_of_mem_sortMembers hm)
    rw [settle, settled, Option.map_some, sortMembers_sortMembers]

theorem settle_eq_self_of_mem_items {items vs : List Json} (h : settleItems items = some vs) :
    ∀ v ∈ vs, settle v = some v := by
  cases items with
  | nil =>
    cases h
    exact List.forall_mem_nil _
  | cons j items =>
    rw [settleItems] at h
    split at h
    · next first later =>
      cases h
      exact List.forall_mem_cons.2 ⟨settle_eq_self first, settle_eq_self_of_mem_items later⟩
    · cases h

theorem settle_eq_self_of_mem_members {members ms : List (String × Json)}
    (h : settleMembers members = some ms) : ∀ m ∈ ms, settle m.2 = some m.2 := by
  match members with
  | [] =>
    cases h
    exact List.forall_mem_nil _
  | (name, j) :: members =>
    rw [settleMembers] at h
    split at h
    · next first later =>
      cases h
      exact List.forall_mem_cons.2 ⟨settle_eq_self first, settle_eq_self_of_mem_members later⟩
    · cases h

end

/-! ### Lists -/

theorem mapM_map_eq_some {α : Type} {read : Json → Option α} {write : α → Json} {change : α → α}
    {items : List α} (h : ∀ a ∈ items, read (write a) = some (change a)) :
    (items.map write).mapM read = some (items.map change) := by
  induction items with
  | nil => rfl
  | cons a items ih =>
    rw [List.forall_mem_cons] at h
    rw [List.map_cons, List.mapM_cons, h.1, ih h.2]
    rfl

theorem exists_read_of_mem_mapM {α : Type} {read : Json → Option α} {js : List Json}
    {items : List α} (h : js.mapM read = some items) {a : α} (ha : a ∈ items) :
    ∃ j, read j = some a := by
  induction js generalizing items with
  | nil =>
    cases h
    cases ha
  | cons j js ih =>
    simp only [List.mapM_cons, Option.bind_eq_bind, Option.bind_eq_some_iff] at h
    obtain ⟨first, hfirst, later, hlater, done⟩ := h
    cases done
    rcases List.mem_cons.1 ha with rfl | ha
    · exact ⟨j, hfirst⟩
    · exact ih hlater ha

/-- All items of a list that may be left out have been read from somewhere. -/
theorem exists_read_of_mem {α : Type} {read : Json → Option α} {field : Option Json}
    {items : List α} (h : withDefault [] (toList? read) field = some items) {a : α}
    (ha : a ∈ items) : ∃ j, read j = some a := by
  cases field with
  | none =>
    cases h
    cases ha
  | some j =>
    cases j with
    | array js => exact exists_read_of_mem_mapM h ha
    | null | bool | number | string | object | invalid => cases h

end Json

/-! ### Records -/

/-- The link that comes back if a link is saved and loaded. -/
def Link.reloaded (l : Link) : Link :=
  .ofText l.text

theorem Link.reloaded_ofText (s : String) : (Link.ofText s).reloaded = .ofText s := by
  unfold Link.reloaded
  congr 1
  unfold Link.ofText
  split_ifs with first last
  · exact first.symm
  · exact last.symm
  · rfl

/-- Only the links to an action that is called as an end of the program come back as others. -/
theorem Link.reloaded_action_eq_iff {id : String} :
    (Link.action id).reloaded = .action id ↔ id ≠ "start" ∧ id ≠ "end" := by
  unfold Link.reloaded Link.ofText Link.text
  split_ifs with first last
  · simp [first]
  · simp [last]
  · simp [first, last]

theorem Link.reloaded_action_eq_first_iff {id : String} :
    (Link.action id).reloaded = .first ↔ id = "start" := by
  unfold Link.reloaded Link.ofText Link.text
  split_ifs with first last
  · simp [first]
  · simp [first]
  · simp [first]

/-- The action that comes back if an action is saved and loaded. -/
def Action.reloaded (a : Action) : Action :=
  { a with inputs := a.inputs.map Link.reloaded, outputs := a.outputs.map Link.reloaded }

/-- The project that comes back if a project is saved and loaded. -/
def Project.reloaded (p : Project) : Project :=
  { p with actions := p.actions.map Action.reloaded }

/-- An action as a document describes it: its links are what their texts stand for, and its values
are free data. -/
structure Action.IsLoaded (a : Action) : Prop where
  inputs : ∀ l ∈ a.inputs, l.reloaded = l
  outputs : ∀ l ∈ a.outputs, l.reloaded = l
  values : ∀ v ∈ a.parameters, v.value.settle = some v.value

/-- A project as a document describes it. -/
def Project.IsLoaded (p : Project) : Prop :=
  ∀ a ∈ p.actions, a.IsLoaded

theorem Link.reloaded_of_ofJson {j : Json} {l : Link} (h : Link.ofJson j = some l) :
    l.reloaded = l := by
  obtain ⟨s, -, rfl⟩ := Option.map_eq_some_iff.1 h
  exact Link.reloaded_ofText s

theorem Parameter.settle_value_of_ofJson {j : Json} {v : Parameter}
    (h : Parameter.ofJson j = some v) : v.value.settle = some v.value := by
  simp only [Parameter.ofJson, Option.bind_eq_bind, Option.bind_eq_some_iff] at h
  obtain ⟨given, -, h⟩ := h
  split at h
  · next id type value =>
    simp only [Option.bind_eq_some_iff] at h
    obtain ⟨_, -, _, -, data, read, done⟩ := h
    cases done
    cases value with
    | none =>
      cases read
      rfl
    | some j => exact Json.settle_eq_self read
  · cases h

theorem Action.isLoaded_of_ofJson {j : Json} {a : Action} (h : Action.ofJson j = some a) :
    a.IsLoaded := by
  simp only [Action.ofJson, Option.bind_eq_bind, Option.bind_eq_some_iff] at h
  obtain ⟨given, -, h⟩ := h
  split at h
  · simp only [Option.bind_eq_some_iff] at h
    obtain ⟨_, -, _, -, inputs, hin, outputs, hout, parameters, hval, done⟩ := h
    cases done
    refine ⟨fun l hl => ?_, fun l hl => ?_, fun v hv => ?_⟩
    · obtain ⟨j, read⟩ := Json.exists_read_of_mem hin hl
      exact Link.reloaded_of_ofJson read
    · obtain ⟨j, read⟩ := Json.exists_read_of_mem hout hl
      exact Link.reloaded_of_ofJson read
    · obtain ⟨j, read⟩ := Json.exists_read_of_mem hval hv
      exact Parameter.settle_value_of_ofJson read
  · cases h

theorem Project.isLoaded_of_ofJson {j : Json} {p : Project} (h : Project.ofJson j = some p) :
    p.IsLoaded := by
  simp only [Project.ofJson, Option.bind_eq_bind, Option.bind_eq_some_iff] at h
  obtain ⟨given, -, h⟩ := h
  split at h
  · simp only [Option.bind_eq_some_iff] at h
    obtain ⟨_, -, _, -, _, -, actions, hact, _, -, done⟩ := h
    cases done
    intro a ha
    obtain ⟨j, read⟩ := Json.exists_read_of_mem hact ha
    exact Action.isLoaded_of_ofJson read
  · cases h

/-! ### What comes back -/

theorem Parameter.ofJson_toJson {v : Parameter} (h : v.value.settle = some v.value) :
    Parameter.ofJson v.toJson = some v := by
  have given : Json.fields ["id", "type", "value"] v.toJson =
      some [some (.string v.id), some (.string v.type), some v.value] := rfl
  simp [Parameter.ofJson, given, Json.required, Json.withDefault, Json.toText?, h]

theorem Action.ofJson_toJson {a : Action} (h : ∀ v ∈ a.parameters, v.value.settle = some v.value) :
    Action.ofJson a.toJson = some a.reloaded := by
  have given : Json.fields ["id", "type", "inputs", "outputs", "parameters"] a.toJson =
      some [some (.string a.id), some (.string a.type),
        some (.array (a.inputs.map Link.toJson)), some (.array (a.outputs.map Link.toJson)),
        some (.array (a.parameters.map Parameter.toJson))] := rfl
  have links : ∀ ls : List Link,
      (ls.map Link.toJson).mapM Link.ofJson = some (ls.map Link.reloaded) := by
    intro ls
    exact Json.mapM_map_eq_some fun l _ => rfl
  have values : (a.parameters.map Parameter.toJson).mapM Parameter.ofJson =
      some (a.parameters.map fun v => v) :=
    Json.mapM_map_eq_some fun v hv => Parameter.ofJson_toJson (h v hv)
  rw [List.map_id'] at values
  simp [Action.ofJson, given, Json.required, Json.withDefault, Json.toText?, Json.toList?, links,
    values, Action.reloaded]

/-- A project that is saved and loaded comes back with the links that the texts of its links stand
for, and is otherwise the same. -/
theorem Project.ofJson_toJson {p : Project}
    (h : ∀ a ∈ p.actions, ∀ v ∈ a.parameters, v.value.settle = some v.value) :
    Project.ofJson p.toJson = some p.reloaded := by
  have given : Json.fields ["id", "sceneId", "desc", "actions", "parameters"] p.toJson =
      some [some (.string p.id), some (.string p.sceneId), some (.string p.desc),
        some (.array (p.actions.map Action.toJson)),
        some (.array (p.parameters.map .string))] := rfl
  have actions : (p.actions.map Action.toJson).mapM Action.ofJson =
      some (p.actions.map Action.reloaded) :=
    Json.mapM_map_eq_some fun a ha => Action.ofJson_toJson (h a ha)
  have names : (p.parameters.map Json.string).mapM Json.toText? =
      some (p.parameters.map fun s => s) :=
    Json.mapM_map_eq_some fun s _ => rfl
  rw [List.map_id'] at names
  simp [Project.ofJson, given, Json.required, Json.withDefault, Json.toText?, Json.toList?, actions,
    names, Project.reloaded]

end RobotCell
