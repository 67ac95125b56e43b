import Mathlib.Data.List.Chain
import Mathlib.Data.List.Nodup
import Mathlib.Data.List.Perm.Subperm
import RobotCell.Program.Chain
import RobotCell.Proofs.Outcome

/-!
# The single path of a project

A project has a path if its actions can be put in an order in which each one leads to the next, from
the only action that starts the program to the only one that ends it. `Project.IsPath` says so
without following any link. `chain_eq_ok_iff` shows that following the links finds this order
exactly when there is one; the step behind it is `ActionTable.follow_eq_ok_iff`, about the walk from
any action with any set of actions behind it.
-/

namespace RobotCell

/-! ### Paths -/

/-- The first output of the action is a link to the other one. -/
def Action.LeadsTo (a b : Action) : Prop :=
  a.outputs.head? = some (.action b.id)

/-- The given order of the actions of a project is its path. -/
structure Project.IsPath (p : Project) (path : List Action) : Prop where
  /-- No two actions share an id. -/
  distinct : (p.actions.map Action.id).Nodup
  /-- Exactly one action is marked as the start. -/
  oneStart : ∃! a, a ∈ p.actions ∧ a.inputs.head? = some .first
  /-- Exactly one action is marked as the end. -/
  oneEnd : ∃! a, a ∈ p.actions ∧ a.outputs.head? = some .last
  /-- Every action occurs exactly once. -/
  enumerates : path.Perm p.actions
  starts : ∃ a, path.head? = some a ∧ a.inputs.head? = some .first
  ends : ∃ a, path.getLast? = some a ∧ a.outputs.head? = some .last
  leads : path.IsChain Action.LeadsTo

/-- The order in which the actions are declared does not matter for a path. -/
theorem Project.IsPath.of_perm {p q : Project} {path : List Action} (h : p.IsPath path)
    (hq : q.actions.Perm p.actions) : q.IsPath path where
  distinct := ((hq.map Action.id).nodup_iff).2 h.distinct
  oneStart := by simpa only [hq.mem_iff] using h.oneStart
  oneEnd := by simpa only [hq.mem_iff] using h.oneEnd
  enumerates := h.enumerates.trans hq.symm
  starts := h.starts
  ends := h.ends
  leads := h.leads

theorem Project.IsPath.nodup_ids {p : Project} {path : List Action} (h : p.IsPath path) :
    (path.map Action.id).Nodup :=
  (h.enumerates.map Action.id).nodup_iff.2 h.distinct

theorem Action.isFirst_iff (a : Action) : a.isFirst = true ↔ a.inputs.head? = some .first := by
  simp [Action.isFirst]

theorem Action.isLast_iff (a : Action) : a.isLast = true ↔ a.outputs.head? = some .last := by
  simp [Action.isLast]

/-- The actions lead one to the next, and the last of them ends the program. -/
structure IsRun (path : List Action) : Prop where
  leads : path.IsChain Action.LeadsTo
  ends : ∃ a, path.getLast? = some a ∧ a.outputs.head? = some .last

theorem isRun_singleton (a : Action) : IsRun [a] ↔ a.outputs.head? = some .last := by
  refine ⟨fun h => ?_, fun h => ⟨.singleton a, a, rfl, h⟩⟩
  obtain ⟨b, hb, hl⟩ := h.ends
  cases hb
  exact hl

theorem isRun_cons_cons (a b : Action) (rest : List Action) :
    IsRun (a :: b :: rest) ↔ a.LeadsTo b ∧ IsRun (b :: rest) := by
  constructor
  · rintro ⟨leads, ends⟩
    rw [List.isChain_cons_cons] at leads
    exact ⟨leads.1, leads.2, by simpa using ends⟩
  · rintro ⟨step, leads, ends⟩
    exact ⟨List.isChain_cons_cons.2 ⟨step, leads⟩, by simpa using ends⟩

/-! ### Looking up actions -/

/-- A list without repetitions has the one element with a property exactly when that property leaves
it alone. -/
theorem filter_eq_singleton_iff {α : Type} {l : List α} (nodup : l.Nodup) (p : α → Bool) (a : α) :
    l.filter p = [a] ↔ (a ∈ l ∧ p a = true) ∧ ∀ b, b ∈ l ∧ p b = true → b = a := by
  rw [← List.perm_singleton, List.perm_ext_iff_of_nodup (nodup.filter p) (List.nodup_singleton a)]
  simp only [List.mem_filter, List.mem_singleton]
  constructor
  · intro h
    exact ⟨(h a).2 rfl, fun b hb => (h b).1 hb⟩
  · rintro ⟨ha, only⟩ b
    exact ⟨only b, fun same => same ▸ ha⟩

namespace ActionTable

/-- A table finds exactly its own actions, each under its id. -/
theorem get?_eq_some_iff (t : ActionTable) (id : String) (a : Action) :
    t.get? id = some a ↔ a ∈ t.actions ∧ a.id = id := by
  constructor
  · intro h
    exact ⟨List.mem_of_find?_eq_some h, by simpa using List.find?_some h⟩
  · rintro ⟨ha, rfl⟩
    cases hf : t.get? a.id with
    | none => simpa using (List.find?_eq_none.1 hf) a ha
    | some b =>
      have hb : b.id = a.id := by simpa using List.find?_some hf
      rw [List.inj_on_of_nodup_map t.distinct (List.mem_of_find?_eq_some hf) ha hb]

theorem ofActions_eq_ok_iff (actions : List Action) (t : ActionTable) :
    ofActions actions = .ok t ↔ t.actions = actions := by
  constructor
  · intro h
    unfold ofActions at h
    split at h
    · cases h
    · cases h
      rfl
  · rintro rfl
    unfold ofActions
    split
    · next id hid =>
      have fresh : firstRepeated [] (t.actions.map Action.id) = none :=
        firstRepeated_eq_none_iff.2 ⟨t.distinct, by simp⟩
      rw [fresh] at hid
      cases hid
    · rfl

theorem nodup_actions (t : ActionTable) : t.actions.Nodup :=
  t.distinct.of_map

/-! ### Following the links -/

/-- One step of a walk: it stays away from what is behind it, and either ends here or goes on from
the action that the link leads to. -/
theorem follow_succ_eq_ok_iff (t : ActionTable) (bound : Nat) (visited : List String) (a : Action)
    (path : List Action) :
    t.follow (bound + 1) visited a = .ok path ↔
      a.id ∉ visited ∧
        (a.outputs.head? = some .last ∧ path = [a] ∨
          ∃ b ∈ t.actions, a.LeadsTo b ∧
            ∃ rest, t.follow bound (a.id :: visited) b = .ok rest ∧ path = a :: rest) := by
  rw [follow]
  constructor
  · intro h
    split_ifs at h with seen last
    · rw [Action.isLast_iff] at last
      cases h
      exact ⟨seen, .inl ⟨last, rfl⟩⟩
    · refine ⟨seen, .inr ?_⟩
      split at h
      · next next out =>
        split at h
        · cases h
        · next b found =>
          obtain ⟨hb, rfl⟩ := (t.get?_eq_some_iff next b).1 found
          obtain ⟨rest, walk, h⟩ := bind_eq_ok_iff.1 h
          cases h
          exact ⟨b, hb, out, rest, walk, rfl⟩
      · cases h
  · rintro ⟨seen, ⟨last, rfl⟩ | ⟨b, hb, step, rest, walk, rfl⟩⟩
    · rw [if_neg seen, if_pos ((Action.isLast_iff a).2 last)]
    · have goes : ¬a.isLast = true := by
        rw [Action.isLast_iff, step]
        exact fun same => Link.noConfusion (Option.some.inj same)
      have found : t.get? b.id = some b := (t.get?_eq_some_iff _ _).2 ⟨hb, rfl⟩
      rw [if_neg seen, if_neg goes, step]
      simp only [found, walk]
      rfl

/-- The walk from an action gives exactly the runs that start there, stay in the table, pass no
action twice and none that is behind them, and are no longer than the bound. -/
theorem follow_eq_ok_iff (t : ActionTable) (bound : Nat) (visited : List String) (a : Action)
    (path : List Action) :
    t.follow bound visited a = .ok path ↔
      path.head? = some a ∧ IsRun path ∧ (path.map Action.id).Nodup ∧
        (∀ b ∈ path, b.id ∉ visited) ∧ (∀ b ∈ path.tail, b ∈ t.actions) ∧ path.length ≤ bound := by
  induction bound generalizing visited a path with
  | zero =>
    constructor
    · intro h
      cases h
    · rintro ⟨head, -, -, -, -, short⟩
      rw [List.length_eq_zero_iff.1 (Nat.le_zero.1 short)] at head
      cases head
  | succ bound ih =>
    rw [follow_succ_eq_ok_iff]
    constructor
    · rintro ⟨seen, ⟨last, rfl⟩ | ⟨b, hb, step, rest, walk, rfl⟩⟩
      · exact ⟨rfl, (isRun_singleton a).2 last, by simp, by simpa using seen, by simp, by simp⟩
      · obtain ⟨head, run, nodup, fresh, inside, short⟩ := (ih _ _ _).1 walk
        obtain ⟨rest, rfl⟩ := List.head?_eq_some_iff.1 head
        refine ⟨rfl, (isRun_cons_cons a b rest).2 ⟨step, run⟩, ?_, ?_, ?_, Nat.succ_le_succ short⟩
        · -- the rest of the walk avoids this action, which is behind it
          refine List.nodup_cons.2 ⟨fun ha => ?_, nodup⟩
          obtain ⟨c, hc, same⟩ := List.mem_map.1 ha
          exact fresh c hc (by simp [same])
        · refine List.forall_mem_cons.2 ⟨seen, fun c hc hv => ?_⟩
          exact fresh c hc (List.mem_cons_of_mem _ hv)
        · exact List.forall_mem_cons.2 ⟨hb, inside⟩
    · rintro ⟨head, run, nodup, fresh, inside, short⟩
      obtain ⟨rest, rfl⟩ := List.head?_eq_some_iff.1 head
      refine ⟨fresh a List.mem_cons_self, ?_⟩
      cases rest with
      | nil => exact .inl ⟨(isRun_singleton a).1 run, rfl⟩
      | cons b rest =>
        obtain ⟨step, run⟩ := (isRun_cons_cons a b rest).1 run
        rw [List.map_cons, List.nodup_cons] at nodup
        refine .inr ⟨b, inside b List.mem_cons_self, step, b :: rest, ?_, rfl⟩
        refine (ih _ _ _).2 ⟨rfl, run, nodup.2, ?_, ?_, Nat.le_of_succ_le_succ short⟩
        · intro c hc hv
          rcases List.mem_cons.1 hv with same | hv
          · exact nodup.1 (same ▸ List.mem_map_of_mem hc)
          · exact fresh c (List.mem_cons_of_mem _ hc) hv
        · exact fun c hc => inside c (List.mem_cons_of_mem _ hc)

/-- The bound of a walk is never what ends it: once it covers the actions that are not yet behind
the walk, a greater one gives the same answer. -/
theorem follow_eq_of_le (t : ActionTable) {bound : Nat} (more : Nat) {visited : List String}
    {a : Action} (ha : a ∈ t.actions) (nodup : visited.Nodup)
    (inside : visited ⊆ t.actions.map Action.id) (covers : t.size ≤ bound + visited.length) :
    t.follow (bound + more) visited a = t.follow bound visited a := by
  induction bound generalizing visited a with
  | zero =>
    have full : t.actions.map Action.id ⊆ visited := by
      refine ((nodup.subperm inside).perm_of_length_le ?_).symm.subset
      simpa [size] using covers
    have seen : a.id ∈ visited := full (List.mem_map_of_mem ha)
    cases more with
    | zero => rfl
    | succ more => simp [follow, seen]
  | succ bound ih =>
    rw [Nat.succ_add]
    unfold follow
    split_ifs with seen last
    · rfl
    · rfl
    · split
      · next next out =>
        split
        · rfl
        · next b found =>
          have hb := ((t.get?_eq_some_iff next b).1 found).1
          rw [ih hb (List.nodup_cons.2 ⟨seen, nodup⟩)
            (List.cons_subset.2 ⟨List.mem_map_of_mem ha, inside⟩)
            (by simpa [Nat.add_assoc, Nat.add_comm 1] using covers)]
      · rfl

/-! ### The whole table -/

theorem start_eq_ok_iff (t : ActionTable) (a : Action) :
    t.start = .ok a ↔ t.actions.filter Action.isFirst = [a] := by
  unfold start
  split
  · next none => simp [none]
  · next b one => simp [one]
  · next many _ several =>
    simp only [reduceCtorEq, false_iff]
    exact several a

theorem checkEnd_eq_ok_iff (t : ActionTable) :
    t.checkEnd = .ok () ↔ ∃ a, t.actions.filter Action.isLast = [a] := by
  unfold checkEnd
  split
  · next none => simp [none]
  · next b one => simp [one]
  · next many _ several =>
    simp only [reduceCtorEq, false_iff, not_exists]
    exact several

theorem chain_eq_ok_iff_follow (t : ActionTable) (path : List Action) :
    t.chain = .ok path ↔
      ∃ a, t.start = .ok a ∧ t.checkEnd = .ok () ∧ t.follow t.size [] a = .ok path ∧
        path.length = t.size := by
  simp only [chain, bind_eq_ok_iff, guard_eq_ok_iff]
  constructor
  · rintro ⟨a, start, ⟨⟩, finish, path, walk, full, rfl⟩
    exact ⟨a, start, finish, walk, full⟩
  · rintro ⟨a, start, finish, walk, full⟩
    exact ⟨a, start, (), finish, path, walk, full, rfl⟩

/-- A run through distinct actions of a table that is as long as the table passes all of them. -/
theorem perm_of_follow {t : ActionTable} {path : List Action} {a : Action} {bound : Nat}
    (ha : a ∈ t.actions) (walk : t.follow bound [] a = .ok path) (full : path.length = t.size) :
    path.Perm t.actions := by
  obtain ⟨head, -, nodup, -, inside, -⟩ := (t.follow_eq_ok_iff _ _ _ _).1 walk
  obtain ⟨rest, rfl⟩ := List.head?_eq_some_iff.1 head
  have sub : a :: rest ⊆ t.actions := List.cons_subset.2 ⟨ha, inside⟩
  exact (nodup.of_map.subperm sub).perm_of_length_le full.ge

end ActionTable

/-! ### Projects -/

theorem chain_eq_ok_iff_table (p : Project) (path : List Action) :
    chain p = .ok path ↔ ∃ t : ActionTable, t.actions = p.actions ∧ t.chain = .ok path := by
  simp only [chain, ActionTable.ofProject, bind_eq_ok_iff, CompileError.ofCell_eq_ok_iff,
    ActionTable.ofActions_eq_ok_iff]

/-- The actions of a project run in the order of its path, and a project without a path has no such
order. -/
theorem chain_eq_ok_iff (p : Project) (path : List Action) :
    chain p = .ok path ↔ p.IsPath path := by
  rw [chain_eq_ok_iff_table]
  constructor
  · rintro ⟨t, same, h⟩
    obtain ⟨a, start, finish, walk, full⟩ := (t.chain_eq_ok_iff_follow path).1 h
    rw [t.start_eq_ok_iff, filter_eq_singleton_iff t.nodup_actions] at start
    obtain ⟨z, finish⟩ := t.checkEnd_eq_ok_iff.1 finish
    rw [filter_eq_singleton_iff t.nodup_actions] at finish
    simp only [Action.isFirst_iff, same] at start
    simp only [Action.isLast_iff, same] at finish
    obtain ⟨head, run, -⟩ := (t.follow_eq_ok_iff _ _ _ _).1 walk
    exact {
      distinct := same ▸ t.distinct
      oneStart := ⟨a, start⟩
      oneEnd := ⟨z, finish⟩
      enumerates := same ▸ ActionTable.perm_of_follow (same ▸ start.1.1) walk full
      starts := ⟨a, head, start.1.2⟩
      ends := run.ends
      leads := run.leads }
  · intro h
    let t : ActionTable := ⟨p.actions, h.distinct⟩
    obtain ⟨a, head, first⟩ := h.starts
    obtain ⟨z, last⟩ := h.oneEnd
    obtain ⟨b, start⟩ := h.oneStart
    have ha : a ∈ p.actions := h.enumerates.subset (List.mem_of_mem_head? head)
    obtain rfl : a = b := start.2 a ⟨ha, first⟩
    refine ⟨t, rfl, (t.chain_eq_ok_iff_follow path).2 ⟨a, ?_, ?_, ?_, h.enumerates.length_eq⟩⟩
    · rw [t.start_eq_ok_iff, filter_eq_singleton_iff t.nodup_actions]
      simpa only [Action.isFirst_iff] using start
    · refine t.checkEnd_eq_ok_iff.2 ⟨z, ?_⟩
      rw [filter_eq_singleton_iff t.nodup_actions]
      simpa only [Action.isLast_iff] using last
    · refine (t.follow_eq_ok_iff _ _ _ _).2
        ⟨head, ⟨h.leads, h.ends⟩, ?_, by simp, ?_, h.enumerates.length_eq.le⟩
      · exact h.nodup_ids
      · exact fun c hc => h.enumerates.subset (List.mem_of_mem_tail hc)

theorem ne_nil_of_chain_eq_ok {p : Project} {path : List Action} (h : chain p = .ok path) :
    path ≠ [] := by
  obtain ⟨a, first, -⟩ := ((chain_eq_ok_iff p path).1 h).starts
  exact List.ne_nil_of_mem (List.mem_of_head? first)

/-- Following the links finds the path of a project and nothing else: it succeeds exactly on the
projects with a path, and the path is the only one. The order of the declarations does not count.
All other projects are refused, after a walk that comes to its end by itself: no step more than
there are actions is ever taken. -/
theorem chain_eq_ok_iff_isPath (p : Project) :
    (∀ path, chain p = .ok path ↔ p.IsPath path) ∧
      (∀ path other, p.IsPath path → p.IsPath other → other = path) ∧
      (∀ q : Project, q.actions.Perm p.actions →
        ∀ path, chain q = .ok path ↔ chain p = .ok path) ∧
      ((∀ path, ¬p.IsPath path) → ∃ e, chain p = .error e) ∧
      ∀ t, ActionTable.ofProject p = .ok t → ∀ a ∈ t.actions, ∀ bound, t.size ≤ bound →
        t.follow bound [] a = t.follow t.size [] a := by
  refine ⟨chain_eq_ok_iff p, ?_, ?_, ?_, ?_⟩
  · intro path other hpath hother
    rw [← chain_eq_ok_iff] at hpath hother
    exact Except.ok.inj (hother.symm.trans hpath)
  · intro q hq path
    rw [chain_eq_ok_iff, chain_eq_ok_iff]
    exact ⟨fun h => h.of_perm hq.symm, fun h => h.of_perm hq⟩
  · intro none
    cases h : chain p with
    | error e => exact ⟨e, rfl⟩
    | ok path => exact absurd ((chain_eq_ok_iff p path).1 h) (none path)
  · intro t _ a ha bound hle
    obtain ⟨more, rfl⟩ := Nat.exists_eq_add_of_le hle
    exact t.follow_eq_of_le more ha List.nodup_nil (List.nil_subset _) (by simp)

end RobotCell
