import RobotCell.Proofs.Program.Links

/-!
# Refused programs

The links of a table are rebuilt in place while the calls of a program are read, so a program that is
refused leaves its mark. `ActionTable.Refuses` lists the reasons for which a statement is refused, and
`LinkedUpTo` says what the calls accepted before it have done to an action: the links are those of the
position among these calls, and the last one of them leads nowhere yet.
-/

namespace RobotCell

open Script

/-! ### Refused statements -/

theorem Action.error_of_target {a : Action} {e : CellError} (h : a.target = .error e) :
    e = .invalidActionType a.type := by
  unfold Action.target at h
  split at h
  · cases h
  · cases h
    rfl

namespace ActionTable

/-- The ways in which a statement is refused after calls of the given actions. -/
inductive Refuses (t : ActionTable) (called : List String) : Stmt → CompileError → Prop
  /-- The statement is no call of an action. -/
  | foreign {s : Stmt} (other : ∀ c : ActionCall, s ≠ c.stmt) :
      Refuses t called s (.unexpectedContent s.shown)
  /-- The action has been called before. -/
  | again {c : ActionCall} (old : c.action ∈ called) :
      Refuses t called c.stmt (.duplicateAction c.action)
  | unknown {c : ActionCall} (fresh : c.action ∉ called) (missing : ∀ a ∈ t.actions, a.id ≠ c.action) :
      Refuses t called c.stmt (.unknownAction c.action)
  /-- The type of the action does not name an object and a method. -/
  | malformed {c : ActionCall} {a : Action} (fresh : c.action ∉ called) (mem : a ∈ t.actions)
      (named : a.id = c.action) (untyped : ∀ object method, a.target ≠ .ok (object, method)) :
      Refuses t called c.stmt (.cell (.invalidActionType a.type))
  /-- The type of the action names another object or another method. -/
  | mismatch {c : ActionCall} {a : Action} {object method : String} (fresh : c.action ∉ called)
      (mem : a ∈ t.actions) (named : a.id = c.action) (typed : a.target = .ok (object, method))
      (unfit : ¬ c.Fits a) :
      Refuses t called c.stmt (.actionTypeMismatch a.type (c.object ++ "/" ++ c.method))

theorem refuses_of_readCall {t : ActionTable} {called : List String} {s : Stmt} {e : CompileError}
    (h : t.readCall called s = .error e) : t.Refuses called s e := by
  unfold readCall at h
  split at h
  · next foreign =>
    cases h
    refine .foreign fun c same => ?_
    rw [(actionCall?_eq_some_iff s c).2 same] at foreign
    cases foreign
  · next c isCall =>
    rw [(actionCall?_eq_some_iff s c).1 isCall]
    split_ifs at h with old
    · cases h
      exact .again old
    split at h
    · next missing =>
      cases h
      refine .unknown old fun a mem named => ?_
      rw [(t.get?_eq_some_iff _ _).2 ⟨mem, named⟩] at missing
      cases missing
    · next a found =>
      obtain ⟨mem, named⟩ := (t.get?_eq_some_iff _ _).1 found
      split at h
      · next e' untyped =>
        cases h
        obtain rfl : e' = .invalidActionType a.type := Action.error_of_target untyped
        refine .malformed old mem named fun object method typed => ?_
        rw [typed] at untyped
        cases untyped
      · next object method typed =>
        split_ifs at h with fits
        cases h
        refine .mismatch old mem named typed fun hfits => fits ?_
        obtain ⟨object', typed', variable'⟩ := (c.fits_iff a).1 hfits
        cases typed.symm.trans typed'
        exact ⟨variable', rfl⟩

theorem Refuses.readCall_eq {t : ActionTable} {called : List String} {s : Stmt} {e : CompileError}
    (h : t.Refuses called s e) : t.readCall called s = .error e := by
  have isCall (c : ActionCall) : c.stmt.actionCall? = some c := (actionCall?_eq_some_iff _ c).2 rfl
  unfold readCall
  cases h with
  | foreign other =>
    have : s.actionCall? = none :=
      Option.eq_none_iff_forall_ne_some.2 fun c same => other c ((actionCall?_eq_some_iff s c).1 same)
    simp [this]
  | again old => simp [isCall, old]
  | @unknown c fresh missing =>
    have : t.get? c.action = none :=
      Option.eq_none_iff_forall_ne_some.2 fun a found =>
        missing a ((t.get?_eq_some_iff _ _).1 found).1 ((t.get?_eq_some_iff _ _).1 found).2
    simp [isCall, fresh, this]
  | @malformed c a fresh mem named untyped =>
    rw [isCall]
    dsimp only
    rw [if_neg fresh, (t.get?_eq_some_iff _ _).2 ⟨mem, named⟩]
    dsimp only
    cases target : a.target with
    | error e => rw [Action.error_of_target target]
    | ok pair => exact absurd target (untyped pair.1 pair.2)
  | @mismatch c a object method fresh mem named typed unfit =>
    have : ¬ (Naming.variableName object = c.object ∧ method = c.method) := by
      rintro ⟨variable', rfl⟩
      exact unfit ((c.fits_iff a).2 ⟨object, typed, variable'⟩)
    simp [isCall, fresh, (t.get?_eq_some_iff _ _).2 ⟨mem, named⟩, typed, this]

theorem readCall_eq_error_iff (t : ActionTable) (called : List String) (s : Stmt)
    (e : CompileError) : t.readCall called s = .error e ↔ t.Refuses called s e :=
  ⟨refuses_of_readCall, Refuses.readCall_eq⟩

end ActionTable

/-! ### Links up to a statement -/

/-- The second action is the first one after calls of the given actions: called, it has the links of
its position, where `ends` are the links behind the last call; not called, it is unchanged. -/
structure LinkedUpTo (ends : List Link) (ids : List String) (a b : Action) : Prop where
  called : ∀ k, ids[k]? = some a.id → b = { a with
    inputs := [inputAt ids k]
    outputs := ids[k + 1]?.elim ends fun next => [.action next] }
  uncalled : a.id ∉ ids → b = a

theorem linkedUpTo_iff {complete : Bool} {ids : List String} (nodup : ids.Nodup) (a b : Action) :
    LinkedUpTo (Link.behind complete []) ids a b ↔
      ActionTable.linkedAction complete none ids a = b := by
  constructor
  · intro h
    by_cases mem : a.id ∈ ids
    · obtain ⟨k, hk⟩ := List.mem_iff_getElem?.1 mem
      rw [h.called k hk, ActionTable.linkedAction_eq_of_getElem? complete nodup hk]
    · rw [h.uncalled mem, ActionTable.linkedAction_of_notMem complete none mem]
  · rintro rfl
    exact ⟨fun k hk => ActionTable.linkedAction_eq_of_getElem? complete nodup hk,
      fun mem => ActionTable.linkedAction_of_notMem complete none mem⟩

namespace ActionTable

/-- The actions of a table after some calls, one by one. -/
theorem forall₂_linkedUpTo_iff (complete : Bool) {ids : List String} (nodup : ids.Nodup)
    (t linked : ActionTable) :
    List.Forall₂ (LinkedUpTo (Link.behind complete []) ids) t.actions linked.actions ↔
      linked = link complete ids t := by
  have same : LinkedUpTo (Link.behind complete []) ids =
      fun a b => linkedAction complete none ids a = b := by
    funext a b
    exact propext (linkedUpTo_iff nodup a b)
  rw [same, ← List.forall₂_map_left_iff, List.forall₂_eq_eq_eq]
  constructor
  · intro h
    exact eq_of_actions_eq h.symm
  · rintro rfl
    rfl

/-! ### Refused programs -/

/-- The calls name distinct actions of the table and fit them. -/
structure Accepts (t : ActionTable) (calls : List ActionCall) : Prop where
  distinct : (calls.map ActionCall.action).Nodup
  fits : ∀ c ∈ calls, ∃ a ∈ t.actions, a.id = c.action ∧ c.Fits a

theorem acceptedCalls_eq_none_iff (t : ActionTable) (body : Block) (ids : List String) :
    t.acceptedCalls [] body = (ids, none) ↔
      ∃ calls, body = calls.map ActionCall.stmt ∧ ids = calls.map ActionCall.action ∧
        t.Accepts calls := by
  rw [acceptedCalls_eq_iff]
  constructor
  · rintro ⟨calls, rfl, rfl, distinct, -, fits⟩
    exact ⟨calls, rfl, rfl, distinct, fits⟩
  · rintro ⟨calls, rfl, rfl, distinct, fits⟩
    exact ⟨calls, rfl, rfl, distinct, by simp, fits⟩

theorem acceptedCalls_refused_iff (t : ActionTable) (body : Block) (ids : List String)
    (e : CompileError) :
    t.acceptedCalls [] body = (ids, some e) ↔
      ∃ calls s rest, body = calls.map ActionCall.stmt ++ s :: rest ∧
        ids = calls.map ActionCall.action ∧ t.Accepts calls ∧ t.Refuses ids s e := by
  -- the loop keeps the latest call first, which makes no difference to what is refused
  have order (s : Stmt) : t.readCall (ids.reverse ++ []) s = t.readCall ids s := by simp [readCall]
  simp only [acceptedCalls_eq_some_iff, acceptedCalls_eq_none_iff, order, readCall_eq_error_iff]
  constructor
  · rintro ⟨_, s, rest, rfl, ⟨calls, rfl, rfl, accepts⟩, refused⟩
    exact ⟨calls, s, rest, rfl, rfl, accepts, refused⟩
  · rintro ⟨calls, s, rest, rfl, rfl, accepts, refused⟩
    exact ⟨_, s, rest, rfl, ⟨calls, rfl, rfl, accepts⟩, refused⟩

/-- Some action is not called exactly when there are fewer calls than actions. -/
theorem Accepts.length_ne_iff {t : ActionTable} {calls : List ActionCall} (h : t.Accepts calls) :
    (calls.map ActionCall.action).length ≠ t.size ↔
      ∃ a ∈ t.actions, a.id ∉ calls.map ActionCall.action := by
  have inside : calls.map ActionCall.action ⊆ t.actions.map Action.id := by
    intro id mem
    obtain ⟨c, hc, rfl⟩ := List.mem_map.1 mem
    obtain ⟨a, ha, named, -⟩ := h.fits c hc
    exact named ▸ List.mem_map_of_mem ha
  have size_eq : t.size = (t.actions.map Action.id).length := (List.length_map _).symm
  constructor
  · intro fewer
    by_contra all
    push Not at all
    refine fewer ?_
    rw [size_eq]
    refine Nat.le_antisymm (h.distinct.subperm inside).length_le (t.distinct.subperm ?_).length_le
    intro id mem
    obtain ⟨a, ha, rfl⟩ := List.mem_map.1 mem
    exact all a ha
  · rintro ⟨a, ha, uncalled⟩ same
    refine uncalled (((h.distinct.subperm inside).perm_of_length_le ?_).symm.subset ?_)
    · rw [same, size_eq]
    · exact List.mem_map_of_mem ha

/-- How a program is refused, with the calls of its main loop as they are read. -/
theorem recoverLinks_eq_some_iff (t linked : ActionTable) (source : String) (e : CompileError) :
    t.recoverLinks source = (linked, some e) ↔
      (loopStatements source = .error e ∧ linked = t) ∨
      ∃ body ids, loopStatements source = .ok body ∧
        ((t.acceptedCalls [] body = (ids, some e) ∧ linked = link false ids t) ∨
          (t.acceptedCalls [] body = (ids, none) ∧ linked = link true ids t ∧
            ids.length ≠ t.size ∧ e = .brokenChain (.notCalled (t.without ids)))) := by
  constructor
  · intro h
    cases loop : loopStatements source with
    | error e' =>
      rw [recoverLinks, loop] at h
      cases h
      exact .inl ⟨rfl, rfl⟩
    | ok body =>
      rcases calls : t.acceptedCalls [] body with ⟨ids, refusal⟩
      rw [recoverLinks_eq loop calls] at h
      refine .inr ⟨body, ids, rfl, ?_⟩
      cases refusal with
      | some e' =>
        cases h
        exact .inl ⟨calls, rfl⟩
      | none =>
        rw [Option.none_or] at h
        split_ifs at h with full
        · cases h
        · cases h
          exact .inr ⟨calls, rfl, full, rfl⟩
  · rintro (⟨loop, rfl⟩ | ⟨body, ids, loop, ⟨calls, rfl⟩ | ⟨calls, rfl, fewer, rfl⟩⟩)
    · rw [recoverLinks, loop]
    · exact recoverLinks_eq loop calls
    · rw [recoverLinks_eq loop calls, if_neg fewer]
      rfl

/-- A program that is refused leaves the links of the calls accepted before. Refused before its main
loop is read, it changes nothing. Refused at a statement of the loop, it leaves the actions called by
the statements before with the links of their positions, the last of them without a link to a next
one, and all others as they were. Refused because some action is not called, it leaves the links of
all its calls. -/
theorem recoverLinks_refused_iff (t linked : ActionTable) (source : String) (e : CompileError) :
    t.recoverLinks source = (linked, some e) ↔
      (loopStatements source = .error e ∧ linked = t) ∨
      (∃ calls s rest, loopStatements source = .ok (calls.map ActionCall.stmt ++ s :: rest) ∧
        t.Accepts calls ∧ t.Refuses (calls.map ActionCall.action) s e ∧
        List.Forall₂ (LinkedUpTo [] (calls.map ActionCall.action)) t.actions linked.actions) ∨
      (∃ calls, loopStatements source = .ok (calls.map ActionCall.stmt) ∧
        t.Accepts calls ∧ (∃ a ∈ t.actions, a.id ∉ calls.map ActionCall.action) ∧
        e = .brokenChain (.notCalled (t.without (calls.map ActionCall.action))) ∧
        List.Forall₂ (LinkedUpTo [.last] (calls.map ActionCall.action)) t.actions
          linked.actions) := by
  rw [recoverLinks_eq_some_iff]
  refine or_congr_right ⟨?_, ?_⟩
  · rintro ⟨body, ids, loop, ⟨refused, rfl⟩ | ⟨accepted, rfl, fewer, rfl⟩⟩
    · obtain ⟨calls, s, rest, rfl, rfl, accepts, refuses⟩ :=
        (acceptedCalls_refused_iff t body ids e).1 refused
      exact .inl ⟨calls, s, rest, loop, accepts, refuses,
        (forall₂_linkedUpTo_iff false accepts.distinct t _).2 rfl⟩
    · obtain ⟨calls, rfl, rfl, accepts⟩ := (acceptedCalls_eq_none_iff t body ids).1 accepted
      exact .inr ⟨calls, loop, accepts, accepts.length_ne_iff.1 fewer, rfl,
        (forall₂_linkedUpTo_iff true accepts.distinct t _).2 rfl⟩
  · rintro (⟨calls, s, rest, loop, accepts, refuses, linkedAs⟩ |
      ⟨calls, loop, accepts, uncalled, rfl, linkedAs⟩)
    · refine ⟨_, _, loop, .inl ⟨(acceptedCalls_refused_iff t _ _ e).2
        ⟨calls, s, rest, rfl, rfl, accepts, refuses⟩, ?_⟩⟩
      exact (forall₂_linkedUpTo_iff false accepts.distinct t linked).1 linkedAs
    · refine ⟨_, _, loop, .inr ⟨(acceptedCalls_eq_none_iff t _ _).2 ⟨calls, rfl, rfl, accepts⟩, ?_,
        accepts.length_ne_iff.2 uncalled, rfl⟩⟩
      exact (forall₂_linkedUpTo_iff true accepts.distinct t linked).1 linkedAs

end ActionTable

end RobotCell
