import RobotCell.Proofs.Script.BlockPaths
import RobotCell.Proofs.Script.Filled

/-!
# The body of a function

A function of a script can get another body wherever it is found: in a class, in another function, in
a branch or in a handler. If the script can be written and the body can, so can the result.

## Main results

- `Stmt.check_of_mem_statements` — what is inside a statement that is written is written
- `staysWritten_setBlockAt` — any block of a script can be replaced
- `checkBlock_of_setFunctionBody` — the body of a function can be replaced
-/

namespace RobotCell.Script

/-! ### Inside a statement -/

namespace Stmt

theorem blocks_eq_append (s : Stmt) : s.blocks = s.suites ++ s.clauses := by
  cases s with
  | _ => rfl

/-- What is inside a statement that is written is written. -/
theorem check_of_mem_statements {s t : Stmt} (ht : t ∈ s.statements)
    (ok : s.check "if" = .ok ()) : t.check "if" = .ok () := by
  induction s using induction_on_blocks with
  | h s ih =>
    rcases mem_statements_iff.1 ht with rfl | ⟨body, hb, ht⟩
    · exact ok
    · obtain ⟨u, hu, ht⟩ := mem_statementsOf_iff.1 ht
      exact ih body (blocks_eq_append s ▸ hb) u hu ht ((filled_of_check ok).2 body hb u hu)

end Stmt

/-! ### The body of a function -/

/-- A function that is found is inside the script. -/
theorem mem_statementsOf_of_findFunction {script : Block} {name : String} {d : FunctionDef Stmt}
    (h : findFunction script name = .ok d) : .functionDef d ∈ statementsOf script := by
  unfold findFunction at h
  split at h
  · next d' found =>
    cases h
    obtain ⟨s, hs, named⟩ := List.exists_of_findSome?_eq_some found
    unfold Stmt.functionNamed? at named
    split at named
    · split_ifs at named
      cases named
      exact hs
    · cases named
  · cases h

/-- The body of a function in a script that is written. -/
theorem check_body_of_findFunction {script : Block} {name : String} {d : FunctionDef Stmt}
    (ok : checkBlock script = .ok ()) (h : findFunction script name = .ok d) :
    d.body ≠ [] ∧ ∀ s ∈ d.body, s.check "if" = .ok () := by
  obtain ⟨s, hs, inside⟩ := mem_statementsOf_iff.1 (mem_statementsOf_of_findFunction h)
  have written := Stmt.check_of_mem_statements inside (checkBlock_eq_ok_iff.1 ok s hs)
  obtain ⟨filled, inner⟩ := filled_of_check written
  exact ⟨filled _ (List.mem_singleton_self _), inner _ (List.mem_singleton_self _)⟩

/-! ### Other blocks -/

/-- A block of a statement that is written may be changed to the other one: it is not made empty, and
all its statements are written. -/
def StaysWritten (old new : Block) : Prop :=
  (old ≠ [] → new ≠ []) ∧ ∀ s ∈ new, s.check "if" = .ok ()

/-- A statement stays written where its blocks do. -/
theorem check_mapBlocks {s : Stmt} {f : Nat → Block → Block} (ok : s.check "if" = .ok ())
    (kept : ∀ j b, s.blocks[j]? = some b → StaysWritten b (f j b)) :
    (s.mapBlocks f).check "if" = .ok () := by
  cases s with
  | functionDef d =>
    obtain ⟨decorators, identifier, params, returns, filled, -⟩ := check_functionDef_eq_ok_iff.1 ok
    have block := kept 0 d.body rfl
    exact check_functionDef_eq_ok_iff.2
      ⟨decorators, identifier, params, returns, block.1 filled, block.2⟩
  | classDef d =>
    obtain ⟨decorators, identifier, bases, keywords, filled, -⟩ := check_classDef_eq_ok_iff.1 ok
    have block := kept 0 d.body rfl
    exact check_classDef_eq_ok_iff.2
      ⟨decorators, identifier, bases, keywords, block.1 filled, block.2⟩
  | ifElse test body orelse =>
    obtain ⟨header, filled, -, -⟩ := check_ifElse_eq_ok_iff.1 ok
    have block := kept 0 body rfl
    exact check_ifElse_eq_ok_iff.2 ⟨header, block.1 filled, block.2, (kept 1 orelse rfl).2⟩
  | whileLoop test body orelse =>
    obtain ⟨header, filled, -, -⟩ := check_whileLoop_eq_ok_iff.1 ok
    have block := kept 0 body rfl
    exact check_whileLoop_eq_ok_iff.2 ⟨header, block.1 filled, block.2, (kept 1 orelse rfl).2⟩
  | forLoop target iter body orelse =>
    obtain ⟨first, second, filled, -, -⟩ := check_forLoop_eq_ok_iff.1 ok
    have block := kept 0 body rfl
    exact check_forLoop_eq_ok_iff.2 ⟨first, second, block.1 filled, block.2, (kept 1 orelse rfl).2⟩
  | withBlock items body =>
    obtain ⟨header, filled, -⟩ := check_withBlock_eq_ok_iff.1 ok
    have block := kept 0 body rfl
    exact check_withBlock_eq_ok_iff.2 ⟨header, block.1 filled, block.2⟩
  | tryBlock body handlers orelse finalBody =>
    obtain ⟨ends, filled, -, handled, -, -⟩ := check_tryBlock_eq_ok_iff.1 ok
    have block := kept 0 body rfl
    have other := kept (handlers.length + 1) orelse (by simp [Stmt.blocks])
    have final := kept (handlers.length + 2) finalBody (by simp [Stmt.blocks])
    refine check_tryBlock_eq_ok_iff.2 ⟨?_, block.1 filled, block.2, ?_, other.2, final.2⟩
    · exact ends.imp (fun some_ => by simpa using some_) final.1
    · rw [checkHandlers_eq_ok_iff] at handled ⊢
      intro c hc
      obtain ⟨j, hj, rfl⟩ := List.mem_mapIdx.1 hc
      obtain ⟨header, inner, -⟩ := handled handlers[j] (List.getElem_mem hj)
      have clause := kept (j + 1) _ (Stmt.getElem?_blocks_tryBlock (List.getElem?_eq_getElem hj))
      exact ⟨header, clause.1 inner, clause.2⟩
  | _ => exact ok

/-- A block stays written where one inside of it is replaced by one that is written. -/
theorem staysWritten_setBlockAt {new body : Block} (filled : new ≠ [])
    (written : ∀ s ∈ new, s.check "if" = .ok ()) (path : BlockPath)
    (ok : ∀ s ∈ body, s.check "if" = .ok ()) : StaysWritten body (setBlockAt new path body) := by
  induction path generalizing body with
  | nil => exact ⟨fun _ => filled, written⟩
  | cons step path ih =>
    obtain ⟨i, k⟩ := step
    refine ⟨fun some_ empty => some_ ?_, fun s hs => ?_⟩
    · simpa [setBlockAt] using empty
    · obtain ⟨j, hj⟩ := List.getElem?_of_mem hs
      rw [setBlockAt, List.getElem?_modify] at hj
      obtain ⟨t, ht, rfl⟩ := Option.map_eq_some_iff.1 hj
      have here := ok t (List.mem_of_getElem? ht)
      by_cases same : i = j
      · rw [if_pos same]
        refine check_mapBlocks here fun l b hb => ?_
        have inner := (filled_of_check here).2 b
          (Stmt.blocks_eq_append t ▸ List.mem_of_getElem? hb)
        by_cases block : l = k
        · rw [if_pos block]
          exact ih inner
        · rw [if_neg block]
          exact ⟨id, inner⟩
      · rw [if_neg same]
        exact here

/-- A function of a script that is written can get any other body that is written. -/
theorem checkBlock_of_setFunctionBody {script script' new : Block} {name : String}
    (ok : checkBlock script = .ok ()) (filled : new ≠ []) (written : ∀ s ∈ new, s.check "if" = .ok ())
    (h : setFunctionBody script name new = .ok script') : checkBlock script' = .ok () := by
  obtain ⟨place, -, same⟩ := bind_eq_ok_iff.1 h
  cases same
  rw [checkBlock_eq_ok_iff] at ok ⊢
  exact (staysWritten_setBlockAt filled written place.path ok).2

end RobotCell.Script
