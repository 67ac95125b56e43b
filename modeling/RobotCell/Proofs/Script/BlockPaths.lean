import RobotCell.Script.BlockPath

/-!
# Places of blocks

Putting another block at a path of a script changes what is inside of that block. The rest of the
script stays as it is: at every other path stand the same statements, their own blocks aside.

## Main definitions

- `Stmt.shell` — a statement without what is in its blocks
- `blockAt?`, `ownerAt?` — the block at a path, and the statement that has it
- `ReplacesBlock` — two scripts that differ in the block at a path only

## Main results

- `Stmt.induction_on_blocks` — a property passes from the statements in the blocks of a statement to
  the statement
- `replacesBlock_setBlockAt` — putting a block at a path replaces the block there
- `setBlockAt_append` — a block inside of a block
-/

namespace RobotCell.Script

/-! ### The blocks of a statement -/

namespace Stmt

theorem sizeOf_lt_of_mem {s t : Stmt} {body : Block} (hb : body ∈ s.blocks)
    (ht : t ∈ body) : sizeOf t < sizeOf s := by
  have inside := List.sizeOf_lt_of_mem ht
  cases s with
  | functionDef d =>
    obtain rfl := List.mem_singleton.1 hb
    cases d
    simp_all
    omega
  | classDef d =>
    obtain rfl := List.mem_singleton.1 hb
    cases d
    simp_all
    omega
  | ifElse _ _ _ | whileLoop _ _ _ | forLoop _ _ _ _ =>
    simp only [blocks, List.mem_cons, List.not_mem_nil, or_false] at hb
    rcases hb with rfl | rfl
    · simp
      omega
    · simp
      omega
  | withBlock items body =>
    obtain rfl := List.mem_singleton.1 hb
    simp
    omega
  | tryBlock first handlers orelse finalBody =>
    simp only [blocks, List.cons_append, List.mem_cons, List.mem_append, List.mem_map,
      List.not_mem_nil, or_false] at hb
    rcases hb with rfl | ⟨⟨kind, name, body⟩, hh, rfl⟩ | rfl | rfl
    · simp only [tryBlock.sizeOf_spec]
      omega
    · have := List.sizeOf_lt_of_mem hh
      simp only [tryBlock.sizeOf_spec, Handler.mk.sizeOf_spec] at *
      omega
    · simp only [tryBlock.sizeOf_spec]
      omega
    · simp only [tryBlock.sizeOf_spec]
      omega
  | _ => cases hb

/-- A property of all statements, if each one has it whose blocks consist of statements that have
it. -/
theorem induction_on_blocks {P : Stmt → Prop}
    (h : ∀ s, (∀ body ∈ s.blocks, ∀ t ∈ body, P t) → P s) (s : Stmt) : P s :=
  h s fun _ _inBlocks t _inBlock => induction_on_blocks h t
termination_by sizeOf s
decreasing_by exact sizeOf_lt_of_mem _inBlocks _inBlock

/-- The statement without what is in its blocks. -/
def shell (s : Stmt) : Stmt :=
  s.mapBlocks fun _ _ => []

variable {s : Stmt} {f g : Nat → Block → Block} {k : Nat}

theorem blocks_mapBlocks : (s.mapBlocks f).blocks = s.blocks.mapIdx f := by
  cases s with
  | tryBlock body handlers orelse finalBody =>
    have handled : (handlers.mapIdx fun i h => { h with body := f (i + 1) h.body }).map (·.body) =
        (handlers.map (·.body)).mapIdx fun i => f (i + 1) := by
      refine List.ext_getElem? fun j => ?_
      simp [Function.comp_def]
    simp [mapBlocks, blocks, List.mapIdx_append, handled, Nat.add_comm 1]
  | _ => rfl

theorem mapBlocks_mapBlocks : (s.mapBlocks f).mapBlocks g = s.mapBlocks fun i b => g i (f i b) := by
  cases s with
  | tryBlock body handlers orelse finalBody =>
    simp [mapBlocks, List.mapIdx_mapIdx, Function.comp_def]
  | _ => rfl

/-- The blocks of the handlers come behind the first block. -/
theorem getElem?_blocks_tryBlock {body orelse finalBody : Block} {handlers : List (Handler Stmt)}
    {h : Handler Stmt} {j : Nat} (hj : handlers[j]? = some h) :
    (tryBlock body handlers orelse finalBody).blocks[j + 1]? = some h.body := by
  obtain ⟨inside, rfl⟩ := List.getElem?_eq_some_iff.1 hj
  simp [blocks, List.getElem?_append_left, inside]

/-- Changes that are the same on the blocks of a statement are the same on the statement. -/
theorem mapBlocks_congr (h : ∀ j b, s.blocks[j]? = some b → f j b = g j b) :
    s.mapBlocks f = s.mapBlocks g := by
  cases s with
  | functionDef d => simp only [mapBlocks, h 0 d.body rfl]
  | classDef d => simp only [mapBlocks, h 0 d.body rfl]
  | ifElse test body orelse => simp only [mapBlocks, h 0 body rfl, h 1 orelse rfl]
  | whileLoop test body orelse => simp only [mapBlocks, h 0 body rfl, h 1 orelse rfl]
  | forLoop target iter body orelse => simp only [mapBlocks, h 0 body rfl, h 1 orelse rfl]
  | withBlock items body => simp only [mapBlocks, h 0 body rfl]
  | tryBlock body handlers orelse finalBody =>
    have handled : (handlers.mapIdx fun i h => { h with body := f (i + 1) h.body }) =
        handlers.mapIdx fun i h => { h with body := g (i + 1) h.body } := by
      refine List.ext_getElem? fun j => ?_
      rw [List.getElem?_mapIdx, List.getElem?_mapIdx]
      cases hj : handlers[j]? with
      | none => rfl
      | some h' => simp only [Option.map_some, h (j + 1) h'.body (getElem?_blocks_tryBlock hj)]
    have orelse' := h (handlers.length + 1) orelse (by simp [blocks])
    have final' := h (handlers.length + 2) finalBody (by simp [blocks])
    simp only [mapBlocks, h 0 body rfl, handled, orelse', final']
  | _ => rfl

theorem shell_mapBlocks : (s.mapBlocks f).shell = s.shell :=
  mapBlocks_mapBlocks

theorem blocks_modifyBlock {f : Block → Block} :
    (s.modifyBlock k f).blocks = s.blocks.modify k f := by
  rw [modifyBlock, blocks_mapBlocks]
  refine List.ext_getElem? fun j => ?_
  rw [List.getElem?_mapIdx, List.getElem?_modify]
  simp only [eq_comm]
  rfl

end Stmt

/-! ### Paths -/

/-- The block at a path. -/
def blockAt? : BlockPath → Block → Option Block
  | [], body => some body
  | (i, k) :: path, body => body[i]?.bind fun s => s.blocks[k]?.bind (blockAt? path)

/-- The statement that has the block at a path. -/
def ownerAt? : BlockPath → Block → Option Stmt
  | [], _ => none
  | [(i, _)], body => body[i]?
  | (i, k) :: step :: path, body =>
    body[i]?.bind fun s => s.blocks[k]?.bind (ownerAt? (step :: path))

/-- The second script is the first one with the block `new` at a path: that block is there with all
that is inside of it, and at every other path are the statements that were there, their own blocks
aside. -/
structure ReplacesBlock (script : Block) (path : BlockPath) (new script' : Block) : Prop where
  inside : ∀ rest, blockAt? (path ++ rest) script' = blockAt? rest new
  outside : ∀ other, ¬ path <+: other →
    (blockAt? other script').map (·.map Stmt.shell) = (blockAt? other script).map (·.map Stmt.shell)

section Paths

variable {i k : Nat} {path rest other : BlockPath} {new body block : Block} {s : Stmt}

theorem modify_congr {α : Type} {xs : List α} {f g : α → α} (h : ∀ a, xs[i]? = some a → f a = g a) :
    xs.modify i f = xs.modify i g := by
  refine List.ext_getElem? fun j => ?_
  rw [List.getElem?_modify, List.getElem?_modify]
  by_cases hj : i = j
  · subst j
    cases hi : xs[i]? with
    | none => rfl
    | some a => simp [h a hi]
  · simp [hj]

theorem blockAt?_cons_eq_some_iff :
    blockAt? ((i, k) :: path) body = some block ↔
      ∃ s b, body[i]? = some s ∧ s.blocks[k]? = some b ∧ blockAt? path b = some block := by
  simp [blockAt?, Option.bind_eq_some_iff]

theorem blockAt?_setBlockAt (h : blockAt? path body = some block) (rest : BlockPath) :
    blockAt? (path ++ rest) (setBlockAt new path body) = blockAt? rest new := by
  induction path generalizing body with
  | nil => rfl
  | cons step path ih =>
    obtain ⟨i, k⟩ := step
    obtain ⟨s, b, hs, hb, later⟩ := blockAt?_cons_eq_some_iff.1 h
    simp [blockAt?, setBlockAt, hs, Stmt.blocks_modifyBlock, hb, ih later]

theorem map_shell_setBlockAt (step : Nat × Nat) (path : BlockPath) :
    (setBlockAt new (step :: path) body).map Stmt.shell = body.map Stmt.shell := by
  refine List.ext_getElem? fun j => ?_
  simp only [setBlockAt, List.getElem?_map, List.getElem?_modify, Stmt.modifyBlock]
  cases body[j]? with
  | none => rfl
  | some s =>
    by_cases same : step.1 = j
    · simp [same, Stmt.shell_mapBlocks]
    · simp [same]

/-- At a path that does not go through the new block are the statements that were there. -/
theorem map_shell_blockAt?_setBlockAt (h : ¬ path <+: other) :
    (blockAt? other (setBlockAt new path body)).map (·.map Stmt.shell) =
      (blockAt? other body).map (·.map Stmt.shell) := by
  induction path generalizing body other with
  | nil => exact absurd List.nil_prefix h
  | cons step path ih =>
    obtain ⟨i, k⟩ := step
    cases other with
    | nil => exact congrArg some (map_shell_setBlockAt _ _)
    | cons step' other =>
      obtain ⟨j, l⟩ := step'
      simp only [blockAt?, setBlockAt, List.getElem?_modify]
      cases body[j]? with
      | none => rfl
      | some s =>
        by_cases hj : i = j
        · subst j
          simp only [Option.map_eq_map, Option.map_some, if_true, Option.bind_some,
            Stmt.blocks_modifyBlock, List.getElem?_modify]
          cases s.blocks[l]? with
          | none => rfl
          | some b =>
            by_cases hl : k = l
            · subst l
              have later : ¬ path <+: other := fun inner => h (List.cons_prefix_cons.2 ⟨rfl, inner⟩)
              simpa using ih later
            · simp [hl]
        · simp [hj]

/-- Putting a block at a path replaces the block there. -/
theorem replacesBlock_setBlockAt (h : blockAt? path body = some block) (new : Block) :
    ReplacesBlock body path new (setBlockAt new path body) :=
  ⟨blockAt?_setBlockAt h, fun _ => map_shell_blockAt?_setBlockAt⟩

/-- A block inside of a block. -/
theorem blockAt?_append (h : blockAt? path body = some block) (rest : BlockPath) :
    blockAt? (path ++ rest) body = blockAt? rest block := by
  induction path generalizing body with
  | nil =>
    cases h
    rfl
  | cons step path ih =>
    obtain ⟨s, b, hs, hb, later⟩ := blockAt?_cons_eq_some_iff.1 h
    simp [blockAt?, hs, hb, ih later]

theorem ownerAt?_append (h : blockAt? path body = some block) (step : Nat × Nat)
    (rest : BlockPath) : ownerAt? (path ++ step :: rest) body = ownerAt? (step :: rest) block := by
  induction path generalizing body with
  | nil =>
    cases h
    rfl
  | cons first path ih =>
    obtain ⟨s, b, hs, hb, later⟩ := blockAt?_cons_eq_some_iff.1 h
    rw [← ih later]
    cases path with
    | nil => simp [ownerAt?, hs, hb]
    | cons second path => simp [ownerAt?, hs, hb]

/-- To change a block inside of a block is to change the outer one. -/
theorem setBlockAt_append (h : blockAt? path body = some block) (rest : BlockPath) :
    setBlockAt new (path ++ rest) body = setBlockAt (setBlockAt new rest block) path body := by
  induction path generalizing body with
  | nil =>
    cases h
    rfl
  | cons step path ih =>
    obtain ⟨i, k⟩ := step
    obtain ⟨s, b, hs, hb, later⟩ := blockAt?_cons_eq_some_iff.1 h
    refine modify_congr fun s' hs' => Stmt.mapBlocks_congr fun j b' hb' => ?_
    cases hs.symm.trans hs'
    by_cases same : j = k
    · subst j
      cases hb.symm.trans hb'
      rw [if_pos rfl, if_pos rfl]
      exact ih later
    · rw [if_neg same, if_neg same]

theorem setBlockAt_append_cons {before after : Block} :
    setBlockAt new [(before.length, k)] (before ++ s :: after) =
      before ++ s.modifyBlock k (fun _ => new) :: after := by
  induction before with
  | nil => rfl
  | cons t before ih => exact congrArg (t :: ·) ih

end Paths

end RobotCell.Script
