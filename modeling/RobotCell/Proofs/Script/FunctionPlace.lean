import RobotCell.Proofs.Outcome
import RobotCell.Proofs.Script.BlockPaths

/-!
# The place of a function

A function is looked up in one way to read it, and in another to give it a new body. Both are at one
place: the path that is found by looking for the first statement with such a function inside of it,
and then, unless the statement is that function, for the first of its blocks. A script with another
body there has the function with that body, and is the same elsewhere. The body of the main loop is
one block too, whether it is read or replaced.

## Main definitions

- `IsFirst` — the first element of a list with a property
- `Finds` — the path to the first function of a name
- `FunctionAt`, `MainLoopAt` — what is read at a path, and replaced there

## Main results

- `exists_finds` — a function that is in a block has a path
- `Finds.exists_function` — it is the one that is read
- `functionPlace_eq_ok_iff` — it is the one that is found with its place
- `Finds.setBlockAt` — it is found again
- `onlyLoop_eq_ok_iff` — where the only loop of a block is
-/

namespace RobotCell.Script

/-! ### Functions in statements and blocks -/

/-- There is a function of the given name in the block. -/
def hasFunction (name : String) (body : Block) : Bool :=
  (functionIn? name body).isSome

variable {name : String} {new body : Block} {s : Stmt}

theorem statementsOf_eq_flatMap (body : Block) :
    statementsOf body = body.flatMap Stmt.statements := by
  induction body with
  | nil => rfl
  | cons s body ih => rw [statementsOf, ih, List.flatMap_cons]

theorem Stmt.statements_eq_cons (s : Stmt) : s.statements = s :: s.blocks.flatMap statementsOf := by
  have handled (handlers : List (Handler Stmt)) :
      statementsOfHandlers handlers = handlers.flatMap fun h => statementsOf h.body := by
    induction handlers with
    | nil => rfl
    | cons h handlers ih => rw [statementsOfHandlers, ih, List.flatMap_cons]
  cases s with
  | tryBlock body handlers orelse finalBody =>
    simp [statements, blocks, handled, List.flatMap_map]
  | _ => simp [statements, blocks]

theorem findSome?_flatMap {α β γ : Type} {f : β → Option γ} {g : α → List β} (xs : List α) :
    (xs.flatMap g).findSome? f = xs.findSome? fun a => (g a).findSome? f := by
  induction xs with
  | nil => rfl
  | cons a xs ih =>
    rw [List.flatMap_cons, List.findSome?_append, List.findSome?_cons, ih]
    cases (g a).findSome? f with
    | none => rfl
    | some c => rfl

theorem functionIn?_eq_findSome? (body : Block) :
    functionIn? name body = body.findSome? (Stmt.functionIn? name) := by
  rw [functionIn?, statementsOf_eq_flatMap, findSome?_flatMap]
  rfl

theorem Stmt.functionIn?_eq_or (s : Stmt) :
    s.functionIn? name =
      (s.functionNamed? name).or (s.blocks.findSome? (Script.functionIn? name)) := by
  rw [Stmt.functionIn?, statements_eq_cons, List.findSome?_cons, findSome?_flatMap]
  cases s.functionNamed? name with
  | none => rfl
  | some d => rfl

/-! ### First elements -/

/-- The element `x` is at the position `i`, and is the first one with the property. -/
structure IsFirst {α : Type} (p : α → Bool) (xs : List α) (i : Nat) (x : α) : Prop where
  here : xs[i]? = some x
  holds : p x = true
  earlier : ∀ j < i, ∀ y, xs[j]? = some y → p y = false

section First

variable {α β : Type} {p : α → Bool} {xs : List α} {i : Nat} {x : α}

theorem exists_isFirst (h : ∃ x ∈ xs, p x = true) : ∃ i x, IsFirst p xs i x := by
  have found : (xs.findIdx? p).isSome = true := by
    rw [List.findIdx?_isSome, List.any_eq_true]
    exact h
  obtain ⟨i, found⟩ := Option.isSome_iff_exists.1 found
  obtain ⟨inside, holds, earlier⟩ := List.findIdx?_eq_some_iff_getElem.1 found
  refine ⟨i, xs[i], List.getElem?_eq_getElem inside, holds, fun j hj y hy => ?_⟩
  obtain ⟨_, rfl⟩ := List.getElem?_eq_some_iff.1 hy
  exact Bool.eq_false_iff.2 (earlier j hj)

theorem IsFirst.modify {f : α → α} (h : IsFirst p xs i x) (holds : p (f x) = true) :
    IsFirst p (xs.modify i f) i (f x) := by
  refine ⟨by simp [h.here], holds, fun j hj y hy => h.earlier j hj y ?_⟩
  simpa [List.getElem?_modify, Nat.ne_of_gt hj] using hy

/-- Behind an element in front of the first one, that is still the first one. -/
theorem IsFirst.of_cons {a : α} (h : IsFirst p (a :: xs) (i + 1) x) :
    p a = false ∧ IsFirst p xs i x :=
  ⟨h.earlier 0 (Nat.succ_pos i) a rfl, h.here, h.holds,
    fun j hj y hy => h.earlier (j + 1) (Nat.succ_lt_succ hj) y hy⟩

/-- A search that succeeds on elements with a property ends at the first one. -/
theorem IsFirst.findSome? {f : α → Option β} (h : IsFirst (fun x => (f x).isSome) xs i x) :
    xs.findSome? f = f x := by
  induction xs generalizing i with
  | nil => cases h.here
  | cons a xs ih =>
    cases i with
    | zero =>
      cases h.here
      obtain ⟨b, hb⟩ := Option.isSome_iff_exists.1 h.holds
      rw [List.findSome?_cons, hb]
    | succ i =>
      obtain ⟨before, later⟩ := h.of_cons
      rw [List.findSome?_cons, Option.not_isSome_iff_eq_none.1 (Bool.eq_false_iff.1 before)]
      exact ih later

end First

/-! ### The path of a function -/

/-- The path to the body of the first function of a name: it goes to the first statement that has
such a function, and if that is not the function itself, to the first of its blocks that has one. -/
inductive Finds (name : String) : Block → BlockPath → Prop where
  | here {body : Block} {i : Nat} {d : FunctionDef Stmt}
      (first : IsFirst (Stmt.hasFunction name) body i (.functionDef d)) (named : d.name = name) :
      Finds name body [(i, 0)]
  | inside {body block : Block} {i k : Nat} {s : Stmt} {path : BlockPath}
      (first : IsFirst (Stmt.hasFunction name) body i s) (other : s.functionNamed? name = none)
      (firstBlock : IsFirst (hasFunction name) s.blocks k block) (later : Finds name block path) :
      Finds name body ((i, k) :: path)

variable {path : BlockPath}

theorem Finds.ne_nil (h : Finds name body path) : path ≠ [] := by
  cases h with
  | here | inside => exact List.cons_ne_nil _ _

/-- A function that is in a block has a path, if this is so inside of each statement. -/
theorem exists_finds_of_forall (h : hasFunction name body = true)
    (inner : ∀ s ∈ body, s.hasFunction name = true → s.functionNamed? name = none →
      ∃ k block path, IsFirst (hasFunction name) s.blocks k block ∧ Finds name block path) :
    ∃ path, Finds name body path := by
  have inside : ∃ s ∈ body, s.hasFunction name = true := by
    rw [hasFunction, functionIn?_eq_findSome?] at h
    exact List.findSome?_isSome_iff.1 h
  obtain ⟨i, s, first⟩ := exists_isFirst inside
  cases named : s.functionNamed? name with
  | some d =>
    obtain ⟨d, rfl, same⟩ : ∃ d, s = .functionDef d ∧ d.name = name := by
      unfold Stmt.functionNamed? at named
      split at named
      · next d' =>
        split_ifs at named with same
        exact ⟨d', rfl, same⟩
      · cases named
    exact ⟨_, .here first same⟩
  | none =>
    obtain ⟨k, block, path, firstBlock, later⟩ :=
      inner s (List.mem_of_getElem? first.here) first.holds named
    exact ⟨_, .inside first named firstBlock later⟩

/-- A function that is in a block has a path. -/
theorem exists_finds (h : hasFunction name body = true) : ∃ path, Finds name body path := by
  refine exists_finds_of_forall h fun s mem => ?_
  clear mem
  induction s using Stmt.induction_on_blocks with
  | h s ih =>
    intro inside other
    have blocks : ∃ block ∈ s.blocks, hasFunction name block = true := by
      rw [Stmt.hasFunction, Stmt.functionIn?_eq_or, other, Option.none_or] at inside
      exact List.findSome?_isSome_iff.1 inside
    obtain ⟨k, block, firstBlock⟩ := exists_isFirst blocks
    have mem := List.mem_of_getElem? firstBlock.here
    obtain ⟨path, later⟩ := exists_finds_of_forall firstBlock.holds (ih block mem)
    exact ⟨k, block, path, firstBlock, later⟩

theorem functionNamed?_functionDef {d : FunctionDef Stmt} (named : d.name = name) :
    Stmt.functionNamed? name (.functionDef d) = some d := by
  rw [Stmt.functionNamed?, if_pos named]

/-- The function at the path is the one that is read. -/
theorem Finds.exists_function (h : Finds name body path) :
    ∃ d, functionIn? name body = some d ∧ ownerAt? path body = some (.functionDef d) ∧
      blockAt? path body = some d.body := by
  induction h with
  | @here body i d first named =>
    refine ⟨d, ?_, first.here, ?_⟩
    · rw [functionIn?_eq_findSome?, first.findSome?, Stmt.functionIn?_eq_or,
        functionNamed?_functionDef named, Option.some_or]
    · exact blockAt?_cons_eq_some_iff.2 ⟨_, _, first.here, rfl, rfl⟩
  | @inside body block i k s path first other firstBlock later ih =>
    obtain ⟨d, found, owner, block'⟩ := ih
    refine ⟨d, ?_, ?_, ?_⟩
    · rw [functionIn?_eq_findSome?, first.findSome?, Stmt.functionIn?_eq_or, other, Option.none_or,
        firstBlock.findSome?, found]
    · cases path with
      | nil => cases owner
      | cons step path => simpa [ownerAt?, first.here, firstBlock.here] using owner
    · exact blockAt?_cons_eq_some_iff.2 ⟨s, block, first.here, firstBlock.here, block'⟩

theorem hasFunction_of_blocks (h : ∃ block ∈ s.blocks, hasFunction name block = true) :
    s.hasFunction name = true := by
  rw [Stmt.hasFunction, Stmt.functionIn?_eq_or, Option.isSome_or, List.findSome?_isSome_iff.2 h,
    Bool.or_true]

theorem Finds.hasFunction (h : Finds name body path) : hasFunction name body = true := by
  obtain ⟨d, found, -⟩ := h.exists_function
  rw [Script.hasFunction, found]
  rfl

theorem functionNamed?_mapBlocks {f : Nat → Block → Block} (h : s.functionNamed? name = none) :
    (s.mapBlocks f).functionNamed? name = none := by
  cases s with
  | functionDef d =>
    rw [Stmt.functionNamed?] at h
    split_ifs at h with named
    exact if_neg named
  | _ => rfl

/-- Where the body of the function is replaced, its path is found again. -/
theorem Finds.setBlockAt (h : Finds name body path) (new : Block) :
    Finds name (setBlockAt new path body) path := by
  induction h with
  | @here body i d first named =>
    refine .here (first.modify ?_) named
    rw [Stmt.hasFunction, Stmt.functionIn?_eq_or]
    simp [Stmt.modifyBlock, Stmt.mapBlocks, functionNamed?_functionDef, named]
  | @inside body block i k s path first other firstBlock later ih =>
    have changed : IsFirst (Script.hasFunction name) (s.modifyBlock k _).blocks k _ :=
      Stmt.blocks_modifyBlock ▸ firstBlock.modify ih.hasFunction
    refine .inside (first.modify ?_) (functionNamed?_mapBlocks other) changed ih
    exact hasFunction_of_blocks ⟨_, List.mem_of_getElem? changed.here, changed.holds⟩

/-! ### The search for the path -/

theorem placesInHandlers_eq_map (handlers : List (Handler Stmt)) :
    placesInHandlers name handlers = handlers.map fun h => functionPlaceFrom? name 0 h.body := by
  induction handlers with
  | nil => rfl
  | cons h handlers ih => rw [placesInHandlers, ih, List.map_cons]

theorem placesInBlocks_eq_map (s : Stmt) :
    s.placesInBlocks name = s.blocks.map (functionPlaceFrom? name 0) := by
  cases s with
  | tryBlock body handlers orelse finalBody =>
    simp [Stmt.placesInBlocks, Stmt.blocks, placesInHandlers_eq_map]
  | _ => simp [Stmt.placesInBlocks, Stmt.blocks]

/-- The first place that is there, with its number in front. -/
theorem firstPlace?_of_isFirst {α : Type} {places : List (Option (Placed α))} {i k : Nat} {a : α}
    (first : IsFirst Option.isSome places k (some ⟨path, a⟩)) :
    firstPlace? i places = some ⟨(i, k) :: path, a⟩ := by
  have numbered : IsFirst
      (fun x => (Option.map (fun p : Placed α => { p with path := (i, x.2) :: p.path }) x.1).isSome)
      places.zipIdx k (some ⟨path, a⟩, k) := by
    refine ⟨?_, rfl, fun j hj y hy => ?_⟩
    · simp [List.getElem?_zipIdx, first.here]
    · obtain ⟨p, hp, rfl⟩ := Option.map_eq_some_iff.1 (List.getElem?_zipIdx .. ▸ hy)
      simpa using first.earlier j hj p hp
  exact numbered.findSome?

/-- The search goes to the first statement with such a function. -/
theorem functionPlaceFrom?_of_isFirst {i j : Nat}
    (first : IsFirst (Stmt.hasFunction name) body j s) :
    functionPlaceFrom? name i body =
      match s.functionNamed? name with
      | some d => some ⟨[(i + j, 0)], d⟩
      | none => firstPlace? (i + j) (s.blocks.map (functionPlaceFrom? name 0)) := by
  induction body generalizing i j with
  | nil => cases first.here
  | cons t body ih =>
    cases j with
    | zero =>
      cases first.here
      rw [functionPlaceFrom?, if_pos first.holds, placesInBlocks_eq_map]
      rfl
    | succ j =>
      obtain ⟨before, later⟩ := first.of_cons
      rw [functionPlaceFrom?, if_neg (Bool.eq_false_iff.1 before), ih later, Nat.add_assoc,
        Nat.add_comm 1]

theorem functionPlaceFrom?_eq_none {i : Nat} (h : hasFunction name body = false) :
    functionPlaceFrom? name i body = none := by
  rw [hasFunction, functionIn?_eq_findSome?, Option.isSome_eq_false_iff, Option.isNone_iff_eq_none,
    List.findSome?_eq_none_iff] at h
  induction body generalizing i with
  | nil => rfl
  | cons s body ih =>
    obtain ⟨here, later⟩ := List.forall_mem_cons.1 h
    rw [functionPlaceFrom?, Stmt.hasFunction, here]
    exact ih later

/-- The path of a function is the one that the search gives, with the function that is read. -/
theorem Finds.functionPlaceFrom? {d : FunctionDef Stmt} (h : Finds name body path)
    (found : functionIn? name body = some d) :
    functionPlaceFrom? name 0 body = some ⟨path, d⟩ := by
  induction h with
  | @here body i d' first named =>
    rw [functionIn?_eq_findSome?, first.findSome?, Stmt.functionIn?_eq_or,
      functionNamed?_functionDef named, Option.some_or] at found
    cases found
    rw [functionPlaceFrom?_of_isFirst first, functionNamed?_functionDef named, Nat.zero_add]
  | @inside body block i k s path first other firstBlock later ih =>
    rw [functionIn?_eq_findSome?, first.findSome?, Stmt.functionIn?_eq_or, other, Option.none_or,
      firstBlock.findSome?] at found
    rw [functionPlaceFrom?_of_isFirst first, other, Nat.zero_add]
    show firstPlace? i (s.blocks.map (Script.functionPlaceFrom? name 0)) = _
    refine firstPlace?_of_isFirst ⟨?_, rfl, fun j hj y hy => ?_⟩
    · rw [List.getElem?_map, firstBlock.here, Option.map_some, ih found]
    · obtain ⟨b, hb, rfl⟩ := Option.map_eq_some_iff.1 (List.getElem?_map .. ▸ hy)
      rw [functionPlaceFrom?_eq_none (firstBlock.earlier j hj b hb)]
      rfl

/-- The search gives the path of the function and the function that is read. -/
theorem functionPlaceFrom?_eq_some_iff {place : Placed (FunctionDef Stmt)} :
    functionPlaceFrom? name 0 body = some place ↔
      Finds name body place.path ∧ functionIn? name body = some place.value := by
  constructor
  · intro h
    have inside : hasFunction name body = true := by
      by_contra missing
      rw [functionPlaceFrom?_eq_none (Bool.eq_false_iff.2 missing)] at h
      cases h
    obtain ⟨path, finds⟩ := exists_finds inside
    obtain ⟨d, found, -⟩ := finds.exists_function
    cases h.symm.trans (finds.functionPlaceFrom? found)
    exact ⟨finds, found⟩
  · rintro ⟨finds, found⟩
    exact finds.functionPlaceFrom? found

/-! ### Functions of a script -/

variable {script : Block} {d : FunctionDef Stmt}

theorem findFunction_eq_ok_iff :
    findFunction script name = .ok d ↔ functionIn? name script = some d := by
  unfold findFunction
  cases functionIn? name script with
  | none => simp
  | some d' => simp

/-- The function that is found with its place is the one that is read, and the path is its path. -/
theorem functionPlace_eq_ok_iff {place : Placed (FunctionDef Stmt)} :
    functionPlace script name = .ok place ↔
      Finds name script place.path ∧ findFunction script name = .ok place.value := by
  rw [findFunction_eq_ok_iff, ← functionPlaceFrom?_eq_some_iff, functionPlace]
  cases functionPlaceFrom? name 0 script with
  | none => simp
  | some place' => simp

/-- A function that is read has a place. -/
theorem exists_functionPlace (h : findFunction script name = .ok d) :
    ∃ path, functionPlace script name = .ok ⟨path, d⟩ := by
  have inside : hasFunction name script = true := by
    rw [hasFunction, findFunction_eq_ok_iff.1 h]
    rfl
  obtain ⟨path, finds⟩ := exists_finds inside
  exact ⟨path, functionPlace_eq_ok_iff.2 ⟨finds, h⟩⟩

/-- To look a function up with its place is to look it up. -/
theorem findFunction_eq_map (script : Block) (name : String) :
    findFunction script name = (functionPlace script name).map Placed.value := by
  cases placed : functionPlace script name with
  | ok place => exact (functionPlace_eq_ok_iff.1 placed).2
  | error e =>
    cases found : findFunction script name with
    | ok d =>
      obtain ⟨path, h⟩ := exists_functionPlace found
      cases h.symm.trans placed
    | error e' =>
      -- both searches have one error
      unfold functionPlace at placed
      unfold findFunction at found
      split at placed
      · cases placed
      · split at found
        · cases found
        · cases found
          cases placed
          rfl

/-- The function `d` is read at a path of the script, and gets another body there. -/
structure FunctionAt (script : Block) (name : String) (path : BlockPath) (d : FunctionDef Stmt) :
    Prop where
  place : functionPlace script name = .ok ⟨path, d⟩
  finds : Finds name script path
  owner : ownerAt? path script = some (.functionDef d)
  body : blockAt? path script = some d.body
  replaced : ∀ new, ∃ script', setFunctionBody script name new = .ok script' ∧
    ReplacesBlock script path new script' ∧ findFunction script' name = .ok { d with body := new }

theorem Finds.ownerAt?_setBlockAt (h : Finds name body path)
    (owner : ownerAt? path body = some (.functionDef d)) (new : Block) :
    ownerAt? path (Script.setBlockAt new path body) =
      some (.functionDef { d with body := new }) := by
  induction h with
  | @here body i d' first named =>
    cases first.here.symm.trans owner
    simp [ownerAt?, Script.setBlockAt, first.here, Stmt.modifyBlock, Stmt.mapBlocks]
  | @inside body block i k s path first other firstBlock later ih =>
    cases path with
    | nil => cases later
    | cons step path =>
      simp only [ownerAt?, first.here, firstBlock.here, Option.bind_some] at owner
      simpa [ownerAt?, Script.setBlockAt, first.here, Stmt.blocks_modifyBlock, firstBlock.here]
        using ih owner

theorem setFunctionBody_of_functionPlace {place : Placed (FunctionDef Stmt)}
    (h : functionPlace script name = .ok place) (new : Block) :
    setFunctionBody script name new = .ok (setBlockAt new place.path script) := by
  rw [setFunctionBody, h]
  rfl

theorem functionAt_of_functionPlace (h : functionPlace script name = .ok ⟨path, d⟩) :
    FunctionAt script name path d := by
  obtain ⟨finds, found⟩ := functionPlace_eq_ok_iff.1 h
  obtain ⟨d', found', owner, body⟩ := finds.exists_function
  cases (findFunction_eq_ok_iff.1 found).symm.trans found'
  refine ⟨h, finds, owner, body, fun new => ⟨_, setFunctionBody_of_functionPlace h new,
    replacesBlock_setBlockAt body new, ?_⟩⟩
  -- the path is found again, and there is the function with its new body
  obtain ⟨d', found, owner', -⟩ := (finds.setBlockAt new).exists_function
  rw [findFunction_eq_ok_iff, found]
  cases owner'.symm.trans (finds.ownerAt?_setBlockAt owner new)
  rfl

theorem exists_functionAt (h : findFunction script name = .ok d) :
    ∃ path, FunctionAt script name path d := by
  obtain ⟨path, placed⟩ := exists_functionPlace h
  exact ⟨path, functionAt_of_functionPlace placed⟩

theorem setFunctionBody_eq_error_iff {e : SourceError} :
    setFunctionBody script name new = .error e ↔ findFunction script name = .error e := by
  rw [findFunction_eq_map, setFunctionBody]
  cases functionPlace script name with
  | error e' => simp [Except.map]
  | ok place => simp [Except.map]

/-! ### The main loop -/

/-- The body `loop` of a loop directly in `main` is read at a path of the script, and replaced
there. -/
structure MainLoopAt (script : Block) (path : BlockPath) (loop : Block) : Prop where
  place : mainLoopPlace script = .ok ⟨path, loop⟩
  finds : ∃ main i, path = main ++ [(i, 0)] ∧ Finds mainName script main
  owner : ∃ test orelse, ownerAt? path script = some (.whileLoop test loop orelse)
  body : blockAt? path script = some loop
  replaced : ∀ new, ∃ script', setMainLoopBody script new = .ok script' ∧
    ReplacesBlock script path new script' ∧ mainLoopBody script' = .ok new

theorem whileBody?_eq_some_iff {loop : Block} :
    s.whileBody? = some loop ↔ ∃ test orelse, s = .whileLoop test loop orelse := by
  cases s with
  | whileLoop test body orelse => simp [Stmt.whileBody?]
  | _ => simp [Stmt.whileBody?]

/-- There is no loop among statements that are numbered from `i` on. -/
theorem filterMap_whileBody?_eq_nil_iff {i : Nat} :
    (body.zipIdx i).filterMap (fun (s, i) => s.whileBody?.map (Placed.mk [(i, 0)])) = [] ↔
      ∀ s ∈ body, s.whileBody? = none := by
  rw [List.filterMap_eq_nil_iff]
  induction body generalizing i with
  | nil => simp
  | cons s body ih =>
    rw [List.zipIdx_cons, List.forall_mem_cons, List.forall_mem_cons, ih]
    exact and_congr_left fun _ => Option.map_eq_none_iff

/-- The only loop of a block stands between statements that are none. -/
theorem onlyLoop_eq_ok_iff {place : Placed Block} :
    onlyLoop body = .ok place ↔
      ∃ before test orelse after, body = before ++ .whileLoop test place.value orelse :: after ∧
        place.path = [(before.length, 0)] ∧ ∀ s ∈ before ++ after, s.whileBody? = none := by
  constructor
  · intro h
    unfold onlyLoop at h
    split at h
    · cases h
    · next loop only =>
      cases h
      obtain ⟨front, loopStmt, rest, split, noneFront, isLoop, noneRest⟩ :=
        List.filterMap_eq_cons_iff.1 only
      obtain ⟨before, tail, rfl, rfl, numbered⟩ := List.zipIdx_eq_append_iff.1 split
      obtain ⟨s, after, rfl, rfl, rfl⟩ := List.zipIdx_eq_cons_iff.1 numbered.symm
      obtain ⟨body, whileBody, rfl⟩ := Option.map_eq_some_iff.1 isLoop
      obtain ⟨test, orelse, rfl⟩ := whileBody?_eq_some_iff.1 whileBody
      have others := List.forall_mem_append.2
        ⟨filterMap_whileBody?_eq_nil_iff.1 (List.filterMap_eq_nil_iff.2 noneFront),
          filterMap_whileBody?_eq_nil_iff.1 noneRest⟩
      exact ⟨before, test, orelse, after, rfl, by rw [Nat.zero_add], others⟩
    · cases h
  · rintro ⟨before, test, orelse, after, rfl, path, others⟩
    obtain ⟨front, rest⟩ := List.forall_mem_append.1 others
    rw [onlyLoop, List.zipIdx_append, List.zipIdx_cons, List.filterMap_append, List.filterMap_cons,
      filterMap_whileBody?_eq_nil_iff.2 front, filterMap_whileBody?_eq_nil_iff.2 rest]
    simp [Stmt.whileBody?, ← path]

/-- The only loop is found again with another body. -/
theorem onlyLoop_setBlockAt {place : Placed Block} (h : onlyLoop body = .ok place) (new : Block) :
    onlyLoop (setBlockAt new place.path body) = .ok { place with value := new } := by
  obtain ⟨before, test, orelse, after, rfl, path, others⟩ := onlyLoop_eq_ok_iff.1 h
  refine onlyLoop_eq_ok_iff.2 ⟨before, test, orelse, after, ?_, path, others⟩
  rw [path, setBlockAt_append_cons]
  rfl

theorem mainLoopBody_eq_map (script : Block) :
    mainLoopBody script = (mainLoopPlace script).map Placed.value := by
  rw [mainLoopBody, mainLoopPlace, findFunction_eq_map]
  cases functionPlace script mainName with
  | error e => rfl
  | ok main =>
    show (onlyLoop main.value.body >>= _) = Except.map _ (onlyLoop main.value.body >>= _)
    cases onlyLoop main.value.body with
    | error e => rfl
    | ok loop => rfl

/-- The place of the main loop is that of `main` and then that of its only loop. -/
theorem mainLoopPlace_eq_ok_iff {place : Placed Block} :
    mainLoopPlace script = .ok place ↔
      ∃ main loop, functionPlace script mainName = .ok main ∧
        onlyLoop main.value.body = .ok loop ∧ place = ⟨main.path ++ loop.path, loop.value⟩ := by
  simp only [mainLoopPlace, bind_eq_ok_iff, pure_eq_ok, Except.ok.injEq, eq_comm (b := place),
    exists_and_left]

theorem setMainLoopBody_of_mainLoopPlace {place : Placed Block}
    (h : mainLoopPlace script = .ok place) (new : Block) :
    setMainLoopBody script new = .ok (setBlockAt new place.path script) := by
  rw [setMainLoopBody, h]
  rfl

theorem mainLoopAt_of_mainLoopPlace {loop : Block} (h : mainLoopPlace script = .ok ⟨path, loop⟩) :
    MainLoopAt script path loop := by
  obtain ⟨main, inner, placed, only, same⟩ := mainLoopPlace_eq_ok_iff.1 h
  cases same
  have mainAt := functionAt_of_functionPlace placed
  obtain ⟨before, test, orelse, after, split, path, -⟩ := onlyLoop_eq_ok_iff.1 only
  have here : main.value.body[before.length]? = some (.whileLoop test inner.value orelse) := by
    rw [split]
    simp
  have body : blockAt? (main.path ++ inner.path) script = some inner.value := by
    rw [blockAt?_append mainAt.body, path]
    exact blockAt?_cons_eq_some_iff.2 ⟨_, _, here, rfl, rfl⟩
  refine ⟨h, ⟨main.path, before.length, by rw [path], mainAt.finds⟩, ⟨test, orelse, ?_⟩, body, ?_⟩
  · rw [path, ownerAt?_append mainAt.body]
    exact here
  · intro new
    refine ⟨_, setMainLoopBody_of_mainLoopPlace h new, replacesBlock_setBlockAt body new, ?_⟩
    -- a loop with a new body is a new body of `main`
    obtain ⟨script', replaced, -, found⟩ := mainAt.replaced (setBlockAt new inner.path main.value.body)
    rw [setFunctionBody_of_functionPlace placed, ← setBlockAt_append mainAt.body] at replaced
    cases replaced
    rw [mainLoopBody, found, ok_bind, onlyLoop_setBlockAt only]
    rfl

theorem exists_mainLoopAt {loop : Block} (h : mainLoopBody script = .ok loop) :
    ∃ path, MainLoopAt script path loop := by
  rw [mainLoopBody_eq_map] at h
  cases placed : mainLoopPlace script with
  | error e =>
    rw [placed] at h
    cases h
  | ok place =>
    rw [placed] at h
    cases h
    exact ⟨place.path, mainLoopAt_of_mainLoopPlace placed⟩

theorem setMainLoopBody_eq_error_iff {e : SourceError} :
    setMainLoopBody script new = .error e ↔ mainLoopBody script = .error e := by
  rw [mainLoopBody_eq_map, setMainLoopBody]
  cases mainLoopPlace script with
  | error e' => simp [Except.map]
  | ok place => simp [Except.map]

/-! ### Both -/

/-- To read a function and to give it another body fail alike. Where they do not, they are at one
path of the script: the body there is the one that is read, any other body can be put there, which
changes nothing else, and then the same function is read with that body. The same holds for the body
of the main loop. -/
theorem replaced_where_read (script : Block) :
    (∀ name new e,
      setFunctionBody script name new = .error e ↔ findFunction script name = .error e) ∧
    (∀ name d, findFunction script name = .ok d → ∃ path, FunctionAt script name path d) ∧
    (∀ new e, setMainLoopBody script new = .error e ↔ mainLoopBody script = .error e) ∧
    ∀ loop, mainLoopBody script = .ok loop → ∃ path, MainLoopAt script path loop :=
  ⟨fun _ _ _ => setFunctionBody_eq_error_iff, fun _ _ => exists_functionAt,
    fun _ _ => setMainLoopBody_eq_error_iff, fun _ => exists_mainLoopAt⟩

/-- A function with a loop. -/
def loopingMain : FunctionDef Stmt :=
  ⟨mainName, [], [.pass, .whileLoop (.name "x") [.breakLoop] []], [], none, false⟩

/-- A script with two functions of one name, the first of which is in a handler. -/
def twoMains : Block :=
  [.classDef ⟨"A", [], [], [.functionDef ⟨"run", [], [.pass], [], none, false⟩], []⟩,
    .tryBlock [.pass] [⟨none, none, [.functionDef loopingMain]⟩] [] [],
    .functionDef ⟨mainName, [], [.continueLoop], [], none, false⟩]

theorem replaced_where_read_twoMains :
    findFunction twoMains mainName = .ok loopingMain ∧ mainLoopBody twoMains = .ok [.breakLoop] ∧
      (∃ path, FunctionAt twoMains mainName path loopingMain) ∧
      (∃ path, MainLoopAt twoMains path [.breakLoop]) ∧
      ∀ new, setFunctionBody twoMains "stop" new = .error (.functionNotFound "stop") := by
  obtain ⟨fails, function, -, loop⟩ := replaced_where_read twoMains
  have main : findFunction twoMains mainName = .ok loopingMain := rfl
  have body : mainLoopBody twoMains = .ok [.breakLoop] := rfl
  exact ⟨main, body, function _ _ main, loop _ body, fun new => (fails _ new _).2 rfl⟩

end RobotCell.Script
