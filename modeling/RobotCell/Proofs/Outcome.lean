import Mathlib.Data.List.Forall2
import Mathlib.Tactic.SplitIfs
import RobotCell.CompileError

/-!
# Outcomes of steps that may fail

What a sequence of steps succeeds with, and how the outcomes of the parts of the library turn into
outcomes of a compilation. Proofs about whole compilations take them apart with these statements and
do not open the definitions.
-/

namespace RobotCell

variable {α β ε : Type}

@[simp]
theorem ok_bind (a : α) (f : α → Except ε β) : (Except.ok a >>= f) = f a := rfl

@[simp]
theorem error_bind (e : ε) (f : α → Except ε β) : (Except.error e >>= f) = .error e := rfl

@[simp]
theorem map_ok (f : α → β) (a : α) : (f <$> (Except.ok a : Except ε α)) = .ok (f a) := rfl

@[simp]
theorem pure_eq_ok (a : α) : (pure a : Except ε α) = .ok a := rfl

/-- Two steps in sequence succeed if the first one does and the second one does on its result. -/
theorem bind_eq_ok_iff {x : Except ε α} {f : α → Except ε β} {b : β} :
    (x >>= f) = .ok b ↔ ∃ a, x = .ok a ∧ f a = .ok b := by
  cases x with
  | error e => simp
  | ok a => simp

/-- A step for each element of a list, in order. -/
theorem mapM_eq_ok_iff {f : α → Except ε β} {as : List α} {bs : List β} :
    as.mapM f = .ok bs ↔ List.Forall₂ (fun a b => f a = .ok b) as bs := by
  induction as generalizing bs with
  | nil => simp [eq_comm]
  | cons a as ih =>
    simp only [List.mapM_cons, bind_eq_ok_iff, List.forall₂_cons_left_iff, ih]
    constructor
    · rintro ⟨b, first, bs', later, ⟨⟩⟩
      exact ⟨b, bs', first, later, rfl⟩
    · rintro ⟨b, bs', first, later, rfl⟩
      exact ⟨b, first, bs', later, rfl⟩

/-- A step for each element of a list, for its effect only. -/
theorem forM_eq_ok_iff {f : α → Except ε Unit} {as : List α} :
    as.forM f = .ok () ↔ ∀ a ∈ as, f a = .ok () := by
  induction as with
  | nil => simp
  | cons a as ih =>
    rw [List.forM, bind_eq_ok_iff, List.forall_mem_cons, ih]
    exact ⟨fun ⟨_, first, later⟩ => ⟨first, later⟩, fun ⟨first, later⟩ => ⟨(), first, later⟩⟩

/-- The last of the steps that go through a list. -/
theorem foldlM_concat_eq_ok_iff {f : β → α → Except ε β} {as : List α} {a : α} {start b : β} :
    (as ++ [a]).foldlM f start = .ok b ↔
      ∃ middle, as.foldlM f start = .ok middle ∧ f middle a = .ok b := by
  simp [bind_eq_ok_iff]

/-- A condition that ends a computation if it does not hold. -/
theorem guard_eq_ok_iff {condition : Prop} [Decidable condition] {a b : α} {e : ε} :
    (if condition then pure a else throw e : Except ε α) = .ok b ↔ condition ∧ a = b := by
  split_ifs with h
  · simp [h, pure, Except.pure]
  · simp [h]

namespace CompileError

@[simp]
theorem ofCell_eq_ok_iff {x : Except CellError α} {a : α} : ofCell x = .ok a ↔ x = .ok a := by
  cases x <;> simp [ofCell]

@[simp]
theorem ofSource_eq_ok_iff {x : Except Script.SourceError α} {a : α} :
    ofSource x = .ok a ↔ x = .ok a := by
  cases x <;> simp [ofSource]

@[simp]
theorem ofRender_eq_ok_iff {x : Except Script.RenderError α} {a : α} :
    ofRender x = .ok a ↔ x = .ok a := by
  cases x <;> simp [ofRender]

@[simp]
theorem parseScript_eq_ok_iff {text : String} {script : Script.Block} :
    parseScript text = .ok script ↔ Script.parse text = .ok script := by
  unfold parseScript
  cases Script.parse text <;> simp

end CompileError

end RobotCell
