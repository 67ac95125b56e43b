import RobotCell.Proofs.Cell.Inheritance
import RobotCell.Proofs.Cell.Pairing

/-!
# Names of inspected actions

The actions of a type that was read from a source are methods of a class, so their names are
identifiers. An action that is found in a catalog belongs to one of its types, possibly to one that
the given type is based on.

## Main results

- `Inspection.isIdentifier_of_entryOf` — actions of a source are named by identifiers
- `Catalog.exists_entry_of_action?` — an action that is found belongs to a type of the catalog
-/

namespace RobotCell

open Script

/-! ### Sources -/

namespace Inspection

/-- The names of the actions of a source are identifiers. -/
theorem isIdentifier_of_entryOf {source : String} {e : TypeEntry} (h : entryOf source = .ok e) :
    ∀ a ∈ e.actions, isIdentifier a.name = true := by
  obtain ⟨cls, hcls, h⟩ := bind_eq_ok_iff.1 h
  obtain ⟨objectType, -, h⟩ := bind_eq_ok_iff.1 h
  obtain ⟨actions, hactions, h⟩ := bind_eq_ok_iff.1 h
  cases h
  intro a ha
  have named : a.name ∈ (actionMethods cls).map FunctionDef.name :=
    names_actionMethods hactions ▸ List.mem_map_of_mem ha
  obtain ⟨d, hd, same⟩ := List.mem_map.1 named
  have method : .functionDef d ∈ cls.body := mem_methodsOf_iff.1 (List.mem_of_mem_filter hd)
  cases formed_of_classOf hcls _ method with
  | functionDef _ identifier => exact same ▸ identifier

end Inspection

/-! ### Catalogs -/

namespace Catalog

variable {c : Catalog}

theorem mem_types_of_lineageUpTo {bound : Nat} {e : TypeEntry} {types : List TypeEntry}
    (he : e ∈ c.types) (h : c.lineageUpTo bound e = some types) : ∀ t ∈ types, t ∈ c.types := by
  induction bound generalizing e types with
  | zero => cases h
  | succ bound ih =>
    unfold lineageUpTo at h
    split at h
    · cases h
      exact List.forall_mem_singleton.2 he
    · next base found =>
      obtain ⟨more, hmore, rfl⟩ := Option.map_eq_some_iff.1 h
      exact List.forall_mem_cons.2 ⟨he, ih (mem_types_of_base? found) hmore⟩

/-- An action that is found has the name that was looked for, and belongs to a type. -/
theorem exists_entry_of_action? {type method : String} {a : ObjectAction}
    (h : c.action? type method = .ok (some a)) :
    a.name = method ∧ ∃ e ∈ c.types, a ∈ e.actions := by
  obtain ⟨actions, all, h⟩ := bind_eq_ok_iff.1 h
  have found : actions.find? (fun a => a.name = method) = some a := Except.ok.inj h
  refine ⟨by simpa using List.find?_some found, ?_⟩
  unfold actionsOf at all
  split at all
  · cases all
  · next e got =>
    split at all
    · cases all
    · next types lineage =>
      obtain rfl := Except.ok.inj all
      rw [find?_firstOfEachName] at found
      obtain ⟨t, ht, ha⟩ := List.mem_flatMap.1 (List.mem_of_find?_eq_some found)
      exact ⟨t, mem_types_of_lineageUpTo (mem_types_of_get? got) lineage t ht, ha⟩

end Catalog

end RobotCell
