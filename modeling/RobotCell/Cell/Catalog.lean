import RobotCell.Cell.Action

/-!
# Object types

An object type offers actions: its own ones, and those of the types that it is based on. A catalog
holds object types by name.

## Main definitions

- `ObjectType`, `ObjectAction` — a type and what its objects can do
- `Catalog` — types with distinct names
- `Catalog.insert` — the catalog with one more type, or another type of that name
- `Catalog.lineage?` — a type and the types that it is based on
- `Catalog.actionsOf` — own and inherited actions
-/

namespace RobotCell

/-- A type of objects. -/
structure ObjectType where
  name : String
  base : Option String
  description : String
  deriving DecidableEq

/-- How an action behaves when a program runs. -/
structure ActionFlags where
  free : Bool
  blocking : Bool
  composite : Bool
  blackbox : Bool
  deriving DecidableEq

/-- No flag is set. -/
def ActionFlags.none : ActionFlags := ⟨false, false, false, false⟩

/-- An argument of a method. -/
structure ActionArg where
  name : String
  type : String
  deriving DecidableEq

/-- A method that can be used as an action. -/
structure ObjectAction where
  name : String
  flags : ActionFlags
  args : List ActionArg
  deriving DecidableEq

/-- The first argument with the given name. -/
def ObjectAction.arg? (a : ObjectAction) (name : String) : Option ActionArg :=
  a.args.find? fun arg => arg.name = name

/-- A type with the actions that it defines itself. -/
structure TypeEntry where
  objectType : ObjectType
  actions : List ObjectAction
  deriving DecidableEq

/-- The name of the type. -/
def TypeEntry.name (e : TypeEntry) : String :=
  e.objectType.name

/-- Types with distinct names, in order. -/
structure Catalog where
  types : List TypeEntry
  distinct : (types.map TypeEntry.name).Nodup

namespace Catalog

/-- The catalog without types. -/
def empty : Catalog :=
  ⟨[], List.nodup_nil⟩

/-- The types with the given one in the place of the type of that name, or at the end. -/
def put (e : TypeEntry) : List TypeEntry → List TypeEntry
  | [] => [e]
  | d :: rest => if d.name = e.name then e :: rest else d :: put e rest

theorem names_put (e : TypeEntry) (types : List TypeEntry) :
    (put e types).map TypeEntry.name =
      if e.name ∈ types.map TypeEntry.name then types.map TypeEntry.name
      else types.map TypeEntry.name ++ [e.name] := by
  induction types with
  | nil => simp [put]
  | cons d rest ih =>
    by_cases h : d.name = e.name
    · simp [put, h]
    · have h' : ¬ e.name = d.name := fun he => h he.symm
      simp only [put, h, if_false, List.map_cons, ih, List.mem_cons, h', false_or]
      split <;> simp

theorem nodup_put {e : TypeEntry} {types : List TypeEntry}
    (h : (types.map TypeEntry.name).Nodup) : ((put e types).map TypeEntry.name).Nodup := by
  rw [names_put]
  split
  · exact h
  · next hm =>
    rw [List.nodup_append]
    refine ⟨h, by simp, fun a ha b hb => ?_⟩
    rw [List.mem_singleton] at hb
    exact fun hab => hm (hb ▸ hab ▸ ha)

/-- The catalog with the given type, which replaces a type of the same name. -/
def insert (c : Catalog) (e : TypeEntry) : Catalog :=
  ⟨put e c.types, nodup_put c.distinct⟩

/-- The catalog of the given types, where a later type replaces one of the same name. -/
def ofList (types : List TypeEntry) : Catalog :=
  types.foldl insert empty

/-- The type with the given name. -/
def get? (c : Catalog) (name : String) : Option TypeEntry :=
  c.types.find? fun e => e.name = name

/-- A type has the given name. -/
def contains (c : Catalog) (name : String) : Bool :=
  c.types.any fun e => e.name = name

/-- The number of types. -/
def size (c : Catalog) : Nat :=
  c.types.length

/-- The type that a type is based on, if it is in the catalog. -/
def base? (c : Catalog) (e : TypeEntry) : Option TypeEntry :=
  e.objectType.base.bind c.get?

/-- A type and the types that it is based on, if these are at most `bound` types. -/
def lineageUpTo (c : Catalog) : Nat → TypeEntry → Option (List TypeEntry)
  | 0, _ => none
  | bound + 1, e =>
    match c.base? e with
    | none => some [e]
    | some base => (c.lineageUpTo bound base).map (e :: ·)

/-- A type and the types that it is based on. There is no such list if the types are based on each
other in a circle: it would be longer than the catalog. -/
def lineage? (c : Catalog) (e : TypeEntry) : Option (List TypeEntry) :=
  c.lineageUpTo c.size e

/-- The actions without those whose name has occurred before. -/
def firstOfEachName : List ObjectAction → List ObjectAction
  | [] => []
  | a :: rest => a :: (firstOfEachName rest).filter fun b => b.name ≠ a.name

/-- The actions of a type: its own ones, and those of the types that it is based on unless an
action of that name comes first. -/
def actionsOf (c : Catalog) (name : String) : Except CellError (List ObjectAction) :=
  match c.get? name with
  | none => .error (.unknownObjectType name)
  | some e =>
    match c.lineage? e with
    | none => .error (.baseChainCycle name)
    | some types => .ok (firstOfEachName (types.flatMap TypeEntry.actions))

/-- The action of a type with the given name. -/
def action? (c : Catalog) (type method : String) : Except CellError (Option ObjectAction) := do
  let actions ← c.actionsOf type
  return actions.find? fun a => a.name = method

end Catalog

end RobotCell
