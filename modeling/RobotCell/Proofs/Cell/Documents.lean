import RobotCell.Command.Run
import RobotCell.Proofs.Cell.SavedProject
import RobotCell.Proofs.Json.Integers

/-!
# Records that are saved and loaded

Scenes, types and catalogs come back from their documents as they were, and so do projects unless a
link has the text of another link. The document may be passed on as it is or as a text: the text is
read up to a depth that leaves room for values of 122 levels in the parameters of a project.

## Main definitions

- `Survives` — what was saved is the same when it is loaded
- `Json.IsEchoed` — a value that is left alone by the readers and writers of documents

## Main results

- `survives_of_echoed` — two conditions on the document are enough
- `Catalog.ofList_types` — a catalog is made up of its types, one after the other
- `documents_survive` — projects, scenes, types and catalogs are saved and loaded
-/

namespace RobotCell

open Json (Echoed echoed_null echoed_bool echoed_int echoed_string echoed_array echoed_object
  echoed_list)

/-- What was saved is the same when it is loaded, from the document itself and from its text. -/
structure Survives {α : Type} (write : α → Json) (read : Json → Option α) (a : α) : Prop where
  fromDocument : read (write a) = some a
  fromText : ((Json.parse (write a).render).bind fun document =>
    read (document.bounded Command.maxDepth)) = some a

theorem survives_of_echoed {α : Type} {write : α → Json} {read : Json → Option α} {a : α}
    (back : read (write a) = some a) (echoed : Echoed Command.maxDepth (write a)) :
    Survives write read a := by
  refine ⟨back, ?_⟩
  rw [echoed.readsBack.parse_render, Option.bind_some, echoed.shallow, back]

theorem Json.mapM_map_eq_self {α : Type} {read : Json → Option α} {write : α → Json}
    {items : List α} (h : ∀ a ∈ items, read (write a) = some a) :
    (items.map write).mapM read = some items := by
  have read := Json.mapM_map_eq_some h
  rwa [List.map_id'] at read

/-! ### Projects -/

/-- The link has the text of an end of the program, and is not one. -/
def Link.IsAmbiguous (l : Link) : Prop :=
  l = .action "start" ∨ l = .action "end"

theorem Link.reloaded_eq_self_iff {l : Link} : l.reloaded = l ↔ ¬l.IsAmbiguous := by
  cases l with
  | first => simp [Link.reloaded, Link.text, Link.ofText, Link.IsAmbiguous]
  | last => simp [Link.reloaded, Link.text, Link.ofText, Link.IsAmbiguous]
  | action id => simp [Link.reloaded_action_eq_iff, Link.IsAmbiguous]

theorem map_eq_self_iff {α : Type} {f : α → α} {items : List α} :
    items.map f = items ↔ ∀ a ∈ items, f a = a := by
  have compared := List.map_inj_left (l := items) (f := f) (g := fun a => a)
  rwa [List.map_id'] at compared

theorem Action.reloaded_eq_self_iff {a : Action} :
    a.reloaded = a ↔ ∀ l ∈ a.inputs ++ a.outputs, ¬l.IsAmbiguous := by
  have links : a.reloaded = a ↔
      a.inputs.map Link.reloaded = a.inputs ∧ a.outputs.map Link.reloaded = a.outputs := by
    obtain ⟨id, type, inputs, outputs, parameters⟩ := a
    simp [Action.reloaded]
  simp only [links, map_eq_self_iff, Link.reloaded_eq_self_iff, List.forall_mem_append]

/-- A project comes back as it was exactly if no link has the text of another one. -/
theorem Project.reloaded_eq_self_iff {p : Project} :
    p.reloaded = p ↔ ∀ a ∈ p.actions, ∀ l ∈ a.inputs ++ a.outputs, ¬l.IsAmbiguous := by
  have actions : p.reloaded = p ↔ p.actions.map Action.reloaded = p.actions := by
    obtain ⟨id, sceneId, desc, actions, parameters⟩ := p
    simp [Project.reloaded]
  simp only [actions, map_eq_self_iff, Action.reloaded_eq_self_iff]

section Echoed

variable {depth : Nat}

theorem Parameter.echoed_toJson {v : Parameter} (h : Echoed depth v.value) :
    Echoed (depth + 1) v.toJson :=
  echoed_object (by simp [echoed_string, h])

theorem Action.echoed_toJson {a : Action} (h : ∀ v ∈ a.parameters, Echoed depth v.value) :
    Echoed (depth + 3) a.toJson := by
  have links : ∀ ls : List Link, Echoed (depth + 2) (.array (ls.map Link.toJson)) :=
    fun ls => echoed_list fun l _ => echoed_string l.text
  have values : Echoed (depth + 2) (.array (a.parameters.map Parameter.toJson)) :=
    echoed_list fun v mem => Parameter.echoed_toJson (h v mem)
  exact echoed_object (by simp [echoed_string, links, values])

theorem Project.echoed_toJson {p : Project}
    (h : ∀ a ∈ p.actions, ∀ v ∈ a.parameters, Echoed depth v.value) :
    Echoed (depth + 5) p.toJson := by
  have actions : Echoed (depth + 4) (.array (p.actions.map Action.toJson)) :=
    echoed_list fun a mem => Action.echoed_toJson (h a mem)
  have names : Echoed (depth + 4) (.array (p.parameters.map .string)) :=
    echoed_list fun s _ => echoed_string s
  exact echoed_object (by simp [echoed_string, actions, names])

end Echoed

/-! ### Scenes -/

theorem Scene.ofJson_toJson (s : Scene) : Scene.ofJson s.toJson = some s := by
  have given : Json.fields ["id", "desc", "objects"] s.toJson =
      some [some (.string s.id), some (.string s.desc),
        some (.array (s.objects.map SceneObject.toJson))] := rfl
  have objects : (s.objects.map SceneObject.toJson).mapM SceneObject.ofJson = some s.objects :=
    Json.mapM_map_eq_self fun _ _ => rfl
  simp [Scene.ofJson, given, Json.required, Json.withDefault, Json.toText?, Json.toList?, objects]

theorem Scene.echoed_toJson (depth : Nat) (s : Scene) : Echoed (depth + 3) s.toJson := by
  have objects : Echoed (depth + 2) (.array (s.objects.map SceneObject.toJson)) :=
    echoed_list fun o _ => echoed_object (by simp [echoed_string])
  exact echoed_object (by simp [echoed_string, objects])

/-! ### Types and catalogs -/

theorem ObjectType.ofJson_toJson (t : ObjectType) : ObjectType.ofJson t.toJson = some t := by
  obtain ⟨name, base, description⟩ := t
  cases base with
  | none => rfl
  | some base => rfl

theorem ObjectAction.ofJson_toJson (a : ObjectAction) :
    ObjectAction.ofJson a.toJson = some a := by
  have given : Json.fields ["name", "meta", "actionArgs"] a.toJson =
      some [some (.string a.name), some a.flags.toJson,
        some (.array (a.args.map ActionArg.toJson))] := rfl
  have flags : ActionFlags.ofJson a.flags.toJson = some a.flags := rfl
  have args : (a.args.map ActionArg.toJson).mapM ActionArg.ofJson = some a.args :=
    Json.mapM_map_eq_self fun _ _ => rfl
  simp [ObjectAction.ofJson, given, Json.required, Json.withDefault, Json.toText?, Json.toList?,
    flags, args]

theorem TypeEntry.ofJson_toJson (e : TypeEntry) : TypeEntry.ofJson e.toJson = some e := by
  have given : Json.fields ["objectType", "actions"] e.toJson =
      some [some e.objectType.toJson, some (.array (e.actions.map ObjectAction.toJson))] := rfl
  have actions : (e.actions.map ObjectAction.toJson).mapM ObjectAction.ofJson = some e.actions :=
    Json.mapM_map_eq_self fun a _ => a.ofJson_toJson
  simp [TypeEntry.ofJson, given, Json.required, Json.withDefault, Json.toList?, actions,
    ObjectType.ofJson_toJson]

theorem Catalog.put_of_notMem {e : TypeEntry} {types : List TypeEntry}
    (h : e.name ∉ types.map TypeEntry.name) : Catalog.put e types = types ++ [e] := by
  induction types with
  | nil => rfl
  | cons d types ih =>
    rw [List.map_cons, List.mem_cons, not_or] at h
    rw [Catalog.put, if_neg (Ne.symm h.1), ih h.2, List.cons_append]

theorem Catalog.types_foldl_insert {types : List TypeEntry} {c : Catalog}
    (h : ((c.types ++ types).map TypeEntry.name).Nodup) :
    (types.foldl Catalog.insert c).types = c.types ++ types := by
  induction types generalizing c with
  | nil => simp
  | cons e types ih =>
    have unseen : e.name ∉ c.types.map TypeEntry.name := by
      rw [List.map_append, List.map_cons, List.nodup_middle, List.nodup_cons] at h
      exact fun seen => h.1 (List.mem_append_left _ seen)
    have inserted : (c.insert e).types = c.types ++ [e] := Catalog.put_of_notMem unseen
    rw [List.foldl_cons, ih (by rwa [inserted, List.append_assoc]), inserted, List.append_assoc]
    rfl

theorem Catalog.eq_of_types_eq {c d : Catalog} (h : c.types = d.types) : c = d := by
  cases c
  cases d
  cases h
  rfl

/-- A catalog is made up of its types, one after the other: no name occurs twice, so that every
type goes to the end. -/
theorem Catalog.ofList_types (c : Catalog) : Catalog.ofList c.types = c :=
  Catalog.eq_of_types_eq (Catalog.types_foldl_insert (c := Catalog.empty) c.distinct)

theorem Catalog.ofJson_toJson (c : Catalog) : Catalog.ofJson c.toJson = some c := by
  have types : (c.types.map TypeEntry.toJson).mapM TypeEntry.ofJson = some c.types :=
    Json.mapM_map_eq_self fun e _ => e.ofJson_toJson
  simp [Catalog.ofJson, Catalog.toJson, Json.toList?, types, Catalog.ofList_types]

theorem ObjectType.echoed_toJson (depth : Nat) (t : ObjectType) : Echoed (depth + 1) t.toJson := by
  have base : Echoed depth (t.base.elim .null .string) := by
    cases t.base with
    | none => exact echoed_null
    | some base => exact echoed_string base
  exact echoed_object (by simp [echoed_string, base])

theorem ObjectAction.echoed_toJson (depth : Nat) (a : ObjectAction) :
    Echoed (depth + 3) a.toJson := by
  have flags : Echoed (depth + 2) a.flags.toJson := echoed_object (by simp [echoed_bool])
  have args : Echoed (depth + 2) (.array (a.args.map ActionArg.toJson)) :=
    echoed_list fun arg _ => echoed_object (by simp [echoed_string])
  exact echoed_object (by simp [echoed_string, flags, args])

theorem TypeEntry.echoed_toJson (depth : Nat) (e : TypeEntry) : Echoed (depth + 5) e.toJson := by
  have objectType : Echoed (depth + 4) e.objectType.toJson := e.objectType.echoed_toJson _
  have actions : Echoed (depth + 4) (.array (e.actions.map ObjectAction.toJson)) :=
    echoed_list fun a _ => a.echoed_toJson _
  exact echoed_object (by simp [objectType, actions])

theorem Catalog.echoed_toJson (depth : Nat) (c : Catalog) : Echoed (depth + 6) c.toJson :=
  echoed_list fun e _ => e.echoed_toJson _

/-! ### All records -/

/-- The value is left alone by the readers and writers of documents when it is the value of a
parameter, which stands five levels deep in a project. -/
structure Json.IsEchoed (v : Json) : Prop where
  settled : v.settle = some v
  echoed : Echoed (Command.maxDepth - 5) v

/-- Scenes, types and catalogs are saved and loaded. Projects with values that are left alone are
exactly if no link has the text of another one. -/
theorem documents_survive :
    (∀ p : Project, (∀ a ∈ p.actions, ∀ v ∈ a.parameters, v.value.IsEchoed) →
      (Survives Project.toJson Project.ofJson p ↔
        ∀ a ∈ p.actions, ∀ l ∈ a.inputs ++ a.outputs, ¬l.IsAmbiguous)) ∧
    (∀ s : Scene, Survives Scene.toJson Scene.ofJson s) ∧
    (∀ e : TypeEntry, Survives TypeEntry.toJson TypeEntry.ofJson e) ∧
    (∀ inserted : List TypeEntry,
      Survives Catalog.toJson Catalog.ofJson (inserted.foldl Catalog.insert .empty)) := by
  refine ⟨fun p values => ?_, fun s => ?_, fun e => ?_, fun inserted => ?_⟩
  · have back : Project.ofJson p.toJson = some p.reloaded :=
      Project.ofJson_toJson fun a ha v hv => (values a ha v hv).settled
    rw [← Project.reloaded_eq_self_iff]
    constructor
    · intro survives
      exact Option.some_inj.1 (back.symm.trans survives.fromDocument)
    · intro same
      rw [same] at back
      exact survives_of_echoed back
        (Project.echoed_toJson fun a ha v hv => (values a ha v hv).echoed)
  · exact survives_of_echoed s.ofJson_toJson (s.echoed_toJson 124)
  · exact survives_of_echoed e.ofJson_toJson (e.echoed_toJson 122)
  · exact survives_of_echoed (Catalog.ofJson_toJson _) (Catalog.echoed_toJson 121 _)

/-- A project of one action, with links to both ends of the program and to another action, and with
a value of two levels. -/
theorem documents_survive_of_nested_value :
    let value : Json := .object [("at", .array [.number (.int (-7)), .bool true, .null])]
    let p : Project := ⟨"p", "s", "a \"cell\"\n",
      [⟨"a1", "robot/move", [.first, .action "a2"], [.last], [⟨"pose", "relative", value⟩]⟩], ["r"]⟩
    Survives Project.toJson Project.ofJson p := by
  intro value p
  have settled : value.settle = some value := by
    simp [value, Json.settle, Json.settleMembers, Json.settleItems, Json.sortMembers]
  have echoed : Echoed (120 + 2) value := by
    refine echoed_object (List.forall_mem_singleton.2 ?_)
    refine echoed_array (List.forall_mem_cons.2 ⟨echoed_int (by decide), ?_⟩)
    simp [echoed_bool, echoed_null]
  refine (documents_survive.1 p ?_).2 ?_
  · simpa [p] using ⟨settled, echoed⟩
  · simp [p, Link.IsAmbiguous, or_imp, forall_and]

end RobotCell
