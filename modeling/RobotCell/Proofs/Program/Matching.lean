import RobotCell.Proofs.Cell.Inspected
import RobotCell.Proofs.Program.Names

/-!
# The methods that a program calls

An action of a program names one object of the scene and a method that the type of the object
offers. Its parameters are compared with the arguments of the method by name, and only the first
parameter of a name counts. So they match the arguments one to one exactly if no name is repeated: a
parameter behind another one of its name is let through whatever its type is.

## Main definitions

- `Action.Calls` — the object and the method that an action names
- `Action.FitsMethod` — what is asked of the parameters of an action
- `Action.MatchesMethod` — the parameters match the arguments of a method one to one

## Main results

- `program_matches_methods_iff` — when all actions of a program match their methods
-/

namespace RobotCell

open Script

/-! ### Parameters -/

/-- The first parameter with the name of an argument has the type of the argument, and every
parameter has the name of one. -/
structure Action.FitsMethod (a : Action) (method : ObjectAction) : Prop where
  covers : ∀ arg ∈ method.args, ∃ p, a.parameter? arg.name = some p ∧ p.type = arg.type
  known : ∀ p ∈ a.parameters, ∃ arg ∈ method.args, arg.name = p.id

/-- The parameters are the arguments of the method: no name is repeated, every argument has a
parameter of its type, and every parameter is an argument of its type. -/
structure Action.MatchesMethod (a : Action) (method : ObjectAction) : Prop where
  distinct : (a.parameters.map Parameter.id).Nodup
  covers : ∀ arg ∈ method.args, ∃ p ∈ a.parameters, p.id = arg.name ∧ p.type = arg.type
  known : ∀ p ∈ a.parameters, ∃ arg ∈ method.args, arg.name = p.id ∧ arg.type = p.type

theorem Action.parameter?_eq_some {a : Action} {id : String} {p : Parameter}
    (h : a.parameter? id = some p) : p ∈ a.parameters ∧ p.id = id :=
  ⟨List.mem_of_find?_eq_some h, by simpa using List.find?_some h⟩

theorem argumentFault?_eq_none_iff {a : Action} {arg : ActionArg} :
    argumentFault? a arg = none ↔ ∃ p, a.parameter? arg.name = some p ∧ p.type = arg.type := by
  unfold argumentFault?
  cases a.parameter? arg.name <;> simp

theorem parameterFault?_eq_none_iff {a : Action} {method : ObjectAction} :
    parameterFault? a method = none ↔ a.FitsMethod method := by
  have covers : method.args.findSome? (argumentFault? a) = none ↔
      ∀ arg ∈ method.args, ∃ p, a.parameter? arg.name = some p ∧ p.type = arg.type := by
    simp only [List.findSome?_eq_none_iff, argumentFault?_eq_none_iff]
  have known : a.parameters.find? (fun p => (method.arg? p.id).isNone) = none ↔
      ∀ p ∈ a.parameters, ∃ arg ∈ method.args, arg.name = p.id := by
    simp [ObjectAction.arg?]
  unfold parameterFault?
  split
  · next fault found =>
    refine iff_of_false nofun fun fits => ?_
    rw [covers.2 fits.covers] at found
    cases found
  · next none =>
    rw [Option.map_eq_none_iff, known]
    exact ⟨fun h => ⟨covers.1 none, h⟩, fun h => h.known⟩

/-- Where no name is repeated, every parameter is the first one of its name. -/
theorem Action.FitsMethod.matches_iff {a : Action} {method : ObjectAction}
    (h : a.FitsMethod method) :
    a.MatchesMethod method ↔ (a.parameters.map Parameter.id).Nodup := by
  refine ⟨fun all => all.distinct, fun distinct => ⟨distinct, fun arg harg => ?_, fun p hp => ?_⟩⟩
  · obtain ⟨p, found, type⟩ := h.covers arg harg
    obtain ⟨hp, name⟩ := parameter?_eq_some found
    exact ⟨p, hp, name, type⟩
  · obtain ⟨arg, harg, name⟩ := h.known p hp
    obtain ⟨first, found, type⟩ := h.covers arg harg
    obtain ⟨hfirst, same⟩ := parameter?_eq_some found
    have only : first = p := List.inj_on_of_nodup_map distinct hfirst hp (same.trans name)
    exact ⟨arg, harg, name, only ▸ type.symm⟩

/-! ### Targets -/

/-- The action names the object, which is the only one of the scene with its id, and a method that
the type of the object offers. -/
structure Action.Calls (scene : Scene) (catalog : Catalog) (a : Action) (o : SceneObject)
    (method : ObjectAction) : Prop where
  target : a.target = .ok (o.id, method.name)
  only : scene.objects.filter (fun x => x.id = o.id) = [o]
  offered : catalog.action? o.type method.name = .ok (some method)

variable {settings : Settings} {p : Project} {scene : Scene} {catalog : Catalog} {text : String}

/-- Objects with distinct variables have distinct ids. -/
theorem filter_id_eq_singleton (h : checkScene scene = .ok ()) {o : SceneObject}
    (ho : o ∈ scene.objects) : scene.objects.filter (fun x => x.id = o.id) = [o] := by
  have distinct := (checkScene_eq_ok_iff.1 h).2
  refine (filter_eq_singleton_iff distinct.of_map _ o).2 ⟨⟨ho, by simp⟩, fun x hx => ?_⟩
  have same : x.id = o.id := of_decide_eq_true hx.2
  exact List.inj_on_of_nodup_map distinct hx.1 ho (congrArg Naming.variableName same)

theorem Action.calls_of_check (hscene : checkScene scene = .ok ()) {a : Action}
    (h : checkAction scene catalog a = .ok ()) :
    ∃ o method, a.Calls scene catalog o method ∧ a.FitsMethod method := by
  obtain ⟨-, objectId, name, o, method, target, found, known, fits⟩ := checkAction_eq_ok_iff.1 h
  obtain rfl : o.id = objectId := by simpa using List.find?_some found
  obtain ⟨rfl, -⟩ := Catalog.exists_entry_of_action? known
  have only := filter_id_eq_singleton hscene (List.mem_of_find?_eq_some found)
  exact ⟨o, method, ⟨target, only, known⟩, parameterFault?_eq_none_iff.1 fits⟩

/-! ### Programs -/

/-- Every action of a program calls a method of the only object with its id, and its parameters fit
the method. They match the arguments one to one if no action repeats the name of a parameter. -/
theorem program_matches_methods_iff (h : program settings p scene catalog = .ok text) :
    (∀ a ∈ p.actions, ∃ o method, a.Calls scene catalog o method ∧ a.FitsMethod method) ∧
      ((∀ a ∈ p.actions, ∃ o method, a.Calls scene catalog o method ∧ a.MatchesMethod method) ↔
        ∀ a ∈ p.actions, (a.parameters.map Parameter.id).Nodup) := by
  obtain ⟨hscene, -, path, -, hpath, checked, -⟩ := program_eq_ok_iff.1 h
  -- every action of the project is on its path, so it was checked
  have all : ∀ a ∈ p.actions, ∃ o method, a.Calls scene catalog o method ∧ a.FitsMethod method :=
    fun a ha => Action.calls_of_check hscene
      (checked a (((chain_eq_ok_iff p path).1 hpath).enumerates.mem_iff.2 ha))
  refine ⟨all, forall₂_congr fun a ha => ⟨?_, fun distinct => ?_⟩⟩
  · rintro ⟨o, method, -, all⟩
    exact all.distinct
  · obtain ⟨o, method, calls, fits⟩ := all a ha
    exact ⟨o, method, calls, fits.matches_iff.2 distinct⟩

theorem program_matches_methods_armScene :
    program {} cameraProject armScene cameraCatalog = .ok armText ∧
      ∀ a ∈ cameraProject.actions, ∃ o method, a.Calls armScene cameraCatalog o method ∧
        a.MatchesMethod method :=
  ⟨program_armScene, (program_matches_methods_iff program_armScene).2.2 (by decide)⟩

/-! ### A parameter that is repeated -/

/-- An action with two parameters of one name and of different types. -/
def pickTwice : Action :=
  ⟨"pick", "LeftArm/grip", [.first], [.action "look"],
    [⟨"force", "double", .null⟩, ⟨"force", "string", .null⟩]⟩

def twicePath : List Action :=
  [pickTwice, ⟨"look", "camera/scan", [.action "pick"], [.last], []⟩]

def twiceProject : Project :=
  { cameraProject with actions := twicePath.reverse }

theorem program_twiceProject : program {} twiceProject armScene cameraCatalog = .ok armText := by
  have called : List.Forall₂ (fun a c => ActionCall.IsOf c a) twicePath cameraCalls := by
    refine .cons ⟨rfl, ?_⟩ (.cons ⟨rfl, ?_⟩ .nil)
    · exact (ActionCall.fits_iff _ _).2 ⟨"LeftArm", rfl, by decide⟩
    · exact (ActionCall.fits_iff _ _).2 ⟨"camera", rfl, by decide⟩
  refine program_eq_ok_iff.2 ⟨rfl, ?_, twicePath, cameraCalls, rfl, ?_, called, rfl, rfl⟩
  · simp only [armScene, SceneObject.KeepsResources, List.forall_mem_cons]
    decide
  · exact List.forall_mem_cons.2 ⟨rfl, List.forall_mem_singleton.2 rfl⟩

/-- The second of two parameters with one name is let through with a type that is not the one of the
argument. -/
theorem repeated_parameter_twiceProject :
    program {} twiceProject armScene cameraCatalog = .ok armText ∧
      ∃ a ∈ twiceProject.actions, ¬(a.parameters.map Parameter.id).Nodup ∧
        ∀ o method, a.Calls armScene cameraCatalog o method →
          ∃ p ∈ a.parameters, ∀ arg ∈ method.args, ¬(arg.name = p.id ∧ arg.type = p.type) := by
  refine ⟨program_twiceProject, pickTwice, by simp [twiceProject, twicePath], by decide, ?_⟩
  intro o method calls
  refine ⟨⟨"force", "string", .null⟩, by simp [pickTwice], ?_⟩
  -- the object and the method are the ones that the action names
  obtain ⟨id, name⟩ := Prod.mk.inj (Except.ok.inj (calls.target.symm.trans rfl :
    Except.ok (o.id, method.name) = .ok ("LeftArm", "grip")))
  have object : o = ⟨"LeftArm", "Robot"⟩ := by
    have only := calls.only
    rw [id] at only
    exact (List.singleton_inj.1 (only.symm.trans (by decide)))
  have offered := calls.offered
  rw [object, name] at offered
  have known : cameraCatalog.action? "Robot" "grip" =
      .ok (some ⟨"grip", .none, [⟨"force", "double"⟩]⟩) := by decide
  rw [known] at offered
  obtain rfl := Option.some.inj (Except.ok.inj offered)
  decide

end RobotCell
