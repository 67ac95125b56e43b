import RobotCell.Cell.Catalog
import RobotCell.CompileError
import RobotCell.Named
import RobotCell.Text.Blank

/-!
# Reading object types

The source of an object type is a script with one class. The methods of the class that are marked
as actions have flags, which are assigned to an attribute of the method.

## Main definitions

- `Inspection.classOf` — the class of a source
- `Inspection.typeOf` — the type that a class defines
- `Inspection.flagTable` — the flags of the methods of a class
- `Inspection.actionsOf` — the actions that a class defines
- `Inspection.entryOf` — the type of a source with its actions
-/

namespace RobotCell.Inspection

open Script

/-- The class that a statement defines. -/
def classDef? : Stmt → Option (ClassDef Stmt)
  | .classDef d => some d
  | _ => none

/-- The method that a statement defines. -/
def method? : Stmt → Option (FunctionDef Stmt)
  | .functionDef d => some d
  | _ => none

/-- The only class of a source. -/
def classOf (source : String) : Except CompileError (ClassDef Stmt) := do
  let script ← CompileError.parseScript source
  match script.filterMap classDef? with
  | [] => throw .noClassDefinition
  | [cls] => return cls
  | _ => throw .multipleClassDefinitions

/-! ### Types -/

/-- The name of the base of a class. -/
def baseOf (cls : ClassDef Stmt) : Except CompileError (Option String) :=
  match cls.bases with
  | [] => .ok none
  | [base] =>
    match base.dottedName? with
    | some name => .ok (some name)
    | none => (CompileError.ofRender (renderExpr base)).map some
  | _ => .error (.multipleBases cls.name)

/-- What a statement assigns as the description of a class. -/
def descriptionValue? : Stmt → Option Expr
  | .assign [target] value => if target.name? = some "__DESCRIPTION__" then some value else none
  | _ => none

/-- The description of a class: the text that is assigned last, or else its first lone string. -/
def descriptionOf (cls : ClassDef Stmt) : Except CompileError String :=
  match (cls.body.filterMap descriptionValue?).mapM Expr.string? with
  | none => .error (.invalidDescription cls.name)
  | some texts =>
    match texts.getLast? with
    | some text => .ok text
    | none => .ok ((cls.docstring?.map Text.trim).getD "")

/-- The type that a class defines. -/
def typeOf (cls : ClassDef Stmt) : Except CompileError ObjectType := do
  let base ← baseOf cls
  let description ← descriptionOf cls
  return { name := cls.name, base, description }

/-! ### Flags -/

/-- How the flag with the given name is set, if there is one. -/
def flagSetter? : String → Option (ActionFlags → Bool → ActionFlags)
  | "free" => some fun flags value => { flags with free := value }
  | "blocking" => some fun flags value => { flags with blocking := value }
  | "composite" => some fun flags value => { flags with composite := value }
  | "blackbox" => some fun flags value => { flags with blackbox := value }
  | _ => none

/-- The flags with one more keyword argument. -/
def addFlag (method : String) (flags : ActionFlags) (argument : Argument Expr) :
    Except CompileError ActionFlags :=
  match argument.name with
  | none => .error (.invalidFlags method)
  | some flag =>
    match flagSetter? flag with
    | none => .error (.unknownFlag method flag)
    | some set =>
      match argument.value with
      | .constant (.bool value) => .ok (set flags value)
      | _ => .error (.invalidFlagValue method flag)

/-- The flags that a value stands for. -/
def flagsOf (method : String) : Expr → Except CompileError ActionFlags
  | .call func [] keywords =>
    if func.dottedName? = some "ActionMetadata" then
      keywords.foldlM (addFlag method) ActionFlags.none
    else .error (.invalidFlags method)
  | _ => .error (.invalidFlags method)

/-- The method whose flags a statement assigns, and the value that is assigned. -/
def flagAssignment? : Stmt → Option (String × Expr)
  | .assign [.attribute (.name method) attr] value =>
    if attr = "__action__" then some (method, value) else none
  | _ => none

/-- The flags of the methods of a class. A later assignment replaces an earlier one. -/
def flagTable (cls : ClassDef Stmt) : Except CompileError (List (String × ActionFlags)) :=
  (cls.body.filterMap flagAssignment?).foldlM
    (fun table (method, value) => do
      let flags ← flagsOf method value
      return putNamed method flags table) []

/-! ### Actions -/

/-- The text of a type that a parameter is annotated with. -/
def typeText : Expr → Except CompileError String
  | .constant (.str text) => .ok (Text.trim text)
  | e => CompileError.ofRender (renderExpr e)

/-- The argument that a parameter of a method stands for. -/
def argOf (method : String) (p : Param Expr) : Except CompileError ActionArg := do
  if p.kind = .varArgs ∨ p.kind = .varKeywords then throw (.unsupportedArgument method p.name)
  match p.hint with
  | none => throw (.untypedArgument method p.name)
  | some hint => return { name := p.name, type := ← typeText hint }

/-- The parameters without the object itself. -/
def ownParams : List (Param Expr) → List (Param Expr)
  | [] => []
  | p :: rest => if p.name = "self" then rest else p :: rest

/-- The actions among the given methods. Each action takes its flags out of the table, and no flags
may be left at the end. -/
def actionsAmong (table : List (String × ActionFlags)) :
    List (FunctionDef Stmt) → Except CompileError (List ObjectAction)
  | [] =>
    match table with
    | [] => .ok []
    | (method, _) :: _ => .error (.missingDecorator method)
  | d :: rest => do
    if d.hasDecorator "action" then
      match table.lookup d.name with
      | none => throw (.missingFlags d.name)
      | some flags =>
        let args ← (ownParams d.params).mapM (argOf d.name)
        let actions ← actionsAmong (table.filter fun e => e.1 ≠ d.name) rest
        return { name := d.name, flags, args } :: actions
    else
      if (table.lookup d.name).isSome then throw (.missingDecorator d.name)
      actionsAmong table rest

/-- The actions that a class defines. -/
def actionsOf (cls : ClassDef Stmt) : Except CompileError (List ObjectAction) := do
  let table ← flagTable cls
  actionsAmong table (cls.body.filterMap method?)

/-! ### Sources -/

/-- The type of a source with its actions. -/
def entryOf (source : String) : Except CompileError TypeEntry := do
  let cls ← classOf source
  let objectType ← typeOf cls
  let actions ← actionsOf cls
  return { objectType, actions }

end RobotCell.Inspection
