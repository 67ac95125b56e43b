import RobotCell.Script.Lookup

/-!
# Editing a script

Edits take a script and give back the edited script. An edit that fails changes nothing.

## Main definitions

- `addImport`, `isImported` — imports at the top of a script
- `addInstance` — a variable for a new object of a class
- `bindFromRegistry` — a variable for an object of a registry
- `callInMain`, `appendCall` — calls of methods
-/

namespace RobotCell.Script

/-- The list cut behind its last element with the property `p`. -/
def splitAfterLast {α : Type} (p : α → Bool) : List α → List α × List α
  | [] => ([], [])
  | a :: rest =>
    match splitAfterLast p rest with
    | ([], tail) => if p a then ([a], tail) else ([], a :: tail)
    | (front, tail) => (a :: front, tail)

/-! ### Imports -/

/-- The names of an import with one more name, unless it is there under its own name. -/
def addAlias (names : List Alias) (name : String) : List Alias :=
  if names.contains ⟨name, none⟩ then names else names ++ [⟨name, none⟩]

/-- The script with a name added to its first import from the given module, if there is one. -/
def extendImport? (module name : String) : Block → Option Block
  | [] => none
  | s :: rest =>
    match s with
    | .importFrom module' names 0 =>
      if module' = module then some (.importFrom module' (addAlias names name) 0 :: rest)
      else (extendImport? module name rest).map fun rest => s :: rest
    | _ => (extendImport? module name rest).map fun rest => s :: rest

/-- The statement is a lone string. -/
def Stmt.isString : Stmt → Bool
  | .expr e => e.string?.isSome
  | _ => false

/-- The script with a new import: behind its last import, or else at its top, where a lone string
stays in front. -/
def insertImport (new : Stmt) (script : Block) : Block :=
  match splitAfterLast Stmt.isImport script with
  | ([], []) => [new]
  | ([], s :: rest) => if s.isString then s :: new :: rest else new :: s :: rest
  | (front, tail) => front ++ new :: tail

/-- The script with a name imported from a module. -/
def addImport (script : Block) (module name : String) : Block :=
  match extendImport? module name script with
  | some script => script
  | none => insertImport (.importFrom module [⟨name, none⟩] 0) script

/-- The names bound by an import. -/
def Stmt.importedNames : Stmt → List String
  | .importFrom _ names _ => names.map Alias.boundName
  | .importModules names => names.map Alias.boundName
  | _ => []

/-- An import at the top level binds the given name. -/
def isImported (script : Block) (name : String) : Bool :=
  script.any fun s => s.importedNames.contains name

/-! ### Bindings -/

/-- How an expression is named when it stands for a class. -/
def classLabel (e : Expr) : String :=
  e.dottedName?.getD "<expression>"

/-- What a statement binds a name to: the class of a new object, or the annotation. -/
def Stmt.binding? (name : String) : Stmt → Option String
  | .assign targets value =>
    if targets.any fun t => t.name? == some name then
      match value with
      | .call func _ _ => some (classLabel func)
      | value => some (classLabel value)
    else none
  | .annAssign target hint _ => if target.name? == some name then some (classLabel hint) else none
  | _ => none

/-- Whether a name is already bound to the given class. Another binding of it is an error. -/
def isBound (body : Block) (name cls : String) : Except SourceError Bool :=
  match body.findSome? (Stmt.binding? name) with
  | none => .ok false
  | some existing => if existing = cls then .ok true else .error (.nameAlreadyBound name existing)

/-- The body with a statement behind its last binding. -/
def insertAfterBindings (s : Stmt) (body : Block) : Block :=
  let (front, tail) := splitAfterLast Stmt.isBinding body
  front ++ s :: tail

/-- The script with a variable of `main` for a new object of an imported class. -/
def addInstance (script : Block) (cls name : String) : Except SourceError Block := do
  if !isImported script cls then throw (.classNotImported cls)
  let main ← functionPlace script mainName
  let body := main.value.body
  if ← isBound body name cls then return script
  return setBlockAt (.assign [.name name] (.call (.name cls) [] []) :: body) main.path script

/-- The script with a variable of `main` for an object that a registry holds under a key. -/
def bindFromRegistry (script : Block) (name cls accessor key : String) :
    Except SourceError Block := do
  let main ← functionPlace script mainName
  let body := main.value.body
  if ← isBound body name cls then return script
  let value := Expr.subscript (.nameAttr accessor "objects") (.str key)
  let binding := Stmt.annAssign (.name name) (.name cls) (some value)
  return setBlockAt (insertAfterBindings binding body) main.path script

/-! ### Calls -/

/-- The body with a call at its end, in place of a lone `pass`. -/
def appendCall (body : Block) (call : Stmt) : Block :=
  match body with
  | [.pass] => [call]
  | body => body ++ [call]

/-- The script with a call behind the bindings of `main`. -/
def callInMain (script : Block) (call : Stmt) : Except SourceError Block := do
  let main ← functionPlace script mainName
  return setBlockAt (insertAfterBindings call main.value.body) main.path script

/-- The script with a call at the end of the main loop. -/
def callInMainLoop (script : Block) (call : Stmt) : Except SourceError Block := do
  let loop ← mainLoopPlace script
  return setBlockAt (appendCall loop.value call) loop.path script

end RobotCell.Script
