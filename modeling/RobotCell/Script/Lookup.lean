import RobotCell.Script.BlockPath
import RobotCell.Script.StmtGrammar

/-!
# Finding things in a script

Functions and classes are looked up by name, depth first: a definition comes before everything
inside it, and that before everything after it. To be changed, a function is looked up once more,
this time with the path to its body: first the statement that has it is found, and then the block of
that statement. The main loop is the only `while` loop directly in the function `main`.

## Main definitions

- `SourceError` — a text that is no script, or a script that lacks what is looked for
- `Stmt.statements`, `statementsOf` — a statement or a block with everything inside it
- `findFunction`, `findClass` — the first definition of a name
- `functionPlace`, `setFunctionBody` — the path to the body of a function, and the same script with
  another body there
- `mainLoopBody`, `mainLoopPlace`, `setMainLoopBody` — the body of the main loop
-/

namespace RobotCell.Script

/-- A text that is no script, or a script that lacks what an operation needs. -/
inductive SourceError where
  | syntaxError (e : SyntaxError)
  | functionNotFound (name : String)
  | classNotFound (name : String)
  | classNotImported (name : String)
  | nameAlreadyBound (name existing : String)
  | mainLoopNotFound
  | multipleMainLoops
  deriving DecidableEq

/-- The wording of an error. -/
def SourceError.message : SourceError → String
  | .syntaxError e => e.message
  | .functionNotFound name => "function `" ++ name ++ "` not found"
  | .classNotFound name => "class definition `" ++ name ++ "` not found"
  | .classNotImported name => "class `" ++ name ++ "` not imported"
  | .nameAlreadyBound name existing =>
    "name `" ++ name ++ "` already used for instance of `" ++ existing ++ "`"
  | .mainLoopNotFound => "main loop not found"
  | .multipleMainLoops => "function `main` contains more than one loop"

/-! ### Nested statements -/

mutual

/-- A statement and everything inside it, in the order of the text. -/
def Stmt.statements : Stmt → List Stmt
  | .functionDef ⟨name, params, body, decorators, returns, isAsync⟩ =>
    .functionDef ⟨name, params, body, decorators, returns, isAsync⟩ :: statementsOf body
  | .classDef ⟨name, bases, keywords, body, decorators⟩ =>
    .classDef ⟨name, bases, keywords, body, decorators⟩ :: statementsOf body
  | .ifElse test body orelse =>
    .ifElse test body orelse :: (statementsOf body ++ statementsOf orelse)
  | .whileLoop test body orelse =>
    .whileLoop test body orelse :: (statementsOf body ++ statementsOf orelse)
  | .forLoop target iter body orelse =>
    .forLoop target iter body orelse :: (statementsOf body ++ statementsOf orelse)
  | .withBlock items body => .withBlock items body :: statementsOf body
  | .tryBlock body handlers orelse finalBody =>
    .tryBlock body handlers orelse finalBody ::
      (statementsOf body ++ statementsOfHandlers handlers ++ statementsOf orelse ++
        statementsOf finalBody)
  | s => [s]

/-- The statements of a block and everything inside them. -/
def statementsOf : List Stmt → List Stmt
  | [] => []
  | s :: rest => s.statements ++ statementsOf rest

/-- Everything inside exception handlers. -/
def statementsOfHandlers : List (Handler Stmt) → List Stmt
  | [] => []
  | ⟨_, _, body⟩ :: rest => statementsOf body ++ statementsOfHandlers rest

end

/-- The definition of a function with the given name. -/
def Stmt.functionNamed? (name : String) : Stmt → Option (FunctionDef Stmt)
  | .functionDef d => if d.name = name then some d else none
  | _ => none

/-- The definition of a class with the given name. -/
def Stmt.classNamed? (name : String) : Stmt → Option (ClassDef Stmt)
  | .classDef d => if d.name = name then some d else none
  | _ => none

/-- The first function of the given name in a statement. -/
def Stmt.functionIn? (name : String) (s : Stmt) : Option (FunctionDef Stmt) :=
  s.statements.findSome? (Stmt.functionNamed? name)

/-- There is a function of the given name in the statement. -/
def Stmt.hasFunction (name : String) (s : Stmt) : Bool :=
  (s.functionIn? name).isSome

/-- The first function of the given name in a block. -/
def functionIn? (name : String) (body : Block) : Option (FunctionDef Stmt) :=
  (statementsOf body).findSome? (Stmt.functionNamed? name)

/-- The first function with the given name. -/
def findFunction (script : Block) (name : String) : Except SourceError (FunctionDef Stmt) :=
  match functionIn? name script with
  | some d => .ok d
  | none => .error (.functionNotFound name)

/-- The first class with the given name. -/
def findClass (script : Block) (name : String) : Except SourceError (ClassDef Stmt) :=
  match (statementsOf script).findSome? (Stmt.classNamed? name) with
  | some d => .ok d
  | none => .error (.classNotFound name)

/-- The assertions in a function. -/
def FunctionDef.assertions (d : FunctionDef Stmt) : List Stmt :=
  (statementsOf d.body).filter fun
    | .assertion .. => true
    | _ => false

/-- The places in a function where an exception is raised. -/
def FunctionDef.raises (d : FunctionDef Stmt) : List Stmt :=
  (statementsOf d.body).filter fun
    | .raise .. => true
    | _ => false

/-! ### The place of a function -/

/-- The first of the given places that is there; they are in the blocks of statement `i`, one for
each block. -/
def firstPlace? {α : Type} (i : Nat) (places : List (Option (Placed α))) : Option (Placed α) :=
  places.zipIdx.findSome? fun (place?, k) => place?.map fun p => { p with path := (i, k) :: p.path }

mutual

/-- The place of the first function of the given name in a block, whose statements are numbered from
`i` on. It is in the first statement that has such a function. If this is not the function itself,
it is in the first of the blocks that has one. -/
def functionPlaceFrom? (name : String) (i : Nat) :
    List Stmt → Option (Placed (FunctionDef Stmt))
  | [] => none
  | s :: rest =>
    if s.hasFunction name then
      match s.functionNamed? name with
      | some d => some ⟨[(i, 0)], d⟩
      | none => firstPlace? i (s.placesInBlocks name)
    else functionPlaceFrom? name (i + 1) rest

/-- The places of the first functions of the given name in the blocks of a statement. -/
def Stmt.placesInBlocks (name : String) : Stmt → List (Option (Placed (FunctionDef Stmt)))
  | .functionDef ⟨_, _, body, _, _, _⟩ => [functionPlaceFrom? name 0 body]
  | .classDef ⟨_, _, _, body, _⟩ => [functionPlaceFrom? name 0 body]
  | .ifElse _ body orelse | .whileLoop _ body orelse | .forLoop _ _ body orelse =>
    [functionPlaceFrom? name 0 body, functionPlaceFrom? name 0 orelse]
  | .withBlock _ body => [functionPlaceFrom? name 0 body]
  | .tryBlock body handlers orelse finalBody =>
    functionPlaceFrom? name 0 body :: placesInHandlers name handlers ++
      [functionPlaceFrom? name 0 orelse, functionPlaceFrom? name 0 finalBody]
  | _ => []

/-- The places of the first functions of the given name in exception handlers. -/
def placesInHandlers (name : String) :
    List (Handler Stmt) → List (Option (Placed (FunctionDef Stmt)))
  | [] => []
  | ⟨_, _, body⟩ :: rest => functionPlaceFrom? name 0 body :: placesInHandlers name rest

end

/-- The first function with the given name and the path to its body. -/
def functionPlace (script : Block) (name : String) :
    Except SourceError (Placed (FunctionDef Stmt)) :=
  match functionPlaceFrom? name 0 script with
  | some place => .ok place
  | none => .error (.functionNotFound name)

/-- The script with another body of the first function of the given name. -/
def setFunctionBody (script : Block) (name : String) (body : Block) : Except SourceError Block := do
  let place ← functionPlace script name
  return setBlockAt body place.path script

/-! ### The main loop -/

/-- The function that holds the program. -/
def mainName : String := "main"

/-- The body of a `while` loop. -/
def Stmt.whileBody? : Stmt → Option Block
  | .whileLoop _ body _ => some body
  | _ => none

/-- The body of the only `while` loop among the given statements. -/
def onlyLoop (body : Block) : Except SourceError (Placed Block) :=
  match body.zipIdx.filterMap fun (s, i) => s.whileBody?.map (Placed.mk [(i, 0)]) with
  | [] => .error .mainLoopNotFound
  | [loop] => .ok loop
  | _ => .error .multipleMainLoops

/-- The body of the main loop. -/
def mainLoopBody (script : Block) : Except SourceError Block := do
  let main ← findFunction script mainName
  let loop ← onlyLoop main.body
  return loop.value

/-- The body of the main loop and the path to it. -/
def mainLoopPlace (script : Block) : Except SourceError (Placed Block) := do
  let main ← functionPlace script mainName
  let loop ← onlyLoop main.value.body
  return { loop with path := main.path ++ loop.path }

/-- The script with another body of the main loop. -/
def setMainLoopBody (script : Block) (new : Block) : Except SourceError Block := do
  let loop ← mainLoopPlace script
  return setBlockAt new loop.path script

end RobotCell.Script
