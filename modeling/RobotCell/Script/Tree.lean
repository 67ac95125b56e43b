import RobotCell.Script.Operator

/-!
# Syntax trees of scripts

Expressions and statements of the part of the language that object types and generated programs are
written in. A script is a block: a list of statements.

## Main definitions

- `Expr` — expressions
- `Stmt` — statements
- `Block` — lists of statements
- `Expr.name?`, `Expr.string?`, `Expr.dottedName?` — expressions of a simple form
- `Stmt.isBinding`, `Stmt.isImport`, `Stmt.isDefinition` — kinds of statements
-/

namespace RobotCell.Script

/-! ### Expressions -/

/-- Constants. Numbers and literals with a prefix are kept as they are written. -/
inductive Constant where
  | none
  | bool (value : Bool)
  | int (text : String)
  | float (text : String)
  | str (text : String)
  | verbatim (text : String)
  | ellipsis
  deriving DecidableEq

/-- How arguments reach a parameter. -/
inductive ParamKind where
  | positional
  /-- Takes all further positional arguments. -/
  | varArgs
  /-- Comes after a star. -/
  | keywordOnly
  /-- Takes all further keyword arguments. -/
  | varKeywords
  deriving DecidableEq

/-- A parameter of a function. -/
structure Param (ε : Type) where
  name : String
  kind : ParamKind
  hint : Option ε
  preset : Option ε

/-- A keyword argument of a call. Without a name the value is unpacked. -/
structure Argument (ε : Type) where
  name : Option String
  value : ε

/-- A `for` clause of a comprehension with its conditions. -/
structure Clause (ε : Type) where
  target : ε
  iter : ε
  conditions : List ε

/-- The collection that a comprehension builds. -/
inductive ComprehensionKind where
  | list | set | generator
  deriving DecidableEq

/-- Expressions. -/
inductive Expr where
  | name (id : String)
  | constant (value : Constant)
  | attribute (value : Expr) (attr : String)
  | subscript (value index : Expr)
  | slice (lower upper step : Option Expr)
  | call (func : Expr) (args : List Expr) (keywords : List (Argument Expr))
  | starred (value : Expr)
  | list (items : List Expr)
  | tuple (items : List Expr)
  | set (items : List Expr)
  | dict (entries : List (Expr × Expr))
  | comprehension (kind : ComprehensionKind) (element : Expr) (clauses : List (Clause Expr))
  | dictComprehension (key value : Expr) (clauses : List (Clause Expr))
  | unary (op : UnaryOp) (operand : Expr)
  | binary (left : Expr) (op : BinaryOp) (right : Expr)
  | logic (op : LogicOp) (values : List Expr)
  | compare (left : Expr) (ops : List CompareOp) (comparators : List Expr)
  | conditional (test body orelse : Expr)
  | lambda (params : List (Param Expr)) (body : Expr)
  | await (value : Expr)
  | named (target : String) (value : Expr)

namespace Expr

/-- A string constant. -/
def str (text : String) : Expr := .constant (.str text)

/-- An attribute of a variable. -/
def nameAttr (name attr : String) : Expr := .attribute (.name name) attr

/-- The variable that the expression is. -/
def name? : Expr → Option String
  | .name id => some id
  | _ => none

/-- The string that the expression is a constant of. -/
def string? : Expr → Option String
  | .constant (.str text) => some text
  | _ => none

/-- The names of a variable and attributes of it, joined by dots. -/
def dottedName? : Expr → Option String
  | .name id => some id
  | .attribute value attr => (dottedName? value).map fun v => v ++ "." ++ attr
  | _ => none

end Expr

/-! ### Statements -/

/-- An imported name, and the name it is bound to if that is another one. -/
structure Alias where
  name : String
  asName : Option String
  deriving DecidableEq

/-- The name that is bound by an import. -/
def Alias.boundName (a : Alias) : String :=
  a.asName.getD a.name

/-- A context of a `with` block, and what it is bound to. -/
structure WithItem where
  context : Expr
  target : Option Expr

/-- A function with statements of type `σ`. -/
structure FunctionDef (σ : Type) where
  name : String
  params : List (Param Expr)
  body : List σ
  decorators : List Expr
  returns : Option Expr
  isAsync : Bool

/-- A class with statements of type `σ`. -/
structure ClassDef (σ : Type) where
  name : String
  bases : List Expr
  keywords : List (Argument Expr)
  body : List σ
  decorators : List Expr

/-- An exception handler with statements of type `σ`. -/
structure Handler (σ : Type) where
  kind : Option Expr
  name : Option String
  body : List σ

/-- Statements. -/
inductive Stmt where
  | expr (value : Expr)
  | assign (targets : List Expr) (value : Expr)
  | annAssign (target hint : Expr) (value : Option Expr)
  | augAssign (target : Expr) (op : BinaryOp) (value : Expr)
  | ret (value : Option Expr)
  | pass
  | breakLoop
  | continueLoop
  | raise (exception cause : Option Expr)
  | assertion (test : Expr) (message : Option Expr)
  | delete (targets : List Expr)
  | global (names : List String)
  | importModules (names : List Alias)
  | importFrom (module : String) (names : List Alias) (level : Nat)
  | functionDef (def_ : FunctionDef Stmt)
  | classDef (def_ : ClassDef Stmt)
  | ifElse (test : Expr) (body orelse : List Stmt)
  | whileLoop (test : Expr) (body orelse : List Stmt)
  | forLoop (target iter : Expr) (body orelse : List Stmt)
  | withBlock (items : List WithItem) (body : List Stmt)
  | tryBlock (body : List Stmt) (handlers : List (Handler Stmt)) (orelse finalBody : List Stmt)

/-- A list of statements; a script is one. -/
abbrev Block := List Stmt

namespace Stmt

/-- The call of a method as a statement. -/
def methodCall (object method : String) (args : List Expr) (keywords : List (Argument Expr)) :
    Stmt :=
  .expr (.call (.nameAttr object method) args keywords)

/-- The statement binds a name to a value. -/
def isBinding : Stmt → Bool
  | .assign .. | .annAssign .. => true
  | _ => false

/-- The statement is an import. -/
def isImport : Stmt → Bool
  | .importModules .. | .importFrom .. => true
  | _ => false

/-- The statement is a condition with two branches. -/
def isCondition : Stmt → Bool
  | .ifElse .. => true
  | _ => false

/-- The statement defines a function or a class. -/
def isDefinition : Stmt → Bool
  | .functionDef .. | .classDef .. => true
  | _ => false

end Stmt

/-- A decorator of the function is the given name. -/
def FunctionDef.hasDecorator {σ : Type} (d : FunctionDef σ) (decorator : String) : Bool :=
  d.decorators.any fun e => e.name? == some decorator

/-- The string that opens the body of a class. -/
def ClassDef.docstring? (d : ClassDef Stmt) : Option String :=
  match d.body with
  | .expr e :: _ => e.string?
  | _ => none

end RobotCell.Script
