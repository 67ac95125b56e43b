import RobotCell.Script.Level
import RobotCell.Script.Literal
import RobotCell.Script.TokenStream
import RobotCell.Text.Join

/-!
# The grammar of expressions

Each form of expression has a parser that calls the parsers of tighter forms. Where an expression
contains one of a looser form, at least one token stands before the inner one; those inner parsers
are taken from a record `Nested`, and the grammar is tied together by going from the record for
streams of a certain length to the one for streams with one token more.

## Main definitions

- `Nested` — the parsers for expressions inside other expressions
- `Grammar.atom`, …, `Grammar.test` — the forms of expressions, tightest first
- `Grammar.nested` — the record for streams of bounded length
- `parseTest` — the expression at the start of a stream
-/

namespace RobotCell.Script

/-- The parsers for expressions that stand inside another expression. -/
structure Nested where
  test : Parser Expr
  disjunction : Parser Expr
  negation : Parser Expr
  bitOr : Parser Expr
  factor : Parser Expr

namespace Grammar

/-! ### Literals -/

/-- A string literal of the source: with its escapes resolved, or as it is written. -/
inductive StringPart where
  | plain (text : String)
  | verbatim (text : String)

/-- The current token as a string literal. -/
def stringPart : Parser (Option StringPart) := fun s =>
  match s.current with
  | .str text => .ok (some (.plain text), s.advance)
  | .verbatim text => .ok (some (.verbatim text), s.advance)
  | _ => .ok (none, s)

/-- The texts of neighbouring literals after one that is kept as it is written. -/
def verbatimTexts : List StringPart → List String
  | [] => []
  | .plain text :: rest => Literal.quote text :: verbatimTexts rest
  | .verbatim text :: rest => text :: verbatimTexts rest

/-- Neighbouring literals joined into one constant, given the text of the plain ones so far. Plain
literals merge; once a literal is kept as it is written, all are, and the merged ones are quoted
again unless they are empty. -/
def joinStrings (merged : String) : List StringPart → Constant
  | [] => .str merged
  | .plain text :: rest => joinStrings (merged ++ text) rest
  | .verbatim text :: rest =>
    let lead := if merged.isEmpty then [] else [Literal.quote merged]
    .verbatim (Text.joinWith " " (lead ++ text :: verbatimTexts rest))

/-- One or more string literals. -/
def strings : Parser Expr := fun s => do
  let (parts, s) ← repeated stringPart s
  return (.constant (joinStrings "" parts), s)

/-- The constant of a number: a decimal with a point, an exponent or an imaginary part is a
floating-point number. -/
def numberConstant (text : String) : Constant :=
  let hexadecimal := ['0', 'x'].isPrefixOf text.toList || ['0', 'X'].isPrefixOf text.toList
  let marks := text.toList.any fun c => ['.', 'e', 'E', 'j', 'J'].contains c
  if !hexadecimal && marks then .float text else .int text

/-! ### Parts of expressions -/

/-- The token may start an expression. -/
def startsExpression : Token → Bool
  | .name _ | .number _ | .str _ | .verbatim _ => true
  | .symbol s =>
    [Symbol.leftParen, .leftBracket, .leftBrace, .minus, .plus, .tilde, .star, .ellipsis].contains s
  | .keyword k => [Keyword.noneKw, .trueKw, .falseKw, .notKw, .lambdaKw, .awaitKw].contains k
  | _ => false

/-- An expression that may assign a name. -/
def namedTest (test : Parser Expr) : Parser Expr := fun s =>
  match s.current with
  | .name target =>
    if s.ahead = .symbol .colonEq then do
      let (value, s) ← test s.advance.advance
      return (.named target value, s)
    else test s
  | _ => test s

/-- An item of a display: an expression, or the items of another one after a star. -/
def starItem (bitOr test : Parser Expr) : Parser Expr := fun s =>
  if s.sees .star then do
    let (value, s) ← bitOr s.advance
    return (.starred value, s)
  else namedTest test s

/-- A part of a target: an operand, or a starred one. -/
def starOperand (bitOr : Parser Expr) : Parser Expr := fun s =>
  if s.sees .star then do
    let (value, s) ← bitOr s.advance
    return (.starred value, s)
  else bitOr s

/-- The token ends a list of targets when it comes after a comma. -/
def endsTargets : Token → Bool
  | .keyword .inKw | .newline | .symbol .colon | .symbol .assign => true
  | _ => false

/-- One or more targets; a comma at the end is left in the stream. -/
def targetList (bitOr : Parser Expr) : Parser (List Expr) := fun s => do
  let (first, s) ← starOperand bitOr s
  let (more, s) ← repeated (fun s =>
    if s.sees .comma && !endsTargets s.ahead then do
      let (e, s) ← starOperand bitOr s.advance
      return (some e, s)
    else .ok (none, s)) s
  return (first :: more, s)

/-- The target of a loop: one expression, or a tuple. -/
def target (bitOr : Parser Expr) : Parser Expr := fun s => do
  let (targets, s) ← targetList bitOr s
  if s.sees .comma then return (.tuple targets, s.advance)
  else match targets with
    | [e] => return (e, s)
    | targets => return (.tuple targets, s)

/-- One condition of a comprehension clause. -/
def clauseCondition (r : Nested) : Parser (Option Expr) := fun s =>
  if s.seesKeyword .ifKw then do
    let (e, s) ← r.disjunction s.advance
    return (some e, s)
  else .ok (none, s)

/-- One clause of a comprehension. -/
def clause (r : Nested) : Parser (Option (Clause Expr)) := fun s =>
  if s.seesKeyword .forKw then do
    let (target, s) ← target r.bitOr s.advance
    let s ← expectKeyword .inKw s
    let (iter, s) ← r.disjunction s
    let (conditions, s) ← repeated (clauseCondition r) s
    return (some ⟨target, iter, conditions⟩, s)
  else .ok (none, s)

/-- The clauses of a comprehension. -/
def clauses (r : Nested) : Parser (List (Clause Expr)) :=
  repeated (clause r)

/-! ### Parameters -/

/-- An entry of a parameter list: a parameter, or a lone star. -/
inductive ParamEntry where
  | loneStar
  | param (p : Param Expr)

/-- The annotation of a parameter, if annotations are allowed and there is one. -/
def hint (annotated : Bool) (test : Parser Expr) : Parser (Option Expr) := fun s =>
  if annotated && s.sees .colon then do
    let (e, s) ← test s.advance
    return (some e, s)
  else .ok (none, s)

/-- The default value of a parameter, if there is one. -/
def preset (test : Parser Expr) : Parser (Option Expr) := fun s =>
  if s.sees .assign then do
    let (e, s) ← test s.advance
    return (some e, s)
  else .ok (none, s)

/-- One entry of a parameter list. -/
def paramEntry (annotated : Bool) (test : Parser Expr) : Parser ParamEntry := fun s =>
  if s.sees .doubleStar then do
    let (name, s) ← expectName s.advance
    let (hint, s) ← hint annotated test s
    return (.param ⟨name, .varKeywords, hint, none⟩, s)
  else if s.sees .star then
    let s := s.advance
    if s.sees .comma then .ok (.loneStar, s)
    else do
      let (name, s) ← expectName s
      let (hint, s) ← hint annotated test s
      return (.param ⟨name, .varArgs, hint, none⟩, s)
  else if s.sees .slash then .error (s.fail .positionalOnly)
  else do
    let (name, s) ← expectName s
    let (hint, s) ← hint annotated test s
    let (preset, s) ← preset test s
    return (.param ⟨name, .positional, hint, preset⟩, s)

/-- The parameters of a list, where plain parameters after a star are keyword-only. -/
def paramsOf (afterStar : Bool) : List ParamEntry → List (Param Expr)
  | [] => []
  | .loneStar :: rest => paramsOf true rest
  | .param p :: rest =>
    let p := if p.kind = .positional && afterStar then { p with kind := .keywordOnly } else p
    p :: paramsOf (afterStar || p.kind = .varArgs) rest

/-- A parameter list up to the symbol `closing`. -/
def params (closing : Symbol) (annotated : Bool) (test : Parser Expr) :
    Parser (List (Param Expr)) := fun s => do
  let (entries, s) ← itemsUpTo closing (paramEntry annotated test) s
  return (paramsOf false entries, s)

/-! ### Displays -/

/-- What stands between parentheses. -/
def parenthesized (r : Nested) : Parser Expr := fun s =>
  if s.sees .rightParen then .ok (.tuple [], s.advance)
  else if s.seesKeyword .yieldKw then .error (s.fail .yieldExpression)
  else do
    let (first, s) ← starItem r.bitOr r.test s
    if s.seesKeyword .forKw then do
      let (clauses, s) ← clauses r s
      let s ← expectSymbol .rightParen s
      return (.comprehension .generator first clauses, s)
    else if s.sees .rightParen then return (first, s.advance)
    else do
      let (more, s) ← moreItems (· == .symbol .rightParen) (starItem r.bitOr r.test) s
      let s ← expectSymbol .rightParen s
      return (.tuple (first :: more), s)

/-- What stands between square brackets. -/
def listDisplay (r : Nested) : Parser Expr := fun s =>
  if s.sees .rightBracket then .ok (.list [], s.advance)
  else do
    let (first, s) ← starItem r.bitOr r.test s
    if s.seesKeyword .forKw then do
      let (clauses, s) ← clauses r s
      let s ← expectSymbol .rightBracket s
      return (.comprehension .list first clauses, s)
    else do
      let (more, s) ← moreItems (· == .symbol .rightBracket) (starItem r.bitOr r.test) s
      let s ← expectSymbol .rightBracket s
      return (.list (first :: more), s)

/-- A further entry of a dictionary. -/
def entry (r : Nested) : Parser (Expr × Expr) := fun s => do
  let (key, s) ← r.test s
  let s ← expectSymbol .colon s
  let (value, s) ← r.test s
  return ((key, value), s)

/-- A dictionary after the colon behind its first key. -/
def dictDisplay (r : Nested) (key : Expr) : Parser Expr := fun s => do
  let (value, s) ← r.test s
  if s.seesKeyword .forKw then do
    let (clauses, s) ← clauses r s
    let s ← expectSymbol .rightBrace s
    return (.dictComprehension key value clauses, s)
  else do
    let (more, s) ← moreItems (· == .symbol .rightBrace) (entry r) s
    let s ← expectSymbol .rightBrace s
    return (.dict ((key, value) :: more), s)

/-- What stands between braces. -/
def braceDisplay (r : Nested) : Parser Expr := fun s =>
  if s.sees .rightBrace then .ok (.dict [], s.advance)
  else if s.sees .doubleStar then .error (s.fail .dictUnpacking)
  else do
    let (first, s) ← starItem r.bitOr r.test s
    if s.sees .colon then dictDisplay r first s.advance
    else if s.seesKeyword .forKw then do
      let (clauses, s) ← clauses r s
      let s ← expectSymbol .rightBrace s
      return (.comprehension .set first clauses, s)
    else do
      let (more, s) ← moreItems (· == .symbol .rightBrace) (starItem r.bitOr r.test) s
      let s ← expectSymbol .rightBrace s
      return (.set (first :: more), s)

/-- Names, constants and displays. -/
def atom (r : Nested) : Parser Expr := fun s =>
  match s.current with
  | .name id => .ok (.name id, s.advance)
  | .number text => .ok (.constant (numberConstant text), s.advance)
  | .str _ | .verbatim _ => strings s
  | .keyword .noneKw => .ok (.constant .none, s.advance)
  | .keyword .trueKw => .ok (.constant (.bool true), s.advance)
  | .keyword .falseKw => .ok (.constant (.bool false), s.advance)
  | .symbol .ellipsis => .ok (.constant .ellipsis, s.advance)
  | .symbol .leftParen => parenthesized r s.advance
  | .symbol .leftBracket => listDisplay r s.advance
  | .symbol .leftBrace => braceDisplay r s.advance
  | _ => .error (s.unexpected .expression)

/-! ### Attributes, calls and subscripts -/

/-- An argument of a call: by position or by keyword. -/
abbrev CallArg := Expr ⊕ Argument Expr

/-- One argument of a call. -/
def callArg (r : Nested) : Parser CallArg := fun s =>
  if s.sees .doubleStar then do
    let (value, s) ← r.test s.advance
    return (.inr ⟨none, value⟩, s)
  else if s.sees .star then do
    let (value, s) ← r.test s.advance
    return (.inl (.starred value), s)
  else
    let positional : Except Failure (CallArg × TokenStream) := do
      let (value, s) ← namedTest r.test s
      if s.seesKeyword .forKw then do
        let (clauses, s) ← clauses r s
        return (.inl (.comprehension .generator value clauses), s)
      else return (.inl value, s)
    match s.current with
    | .name arg =>
      if s.ahead = .symbol .assign then do
        let (value, s) ← r.test s.advance.advance
        return (.inr ⟨some arg, value⟩, s)
      else positional
    | _ => positional

/-- The positional arguments. -/
def positionals (args : List CallArg) : List Expr :=
  args.filterMap Sum.getLeft?

/-- The keyword arguments. -/
def keywords (args : List CallArg) : List (Argument Expr) :=
  args.filterMap Sum.getRight?

/-- The arguments of a call and its closing parenthesis. -/
def callArgs (r : Nested) : Parser (List CallArg) := fun s => do
  let (args, s) ← itemsUpTo .rightParen (callArg r) s
  let s ← expectSymbol .rightParen s
  return (args, s)

/-- The token ends a bound of a slice. -/
def endsBound : Token → Bool
  | .symbol .colon | .symbol .comma | .symbol .rightBracket => true
  | _ => false

/-- A bound of a slice, which may be left out. -/
def bound (r : Nested) : Parser (Option Expr) := fun s =>
  if endsBound s.current then .ok (none, s)
  else do
    let (e, s) ← r.test s
    return (some e, s)

/-- The step of a slice with its colon, which may be left out. -/
def sliceStep (r : Nested) : Parser (Option Expr) := fun s =>
  if s.sees .colon then bound r s.advance else .ok (none, s)

/-- The upper bound and the step of a slice, after its first colon. -/
def sliceAfter (r : Nested) (lower : Option Expr) : Parser Expr := fun s => do
  let (upper, s) ← bound r s
  let (step, s) ← sliceStep r s
  return (.slice lower upper step, s)

/-- One item of a subscript: an expression or a slice. -/
def subscriptItem (r : Nested) : Parser Expr := fun s =>
  if s.sees .colon then sliceAfter r none s.advance
  else do
    let (value, s) ← r.test s
    if s.sees .colon then sliceAfter r (some value) s.advance
    else return (value, s)

/-- The items of a subscript, as a tuple if there is a comma. -/
def subscriptIndex (r : Nested) : Parser Expr := fun s => do
  let (first, s) ← subscriptItem r s
  if s.sees .comma then do
    let (more, s) ← moreItems (· == .symbol .rightBracket) (subscriptItem r) s
    return (.tuple (first :: more), s)
  else return (first, s)

/-- What may follow an operand. -/
inductive Trailer where
  | attribute (attr : String)
  | call (args : List Expr) (keywords : List (Argument Expr))
  | subscript (index : Expr)

/-- The operand with what follows it. -/
def Trailer.attach (e : Expr) : Trailer → Expr
  | .attribute attr => .attribute e attr
  | .call args keywords => .call e args keywords
  | .subscript index => .subscript e index

/-- One trailer. -/
def trailer (r : Nested) : Parser (Option Trailer) := fun s =>
  match s.current with
  | .symbol .dot => do
    let (attr, s) ← expectName s.advance
    return (some (.attribute attr), s)
  | .symbol .leftParen => do
    let (args, s) ← callArgs r s.advance
    return (some (.call (positionals args) (keywords args)), s)
  | .symbol .leftBracket => do
    let (index, s) ← subscriptIndex r s.advance
    let s ← expectSymbol .rightBracket s
    return (some (.subscript index), s)
  | _ => .ok (none, s)

/-- An atom with trailers. -/
def primary (r : Nested) : Parser Expr := fun s => do
  let (e, s) ← atom r s
  let (trailers, s) ← repeated (trailer r) s
  return (trailers.foldl Trailer.attach e, s)

/-! ### Operators -/

/-- A primary expression, possibly awaited. -/
def awaited (r : Nested) : Parser Expr := fun s =>
  if s.seesKeyword .awaitKw then do
    let (e, s) ← primary r s.advance
    return (.await e, s)
  else primary r s

/-- A power, whose exponent may have operators in front. -/
def power (r : Nested) : Parser Expr := fun s => do
  let (base, s) ← awaited r s
  if s.sees .doubleStar then do
    let (exponent, s) ← r.factor s.advance
    return (.binary base .pow exponent, s)
  else return (base, s)

/-- The arithmetic operator in front of an operand. -/
def unaryOp? : Token → Option UnaryOp
  | .symbol .minus => some .neg
  | .symbol .plus => some .pos
  | .symbol .tilde => some .invert
  | _ => none

/-- An operand with arithmetic operators in front. -/
def factor (r : Nested) : Parser Expr := fun s =>
  match unaryOp? s.current with
  | some op => do
    let (operand, s) ← r.factor s.advance
    return (.unary op operand, s)
  | none => power r s

/-- The operator between two operands, powers apart. -/
def binaryOp? : Token → Option BinaryOp
  | .symbol .pipe => some .bitOr
  | .symbol .caret => some .bitXor
  | .symbol .amper => some .bitAnd
  | .symbol .leftShift => some .leftShift
  | .symbol .rightShift => some .rightShift
  | .symbol .plus => some .add
  | .symbol .minus => some .sub
  | .symbol .star => some .mult
  | .symbol .slash => some .div
  | .symbol .doubleSlash => some .floorDiv
  | .symbol .percent => some .mod
  | .symbol .atSign => some .matMult
  | _ => none

/-- The operator of the given level between two operands. -/
def binaryOpAt? (level : Nat) (t : Token) : Option BinaryOp :=
  (binaryOp? t).filter fun op => op.level == level

/-- An operator of the given level and the operand after it. -/
def operation (level : Nat) (operand : Parser Expr) : Parser (Option (BinaryOp × Expr)) := fun s =>
  match binaryOpAt? level s.current with
  | some op => do
    let (right, s) ← operand s.advance
    return (some (op, right), s)
  | none => .ok (none, s)

/-- Operations that are grouped from the left. -/
def leftGrouped (left : Expr) (operations : List (BinaryOp × Expr)) : Expr :=
  operations.foldl (fun left o => .binary left o.1 o.2) left

/-- Operands joined by operators of one level. -/
def operations (level : Nat) (operand : Parser Expr) : Parser Expr := fun s => do
  let (left, s) ← operand s
  let (more, s) ← repeated (operation level operand) s
  return (leftGrouped left more, s)

/-- Operands joined by operators of the lowest `n` levels below the one of unary operators: products
for one level, then sums, shifts, and the three levels of bits. -/
def operationsWithin (r : Nested) : Nat → Parser Expr
  | 0 => factor r
  | n + 1 => operations (Level.unary - (n + 1)) (operationsWithin r n)

/-- Operands joined by operators of any level between unions of bits and products. -/
def bitOr (r : Nested) : Parser Expr :=
  operationsWithin r (Level.unary - Level.bitOr)

/-- The comparison at the start of a stream, and the stream behind it. -/
def comparison? (s : TokenStream) : Option (CompareOp × TokenStream) :=
  match s.current with
  | .symbol .eq => some (.eq, s.advance)
  | .symbol .ne => some (.notEq, s.advance)
  | .symbol .lt => some (.lt, s.advance)
  | .symbol .le => some (.ltE, s.advance)
  | .symbol .gt => some (.gt, s.advance)
  | .symbol .ge => some (.gtE, s.advance)
  | .keyword .inKw => some (.mem, s.advance)
  | .keyword .isKw =>
    if s.ahead = .keyword .notKw then some (.isNot, s.advance.advance) else some (.is, s.advance)
  | .keyword .notKw =>
    if s.ahead = .keyword .inKw then some (.notMem, s.advance.advance) else none
  | _ => none

/-- A comparison operator and the operand after it. -/
def comparator (r : Nested) : Parser (Option (CompareOp × Expr)) := fun s =>
  match comparison? s with
  | some (op, s) => do
    let (e, s) ← bitOr r s
    return (some (op, e), s)
  | none => .ok (none, s)

/-- A comparison chain. -/
def comparison (r : Nested) : Parser Expr := fun s => do
  let (left, s) ← bitOr r s
  let (more, s) ← repeated (comparator r) s
  if more.isEmpty then return (left, s)
  else return (.compare left (more.map Prod.fst) (more.map Prod.snd), s)

/-- A comparison with negations in front. -/
def negation (r : Nested) : Parser Expr := fun s =>
  if s.seesKeyword .notKw then do
    let (operand, s) ← r.negation s.advance
    return (.unary .not operand, s)
  else comparison r s

/-- A further operand after a word. -/
def operandAfter (word : Keyword) (operand : Parser Expr) : Parser (Option Expr) := fun s =>
  if s.seesKeyword word then do
    let (e, s) ← operand s.advance
    return (some e, s)
  else .ok (none, s)

/-- Operands joined by one word. -/
def logic (op : LogicOp) (word : Keyword) (operand : Parser Expr) : Parser Expr := fun s => do
  let (first, s) ← operand s
  let (more, s) ← repeated (operandAfter word operand) s
  if more.isEmpty then return (first, s) else return (.logic op (first :: more), s)

/-- Conditions that hold together. -/
def conjunction (r : Nested) : Parser Expr :=
  logic .and .andKw (negation r)

/-- Alternatives of conditions. -/
def disjunction (r : Nested) : Parser Expr :=
  logic .or .orKw (conjunction r)

/-- A function without a name, after its keyword. -/
def lambda (r : Nested) : Parser Expr := fun s => do
  let (params, s) ← params .colon false r.test s
  let s ← expectSymbol .colon s
  let (body, s) ← r.test s
  return (.lambda params body, s)

/-- Any expression but an assignment. -/
def test (r : Nested) : Parser Expr := fun s =>
  if s.seesKeyword .lambdaKw then lambda r s.advance
  else do
    let (body, s) ← disjunction r s
    if s.seesKeyword .ifKw then do
      let (test, s) ← disjunction r s.advance
      let s ← expectKeyword .elseKw s
      let (orelse, s) ← r.test s
      return (.conditional test body orelse, s)
    else return (body, s)

/-! ### The whole grammar -/

/-- The record of parsers for streams with fewer than `n` tokens behind the current one. -/
def nested : Nat → Nested
  | 0 =>
    let fail := fun s => .error (s.fail .endless)
    ⟨fail, fail, fail, fail, fail⟩
  | n + 1 =>
    let r := nested n
    ⟨test r, disjunction r, negation r, bitOr r, factor r⟩

/-- The record of parsers for a stream. -/
def nestedFor (s : TokenStream) : Nested :=
  nested (s.rest.length + 2)

/-- Items separated by commas: one item is itself, and several are a tuple. -/
def sequence (item : Parser Expr) : Parser Expr := fun s => do
  let (first, s) ← item s
  if s.sees .comma then do
    let (more, s) ← moreItems (fun t => !startsExpression t) item s
    return (.tuple (first :: more), s)
  else return (first, s)

end Grammar

/-- The expression at the start of a stream. -/
def parseTest : Parser Expr := fun s =>
  Grammar.test (Grammar.nestedFor s) s

end RobotCell.Script
