import RobotCell.Proofs.Script.Stream
import RobotCell.Script.ExprGrammar
import RobotCell.Script.ExprText
import RobotCell.Script.Lexer

/-!
# The tokens of expressions

Every expression has a list of tokens beside its text, with parentheses in the same places. The
lexer reads the text as these tokens, and the grammar reads the tokens as the expression; this
module only says which tokens they are.

## Main definitions

- `Expr.tokens` — the tokens of an expression without outer parentheses
- `Expr.tokensAt` — the tokens in a place that asks for a level
- `Expr.bareTokens` — the tokens as a statement or on the right of an assignment
-/

namespace RobotCell.Script

open Grammar
open RobotCell.Text (joinWith)

/-! ### Parts -/

/-- The token is a string literal. -/
def Token.isLiteral : Token → Bool
  | .str _ | .verbatim _ => true
  | _ => false

/-- The literals of a text. -/
def literalTokens (text : String) : List Token :=
  match tokenize text with
  | .ok placed => (placed.map PlacedToken.token).filter Token.isLiteral
  | .error _ => []

/-- The tokens of a constant. -/
def Constant.tokens : Constant → List Token
  | .none => [.keyword .noneKw]
  | .bool true => [.keyword .trueKw]
  | .bool false => [.keyword .falseKw]
  | .int text | .float text => [.number text]
  | .str s => [.str s]
  | .verbatim text => literalTokens text
  | .ellipsis => [.symbol .ellipsis]

/-- The token in front of an operand. -/
def UnaryOp.token : UnaryOp → Token
  | .not => .keyword .notKw
  | .neg => .symbol .minus
  | .pos => .symbol .plus
  | .invert => .symbol .tilde

/-- The symbol between two operands. -/
def BinaryOp.sign : BinaryOp → Symbol
  | .add => .plus
  | .sub => .minus
  | .mult => .star
  | .matMult => .atSign
  | .div => .slash
  | .floorDiv => .doubleSlash
  | .mod => .percent
  | .pow => .doubleStar
  | .leftShift => .leftShift
  | .rightShift => .rightShift
  | .bitOr => .pipe
  | .bitXor => .caret
  | .bitAnd => .amper

/-- The keyword between conditions. -/
def LogicOp.keyword : LogicOp → Keyword
  | .and => .andKw
  | .or => .orKw

/-- The tokens between the two sides of a comparison. -/
def CompareOp.tokens : CompareOp → List Token
  | .eq => [.symbol .eq]
  | .notEq => [.symbol .ne]
  | .lt => [.symbol .lt]
  | .ltE => [.symbol .le]
  | .gt => [.symbol .gt]
  | .gtE => [.symbol .ge]
  | .is => [.keyword .isKw]
  | .isNot => [.keyword .isKw, .keyword .notKw]
  | .mem => [.keyword .inKw]
  | .notMem => [.keyword .notKw, .keyword .inKw]

/-- Tokens between brackets. -/
def between (opening closing : Symbol) (ts : List Token) : List Token :=
  .symbol opening :: (ts ++ [.symbol closing])

/-- The tokens of the expression `e`, with parentheses around them if its level is below `least`. -/
def parenTokens (least : Nat) (e : Expr) (ts : List Token) : List Token :=
  if e.level < least then between .leftParen .rightParen ts else ts

/-- Items with commas between them. -/
abbrev commas (items : List (List Token)) : List Token :=
  separatedBy (.symbol .comma) items

theorem length_le_commas {items : List (List Token)} {ts : List Token} (h : ts ∈ items) :
    ts.length ≤ (commas items).length :=
  length_le_separatedBy h

/-- Items separated by commas, with a comma after a single one. -/
def tupleTokens : List (List Token) → List Token
  | [] => between .leftParen .rightParen []
  | [item] => item ++ [.symbol .comma]
  | items => commas items

theorem tupleText_of_two_le {items : List String} (h : 2 ≤ items.length) :
    tupleText items = joinWith ", " items := by
  match items with
  | a :: b :: items => rfl

theorem tupleTokens_of_two_le {items : List (List Token)} (h : 2 ≤ items.length) :
    tupleTokens items = commas items := by
  match items with
  | a :: b :: items => rfl

/-- The brackets around a comprehension. -/
def ComprehensionKind.between (kind : ComprehensionKind) (ts : List Token) : List Token :=
  match kind with
  | .list => Script.between .leftBracket .rightBracket ts
  | .set => Script.between .leftBrace .rightBrace ts
  | .generator => Script.between .leftParen .rightParen ts

/-- An optional part behind a symbol. -/
def partTokens (symbol : Symbol) (part : Option (List Token)) : List Token :=
  part.elim [] (.symbol symbol :: ·)

@[simp]
theorem partTokens_none (symbol : Symbol) : partTokens symbol none = [] := rfl

@[simp]
theorem partTokens_some (symbol : Symbol) (part : List Token) :
    partTokens symbol (some part) = .symbol symbol :: part := rfl

/-- The star in front of a parameter. -/
def ParamKind.starTokens : ParamKind → List Token
  | .varArgs => [.symbol .star]
  | .varKeywords => [.symbol .doubleStar]
  | .positional | .keywordOnly => []

/-- A parameter with the tokens of its annotation and default value. -/
def paramTokens (name : String) (kind : ParamKind) (hint preset : Option (List Token)) :
    List Token :=
  kind.starTokens ++ .name name :: (partTokens .colon hint ++ partTokens .assign preset)

/-- The lone star that goes before the first keyword-only parameter if no other star does. -/
def loneStarTokens (starSeen : Bool) (kind : ParamKind) : List (List Token) :=
  if kind = .keywordOnly && !starSeen then [[.symbol .star]] else []

/-- A keyword argument with the tokens of its value. -/
def argumentTokens (name : Option String) (value : List Token) : List Token :=
  match name with
  | some name => .name name :: .symbol .assign :: value
  | none => .symbol .doubleStar :: value

/-- Operators of a comparison with the tokens of the operands after them. -/
def comparisonTokens : List CompareOp → List (List Token) → List Token
  | op :: ops, operand :: operands => op.tokens ++ (operand ++ comparisonTokens ops operands)
  | _, _ => []

/-- A slice with the tokens of its bounds and its step. -/
def sliceTokens (lower upper step : Option (List Token)) : List Token :=
  lower.getD [] ++ .symbol .colon :: (upper.getD [] ++ partTokens .colon step)

/-! ### Expressions -/

mutual

/-- The tokens of an expression, without parentheses around it. -/
def Expr.tokens : Expr → List Token
  | .name id => [.name id]
  | .constant c => c.tokens
  | .attribute value attr =>
    parenTokens Level.primary value value.tokens ++ [.symbol .dot, .name attr]
  | .subscript value index =>
    parenTokens Level.primary value value.tokens ++ between .leftBracket .rightBracket
      (match index with
        | .tuple (item :: items) => commas (itemTokens Level.test (item :: items))
        | index => parenTokens Level.test index index.tokens)
  | .slice lower upper step =>
    sliceTokens (optionTokens lower) (optionTokens upper) (optionTokens step)
  | .call func args keywords =>
    parenTokens Level.primary func func.tokens ++ between .leftParen .rightParen
      (commas (itemTokens Level.test args ++ keywordTokens keywords))
  | .starred value => .symbol .star :: parenTokens Level.bitOr value value.tokens
  | .list items => between .leftBracket .rightBracket (commas (itemTokens Level.test items))
  | .tuple [] => between .leftParen .rightParen []
  | .tuple (item :: items) =>
    between .leftParen .rightParen (tupleTokens (itemTokens Level.test (item :: items)))
  | .set items => between .leftBrace .rightBrace (commas (itemTokens Level.test items))
  | .dict entries => between .leftBrace .rightBrace (commas (entryTokens entries))
  | .comprehension kind element clauses =>
    kind.between (parenTokens Level.test element element.tokens ++ clausesTokens clauses)
  | .dictComprehension key value clauses =>
    between .leftBrace .rightBrace (parenTokens Level.test key key.tokens ++ .symbol .colon ::
      (parenTokens Level.test value value.tokens ++ clausesTokens clauses))
  | .unary op operand => op.token :: parenTokens op.level operand operand.tokens
  | .binary left op right =>
    parenTokens op.leftLevel left left.tokens ++
      .symbol op.sign :: parenTokens op.rightLevel right right.tokens
  | .logic op values => separatedBy (.keyword op.keyword) (itemTokens (op.level + 1) values)
  | .compare left ops comparators =>
    parenTokens Level.bitOr left left.tokens ++
      comparisonTokens ops (itemTokens Level.bitOr comparators)
  | .conditional test body orelse =>
    parenTokens Level.disjunction body body.tokens ++ .keyword .ifKw ::
      (parenTokens Level.disjunction test test.tokens ++ .keyword .elseKw ::
        parenTokens Level.test orelse orelse.tokens)
  | .lambda params body =>
    .keyword .lambdaKw :: (commas (parameterTokens false false params) ++ .symbol .colon ::
      parenTokens Level.test body body.tokens)
  | .await value => .keyword .awaitKw :: parenTokens Level.primary value value.tokens
  | .named target value =>
    .name target :: .symbol .colonEq :: parenTokens Level.test value value.tokens

/-- The tokens of expressions in places that ask for a level. -/
def itemTokens (least : Nat) : List Expr → List (List Token)
  | [] => []
  | e :: rest => parenTokens least e e.tokens :: itemTokens least rest

/-- The tokens of an expression that may be missing. -/
def optionTokens : Option Expr → Option (List Token)
  | some e => some (parenTokens Level.test e e.tokens)
  | none => none

/-- The tokens of keyword arguments. -/
def keywordTokens : List (Argument Expr) → List (List Token)
  | [] => []
  | ⟨name, value⟩ :: rest =>
    argumentTokens name (parenTokens (argumentLevel name) value value.tokens) :: keywordTokens rest

/-- The tokens of the entries of a dictionary. -/
def entryTokens : List (Expr × Expr) → List (List Token)
  | [] => []
  | (key, value) :: rest =>
    (parenTokens Level.test key key.tokens ++
      .symbol .colon :: parenTokens Level.test value value.tokens) :: entryTokens rest

/-- The tokens of the clauses of a comprehension. -/
def clausesTokens : List (Clause Expr) → List Token
  | [] => []
  | ⟨target, iter, conditions⟩ :: rest =>
    .keyword .forKw ::
      ((match target with
        | .tuple items => tupleTokens (itemTokens Level.test items)
        | target => parenTokens Level.test target target.tokens) ++
      .keyword .inKw :: (parenTokens Level.disjunction iter iter.tokens ++
        (conditionsTokens conditions ++ clausesTokens rest)))

/-- The tokens of the conditions of a clause. -/
def conditionsTokens : List Expr → List Token
  | [] => []
  | e :: rest =>
    .keyword .ifKw :: (parenTokens Level.disjunction e e.tokens ++ conditionsTokens rest)

/-- The tokens of parameters, with or without their annotations. -/
def parameterTokens (annotated starSeen : Bool) : List (Param Expr) → List (List Token)
  | [] => []
  | ⟨name, kind, hint, preset⟩ :: rest =>
    loneStarTokens starSeen kind ++
      paramTokens name kind (if annotated then optionTokens hint else none)
        (optionTokens preset) ::
      parameterTokens annotated (starAfter starSeen kind) rest

end

namespace Expr

/-- The tokens of an expression in a place that asks for a level. -/
def tokensAt (least : Nat) (e : Expr) : List Token :=
  parenTokens least e e.tokens

/-- The tokens of an expression as a statement or on the right of an assignment. -/
def bareTokens : Expr → List Token
  | .tuple items => tupleTokens (itemTokens Level.test items)
  | e => e.tokensAt Level.test

theorem textAt_of_le {e : Expr} {least : Nat} (h : least ≤ e.level) : e.textAt least = e.text := by
  rw [textAt, parenthesize, if_neg (by omega)]

theorem textAt_of_lt {e : Expr} {least : Nat} (h : e.level < least) :
    e.textAt least = "(" ++ e.text ++ ")" := by
  rw [textAt, parenthesize, if_pos h]

theorem tokensAt_of_le {e : Expr} {least : Nat} (h : least ≤ e.level) :
    e.tokensAt least = e.tokens := by
  rw [tokensAt, parenTokens, if_neg (by omega)]

theorem tokensAt_of_lt {e : Expr} {least : Nat} (h : e.level < least) :
    e.tokensAt least = between .leftParen .rightParen e.tokens := by
  rw [tokensAt, parenTokens, if_pos h]

end Expr

/-! ### Lists of parts -/

theorem textsAt_eq (least : Nat) (items : List Expr) :
    textsAt least items = items.map (Expr.textAt least) := by
  induction items with
  | nil => rfl
  | cons e items ih => rw [textsAt, ih, List.map_cons, Expr.textAt]

theorem itemTokens_eq (least : Nat) (items : List Expr) :
    itemTokens least items = items.map (Expr.tokensAt least) := by
  induction items with
  | nil => rfl
  | cons e items ih => rw [itemTokens, ih, List.map_cons, Expr.tokensAt]

theorem text_subscript_many {e : Expr} {items : List Expr} (filled : items ≠ []) :
    (Expr.subscript e (.tuple items)).text = e.textAt Level.primary ++ "[" ++
      joinWith ", " (items.map (Expr.textAt Level.test)) ++ "]" := by
  cases items with
  | nil => exact absurd rfl filled
  | cons x items => rw [Expr.text, textsAt_eq, Expr.textAt]

theorem tokens_subscript_many {e : Expr} {items : List Expr} (filled : items ≠ []) :
    (Expr.subscript e (.tuple items)).tokens = e.tokensAt Level.primary ++
      between .leftBracket .rightBracket (commas (items.map (Expr.tokensAt Level.test))) := by
  cases items with
  | nil => exact absurd rfl filled
  | cons x items => rw [Expr.tokens, itemTokens_eq, Expr.tokensAt]

theorem optionText_eq (e : Option Expr) : optionText e = e.map (Expr.textAt Level.test) := by
  cases e <;> rw [optionText] <;> rfl

theorem optionTokens_eq (e : Option Expr) : optionTokens e = e.map (Expr.tokensAt Level.test) := by
  cases e <;> rw [optionTokens] <;> rfl

/-- The text of a keyword argument. -/
def Argument.text (k : Argument Expr) : String :=
  argumentText k.name (k.value.textAt (argumentLevel k.name))

/-- The tokens of a keyword argument. -/
def Argument.tokens (k : Argument Expr) : List Token :=
  argumentTokens k.name (k.value.tokensAt (argumentLevel k.name))

theorem argumentTexts_eq (keywords : List (Argument Expr)) :
    argumentTexts keywords = keywords.map Argument.text := by
  induction keywords with
  | nil => rfl
  | cons k keywords ih => rw [argumentTexts, ih, List.map_cons, Argument.text, Expr.textAt]

theorem keywordTokens_eq (keywords : List (Argument Expr)) :
    keywordTokens keywords = keywords.map Argument.tokens := by
  induction keywords with
  | nil => rfl
  | cons k keywords ih => rw [keywordTokens, ih, List.map_cons, Argument.tokens, Expr.tokensAt]

/-- The text of an argument of a call. -/
def argText : CallArg → String
  | .inl e => e.textAt Level.test
  | .inr k => k.text

/-- The tokens of an argument of a call. -/
def argTokens : CallArg → List Token
  | .inl e => e.tokensAt Level.test
  | .inr k => k.tokens

/-- The arguments of a call, those by position first. -/
def argsOf (args : List Expr) (keywords : List (Argument Expr)) : List CallArg :=
  args.map .inl ++ keywords.map .inr

theorem argTexts_eq (args : List Expr) (keywords : List (Argument Expr)) :
    textsAt Level.test args ++ argumentTexts keywords = (argsOf args keywords).map argText := by
  rw [textsAt_eq, argumentTexts_eq, argsOf, List.map_append, List.map_map, List.map_map]
  rfl

theorem argTokens_eq (args : List Expr) (keywords : List (Argument Expr)) :
    itemTokens Level.test args ++ keywordTokens keywords =
      (argsOf args keywords).map argTokens := by
  rw [itemTokens_eq, keywordTokens_eq, argsOf, List.map_append, List.map_map, List.map_map]
  rfl

/-- The text of an entry of a dictionary. -/
def entryText (x : Expr × Expr) : String :=
  x.1.textAt Level.test ++ ": " ++ x.2.textAt Level.test

/-- The tokens of an entry of a dictionary. -/
def pairTokens (x : Expr × Expr) : List Token :=
  x.1.tokensAt Level.test ++ .symbol .colon :: x.2.tokensAt Level.test

theorem entryTexts_eq (entries : List (Expr × Expr)) :
    entryTexts entries = entries.map entryText := by
  induction entries with
  | nil => rfl
  | cons x entries ih =>
    rw [entryTexts, ih, List.map_cons, entryText, Expr.textAt, Expr.textAt]

theorem entryTokens_eq (entries : List (Expr × Expr)) :
    entryTokens entries = entries.map pairTokens := by
  induction entries with
  | nil => rfl
  | cons x entries ih =>
    rw [entryTokens, ih, List.map_cons, pairTokens, Expr.tokensAt, Expr.tokensAt]

theorem bareText_tuple (items : List Expr) :
    (Expr.tuple items).bareText = tupleText (items.map (Expr.textAt Level.test)) := by
  rw [Expr.bareText, textsAt_eq]

theorem bareTokens_tuple (items : List Expr) :
    (Expr.tuple items).bareTokens = tupleTokens (items.map (Expr.tokensAt Level.test)) := by
  rw [Expr.bareTokens, itemTokens_eq]

theorem bareText_of_ne {e : Expr} (h : ∀ items, e ≠ .tuple items) :
    e.bareText = e.textAt Level.test := by
  rw [Expr.bareText]
  exact h

theorem bareTokens_of_ne {e : Expr} (h : ∀ items, e ≠ .tuple items) :
    e.bareTokens = e.tokensAt Level.test := by
  rw [Expr.bareTokens]
  exact h

/-! ### Clauses -/

theorem conditionsText_cons (e : Expr) (conditions : List Expr) :
    conditionsText (e :: conditions) =
      " if " ++ e.textAt Level.disjunction ++ conditionsText conditions := by
  rw [conditionsText, Expr.textAt]

theorem conditionsTokens_eq (conditions : List Expr) :
    conditionsTokens conditions =
      conditions.flatMap fun e => .keyword .ifKw :: e.tokensAt Level.disjunction := by
  induction conditions with
  | nil => rfl
  | cons e conditions ih => rw [conditionsTokens, ih, List.flatMap_cons, Expr.tokensAt]; rfl

theorem clausesText_cons (c : Clause Expr) (clauses : List (Clause Expr)) :
    clausesText (c :: clauses) =
      " for " ++ c.target.bareText ++ " in " ++ c.iter.textAt Level.disjunction ++
        conditionsText c.conditions ++ clausesText clauses := by
  obtain ⟨target, iter, conditions⟩ := c
  cases target <;> simp only [clausesText, Expr.bareText, Expr.textAt]

/-- The tokens of a clause of a comprehension. -/
def Clause.tokens (c : Clause Expr) : List Token :=
  .keyword .forKw :: (c.target.bareTokens ++ .keyword .inKw ::
    (c.iter.tokensAt Level.disjunction ++ conditionsTokens c.conditions))

theorem clausesTokens_eq (clauses : List (Clause Expr)) :
    clausesTokens clauses = clauses.flatMap Clause.tokens := by
  induction clauses with
  | nil => rfl
  | cons c clauses ih =>
    obtain ⟨target, iter, conditions⟩ := c
    rw [List.flatMap_cons, ← ih, Clause.tokens]
    cases target <;> simp [clausesTokens, Expr.bareTokens, Expr.tokensAt]

/-! ### Parameters -/

/-- The parameter as it stands in a list: what is before it tells whether it is keyword-only. -/
def Param.plain (p : Param Expr) : Param Expr :=
  if p.kind = .keywordOnly then { p with kind := .positional } else p

/-- The parameters as the entries of a list, where a star stands before the first keyword-only one
if no other star does. -/
def entriesOf (starSeen : Bool) : List (Param Expr) → List ParamEntry
  | [] => []
  | p :: rest =>
    (if p.kind = .keywordOnly && !starSeen then [.loneStar] else []) ++
      .param p.plain :: entriesOf (starAfter starSeen p.kind) rest

theorem mem_entriesOf {starSeen : Bool} {params : List (Param Expr)} {entry : ParamEntry}
    (h : entry ∈ entriesOf starSeen params) :
    entry = .loneStar ∨ ∃ p ∈ params, entry = .param p.plain := by
  induction params generalizing starSeen with
  | nil => cases h
  | cons p params ih =>
    rw [entriesOf, List.mem_append, List.mem_cons] at h
    rcases h with lone | rfl | later
    · split at lone
      · exact .inl (List.mem_singleton.1 lone)
      · cases lone
    · exact .inr ⟨p, List.mem_cons_self, rfl⟩
    · exact (ih later).imp_right fun ⟨q, hq, same⟩ => ⟨q, List.mem_cons_of_mem _ hq, same⟩

theorem param_mem_entriesOf {starSeen : Bool} {params : List (Param Expr)} {p : Param Expr}
    (h : p ∈ params) : .param p.plain ∈ entriesOf starSeen params := by
  induction params generalizing starSeen with
  | nil => cases h
  | cons q params ih =>
    rw [entriesOf, List.mem_append, List.mem_cons]
    rcases List.mem_cons.1 h with rfl | later
    · exact .inr (.inl rfl)
    · exact .inr (.inr (ih later))

/-- The text of an entry of a parameter list. -/
def Grammar.ParamEntry.text (annotated : Bool) : ParamEntry → String
  | .loneStar => "*"
  | .param p => paramText p.name p.kind (if annotated then p.hint.map (Expr.textAt Level.test)
      else none) (p.preset.map (Expr.textAt Level.test))

/-- The tokens of an entry of a parameter list. -/
def Grammar.ParamEntry.tokens (annotated : Bool) : ParamEntry → List Token
  | .loneStar => [.symbol .star]
  | .param p => paramTokens p.name p.kind (if annotated then p.hint.map (Expr.tokensAt Level.test)
      else none) (p.preset.map (Expr.tokensAt Level.test))

theorem paramTexts_eq (annotated starSeen : Bool) (params : List (Param Expr)) :
    paramTexts annotated starSeen params =
      (entriesOf starSeen params).map (ParamEntry.text annotated) := by
  induction params generalizing starSeen with
  | nil => rfl
  | cons p params ih =>
    obtain ⟨name, kind, hint, preset⟩ := p
    rw [paramTexts, ih, entriesOf, List.map_append, List.map_cons, optionText_eq, optionText_eq]
    cases kind <;> cases starSeen <;> rfl

theorem parameterTokens_eq (annotated starSeen : Bool) (params : List (Param Expr)) :
    parameterTokens annotated starSeen params =
      (entriesOf starSeen params).map (ParamEntry.tokens annotated) := by
  induction params generalizing starSeen with
  | nil => rfl
  | cons p params ih =>
    obtain ⟨name, kind, hint, preset⟩ := p
    rw [parameterTokens, ih, entriesOf, List.map_append, List.map_cons, optionTokens_eq,
      optionTokens_eq]
    cases kind <;> cases starSeen <;> rfl

end RobotCell.Script
