import RobotCell.Proofs.Script.ExprTokens
import RobotCell.Proofs.Script.Literals

/-!
# Expressions that are read back

An expression is legible if its text can only be read as the expression itself. What this asks for
is local: a word is an identifier, a form has the parts that its text needs, and each part may stand
in its place. Two forms may not stand everywhere. A slice belongs into a subscript. A starred
expression has the level of a union of bits, but the grammar takes a star only in lists and calls,
so it must not stand bare where an operand is asked for.

## Main definitions

- `Expr.standsAt`, `Expr.isItem`, `Expr.isIndex`, `Expr.isTargetItem` — what may stand in a place
- `Legible` — the expressions that are read back
-/

namespace RobotCell.Script

open Grammar
open RobotCell.Text (joinWith)

/-! ### Places -/

namespace Expr

/-- The expression may stand in a place that asks for a level. -/
def standsAt (least : Nat) : Expr → Bool
  | .slice .. => false
  | .starred _ => Level.bitOr < least
  | _ => true

/-- The expression may be an item of a list or an argument of a call. -/
def isItem : Expr → Bool
  | .slice .. => false
  | _ => true

/-- The expression may be one of several items of a subscript. -/
def isSubscriptItem : Expr → Bool
  | .starred _ => false
  | _ => true

/-- The expression may be all of a subscript: a tuple would be taken for several items. -/
def isIndex : Expr → Bool
  | .tuple (_ :: _) => false
  | e => e.isSubscriptItem

/-- The expression may be an item of a target: it is written as in a list, but read as an
operand. -/
def isTargetItem (e : Expr) : Bool :=
  e.isItem && (e.level == Level.named || Level.bitOr ≤ e.level)

/-- What is listed where a tuple needs no parentheses. -/
def bareItems : Expr → List Expr
  | .tuple (item :: items) => item :: items
  | e => [e]

/-- The expression ends before a point: a decimal number does not. -/
def takesPoint : Expr → Bool
  | .constant (.int text) | .constant (.float text) => Script.takesPoint text
  | .slice .. => false
  | _ => true

end Expr

/-- The parts of a clause may stand in their places. -/
def Clause.stands (c : Clause Expr) : Bool :=
  c.target.bareItems.all Expr.isTargetItem && c.iter.standsAt Level.disjunction &&
    c.conditions.all (Expr.standsAt Level.disjunction)

/-- A parameter after a star has no default value, and it has an annotation only where they are
allowed. -/
def Param.stands (annotated : Bool) (p : Param Expr) : Bool :=
  p.hint.all (fun e => annotated && e.standsAt Level.test) &&
    p.preset.all (fun e => (p.kind = .positional || p.kind = .keywordOnly) &&
      e.standsAt Level.test)

/-- The parameters behind a star are not positional ones. -/
def kindsStand (starSeen : Bool) : List (Param Expr) → Bool
  | [] => true
  | p :: rest =>
    (p.kind != .positional || !starSeen) && kindsStand (starAfter starSeen p.kind) rest

theorem kindsStand_of_positional {params : List (Param Expr)}
    (h : ∀ p ∈ params, p.kind = .positional) : kindsStand false params = true := by
  induction params with
  | nil => rfl
  | cons p params ih =>
    rw [List.forall_mem_cons] at h
    simp [kindsStand, starAfter, h.1, ih h.2]

/-! ### Constants -/

/-- A literal as it is written again. -/
def Grammar.StringPart.text : StringPart → String
  | .plain s => Literal.quote s
  | .verbatim text => text

/-- The token of a literal. -/
def Grammar.StringPart.token : StringPart → Token
  | .plain s => .str s
  | .verbatim text => .verbatim text

/-- The literal is read as itself. -/
def Grammar.StringPart.IsLegible : StringPart → Prop
  | .plain _ => True
  | .verbatim text => IsVerbatim text

/-- The constant is read as itself: a number is one number of its kind, and a text that is kept as it
is written consists of literals that are joined to it. -/
def Constant.IsLegible : Constant → Prop
  | .int text => IsNumber text ∧ numberConstant text = .int text
  | .float text => IsNumber text ∧ numberConstant text = .float text
  | .verbatim text => ∃ parts : List StringPart, parts ≠ [] ∧ (∀ p ∈ parts, p.IsLegible) ∧
      text = joinWith " " (parts.map StringPart.text) ∧ joinStrings "" parts = .verbatim text
  | .none | .bool _ | .str _ | .ellipsis => True

/-! ### Expressions -/

/-- The text of the expression can only be read as the expression. -/
inductive Legible : Expr → Prop where
  | name {id : String} (identifier : isIdentifier id = true) : Legible (.name id)
  | constant {c : Constant} (constant : c.IsLegible) : Legible (.constant c)
  | dotted {e : Expr} {attr : String} (value : Legible e) (item : e.isItem = true)
      (point : e.takesPoint = true) (identifier : isIdentifier attr = true) :
      Legible (.attribute e attr)
  | subscript {e i : Expr} (value : Legible e) (item : e.isItem = true) (index : Legible i)
      (single : i.isIndex = true) : Legible (.subscript e i)
  | subscriptMany {e : Expr} {items : List Expr} (value : Legible e) (item : e.isItem = true)
      (several : 2 ≤ items.length) (legible : ∀ x ∈ items, Legible x)
      (stand : ∀ x ∈ items, x.isSubscriptItem = true) : Legible (.subscript e (.tuple items))
  | slice {lower upper step : Option Expr}
      (legible : ∀ x ∈ [lower, upper, step], ∀ e ∈ x, Legible e)
      (stand : ∀ x ∈ [lower, upper, step], ∀ e ∈ x, e.standsAt Level.test = true) :
      Legible (.slice lower upper step)
  | call {e : Expr} {args : List Expr} {keywords : List (Argument Expr)} (func : Legible e)
      (item : e.isItem = true) (legible : ∀ x ∈ args, Legible x)
      (items : ∀ x ∈ args, x.isItem = true)
      (names : ∀ k ∈ keywords, ∀ n ∈ k.name, isIdentifier n = true)
      (values : ∀ k ∈ keywords, Legible k.value)
      (stand : ∀ k ∈ keywords, k.value.standsAt (argumentLevel k.name) = true) :
      Legible (.call e args keywords)
  | starred {e : Expr} (value : Legible e) (stands : e.standsAt Level.bitOr = true) :
      Legible (.starred e)
  | list {items : List Expr} (legible : ∀ x ∈ items, Legible x)
      (stand : ∀ x ∈ items, x.isItem = true) : Legible (.list items)
  | tuple {items : List Expr} (legible : ∀ x ∈ items, Legible x)
      (stand : ∀ x ∈ items, x.isItem = true) : Legible (.tuple items)
  | set {items : List Expr} (filled : items ≠ []) (legible : ∀ x ∈ items, Legible x)
      (stand : ∀ x ∈ items, x.isItem = true) : Legible (.set items)
  | dict {entries : List (Expr × Expr)} (keys : ∀ x ∈ entries, Legible x.1)
      (values : ∀ x ∈ entries, Legible x.2)
      (first : ∀ x ∈ entries.head?, x.1.isItem = true)
      (more : ∀ x ∈ entries.tail, x.1.standsAt Level.test = true)
      (stand : ∀ x ∈ entries, x.2.standsAt Level.test = true) : Legible (.dict entries)
  | comprehension {kind : ComprehensionKind} {e : Expr} {clauses : List (Clause Expr)}
      (element : Legible e) (item : e.isItem = true) (filled : clauses ≠ [])
      (targets : ∀ c ∈ clauses, ∀ x ∈ c.target.bareItems, Legible x)
      (iters : ∀ c ∈ clauses, Legible c.iter)
      (conditions : ∀ c ∈ clauses, ∀ x ∈ c.conditions, Legible x)
      (stand : ∀ c ∈ clauses, c.stands = true) : Legible (.comprehension kind e clauses)
  | dictComprehension {k v : Expr} {clauses : List (Clause Expr)} (key : Legible k)
      (item : k.isItem = true) (value : Legible v) (stands : v.standsAt Level.test = true)
      (filled : clauses ≠ []) (targets : ∀ c ∈ clauses, ∀ x ∈ c.target.bareItems, Legible x)
      (iters : ∀ c ∈ clauses, Legible c.iter)
      (conditions : ∀ c ∈ clauses, ∀ x ∈ c.conditions, Legible x)
      (stand : ∀ c ∈ clauses, c.stands = true) : Legible (.dictComprehension k v clauses)
  | unary {op : UnaryOp} {e : Expr} (operand : Legible e) (stands : e.standsAt op.level = true) :
      Legible (.unary op e)
  | binary {l r : Expr} {op : BinaryOp} (left : Legible l) (right : Legible r)
      (standsLeft : l.standsAt op.leftLevel = true)
      (standsRight : r.standsAt op.rightLevel = true) : Legible (.binary l op r)
  | logic {op : LogicOp} {values : List Expr} (several : 2 ≤ values.length)
      (legible : ∀ x ∈ values, Legible x)
      (stand : ∀ x ∈ values, x.standsAt (op.level + 1) = true) : Legible (.logic op values)
  | compare {e : Expr} {ops : List CompareOp} {comparators : List Expr} (left : Legible e)
      (stands : e.standsAt Level.bitOr = true) (filled : ops ≠ [])
      (even : ops.length = comparators.length) (legible : ∀ x ∈ comparators, Legible x)
      (stand : ∀ x ∈ comparators, x.standsAt Level.bitOr = true) :
      Legible (.compare e ops comparators)
  | conditional {t b o : Expr} (test : Legible t) (body : Legible b) (orelse : Legible o)
      (standsTest : t.standsAt Level.disjunction = true)
      (standsBody : b.standsAt Level.disjunction = true)
      (standsElse : o.standsAt Level.test = true) : Legible (.conditional t b o)
  | lambda {params : List (Param Expr)} {b : Expr}
      (names : ∀ p ∈ params, isIdentifier p.name = true) (kinds : kindsStand false params = true)
      (presets : ∀ p ∈ params, ∀ e ∈ p.preset, Legible e)
      (stand : ∀ p ∈ params, p.stands false = true) (body : Legible b)
      (stands : b.standsAt Level.test = true) : Legible (.lambda params b)
  | await {e : Expr} (value : Legible e) (item : e.isItem = true) : Legible (.await e)
  | named {target : String} {e : Expr} (identifier : isIdentifier target = true)
      (value : Legible e) (stands : e.standsAt Level.test = true) : Legible (.named target e)

theorem Expr.bareItems_of_ne {e : Expr} (h : ∀ items, e ≠ .tuple items) : e.bareItems = [e] := by
  cases e with
  | tuple items => exact absurd rfl (h items)
  | _ => rfl

theorem Legible.bareItems {e : Expr} (h : Legible e) : ∀ x ∈ e.bareItems, Legible x := by
  by_cases tuple : ∃ items, e = .tuple items
  · obtain ⟨items, rfl⟩ := tuple
    cases items with
    | nil => exact fun x hx => List.mem_singleton.1 hx ▸ h
    | cons x items =>
      cases h with
      | tuple legible _ => exact legible
  · intro x hx
    rw [Expr.bareItems_of_ne fun items same => tuple ⟨items, same⟩, List.mem_singleton] at hx
    exact hx ▸ h

theorem Expr.isItem_of_standsAt {e : Expr} {least : Nat} (h : e.standsAt least = true) :
    e.isItem = true := by
  cases e <;> first | rfl | exact h

theorem Expr.standsAt_of_isItem {e : Expr} {least : Nat} (h : e.isItem = true)
    (high : Level.bitOr < least) : e.standsAt least = true := by
  cases e with
  | starred => exact decide_eq_true high
  | slice => exact h
  | _ => rfl

theorem Expr.standsAt_of_isSubscriptItem {e : Expr} (item : e.isItem = true)
    (plain : e.isSubscriptItem = true) (least : Nat) : e.standsAt least = true := by
  cases e with
  | starred => cases plain
  | slice => cases item
  | _ => rfl

end RobotCell.Script
