import RobotCell.Number.Shortest

/-!
# Numbers in JSON

A number without fraction and exponent is an integer if it fits into 64 bits, with or without a
sign. Every other number is read as a floating-point number, from its leading digits and one
multiplication or division by a power of ten; it is kept as the shortest decimal that stands for
that number.

## Main definitions

- `Json.Number` — integers and decimals
- `Json.Literal` — the parts of a number as it is written
- `Json.Literal.value?` — the number that a literal stands for
- `Json.Number.text` — a number as it is written to a file
-/

namespace RobotCell.Json

open RobotCell.Number (Double Decimal)

/-- The numbers of JSON documents. -/
inductive Number where
  /-- An integer of 64 bits, with or without a sign. -/
  | int (value : Int)
  /-- A floating-point number, as a sign and the shortest decimal. -/
  | real (negative : Bool) (magnitude : Decimal)
  deriving DecidableEq

/-- The parts of a number as it is written; digits are given by their values. -/
structure Literal where
  negative : Bool
  whole : List Nat
  /-- The digits after the point. -/
  fraction : Option (List Nat)
  /-- The sign of the exponent, true if negative, and its digits. -/
  exponent : Option (Bool × List Nat)

/-- The greatest integer without a sign. -/
def maxUnsigned : Nat := Nat.pow 2 64 - 1

/-- The greatest exponent that is told from an overflow. -/
def maxScale : Nat := Nat.pow 2 31 - 1

/-- Leading digits that fit into 64 bits, and the power of ten that they are multiplied by. -/
structure Leading where
  digits : Nat
  scale : Int
  full : Bool

/-- One more digit before the point. Once the digits are full, a digit only raises the scale. -/
def Leading.addWhole (s : Leading) (d : Nat) : Leading :=
  if s.full then { s with scale := s.scale + 1 }
  else if s.digits * 10 + d ≤ maxUnsigned then { s with digits := s.digits * 10 + d }
  else { s with scale := 1, full := true }

/-- One more digit after the point. Once the digits are full, further digits have no effect. -/
def Leading.addFraction (s : Leading) (d : Nat) : Leading :=
  if s.full then s
  else if s.digits * 10 + d ≤ maxUnsigned then
    { s with digits := s.digits * 10 + d, scale := s.scale - 1 }
  else { s with full := true }

/-- The floating-point number nearest to a power of ten. -/
def powerOfTen? (n : Nat) : Option Double :=
  Double.nearest (Nat.pow 10 n) 1

/-- The number divided by a power of ten, in steps of at most 308. -/
def divideByPower (x : Double) (n : Nat) : Option Double :=
  if n ≤ 308 then (powerOfTen? n).bind x.div
  else if x.mantissa = 0 then some x
  else ((powerOfTen? 308).bind x.div).bind fun y => divideByPower y (n - 308)
termination_by n

/-- The number with the given leading digits, or nothing if it is too large. -/
def scaledValue? (digits : Nat) (scale : Int) : Option Double :=
  (Double.nearest digits 1).bind fun x =>
    if scale < 0 then divideByPower x scale.natAbs
    else if scale.natAbs ≤ 308 then (powerOfTen? scale.natAbs).bind x.mul
    else if x.mantissa = 0 then some x
    else none

/-- The value of the digits of an exponent, or nothing if it is too large to be told. -/
def exponentValue? (digits : List Nat) : Option Nat :=
  digits.foldl
    (fun n d => n.bind fun n => if n * 10 + d ≤ maxScale then some (n * 10 + d) else none) (some 0)

/-- The leading digits of a literal without its exponent. -/
def Literal.leading (l : Literal) : Leading :=
  let whole := l.whole.foldl Leading.addWhole ⟨0, 0, false⟩
  match l.fraction with
  | none => whole
  | some digits => digits.foldl Leading.addFraction { whole with full := false }

/-- The floating-point number that a literal stands for, without its sign. -/
def Literal.magnitude? (l : Literal) : Option Double :=
  let s := l.leading
  match l.exponent with
  | none => scaledValue? s.digits s.scale
  | some (negative, digits) =>
    match exponentValue? digits with
    | some n => scaledValue? s.digits (if negative then s.scale - n else s.scale + n)
    | none => if s.digits = 0 ∨ negative then some Double.zero else none

/-- The literal has neither a fraction nor an exponent. -/
def Literal.isWhole (l : Literal) : Bool :=
  l.fraction.isNone && l.exponent.isNone

/-- The integer that a literal stands for, if it is one of 64 bits. A negative zero is not. -/
def Literal.integer? (l : Literal) : Option Int :=
  let s := l.leading
  if !l.isWhole || s.full then none
  else if !l.negative then some s.digits
  else if s.digits = 0 ∨ Nat.pow 2 63 < s.digits then none
  else some (-(s.digits : Int))

/-- The number that a literal stands for, or nothing if it is too large. -/
def Literal.value? (l : Literal) : Option Number :=
  match l.integer? with
  | some n => some (.int n)
  | none => l.magnitude?.map fun x => .real l.negative x.shortest

/-- The digits of a natural number. -/
def digitsText (n : Nat) : String :=
  String.ofList (Nat.toDigits 10 n)

/-- An integer with its sign. -/
def intText (i : Int) : String :=
  if i < 0 then "-" ++ digitsText i.natAbs else digitsText i.natAbs

/-- A number of zeros. -/
def zeros (n : Nat) : String :=
  String.ofList (List.replicate n '0')

/-- The greatest number of places before the point in positional notation. -/
def maxPositional : Int := 16

/-- The point may stand at most this many places before the first digit. -/
def minPositional : Int := -5

/-- An exponent with its sign, which a positive one has too. -/
def exponentText (e : Int) : String :=
  if e < 0 then "e-" ++ digitsText e.natAbs else "e+" ++ digitsText e.natAbs

/-- A decimal in positional notation if its size allows, and else with an exponent. A number without
fraction is written with one zero after the point. -/
def decimalText (d : Decimal) : String :=
  let digits := digitsText d.digits
  let size : Int := digits.length + d.exponent
  if d.digits = 0 then "0.0"
  else if 0 ≤ d.exponent ∧ size ≤ maxPositional then digits ++ zeros d.exponent.toNat ++ ".0"
  else if 0 < size ∧ size ≤ maxPositional then
    String.ofList (digits.toList.take size.toNat) ++ "." ++
      String.ofList (digits.toList.drop size.toNat)
  else if minPositional < size ∧ size ≤ 0 then "0." ++ zeros (-size).toNat ++ digits
  else if digits.length = 1 then digits ++ exponentText (size - 1)
  else String.ofList (digits.toList.take 1) ++ "." ++ String.ofList (digits.toList.drop 1) ++
    exponentText (size - 1)

/-- A number as it is written to a file. -/
def Number.text : Number → String
  | .int i => intText i
  | .real negative d => (if negative then "-" else "") ++ decimalText d

end RobotCell.Json
