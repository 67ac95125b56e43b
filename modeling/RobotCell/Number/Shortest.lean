import RobotCell.Number.Double

/-!
# Shortest decimals

Every real number near enough to a floating-point number rounds to it. Among the decimals that do,
the shortest ones are those with the fewest digits, and of these the nearest is taken.

## Main definitions

- `Decimal` — an integer times a power of ten
- `Double.shortest` — the shortest decimal that rounds to a number
-/

namespace RobotCell.Number

/-- The number `digits * 10 ^ exponent`. -/
structure Decimal where
  digits : Nat
  exponent : Int
  deriving DecidableEq

/-- The number of decimal digits of a natural number. -/
def digitCount (n : Nat) : Nat :=
  (Nat.toDigits 10 n).length

/-- A quotient divided by a power of ten. -/
def shiftTen (num den : Nat) (k : Int) : Nat × Nat :=
  if 0 ≤ k then (num, den * Nat.pow 10 k.toNat) else (num * Nat.pow 10 (-k).toNat, den)

/-- The greatest power of ten that is at most a positive quotient, given by its exponent. -/
def decimalExponent (num den : Nat) : Int :=
  let guess : Int := (digitCount num : Int) - digitCount den
  let (n, d) := shiftTen num den guess
  if d ≤ n then guess else guess - 1

namespace Double

/-- The numbers that round to `x`, in quarters of the distance from `x` to its upper neighbour: the
lower bound, `x` itself and the upper bound. Below a power of two the neighbours are nearer. -/
def roundingInterval (x : Double) : Nat × Nat × Nat :=
  let below := if x.mantissa = Nat.pow 2 (precision - 1) ∧ minExponent < x.exponent then 1 else 2
  (4 * x.mantissa - below, 4 * x.mantissa, 4 * x.mantissa + 2)

/-- The decimal `d * 10 ^ k` rounds to `x`. The bounds themselves do so if the mantissa is even. -/
def isReadAs (x : Double) (d : Nat) (k : Int) : Bool :=
  let (low, _, high) := x.roundingInterval
  let (n, unit) := if 0 ≤ k then (d * Nat.pow 10 k.toNat, 1) else (d, Nat.pow 10 (-k).toNat)
  let e := x.exponent - 2
  let (left, right) :=
    if 0 ≤ e then (n, unit * Nat.pow 2 e.toNat) else (n * Nat.pow 2 (-e).toNat, unit)
  if x.mantissa % 2 = 0 then low * right ≤ left && left ≤ high * right
  else low * right < left && left < high * right

/-- The nearest decimal of `count` digits that rounds to `x`, if there is one. -/
def withDigits? (x : Double) (count : Nat) : Option Decimal :=
  let (num, den) := x.quotient
  let k := decimalExponent num den - (count - 1 : Nat)
  let (n, d) := shiftTen num den k
  let floor := n / d
  let nearer := if 2 * (n % d) < d ∨ (2 * (n % d) = d ∧ floor % 2 = 0) then floor else floor + 1
  let other := if nearer = floor then floor + 1 else floor
  if x.isReadAs nearer k then some ⟨nearer, k⟩
  else if x.isReadAs other k then some ⟨other, k⟩
  else none

/-- The first decimal found with `count`, `count + 1`, … digits, within `limit` attempts. -/
def shortestFrom (x : Double) (count : Nat) : Nat → Option Decimal
  | 0 => none
  | limit + 1 => (x.withDigits? count).orElse fun _ => shortestFrom x (count + 1) limit

/-- A decimal with no zero at the end of its digits; at most `limit` zeros are removed. -/
def stripZeros (d : Decimal) : Nat → Decimal
  | 0 => d
  | limit + 1 =>
    if d.digits ≠ 0 ∧ d.digits % 10 = 0 then stripZeros ⟨d.digits / 10, d.exponent + 1⟩ limit
    else d

/-- The shortest decimal that rounds to `x`. Seventeen digits are always enough. -/
def shortest (x : Double) : Decimal :=
  if x.mantissa = 0 then ⟨0, 0⟩
  else stripZeros ((shortestFrom x 1 17).getD ⟨0, 0⟩) 17

end Double

end RobotCell.Number
