/-!
# Binary floating-point numbers

The finite non-negative numbers of the 64-bit binary format, as an integer times a power of two, and
the rounding of a quotient to the nearest of them. Arithmetic on these numbers is exact arithmetic
followed by one rounding.

## Main definitions

- `Double` — an integer times a power of two
- `Double.nearest` — the number nearest to a quotient, ties to even
- `Double.mul`, `Double.div` — product and quotient, rounded
-/

namespace RobotCell.Number

/-- The number `mantissa * 2 ^ exponent`. -/
structure Double where
  mantissa : Nat
  exponent : Int
  deriving DecidableEq

namespace Double

/-- The number zero. -/
def zero : Double := ⟨0, 0⟩

/-- Mantissas have at most this many binary digits. -/
def precision : Nat := 53

/-- The exponent of the smallest positive number. -/
def minExponent : Int := -1074

/-- The exponent of the largest numbers. -/
def maxExponent : Int := 971

/-- `num / (den * 2 ^ e)` as a quotient of natural numbers. -/
def scaled (num den : Nat) (e : Int) : Nat × Nat :=
  if 0 ≤ e then (num, den * Nat.pow 2 e.toNat) else (num * Nat.pow 2 (-e).toNat, den)

/-- The natural number nearest to a quotient; of two that are equally near, the even one. -/
def roundHalfEven (num den : Nat) : Nat :=
  let q := num / den
  let r := num % den
  if 2 * r < den then q
  else if den < 2 * r then q + 1
  else if q % 2 = 0 then q else q + 1

/-- The exponent for which `num / den` has a mantissa of full precision, or the least exponent if
the quotient is too small for that. -/
def exponentFor (num den : Nat) : Int :=
  let guess : Int := (num.log2 : Int) - den.log2 - precision
  let (n, d) := scaled num den guess
  max minExponent (if n / d < Nat.pow 2 precision then guess else guess + 1)

/-- The number nearest to `num / den`, or nothing if that lies beyond all numbers of the format. -/
def nearest (num den : Nat) : Option Double :=
  if num = 0 then some zero
  else
    let e := exponentFor num den
    let (n, d) := scaled num den e
    let m := roundHalfEven n d
    let (m, e) :=
      if m = Nat.pow 2 precision then (Nat.pow 2 (precision - 1), e + 1) else (m, e)
    if maxExponent < e then none else some (if m = 0 then zero else ⟨m, e⟩)

/-- The number as a quotient of natural numbers. -/
def quotient (x : Double) : Nat × Nat :=
  if 0 ≤ x.exponent then (x.mantissa * Nat.pow 2 x.exponent.toNat, 1)
  else (x.mantissa, Nat.pow 2 (-x.exponent).toNat)

/-- The product of two numbers, or nothing if it is too large. -/
def mul (x y : Double) : Option Double :=
  nearest (x.quotient.1 * y.quotient.1) (x.quotient.2 * y.quotient.2)

/-- The quotient of two numbers, or nothing if it is too large. -/
def div (x y : Double) : Option Double :=
  nearest (x.quotient.1 * y.quotient.2) (x.quotient.2 * y.quotient.1)

end Double

end RobotCell.Number
