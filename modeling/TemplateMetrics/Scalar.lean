/-!
The numbers that statistics and grades are computed with.

The formulas of this library are written once, over any type of numbers with the operations of
`Scalar`. Programs run them on floats; the laws that rounding would spoil are those of the same
formulas on the rationals.
-/

namespace TemplateMetrics

/-- Numbers with arithmetic, comparison and rounding. -/
class Scalar (K : Type) extends Add K, Sub K, Mul K, Div K where
  nat : Nat → K
  lt : K → K → Bool
  le : K → K → Bool
  /-- Whether this is a number at all, and not infinite. -/
  isFinite : K → Bool
  /-- The nearest whole number, a half away from zero. -/
  round : K → K
  /-- The largest natural number that is not above. -/
  floor : K → Nat
  /-- The smallest natural number that is not below. -/
  ceil : K → Nat
  /-- The order in which samples are sorted; unlike `le` it is total. -/
  before : K → K → Bool

namespace Scalar

variable {K : Type} [Scalar K]

def eq (a b : K) : Bool := le a b && le b a

/-- The value itself, or zero where it is no finite number. -/
def finite (x : K) : K := if isFinite x then x else nat 0

def clamp (x lo hi : K) : K := if lt x lo then lo else if lt hi x then hi else x

def max (a b : K) : K := if le b a then a else if le a a then (if lt a b then b else a) else b

def sum (xs : List K) : K := xs.foldl (· + ·) (nat 0)

/-- Squaring from the lowest binary digit of the exponent upwards. -/
def powSteps : Nat → Nat → K → K → K
  | 0, _, r, _ => r
  | steps + 1, n, r, a =>
    let r := if n % 2 = 1 then r * a else r
    if n / 2 = 0 then r else powSteps steps (n / 2) r (a * a)

def pow (a : K) (n : Nat) : K := powSteps (n + 1) n (nat 1) a

/-- Round to so many decimal places, a half away from zero. What is no finite number becomes zero,
and what is too large to scale stays. -/
def roundTo (places : Nat) (x : K) : K :=
  if !isFinite x then nat 0
  else
    let factor := pow (nat 10) places
    let scaled := x * factor
    if isFinite scaled then round scaled / factor else x

def ratio (a b : K) : K :=
  if eq b (nat 0) || !isFinite a || !isFinite b then nat 0 else a / b

end Scalar

/-! ### Floats -/

/-- A number that grows with the float, zeros of both signs apart. -/
def floatKey (x : Float) : Nat :=
  let b := x.toBits.toNat
  if Nat.pow 2 63 ≤ b then Nat.pow 2 64 - 1 - b else b + Nat.pow 2 63

/-- The nearest whole float, a half away from zero; the sign stays, also that of a zero. From
`2 ^ 52` on every float is whole. -/
def roundFloat (x : Float) : Float :=
  let size := x.abs
  if size < 4503599627370496.0 then
    let whole := size.toUInt64.toFloat
    let nearest := if size - whole < 0.5 then whole else whole + 1.0
    if x.toBits.toNat < Nat.pow 2 63 then nearest else -nearest
  else x

instance : Scalar Float where
  nat n := Float.ofNat n
  lt a b := decide (a < b)
  le a b := decide (a ≤ b)
  isFinite x := x.isFinite
  round x := roundFloat x
  floor x := x.floor.toUInt64.toNat
  ceil x := x.ceil.toUInt64.toNat
  before a b := decide (floatKey a ≤ floatKey b)

/-! ### Rationals -/

def roundRat (x : Rat) : Int :=
  let n := (2 * x.num.natAbs + x.den) / (2 * x.den)
  if x.num < 0 then -Int.ofNat n else Int.ofNat n

instance : Scalar Rat where
  nat n := Rat.ofInt (Int.ofNat n)
  lt a b := decide (a < b)
  le a b := decide (a ≤ b)
  isFinite _ := true
  round x := Rat.ofInt (roundRat x)
  floor x := x.floor.toNat
  ceil x := x.ceil.toNat
  before a b := decide (a ≤ b)

end TemplateMetrics
