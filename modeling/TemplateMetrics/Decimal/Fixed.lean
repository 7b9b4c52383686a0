import TemplateMetrics.Decimal.Binary

/-!
A float with a fixed number of decimal places. The exact binary value is rounded to the nearest
multiple of the last place, and a tie goes to the even digit.
-/

namespace TemplateMetrics.Decimal

/-- The natural number nearest to `num / den`, the even one of two. -/
def nearestEven (num den : Nat) : Nat :=
  let q := num / den
  let twice := 2 * (num % den)
  if twice < den ∨ twice = den ∧ q % 2 = 0 then q else q + 1

/-- Pad with zeros on the left up to `width` digits. -/
def padLeft (width : Nat) (ds : List Char) : List Char :=
  List.replicate (width - ds.length) '0' ++ ds

def fixedMagnitude (places : Nat) (b : Binary) : String :=
  let (num, den) := Binary.fraction (4 * b.significand) b.exponent
  let n := nearestEven (num * Nat.pow 10 places) den
  let ds := padLeft (places + 1) (Nat.toDigits 10 n)
  let whole := String.ofList (ds.take (ds.length - places))
  if places = 0 then whole else whole ++ "." ++ String.ofList (ds.drop (ds.length - places))

def fixed (places : Nat) (x : Float) : String :=
  match Reading.ofFloat x with
  | .notANumber => "NaN"
  | .infinite negative => if negative then "-inf" else "inf"
  | .finite negative b => (if negative then "-" else "") ++ fixedMagnitude places b

end TemplateMetrics.Decimal
