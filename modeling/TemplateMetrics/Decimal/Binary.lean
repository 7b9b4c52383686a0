/-!
What the bits of a 64-bit float say: a sign, a class, and for a finite number the natural
`significand` and the integer `exponent` with value `significand * 2 ^ exponent`.
-/

namespace TemplateMetrics.Decimal

/-- A finite magnitude `significand * 2 ^ exponent`, with the spacing of its neighbours. -/
structure Binary where
  significand : Nat
  exponent : Int
  /-- The next smaller number is only half as far away as the next larger one. -/
  narrowBelow : Bool
deriving Repr, DecidableEq

/-- How a float reads. -/
inductive Reading where
  | notANumber
  | infinite (negative : Bool)
  | finite (negative : Bool) (magnitude : Binary)
deriving Repr, DecidableEq

def Reading.ofFloat (x : Float) : Reading :=
  let bits := x.toBits.toNat
  let negative := decide (Nat.pow 2 63 ≤ bits)
  let biased := bits / Nat.pow 2 52 % Nat.pow 2 11
  let fraction := bits % Nat.pow 2 52
  if biased = 2047 then
    if fraction = 0 then .infinite negative else .notANumber
  else if biased = 0 then
    .finite negative ⟨fraction, -1074, false⟩
  else
    .finite negative
      ⟨Nat.pow 2 52 + fraction, Int.ofNat biased - 1075, decide (fraction = 0 ∧ 1 < biased)⟩

/-- Numerator and denominator of `quarters / 4 * 2 ^ exponent`. -/
def Binary.fraction (quarters : Nat) (exponent : Int) : Nat × Nat :=
  match exponent - 2 with
  | .ofNat e => (quarters * Nat.pow 2 e, 1)
  | .negSucc e => (quarters, Nat.pow 2 (e + 1))

end TemplateMetrics.Decimal
