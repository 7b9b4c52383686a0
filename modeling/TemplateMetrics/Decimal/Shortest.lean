import TemplateMetrics.Decimal.Binary

/-!
The fewest decimal digits that read back as the same float.

A float stands for every real nearer to it than to its neighbours. On the grid of multiples of
`10 ^ k` the two grid points around the value are the only candidates: if any grid point lies in
that interval, one of these two does. `shortest` takes the coarsest grid with a hit, and of two
hits the nearer one; a `Tie` decides between two that are equally near.
-/

namespace TemplateMetrics.Decimal

structure Scaled where
  digits : Nat
  exponent : Int
deriving Repr, DecidableEq

/-- Which of two equally near grid points is taken. -/
inductive Tie where
  | toEven
  | up
deriving Repr, DecidableEq

def scaleDown (num den : Nat) (k : Int) : Nat × Nat :=
  match k with
  | .ofNat e => (num, den * Nat.pow 10 e)
  | .negSucc e => (num * Nat.pow 10 (e + 1), den)

/-- Move `k` up until `num / den < 10 ^ k`, at most `steps` times. -/
def raisePoint (num den : Nat) : Nat → Int → Int
  | 0, k => k
  | steps + 1, k =>
    let (n, d) := scaleDown num den k
    if n < d then k else raisePoint num den steps (k + 1)

/-- The `k` with `10 ^ (k - 1) ≤ num / den < 10 ^ k`, for a positive fraction. -/
def pointOf (num den : Nat) : Int :=
  let twos : Int := (Nat.log2 num : Int) - (Nat.log2 den : Int) - 1
  raisePoint num den 4 (twos * 30103 / 100000)

def trimZeros : Nat → Scaled → Scaled
  | 0, s => s
  | steps + 1, s =>
    if s.digits ≠ 0 ∧ s.digits % 10 = 0 then trimZeros steps ⟨s.digits / 10, s.exponent + 1⟩ else s

def Tie.takesBelow : Tie → Nat → Bool
  | .toEven, below => below % 2 = 0
  | .up, _ => false

/-- The hit on the grid `10 ^ k`, if there is one. -/
def hit (tie : Tie) (b : Binary) (k : Int) : Option Nat :=
  let q := b.exponent
  let value := 4 * b.significand
  let low := if b.narrowBelow then value - 1 else value - 2
  let closed := b.significand % 2 = 0
  let (vn, vd) := Binary.fraction value q
  let (ln, ld) := Binary.fraction low q
  let (hn, hd) := Binary.fraction (value + 2) q
  let (vn, vd) := scaleDown vn vd k
  let (ln, ld) := scaleDown ln ld k
  let (hn, hd) := scaleDown hn hd k
  let inside (d : Nat) : Bool :=
    if closed then decide (ln ≤ d * ld) && decide (d * hd ≤ hn)
    else decide (ln < d * ld) && decide (d * hd < hn)
  let below := vn / vd
  let above := below + 1
  match inside below, inside above with
  | true, true =>
    let down := vn - below * vd
    let up := above * vd - vn
    if down < up ∨ down = up ∧ tie.takesBelow below then some below else some above
  | true, false => some below
  | false, true => some above
  | false, false => none

/-- Try grids of `digits`, `digits + 1`, … significant digits. -/
def search (tie : Tie) (b : Binary) (point : Int) : Nat → Nat → Scaled
  | 0, _ => ⟨0, 0⟩
  | steps + 1, digits =>
    let k := point - (digits : Int)
    match hit tie b k with
    | some d => trimZeros 20 ⟨d, k⟩
    | none => search tie b point steps (digits + 1)

def shortest (tie : Tie) (b : Binary) : Scaled :=
  if b.significand = 0 then ⟨0, 0⟩
  else
    let (num, den) := Binary.fraction (4 * b.significand) b.exponent
    search tie b (pointOf num den) 17 1

end TemplateMetrics.Decimal
