import Mathlib.Data.Rat.Floor
import Mathlib.Tactic.Linarith
import TemplateMetrics.Scalar

/-!
The rationals as the numbers of statistics and grades.

On the rationals every number is finite, so the operations of `Scalar` are those of an ordered
field. Rounding to decimal places gives the nearest multiple of a power of ten, and of two nearest
ones that farther from zero (`Scalar.nearest`). It keeps the order, and it keeps what has no more
places, so it crosses no bound that has no more places.
-/

namespace TemplateMetrics.Scalar

/-! ### Arithmetic and order -/

@[simp] lemma nat_rat (n : ℕ) : (nat n : ℚ) = n := rfl

@[simp] lemma lt_iff {a b : ℚ} : lt a b = true ↔ a < b := decide_eq_true_iff

@[simp] lemma le_iff {a b : ℚ} : le a b = true ↔ a ≤ b := decide_eq_true_iff

@[simp] lemma before_iff {a b : ℚ} : before a b = true ↔ a ≤ b := decide_eq_true_iff

@[simp] lemma finite_rat (x : ℚ) : finite x = x := rfl

@[simp] lemma max_rat (a b : ℚ) : Scalar.max a b = Max.max a b := by
  simp only [Scalar.max, le_iff, lt_iff, le_refl, if_true]
  split_ifs with hba hab
  · exact (max_eq_left hba).symm
  · exact (max_eq_right hab.le).symm
  · exact absurd (lt_of_not_ge hba) hab

lemma clamp_rat {lo hi : ℚ} (h : lo ≤ hi) (x : ℚ) :
    clamp x lo hi = Max.max lo (Min.min hi x) := by
  simp only [clamp, lt_iff]
  split_ifs with hlo hhi
  · rw [min_eq_right (hlo.le.trans h), max_eq_left hlo.le]
  · rw [min_eq_left hhi.le, max_eq_right h]
  · rw [min_eq_right (not_lt.1 hhi), max_eq_right (not_lt.1 hlo)]

lemma sum_rat (xs : List ℚ) : Scalar.sum xs = xs.sum := by
  exact List.sum_eq_foldl.symm

/-- Each step takes one binary digit of the exponent, so as many steps as the exponent suffice. -/
lemma powSteps_rat {steps n : ℕ} (h : n < steps) (r a : ℚ) :
    powSteps steps n r a = r * a ^ n := by
  induction steps generalizing n r a with
  | zero => omega
  | succ steps ih =>
    have hn : a ^ n = a ^ (n % 2) * (a * a) ^ (n / 2) := by
      rw [← pow_two, ← pow_mul, ← pow_add, Nat.mod_add_div]
    have hr : (if n % 2 = 1 then r * a else r) = r * a ^ (n % 2) := by
      rcases Nat.mod_two_eq_zero_or_one n with h0 | h1
      · simp [h0]
      · simp [h1]
    rw [powSteps, hr]
    split_ifs with hhalf
    · rw [hn, hhalf, pow_zero, mul_one]
    · rw [ih (by omega), hn, mul_assoc]

lemma pow_rat (a : ℚ) (n : ℕ) : Scalar.pow a n = a ^ n := by
  rw [Scalar.pow, powSteps_rat n.lt_succ_self, nat_rat, Nat.cast_one, one_mul]

lemma floor_rat (x : ℚ) : Scalar.floor x = ⌊x⌋₊ := Int.floor_toNat x

lemma ceil_rat (x : ℚ) : Scalar.ceil x = ⌈x⌉₊ := by
  have hceil : x.ceil = ⌈x⌉ := by
    rw [Rat.ceil_eq_neg_floor_neg]
    rfl
  rw [← Int.ceil_toNat, ← hceil]
  rfl

/-! ### Rounding -/

/-- The multiple of `10 ^ -places` that is nearest to a number; of two such multiples, the one
farther from zero. -/
def nearest (places : ℕ) (x : ℚ) : ℚ :=
  if 0 ≤ x then ⌊x * 10 ^ places + 1 / 2⌋ / 10 ^ places else ⌈x * 10 ^ places - 1 / 2⌉ / 10 ^ places

/-- Numbers with at most so many decimal places. -/
def Decimal (places : ℕ) (x : ℚ) : Prop := ∃ n : ℤ, x = n / 10 ^ places

variable {places : ℕ} {x y : ℚ}

/-- The integer division rounds the size of a fraction half up. -/
lemma roundRat_eq (x : ℚ) : roundRat x = if 0 ≤ x then ⌊x + 1 / 2⌋ else ⌈x - 1 / 2⌉ := by
  have habs : ⌊|x| + 1 / 2⌋ = ((2 * x.num.natAbs + x.den) / (2 * x.den) : ℕ) := by
    have hden : (x.den : ℚ) ≠ 0 := Nat.cast_ne_zero.2 x.den_ne_zero
    have hsize : |x| = x.num.natAbs / x.den := by
      rw [Nat.cast_natAbs, Int.cast_abs]
      conv_lhs => rw [← Rat.num_div_den x, abs_div, Nat.abs_cast]
    have hhalf : |x| + 1 / 2 = ((2 * x.num.natAbs + x.den : ℕ) : ℚ) / (2 * x.den : ℕ) := by
      rw [hsize]
      push_cast
      field_simp
    rw [hhalf, Rat.floor_natCast_div_natCast]
    push_cast
    rfl
  rw [roundRat, Int.ofNat_eq_natCast, ← habs]
  by_cases hx : 0 ≤ x
  · rw [if_pos hx, if_neg (not_lt.2 (Rat.num_nonneg.2 hx)), abs_of_nonneg hx]
  · have hneg : x < 0 := not_le.1 hx
    rw [if_neg hx, if_pos (Rat.num_neg.2 hneg), abs_of_neg hneg, ← Int.ceil_neg, neg_add, neg_neg,
      sub_eq_add_neg]

/-- Rounding on the rationals is exact. -/
lemma roundTo_rat (places : ℕ) (x : ℚ) : roundTo places x = nearest places x := by
  have hscale : (0 : ℚ) < 10 ^ places := by positivity
  have hround : roundTo places x = (roundRat (x * 10 ^ places) : ℚ) / 10 ^ places := by
    have hten : Scalar.pow (nat 10 : ℚ) places = 10 ^ places := pow_rat _ _
    rw [← hten]
    rfl
  rw [hround, roundRat_eq, nearest]
  simp only [mul_nonneg_iff_of_pos_right hscale]
  split_ifs <;> rfl

lemma nearest_mono (places : ℕ) : Monotone (nearest places) := by
  intro x y h
  have hscaled : x * 10 ^ places ≤ y * 10 ^ places := by gcongr
  rw [nearest, nearest]
  split_ifs with hx hy hy
  · gcongr
  · exact absurd (hx.trans h) hy
  · -- below zero the result is at most zero, and from zero on at least zero
    have hbelow : ⌈x * 10 ^ places - 1 / 2⌉ ≤ 0 := by
      rw [Int.ceil_le, Int.cast_zero]
      have : x * 10 ^ places ≤ 0 := mul_nonpos_of_nonpos_of_nonneg (by linarith) (by positivity)
      linarith
    have habove : 0 ≤ ⌊y * 10 ^ places + 1 / 2⌋ := Int.floor_nonneg.2 (by positivity)
    have : ⌈x * 10 ^ places - 1 / 2⌉ ≤ ⌊y * 10 ^ places + 1 / 2⌋ := hbelow.trans habove
    gcongr
  · gcongr

lemma nearest_of_decimal (h : Decimal places x) : nearest places x = x := by
  obtain ⟨n, rfl⟩ := h
  have hfloor : ⌊(n : ℚ) + 1 / 2⌋ = n := by
    rw [Int.floor_intCast_add, Int.floor_eq_zero_iff.2 (by norm_num), add_zero]
  have hceil : ⌈(n : ℚ) - 1 / 2⌉ = n := by
    rw [Int.ceil_eq_iff]
    constructor <;> linarith
  rw [nearest, div_mul_cancel₀ _ (by positivity), hfloor, hceil, ite_self]

/-- Rounding does not cross a lower bound that has no more places. -/
lemma Decimal.le_nearest (hx : Decimal places x) (h : x ≤ y) : x ≤ nearest places y := by
  rw [← nearest_of_decimal hx]
  exact nearest_mono places h

/-- Rounding does not cross an upper bound that has no more places. -/
lemma Decimal.nearest_le (hy : Decimal places y) (h : x ≤ y) : nearest places x ≤ y := by
  rw [← nearest_of_decimal hy]
  exact nearest_mono places h

lemma decimal_natCast (places n : ℕ) : Decimal places n :=
  ⟨n * 10 ^ places, by push_cast; rw [mul_div_cancel_right₀ _ (by positivity)]⟩

end TemplateMetrics.Scalar
