import Mathlib.Algebra.BigOperators.Ring.List
import Mathlib.Algebra.Order.BigOperators.Group.List
import TemplateMetrics.Proofs.Percentiles

/-!
The Gini index in exact arithmetic.

The index is defined by the distances of all pairs of values (`differences`), and computed from the
ascending sample, where each value counts as often as it is the larger one of a pair less as often
as it is the smaller one (`two_mul_rankSum`). What the distances lack to their largest possible
sum is the part that the values of each pair have in common (`differences_add_common`). So the index
is at most one, and it is one when no two values have anything in common.
-/

namespace TemplateMetrics.Statistics

open Scalar hiding max sum round floor ceil

/-! ### Distances of pairs -/

/-- The sum of the distances of all ordered pairs of values. -/
def differences (xs : List ℚ) : ℚ := (xs.map fun x => (xs.map fun y => |x - y|).sum).sum

lemma differences_cons (a : ℚ) (l : List ℚ) :
    differences (a :: l) = differences l + 2 * (l.map fun y => |a - y|).sum := by
  have hback : (l.map fun x => |x - a|).sum = (l.map fun y => |a - y|).sum := by
    simp only [abs_sub_comm]
  simp only [differences, List.map_cons, List.sum_cons, sub_self, abs_zero, List.sum_map_add, hback]
  ring

lemma differences_perm {xs ys : List ℚ} (h : xs.Perm ys) : differences ys = differences xs := by
  have hinner : ∀ x, (ys.map fun y => |x - y|).sum = (xs.map fun y => |x - y|).sum :=
    fun x => ((h.map fun y => |x - y|).sum_eq).symm
  simp only [differences, hinner]
  exact ((h.map _).sum_eq).symm

lemma differences_map_mul {c : ℚ} (hc : 0 < c) (xs : List ℚ) :
    differences (xs.map (c * ·)) = c * differences xs := by
  have hpair : ∀ x y : ℚ, |c * x - c * y| = c * |x - y| := by
    intro x y
    rw [← mul_sub, abs_mul, abs_of_pos hc]
  simp only [differences, List.map_map, Function.comp_def, hpair, List.sum_map_mul_left]

/-- A sum of values that are not negative is zero only if each of them is. -/
lemma sum_map_eq_zero_iff {xs : List ℚ} {f : ℚ → ℚ} (h : ∀ x ∈ xs, 0 ≤ f x) :
    (xs.map f).sum = 0 ↔ ∀ x ∈ xs, f x = 0 := by
  constructor
  · intro hsum x hx
    exact List.all_zero_of_le_zero_le_of_sum_eq_zero (by simpa using h) hsum
      (List.mem_map.2 ⟨x, hx, rfl⟩)
  · intro hzero
    exact List.sum_eq_zero (by simpa using hzero)

lemma sum_distances_nonneg (x : ℚ) (xs : List ℚ) : 0 ≤ (xs.map fun y => |x - y|).sum :=
  List.sum_nonneg (by simp)

lemma differences_nonneg (xs : List ℚ) : 0 ≤ differences xs :=
  List.sum_nonneg (by simpa using fun x _ => sum_distances_nonneg x xs)

lemma differences_eq_zero_iff {xs : List ℚ} :
    differences xs = 0 ↔ ∀ x ∈ xs, ∀ y ∈ xs, x = y := by
  rw [differences, sum_map_eq_zero_iff fun x _ => sum_distances_nonneg x xs]
  refine forall₂_congr fun x _ => ?_
  rw [sum_map_eq_zero_iff fun y _ => abs_nonneg _]
  simp only [abs_eq_zero, sub_eq_zero]

/-- The distance of two values and twice what they have in common make up both values. -/
lemma sum_distances_add_min (a : ℚ) (l : List ℚ) :
    (l.map fun y => |a - y|).sum + 2 * (l.map fun y => min a y).sum = l.length * a + l.sum := by
  induction l with
  | nil => simp
  | cons b r ih =>
    have hpair : |a - b| + 2 * min a b = a + b := by
      rcases le_total a b with h | h
      · rw [min_eq_left h, abs_of_nonpos (by linarith)]
        ring
      · rw [min_eq_right h, abs_of_nonneg (by linarith)]
        ring
    simp only [List.map_cons, List.sum_cons, List.length_cons]
    push_cast
    linarith

/-! ### The weights of ranks -/

/-- In an ascending sample the first value is the smaller one of all pairs that it is in. -/
lemma sum_distances_first {a : ℚ} {l : List ℚ} (h : ∀ y ∈ l, a ≤ y) :
    (l.map fun y => |a - y|).sum = l.sum - l.length * a := by
  have hmin : (l.map fun y => min a y) = l.map fun _ => a :=
    List.map_congr_left fun y hy => min_eq_left (h y hy)
  have hall := sum_distances_add_min a l
  rw [hmin, List.map_const', List.sum_replicate, nsmul_eq_mul] at hall
  linarith

/-- The sum by ranks. In front of the list stand `rank` smaller values, and with each of them every
value of the list is the larger one of a pair. -/
lemma two_mul_rankSum {l : List ℚ} (h : l.Pairwise (· ≤ ·)) {n rank : ℕ}
    (hn : n = rank + l.length) (acc : ℚ) :
    2 * rankSum n rank l acc = 2 * acc + differences l + 2 * rank * l.sum := by
  induction l generalizing rank acc with
  | nil => simp [rankSum, differences]
  | cons a r ih =>
    obtain ⟨hfirst, hrest⟩ := List.pairwise_cons.1 h
    have hn' : n = rank + 1 + r.length := by rw [hn, List.length_cons]; omega
    rw [rankSum, ih hrest hn', differences_cons, sum_distances_first hfirst, List.sum_cons, hn']
    simp only [nat_rat]
    push_cast
    ring

/-! ### What pairs have in common -/

/-- The sum of the smaller values of all pairs. -/
def common : List ℚ → ℚ
  | [] => 0
  | a :: r => (r.map fun y => min a y).sum + common r

lemma differences_add_common (l : List ℚ) :
    differences l + 4 * common l = 2 * (l.length - 1) * l.sum := by
  induction l with
  | nil => simp [differences, common]
  | cons a r ih =>
    have hpairs := sum_distances_add_min a r
    rw [differences_cons, common, List.sum_cons, List.length_cons]
    push_cast
    linarith

lemma common_nonneg {l : List ℚ} (h : ∀ x ∈ l, 0 ≤ x) : 0 ≤ common l := by
  induction l with
  | nil => exact le_refl 0
  | cons a r ih =>
    obtain ⟨ha, hr⟩ := List.forall_mem_cons.1 h
    have hfirst : 0 ≤ (r.map fun y => min a y).sum :=
      List.sum_nonneg (by simpa using fun y hy => ⟨ha, hr y hy⟩)
    exact add_nonneg hfirst (ih hr)

/-- Values have nothing in common if at most one of them is not zero. -/
lemma common_eq_zero_iff {l : List ℚ} (h : ∀ x ∈ l, 0 ≤ x) :
    common l = 0 ↔ l.countP (· ≠ 0) ≤ 1 := by
  induction l with
  | nil => simp [common]
  | cons a r ih =>
    obtain ⟨ha, hr⟩ := List.forall_mem_cons.1 h
    have hmin : ∀ y ∈ r, 0 ≤ min a y := fun y hy => le_min ha (hr y hy)
    have hfirst : 0 ≤ (r.map fun y => min a y).sum := List.sum_nonneg (by simpa using hmin)
    rw [common, add_eq_zero_iff_of_nonneg hfirst (common_nonneg hr), sum_map_eq_zero_iff hmin,
      ih hr]
    rcases ha.eq_or_lt with rfl | hpos
    · -- a zero has nothing in common with any value
      have hzero : ∀ y ∈ r, min 0 y = 0 := fun y hy => min_eq_left (hr y hy)
      rw [List.countP_cons_of_neg (by simp), and_iff_right hzero]
    · -- a positive value has nothing in common with zeros only
      have hnone : (∀ y ∈ r, min a y = 0) ↔ r.countP (· ≠ 0) = 0 := by
        simp only [List.countP_eq_zero, decide_eq_true_eq, not_not]
        refine forall₂_congr fun y hy => ⟨fun hy0 => ?_, fun hy0 => ?_⟩
        · rcases min_choice a y with hmin | hmin
          · linarith
          · rw [← hmin, hy0]
        · rw [hy0, min_eq_right ha]
      rw [hnone, List.countP_cons_of_pos (by simpa using hpos.ne')]
      omega

/-! ### The index -/

section Index

variable {xs : List ℚ}

lemma sum_sorted (xs : List ℚ) : Scalar.sum (sorted xs) = xs.sum := by
  rw [sum_rat]
  exact (sorted_perm xs).sum_eq

lemma rankSum_sorted (xs : List ℚ) :
    rankSum xs.length 0 (sorted xs) 0 = differences xs / 2 := by
  have hlength : xs.length = 0 + (sorted xs).length := by rw [length_sorted, Nat.zero_add]
  have hrank := two_mul_rankSum (pairwise_sorted xs) hlength 0
  rw [differences_perm (sorted_perm xs).symm, Nat.cast_zero] at hrank
  linarith

/-- The index before it is limited to the range from 0 to 1. -/
def ranked (xs : List ℚ) : ℚ :=
  rankSum xs.length 0 (sorted xs) 0 / ((xs.length - 1) * Scalar.sum (sorted xs))

lemma ranked_eq (xs : List ℚ) :
    ranked xs = differences xs / (2 * (xs.length - 1) * xs.sum) := by
  rw [ranked, rankSum_sorted, sum_sorted, div_div, mul_assoc]

lemma gini_perm {ys : List ℚ} (h : xs.Perm ys) : gini ys = gini xs := by
  rw [gini, gini, h.length_eq, sorted_congr h]

lemma sum_map_mul (c : ℚ) (xs : List ℚ) : (xs.map (c * ·)).sum = c * xs.sum := by
  simpa using List.sum_map_mul_left xs id c

lemma ranked_map_mul {c : ℚ} (hc : 0 < c) (xs : List ℚ) : ranked (xs.map (c * ·)) = ranked xs := by
  rw [ranked_eq, ranked_eq, differences_map_mul hc, sum_map_mul, List.length_map, mul_left_comm,
    mul_div_mul_left _ _ hc.ne']

variable (hsize : 2 ≤ xs.length) (hsum : 0 < xs.sum)
include hsize hsum

lemma gini_eq_clamp : gini xs = clamp (ranked xs) 0 1 := by
  have htotal : ¬ le (Scalar.sum (sorted xs)) (nat 0) = true := by
    rw [le_iff, sum_sorted]
    exact not_le.2 hsum
  rw [gini]
  dsimp only
  rw [if_neg (by omega), if_neg htotal, finite_rat]
  rfl

lemma largest_pos : 0 < 2 * ((xs.length : ℚ) - 1) * xs.sum := by
  have hlength : (2 : ℚ) ≤ xs.length := by exact_mod_cast hsize
  have : (0 : ℚ) < xs.length - 1 := by linarith
  positivity

lemma ranked_nonneg : 0 ≤ ranked xs := by
  rw [ranked_eq]
  exact div_nonneg (differences_nonneg xs) (largest_pos hsize hsum).le

lemma ranked_eq_zero_iff : ranked xs = 0 ↔ ∀ x ∈ xs, ∀ y ∈ xs, x = y := by
  rw [ranked_eq, div_eq_zero_iff, or_iff_left (largest_pos hsize hsum).ne', differences_eq_zero_iff]

variable (hnonneg : ∀ x ∈ xs, 0 ≤ x)
include hnonneg

lemma ranked_le_one : ranked xs ≤ 1 := by
  have hall := differences_add_common xs
  have hcommon := common_nonneg hnonneg
  rw [ranked_eq, div_le_one (largest_pos hsize hsum)]
  linarith

lemma gini_eq_ranked : gini xs = ranked xs := by
  rw [gini_eq_clamp hsize hsum, clamp_rat zero_le_one,
    min_eq_right (ranked_le_one hsize hsum hnonneg), max_eq_right (ranked_nonneg hsize hsum)]

lemma ranked_eq_one_iff : ranked xs = 1 ↔ xs.countP (· ≠ 0) = 1 := by
  have hall := differences_add_common xs
  -- some value is not zero, or the sum would be zero
  have hsome : 0 < xs.countP (· ≠ 0) := by
    rw [List.countP_pos_iff]
    by_contra hnone
    have hzero : xs.sum = 0 := List.sum_eq_zero fun x hx => by
      by_contra hx'
      exact hnone ⟨x, hx, by simpa using hx'⟩
    linarith
  rw [ranked_eq, div_eq_one_iff_eq (largest_pos hsize hsum).ne']
  calc differences xs = 2 * (xs.length - 1) * xs.sum ↔ common xs = 0 := by
        constructor <;> intro h <;> linarith
    _ ↔ xs.countP (· ≠ 0) ≤ 1 := common_eq_zero_iff hnonneg
    _ ↔ xs.countP (· ≠ 0) = 1 := by omega

end Index

/-- **The index of a sample is the relative mean difference of its pairs**, normalized by the size
of the sample, if no value is negative. It is in the range from 0 to 1 without being limited to it,
and reaches the ends for equal values only and for a single value that is not zero. It depends
neither on the order of the values nor on their unit. -/
theorem gini_is_mean_difference (xs : List ℚ) (hsize : 2 ≤ xs.length)
    (hnonneg : ∀ x ∈ xs, 0 ≤ x) (hsum : 0 < xs.sum) :
    let n : ℚ := xs.length
    let mean := xs.sum / n
    gini xs = (xs.map fun x => (xs.map fun y => |x - y|).sum).sum / (2 * n ^ 2 * mean) *
      (n / (n - 1)) ∧
    (gini xs = clamp (ranked xs) 0 1 ∧ 0 ≤ ranked xs ∧ ranked xs ≤ 1) ∧
    (gini xs = 0 ↔ ∀ x ∈ xs, ∀ y ∈ xs, x = y) ∧
    (gini xs = 1 ↔ xs.countP (· ≠ 0) = 1) ∧
    (∀ ys, xs.Perm ys → gini ys = gini xs) ∧
    ∀ c > 0, gini (xs.map (c * ·)) = gini xs := by
  have hgini := gini_eq_ranked hsize hsum hnonneg
  refine ⟨?_, ⟨gini_eq_clamp hsize hsum, ranked_nonneg hsize hsum,
    ranked_le_one hsize hsum hnonneg⟩, ?_, ?_, ?_, ?_⟩
  · have hlength : (2 : ℚ) ≤ xs.length := by exact_mod_cast hsize
    have hn : (xs.length : ℚ) ≠ 0 := by linarith
    have hn' : (xs.length : ℚ) - 1 ≠ 0 := by linarith
    rw [hgini, ranked_eq, differences]
    field_simp
  · rw [hgini, ranked_eq_zero_iff hsize hsum]
  · rw [hgini, ranked_eq_one_iff hsize hsum hnonneg]
  · intro ys hperm
    exact gini_perm hperm
  · intro c hc
    -- the sample in another unit is a sample of the same kind
    have hpos : 0 < (xs.map (c * ·)).sum := by
      rw [sum_map_mul]
      positivity
    have hnonneg' : ∀ x ∈ xs.map (c * ·), 0 ≤ x := by
      simpa using fun x hx => mul_nonneg hc.le (hnonneg x hx)
    rw [gini_eq_ranked (by rwa [List.length_map]) hpos hnonneg', ranked_map_mul hc, hgini]

theorem gini_is_mean_difference_three :
    let xs : List ℚ := [3, 0, 1 / 2]
    2 ≤ xs.length ∧ (∀ x ∈ xs, 0 ≤ x) ∧ 0 < xs.sum ∧ gini xs = 6 / 7 ∧
    gini [0, 1 / 2, 3] = gini xs ∧ gini (xs.map (4 * ·)) = gini xs := by
  intro xs
  have hsize : 2 ≤ xs.length := by decide
  have hnonneg : ∀ x ∈ xs, 0 ≤ x := by norm_num [xs]
  have hsum : 0 < xs.sum := by norm_num [xs]
  obtain ⟨hmean, -, -, -, hperm, hscale⟩ := gini_is_mean_difference xs hsize hnonneg hsum
  refine ⟨hsize, hnonneg, hsum, ?_, hperm _ (by decide +kernel), hscale 4 (by norm_num)⟩
  rw [hmean]
  decide +kernel

end TemplateMetrics.Statistics
