import Mathlib.Algebra.BigOperators.Ring.List
import Mathlib.Data.Finset.Max
import TemplateMetrics.Proofs.Grading
import TemplateMetrics.Score.Report

/-!
The overall score in exact arithmetic.

It is the mean of the scores of the cards, each with the weight of its dimension, where a negative
weight counts as zero. A mean lies between the least and the largest of the scores that have a
weight, and as these have two decimal places, so does the rounded mean.
-/

namespace TemplateMetrics.Score

open Scalar hiding max

/-! ### Weighted sums -/

section Weighted

variable {names : List String} {weight x x' : String → ℚ}

lemma sum_mul_le_sum_mul (hweight : ∀ d ∈ names, 0 ≤ weight d)
    (h : ∀ d ∈ names, 0 < weight d → x d ≤ x' d) :
    (names.map fun d => x d * weight d).sum ≤ (names.map fun d => x' d * weight d).sum := by
  refine List.sum_le_sum fun d hd => ?_
  rcases (hweight d hd).eq_or_lt with hzero | hpos
  · simp [← hzero]
  · exact mul_le_mul_of_nonneg_right (h d hd hpos) hpos.le

/-- Some of the weights are positive if their sum is. -/
lemma sum_pos_iff (hweight : ∀ d ∈ names, 0 ≤ weight d) :
    0 < (names.map weight).sum ↔ ∃ d ∈ names, 0 < weight d := by
  have hnonneg : 0 ≤ (names.map weight).sum := List.sum_nonneg (by simpa using hweight)
  constructor
  · intro h
    by_contra hnone
    have hzero : (names.map weight).sum ≤ (names.map fun _ => (0 : ℚ)).sum :=
      List.sum_le_sum fun d hd => not_lt.1 fun hpos => hnone ⟨d, hd, hpos⟩
    simp only [List.map_const', List.sum_replicate, nsmul_zero] at hzero
    linarith
  · rintro ⟨d, hd, hpos⟩
    have := List.single_le_sum (l := names.map weight) (by simpa using hweight) (weight d)
      (List.mem_map.2 ⟨d, hd, rfl⟩)
    linarith

/-- A weighted mean is at most the largest of the values that have a weight. -/
lemma exists_mean_le (hweight : ∀ d ∈ names, 0 ≤ weight d) (hsome : ∃ d ∈ names, 0 < weight d) :
    ∃ d ∈ names, 0 < weight d ∧
      (names.map fun d => x d * weight d).sum / (names.map weight).sum ≤ x d := by
  have htotal := (sum_pos_iff hweight).2 hsome
  obtain ⟨d, hd, hlargest⟩ := (names.toFinset.filter fun d => 0 < weight d).exists_max_image x
    (by obtain ⟨d, hd, hpos⟩ := hsome; exact ⟨d, by simp [hd, hpos]⟩)
  rw [Finset.mem_filter, List.mem_toFinset] at hd
  refine ⟨d, hd.1, hd.2, ?_⟩
  rw [div_le_iff₀ htotal, ← List.sum_map_mul_left]
  refine sum_mul_le_sum_mul hweight fun e he hpos => hlargest e ?_
  rw [Finset.mem_filter, List.mem_toFinset]
  exact ⟨he, hpos⟩

/-- A weighted mean is at least the smallest of the values that have a weight. -/
lemma exists_le_mean (hweight : ∀ d ∈ names, 0 ≤ weight d) (hsome : ∃ d ∈ names, 0 < weight d) :
    ∃ d ∈ names, 0 < weight d ∧
      x d ≤ (names.map fun d => x d * weight d).sum / (names.map weight).sum := by
  obtain ⟨d, hd, hpos, hle⟩ := exists_mean_le (x := fun d => -x d) hweight hsome
  refine ⟨d, hd, hpos, ?_⟩
  have hneg : (names.map fun d => -x d * weight d).sum =
      -1 * (names.map fun d => x d * weight d).sum := by
    rw [← List.sum_map_mul_left]
    simp
  rw [hneg, mul_div_assoc] at hle
  linarith

end Weighted

/-! ### The cards of a report -/

/-- One card for each dimension, with its score. -/
def scored (score : String → ℚ) : List (String × ℚ) := dimensions.map fun d => (d, score d)

/-- The weight that a dimension has in the mean. -/
def Weights.weigh (w : Weights ℚ) (d : String) : ℚ := max (w.of d) 0

namespace Weights

variable {w : Weights ℚ} {d : String}

lemma weigh_nonneg (w : Weights ℚ) (d : String) : 0 ≤ w.weigh d := le_max_right _ _

lemma weigh_pos_iff : 0 < w.weigh d ↔ 0 < w.of d := by
  rw [weigh, lt_max_iff, or_iff_left (lt_irrefl 0)]

/-- The sum of the scores of the cards, each times its weight. -/
def points (w : Weights ℚ) (score : String → ℚ) : ℚ :=
  (dimensions.map fun d => score d * w.weigh d).sum

/-- The sum of the weights. -/
def total (w : Weights ℚ) : ℚ := (dimensions.map w.weigh).sum

lemma total_pos_iff : 0 < w.total ↔ ∃ d ∈ dimensions, 0 < w.of d := by
  simp only [total, sum_pos_iff fun d _ => w.weigh_nonneg d, weigh_pos_iff]

lemma points_le_points {score score' : String → ℚ}
    (h : ∀ d ∈ dimensions, 0 < w.of d → score d ≤ score' d) :
    w.points score ≤ w.points score' :=
  sum_mul_le_sum_mul (fun d _ => w.weigh_nonneg d) fun d hd hpos => h d hd (weigh_pos_iff.1 hpos)

end Weights

lemma foldl_overall (w : Weights ℚ) (names : List String) (score : String → ℚ) (points total : ℚ) :
    (names.map fun d => (d, score d)).foldl
      (fun (points, total) (name, score) =>
        (points + score * Scalar.max (w.of name) (nat 0), total + Scalar.max (w.of name) (nat 0)))
      (points, total) =
    (points + (names.map fun d => score d * w.weigh d).sum, total + (names.map w.weigh).sum) := by
  induction names generalizing points total with
  | nil => simp
  | cons d rest ih =>
    rw [List.map_cons, List.foldl_cons, ih]
    simp only [List.map_cons, List.sum_cons, max_rat, nat_rat, Nat.cast_zero, Weights.weigh,
      add_assoc]

lemma overall_scored (w : Weights ℚ) (score : String → ℚ) : overall w (scored score) =
    if 0 < w.total then nearest 2 (w.points score / w.total) else 100 := by
  have hfold := foldl_overall w dimensions score 0 0
  rw [zero_add, zero_add] at hfold
  rw [overall, scored]
  simp only [lt_iff, roundTo_rat, nat_rat, Nat.cast_zero] at hfold ⊢
  rw [hfold]
  rfl

/-- The overall score keeps the order of the scores of the cards that have a weight. -/
lemma overall_scored_le {w : Weights ℚ} {score score' : String → ℚ}
    (h : ∀ d ∈ dimensions, 0 < w.of d → score d ≤ score' d) :
    overall w (scored score) ≤ overall w (scored score') := by
  rw [overall_scored, overall_scored]
  split_ifs with htotal
  · have := Weights.points_le_points h
    exact nearest_mono 2 (by gcongr)
  · exact le_refl _

section Positive

variable {w : Weights ℚ} {score : String → ℚ} (hsome : ∃ d ∈ dimensions, 0 < w.of d)
include hsome

lemma overall_of_pos : overall w (scored score) = nearest 2 (w.points score / w.total) := by
  rw [overall_scored, if_pos (Weights.total_pos_iff.2 hsome)]

lemma exists_weigh_pos : ∃ d ∈ dimensions, 0 < w.weigh d := by
  simpa only [Weights.weigh_pos_iff] using hsome

variable (hscore : ∀ d ∈ dimensions, Decimal 2 (score d))
include hscore

lemma exists_le_overall : ∃ d ∈ dimensions, 0 < w.of d ∧ score d ≤ overall w (scored score) := by
  obtain ⟨d, hd, hpos, hle⟩ := exists_le_mean (x := score) (fun d _ => w.weigh_nonneg d)
    (exists_weigh_pos hsome)
  refine ⟨d, hd, Weights.weigh_pos_iff.1 hpos, ?_⟩
  rw [overall_of_pos hsome]
  exact (hscore d hd).le_nearest hle

lemma exists_overall_le : ∃ d ∈ dimensions, 0 < w.of d ∧ overall w (scored score) ≤ score d := by
  obtain ⟨d, hd, hpos, hle⟩ := exists_mean_le (x := score) (fun d _ => w.weigh_nonneg d)
    (exists_weigh_pos hsome)
  refine ⟨d, hd, Weights.weigh_pos_iff.1 hpos, ?_⟩
  rw [overall_of_pos hsome]
  exact (hscore d hd).nearest_le hle

end Positive

/-- **The overall score is the rounded mean of the scores, weighted by dimension.** Every report has
one card for each dimension, and its overall score and letter come from their scores. If some weight
is positive, the mean lies between two scores that have a positive weight; otherwise it is 100. It
depends on no score without a positive weight, and a score that rises lowers neither the overall
score nor its letter. -/
theorem overall_is_weighted_mean (w : Weights ℚ) (score : String → ℚ)
    (hscore : ∀ d ∈ dimensions, Decimal 2 (score d)) :
    let mean := overall w (scored score)
    (∀ (s : Settings) (b : Batch),
      let report := Report.ofBatch s b
      report.cards.map (·.name) = dimensions ∧
      report.overallScore =
        overall s.scoring.weights (report.cards.map fun c => (c.name, c.graded.score)) ∧
      report.grade = s.scoring.overall.grade report.overallScore) ∧
    dimensions.map w.of =
      [w.style, w.complexity, w.architecture, w.callables, w.maintainability] ∧
    ((∃ d ∈ dimensions, 0 < w.of d) →
      mean = nearest 2 ((dimensions.map fun d => score d * max (w.of d) 0).sum /
        (dimensions.map fun d => max (w.of d) 0).sum) ∧
      (∃ d ∈ dimensions, 0 < w.of d ∧ score d ≤ mean) ∧
      (∃ d ∈ dimensions, 0 < w.of d ∧ mean ≤ score d)) ∧
    (∀ score', (∀ d ∈ dimensions, 0 < w.of d → score' d = score d) →
      overall w (scored score') = mean) ∧
    (∀ d x, score d ≤ x →
      let raised := overall w (scored (Function.update score d x))
      mean ≤ raised ∧ ∀ bands : Bands ℚ,
        letters.idxOf (bands.grade raised) ≤ letters.idxOf (bands.grade mean)) ∧
    ((∀ d ∈ dimensions, w.of d ≤ 0) → mean = 100) := by
  dsimp only
  refine ⟨fun _ _ => ⟨rfl, rfl, rfl⟩, rfl, fun hsome => ⟨overall_of_pos hsome,
    exists_le_overall hsome hscore, exists_overall_le hsome hscore⟩, fun score' hsame => ?_,
    fun d x hx => ?_, fun hnone => ?_⟩
  · apply le_antisymm
    · exact overall_scored_le fun d hd hpos => (hsame d hd hpos).le
    · exact overall_scored_le fun d hd hpos => (hsame d hd hpos).ge
  · -- only the score of one dimension changes
    have hraised : overall w (scored score) ≤ overall w (scored (Function.update score d x)) := by
      refine overall_scored_le fun e _ _ => ?_
      by_cases he : e = d
      · rw [he, Function.update_self]
        exact hx
      · rw [Function.update_of_ne he]
    exact ⟨hraised, fun bands => bands.idxOf_grade_le hraised⟩
  · -- without a positive weight the sum of the weights is zero
    rw [overall_scored, if_neg]
    rw [Weights.total_pos_iff]
    rintro ⟨d, hd, hpos⟩
    exact absurd (hnone d hd) (not_le.2 hpos)

/-- A dimension with a negative weight and one without a weight, both with low scores. -/
theorem overall_is_weighted_mean_negative :
    let w : Weights ℚ := ⟨2, -1, 0, 1, 1 / 2⟩
    let score : String → ℚ := fun d => if d = "style" then 80 else
      if d = "callables" then 361 / 4 else if d = "maintainability" then 60 else 5
    let mean := overall w (scored score)
    (∀ d ∈ dimensions, Decimal 2 (score d)) ∧ (∃ d ∈ dimensions, 0 < w.of d) ∧
    mean = 8007 / 100 ∧ (∃ d ∈ dimensions, 0 < w.of d ∧ score d ≤ mean) ∧
    ∃ d ∈ dimensions, 0 < w.of d ∧ mean ≤ score d := by
  intro w score mean
  have hscore : ∀ d ∈ dimensions, Decimal 2 (score d) := by
    have hcards : ∀ x ∈ dimensions.map score, x * 100 = ⌊x * 100⌋ := by decide +kernel
    intro d hd
    refine ⟨⌊score d * 100⌋, ?_⟩
    rw [← hcards _ (List.mem_map.2 ⟨d, hd, rfl⟩)]
    norm_num
  have hsome : ∃ d ∈ dimensions, 0 < w.of d := ⟨"style", by simp [dimensions], by decide +kernel⟩
  obtain ⟨-, -, hmean, -⟩ := overall_is_weighted_mean w score hscore
  exact ⟨hscore, hsome, by decide +kernel, (hmean hsome).2⟩

end TemplateMetrics.Score
