import Mathlib.Algebra.Order.BigOperators.Group.List
import TemplateMetrics.Proofs.ExactNumbers
import TemplateMetrics.Proofs.Placeholders
import TemplateMetrics.Score.Grade

/-!
Grades in exact arithmetic.

A rule costs nothing before its threshold, so the score counts all rules whose driver has a value.
The insights are those of the crossed rules, also of a rule whose cap or rate makes it cost nothing.
A rule costs no less and stays crossed when its driver moves further to the penalized side, whatever
its numbers are (`Rule.penalty_le_penalty`). The letter is found by going down the bands, and a
lower score reaches none that a higher one misses, in whatever order the bands stand
(`Bands.idxOf_grade_le`).
-/

namespace TemplateMetrics.Score

open Scalar hiding max

/-! ### Directions -/

namespace Direction

/-- Strictly past a threshold, on the penalized side. -/
def Past : Direction → ℚ → ℚ → Prop
  | .above, threshold, v => threshold < v
  | .below, threshold, v => v < threshold

instance : ∀ (d : Direction) (threshold v : ℚ), Decidable (d.Past threshold v)
  | .above, threshold, v => inferInstanceAs (Decidable (threshold < v))
  | .below, threshold, v => inferInstanceAs (Decidable (v < threshold))

/-- The second value is at least as far on the penalized side as the first. -/
def Further : Direction → ℚ → ℚ → Prop
  | .above, v, v' => v ≤ v'
  | .below, v, v' => v' ≤ v

variable {d : Direction} {threshold v v' : ℚ}

lemma Past.of_further (hpast : d.Past threshold v) (h : d.Further v v') : d.Past threshold v' := by
  cases d with
  | above => exact lt_of_lt_of_le hpast h
  | below => exact lt_of_le_of_lt h hpast

lemma further_refl (d : Direction) (v : ℚ) : d.Further v v := by
  cases d <;> exact le_refl v

end Direction

/-! ### One rule -/

namespace Rule

variable {r : Rule ℚ} {v v' : ℚ}

/-- The value is strictly past the threshold of the rule. -/
def Crossed (r : Rule ℚ) (v : ℚ) : Prop := r.direction.Past r.threshold v

instance (r : Rule ℚ) (v : ℚ) : Decidable (r.Crossed v) :=
  inferInstanceAs (Decidable (r.direction.Past r.threshold v))

lemma excess_eq (r : Rule ℚ) (v : ℚ) :
    r.excess v = if r.Crossed v then |v - r.threshold| else 0 := by
  obtain ⟨driver, direction, threshold, perUnit, maxPenalty, insight⟩ := r
  have hmax : ∀ distance : ℚ, max distance 0 = if 0 < distance then |distance| else 0 := by
    intro distance
    split_ifs with h
    · rw [abs_of_pos h, max_eq_left h.le]
    · exact max_eq_right (not_lt.1 h)
  cases direction with
  | above =>
    change Scalar.max (v - threshold) 0 = if threshold < v then |v - threshold| else 0
    simp only [max_rat, hmax, sub_pos]
  | below =>
    change Scalar.max (threshold - v) 0 = if v < threshold then |v - threshold| else 0
    simp only [max_rat, hmax, sub_pos, abs_sub_comm]

lemma triggered_iff : r.triggered v = true ↔ r.Crossed v := by
  rw [triggered, lt_iff, excess_eq]
  split_ifs with h
  · refine ⟨fun _ => h, fun _ => abs_pos.2 (sub_ne_zero.2 ?_)⟩
    rintro rfl
    revert h
    rw [Crossed]
    cases r.direction <;> exact lt_irrefl _
  · simp [h]

/-- The cost of a rule: points for each unit past the threshold, at most the cap and at least
nothing. -/
lemma penalty_eq (r : Rule ℚ) (v : ℚ) : r.penalty v = if r.Crossed v then
    max 0 (min (max r.maxPenalty 0) (|v - r.threshold| * r.perUnit)) else 0 := by
  rw [penalty, max_rat, nat_rat, Nat.cast_zero, clamp_rat (le_max_right _ _), excess_eq]
  split_ifs
  · rfl
  · rw [zero_mul, min_eq_right (le_max_right _ _), max_self]

lemma penalty_nonneg (r : Rule ℚ) (v : ℚ) : 0 ≤ r.penalty v := by
  rw [penalty_eq]
  split_ifs
  · exact le_max_left _ _
  · exact le_refl 0

lemma distance_le (hcrossed : r.Crossed v) (h : r.direction.Further v v') :
    |v - r.threshold| ≤ |v' - r.threshold| := by
  rw [Crossed] at hcrossed
  cases hd : r.direction with
  | above =>
    rw [hd] at hcrossed h
    have hv : r.threshold < v := hcrossed
    have hv' : v ≤ v' := h
    rw [abs_of_pos (by linarith), abs_of_pos (by linarith)]
    linarith
  | below =>
    rw [hd] at hcrossed h
    have hv : v < r.threshold := hcrossed
    have hv' : v' ≤ v := h
    rw [abs_of_neg (by linarith), abs_of_neg (by linarith)]
    linarith

/-- A rule costs no less when its driver moves further to the penalized side. A rule with a
negative rate never costs anything. -/
lemma penalty_le_penalty (h : r.direction.Further v v') : r.penalty v ≤ r.penalty v' := by
  by_cases hcrossed : r.Crossed v
  · have hcrossed' : r.Crossed v' := hcrossed.of_further h
    rw [penalty_eq, penalty_eq, if_pos hcrossed, if_pos hcrossed']
    rcases le_or_gt 0 r.perUnit with hrate | hrate
    · have := distance_le hcrossed h
      gcongr
    · have hnone : |v - r.threshold| * r.perUnit ≤ 0 :=
        mul_nonpos_of_nonneg_of_nonpos (abs_nonneg _) hrate.le
      rw [max_eq_left ((min_le_right _ _).trans hnone)]
      exact le_max_left _ _
  · rw [penalty_eq, if_neg hcrossed]
    exact penalty_nonneg r v'

end Rule

/-! ### Letters -/

/-- The letters of grades, from the best on. -/
def letters : List String := ["A", "B", "C", "D", "F"]

namespace Bands

/-- The letter stands where the first band stands that the score reaches, and behind all others if
it reaches none. -/
lemma idxOf_grade (bands : Bands ℚ) (score : ℚ) : letters.idxOf (bands.grade score) =
    [bands.a, bands.b, bands.c, bands.d].findIdx (· ≤ score) := by
  rw [grade]
  simp only [le_iff]
  split_ifs <;> simp [List.findIdx_cons, letters, *]

lemma getElem?_grade (bands : Bands ℚ) (score : ℚ) :
    letters[[bands.a, bands.b, bands.c, bands.d].findIdx (· ≤ score)]? =
      some (bands.grade score) := by
  have hmem : bands.grade score ∈ letters := by
    rw [grade]
    split_ifs <;> simp [letters]
  rw [← idxOf_grade, List.getElem?_idxOf hmem]

lemma idxOf_grade_le (bands : Bands ℚ) {score score' : ℚ} (h : score ≤ score') :
    letters.idxOf (bands.grade score') ≤ letters.idxOf (bands.grade score) := by
  rw [idxOf_grade, idxOf_grade]
  refine List.findIdx_le_findIdx fun least _ hreached => ?_
  rw [decide_eq_true_iff] at hreached ⊢
  exact hreached.trans h

end Bands

/-! ### All rules -/

namespace Rule

/-- What a rule costs with the given driver values; nothing if its driver has none. -/
def cost (drivers : NameMap ℚ) (r : Rule ℚ) : ℚ := (drivers.get? r.driver).elim 0 r.penalty

/-- The value of the rule's driver, if it has one that is past the threshold. -/
def crossing? (drivers : NameMap ℚ) (r : Rule ℚ) : Option ℚ :=
  (drivers.get? r.driver).filter fun v => r.Crossed v

variable {drivers drivers' : NameMap ℚ} {r : Rule ℚ}

/-- Only crossed rules cost something. -/
lemma cost_eq_elim_crossing (drivers : NameMap ℚ) (r : Rule ℚ) :
    r.cost drivers = (r.crossing? drivers).elim 0 r.penalty := by
  rw [cost, crossing?]
  cases drivers.get? r.driver with
  | none => rfl
  | some v =>
    by_cases h : r.Crossed v
    · simp [Option.filter_some, h]
    · simp [Option.filter_some, h, penalty_eq]

/-- A driver that was moved further is further for each rule on it, and the values of the other
drivers are the same. -/
lemma rel_insert {name : String} {d : Direction} {v v' : ℚ}
    (hsame : r.driver = name → r.direction = d) (hv : drivers.get? name = some v)
    (h : d.Further v v') :
    Option.Rel r.direction.Further (drivers.get? r.driver)
      ((drivers.insert name v').get? r.driver) := by
  rw [NameMap.get?_insert]
  split_ifs with hname
  · rw [hname, hv, hsame hname]
    exact .some h
  · cases drivers.get? r.driver with
    | none => exact .none
    | some u => exact .some (r.direction.further_refl u)

section Moved

variable (h : Option.Rel r.direction.Further (drivers.get? r.driver) (drivers'.get? r.driver))
include h

lemma cost_le_cost : r.cost drivers ≤ r.cost drivers' := by
  rw [cost, cost]
  generalize drivers.get? r.driver = value, drivers'.get? r.driver = value' at h ⊢
  cases h with
  | some hfurther => exact penalty_le_penalty hfurther
  | none => exact le_refl 0

lemma exists_triggered {v : ℚ} (hv : drivers.get? r.driver = some v)
    (htriggered : r.triggered v = true) :
    ∃ v', drivers'.get? r.driver = some v' ∧ r.triggered v' = true := by
  rw [hv] at h
  generalize drivers'.get? r.driver = value' at h ⊢
  cases h with
  | some hfurther =>
    exact ⟨_, rfl, triggered_iff.2 ((triggered_iff.1 htriggered).of_further hfurther)⟩

lemma isSome_crossing (hcrossing : (r.crossing? drivers).isSome = true) :
    (r.crossing? drivers').isSome = true := by
  rw [crossing?] at hcrossing ⊢
  generalize drivers.get? r.driver = value, drivers'.get? r.driver = value' at h hcrossing ⊢
  cases h with
  | some hfurther =>
    rw [Option.isSome_filter] at hcrossing ⊢
    simp only [Option.any_some, decide_eq_true_iff] at hcrossing ⊢
    exact hcrossing.of_further hfurther
  | none => exact hcrossing

end Moved

end Rule

/-- The rules that are triggered, each with the value of its driver. -/
lemma filter_applicable (rules : List (Rule ℚ)) (drivers : NameMap ℚ) :
    ((applicable rules drivers).filter fun (r, value) => r.triggered value) =
      rules.filterMap fun r => (r.crossing? drivers).map fun v => (r, v) := by
  rw [applicable, List.filter_filterMap]
  refine List.filterMap_congr fun r _ => ?_
  rw [Rule.crossing?]
  cases drivers.get? r.driver with
  | none => rfl
  | some v =>
    have htriggered : r.triggered v = decide (r.Crossed v) := by
      rw [Bool.eq_iff_iff, Rule.triggered_iff, decide_eq_true_iff]
    by_cases h : r.Crossed v <;> simp [Option.filter_some, htriggered, h]

lemma foldl_sub (l : List (Rule ℚ × ℚ)) (start : ℚ) :
    l.foldl (fun score (r, value) => score - r.penalty value) start =
      start - (l.map fun (r, value) => r.penalty value).sum := by
  induction l generalizing start with
  | nil => simp
  | cons e rest ih => rw [List.foldl_cons, ih, List.map_cons, List.sum_cons, sub_sub]

lemma sum_penalties (rules : List (Rule ℚ)) (drivers : NameMap ℚ) :
    ((rules.filterMap fun r => (r.crossing? drivers).map fun v => (r, v)).map
      fun (r, value) => r.penalty value).sum = (rules.map (Rule.cost drivers)).sum := by
  induction rules with
  | nil => rfl
  | cons r rest ih =>
    rw [List.map_cons, List.sum_cons, ← ih, Rule.cost_eq_elim_crossing]
    cases hcrossing : r.crossing? drivers with
    | none => rw [List.filterMap_cons_none (by rw [hcrossing]; rfl), Option.elim_none, zero_add]
    | some v =>
      rw [List.filterMap_cons_some (by rw [hcrossing]; rfl), List.map_cons, List.sum_cons,
        Option.elim_some]

namespace Table

variable (write : ℚ → String) (table : Table ℚ) (drivers : NameMap ℚ)

lemma score_grade : (table.grade write drivers).score =
    nearest 2 (max 0 (min 100 (100 - (table.rules.map (Rule.cost drivers)).sum))) := by
  rw [← sum_penalties, ← filter_applicable]
  have hbounds : (0 : ℚ) ≤ 100 := by norm_num
  rw [grade]
  dsimp only
  rw [roundTo_rat, foldl_sub]
  exact congrArg (nearest 2) (clamp_rat hbounds _)

lemma insights_grade : (table.grade write drivers).insights =
    table.rules.filterMap fun r => (r.crossing? drivers).map (r.explain write) := by
  rw [grade]
  dsimp only
  rw [filter_applicable, List.map_filterMap]
  refine List.filterMap_congr fun r _ => ?_
  rw [Option.map_map]
  rfl

lemma length_insights : (table.grade write drivers).insights.length =
    table.rules.countP fun r => (r.crossing? drivers).isSome := by
  simp only [insights_grade, List.length_filterMap_eq_countP, Option.isSome_map]

lemma score_grade_mem : 0 ≤ (table.grade write drivers).score ∧
    (table.grade write drivers).score ≤ 100 := by
  rw [score_grade]
  have hzero : Decimal 2 0 := decimal_natCast 2 0
  have hhundred : Decimal 2 100 := decimal_natCast 2 100
  exact ⟨hzero.le_nearest (le_max_left _ _),
    hhundred.nearest_le (max_le (by norm_num) (min_le_left _ _))⟩

variable {drivers} {drivers' : NameMap ℚ}

/-- Rules that cost no less leave no higher score. -/
lemma score_grade_le (h : ∀ r ∈ table.rules, r.cost drivers ≤ r.cost drivers') :
    (table.grade write drivers').score ≤ (table.grade write drivers).score := by
  have hsum : (table.rules.map (Rule.cost drivers)).sum ≤
      (table.rules.map (Rule.cost drivers')).sum := List.sum_le_sum h
  rw [score_grade, score_grade]
  refine nearest_mono 2 ?_
  gcongr

end Table

/-- **A grade is 100 without the costs of the rules whose drivers have a value**, and explains each
rule that is crossed, in the order of the rules. The letter is that of the first band that the score
reaches. When a driver moves further to the side that all rules on it penalize, the score does not
rise, the letter does not become better and no rule ceases to be triggered. -/
theorem grade_follows_rules (write : ℚ → String) (table : Table ℚ) (drivers : NameMap ℚ) :
    let graded := table.grade write drivers
    (0 ≤ graded.score ∧ graded.score ≤ 100) ∧
    graded.score =
      nearest 2 (max 0 (min 100 (100 - (table.rules.map (Rule.cost drivers)).sum))) ∧
    (∀ (r : Rule ℚ) (v : ℚ), r.penalty v = if r.Crossed v then
      max 0 (min (max r.maxPenalty 0) (|v - r.threshold| * r.perUnit)) else 0) ∧
    graded.insights =
      (table.rules.filterMap fun r => (r.crossing? drivers).map (r.explain write)) ∧
    (∀ (r : Rule ℚ) (v : ℚ),
      Text.Fills "\x7bvalue\x7d" (write (nearest 2 v)) r.insight (r.explain write v)) ∧
    letters[[table.bands.a, table.bands.b, table.bands.c, table.bands.d].findIdx
      (· ≤ graded.score)]? = some graded.grade ∧
    ∀ (name : String) (d : Direction) (v v' : ℚ),
      (∀ r ∈ table.rules, r.driver = name → r.direction = d) →
      drivers.get? name = some v → d.Further v v' →
      let drivers' := drivers.insert name v'
      let graded' := table.grade write drivers'
      graded'.score ≤ graded.score ∧
      letters.idxOf graded.grade ≤ letters.idxOf graded'.grade ∧
      (∀ r ∈ table.rules, ∀ u, drivers.get? r.driver = some u → r.triggered u = true →
        ∃ u', drivers'.get? r.driver = some u' ∧ r.triggered u' = true) ∧
      graded.insights.length ≤ graded'.insights.length := by
  dsimp only
  refine ⟨table.score_grade_mem write drivers, table.score_grade write drivers, Rule.penalty_eq,
    table.insights_grade write drivers, ?_, Bands.getElem?_grade _ _, ?_⟩
  · intro r v
    rw [Rule.explain, roundTo_rat]
    exact Text.fills_replaceAll (by simp) _ _
  intro name d v v' hsame hv hfurther
  -- no rule sees its driver move to the other side
  have hrel : ∀ r ∈ table.rules, Option.Rel r.direction.Further (drivers.get? r.driver)
      ((drivers.insert name v').get? r.driver) :=
    fun r hr => Rule.rel_insert (hsame r hr) hv hfurther
  have hscore : (table.grade write (drivers.insert name v')).score ≤
      (table.grade write drivers).score :=
    table.score_grade_le write fun r hr => Rule.cost_le_cost (hrel r hr)
  refine ⟨hscore, table.bands.idxOf_grade_le hscore, ?_, ?_⟩
  · intro r hr u hu htriggered
    exact Rule.exists_triggered (hrel r hr) hu htriggered
  · rw [Table.length_insights, Table.length_insights]
    exact List.countP_mono_left fun r hr => Rule.isSome_crossing (hrel r hr)

/-- Two rules on one driver, one of them with a negative rate, a rule with a negative cap, and bands
that are out of order. -/
def uneven : Table ℚ where
  rules := [⟨"depth", .above, 2, 5, 20, "Nesting reaches depth \x7bvalue\x7d"⟩,
    ⟨"comments", .below, 1, 4, -3, "Only \x7bvalue\x7d% of lines are comments"⟩,
    ⟨"depth", .above, 5, -1, 10, "Far too deep"⟩]
  bands := ⟨90, 95, 60, 80⟩

theorem grade_follows_rules_uneven :
    let drivers := NameMap.ofList [("depth", 3), ("comments", 1 / 2)]
    let graded := uneven.grade (fun _ => "x") drivers
    let graded' := uneven.grade (fun _ => "x") (drivers.insert "depth" 7)
    (∀ r ∈ uneven.rules, r.driver = "depth" → r.direction = .above) ∧
    drivers.get? "depth" = some 3 ∧ Direction.above.Further 3 7 ∧
    graded'.score ≤ graded.score ∧ graded.score = 95 ∧ graded'.score = 80 ∧
    letters.idxOf graded.grade ≤ letters.idxOf graded'.grade ∧
    graded.insights.length ≤ graded'.insights.length := by
  have hsame : ∀ r ∈ uneven.rules, r.driver = "depth" → r.direction = .above := by
    simp [uneven]
  have hdepth : (NameMap.ofList [("depth", 3), ("comments", (1 / 2 : ℚ))]).get? "depth" =
      some 3 := by
    decide +kernel
  have hfurther : Direction.above.Further 3 7 := by
    norm_num [Direction.Further]
  obtain ⟨-, -, -, -, -, -, hmoved⟩ := grade_follows_rules (fun _ => "x") uneven
    (NameMap.ofList [("depth", 3), ("comments", 1 / 2)])
  obtain ⟨hscore, hletter, -, hinsights⟩ := hmoved "depth" .above 3 7 hsame hdepth hfurther
  exact ⟨hsame, hdepth, hfurther, hscore, by decide +kernel, by decide +kernel, hletter, hinsights⟩

end TemplateMetrics.Score
