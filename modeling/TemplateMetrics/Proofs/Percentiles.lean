import Mathlib.Data.List.GetD
import Mathlib.Order.Bounds.Basic
import TemplateMetrics.Proofs.ExactNumbers
import TemplateMetrics.Statistics.Sample

/-!
Percentiles in exact arithmetic.

A percentile reads an ascending sample at a place between its first and its last rank. At a rank it
is the value there, and between two ranks it lies on the line between their values (`valueAt`).
Places are in order as percentages are, and along the places the value never falls: on one line
because the line rises, and from one line to a later one because a rank lies between them.
-/

namespace TemplateMetrics.Statistics

open Scalar hiding max sum round floor ceil

/-! ### Ascending samples -/

lemma sorted_perm (xs : List ℚ) : (sorted xs).Perm xs := by
  have hfinite : xs.map finite = xs := List.map_id xs
  rw [sorted, hfinite]
  exact List.mergeSort_perm xs _

lemma pairwise_sorted (xs : List ℚ) : (sorted xs).Pairwise (· ≤ ·) := by
  have htrans : ∀ a b c : ℚ, before a b = true → before b c = true → before a c = true := by
    intro a b c
    simp only [before_iff]
    exact le_trans
  have htotal : ∀ a b : ℚ, (before a b || before b a) = true := by
    intro a b
    simp only [Bool.or_eq_true, before_iff]
    exact le_total a b
  exact (List.pairwise_mergeSort htrans htotal (xs.map finite)).imp before_iff.1

lemma length_sorted (xs : List ℚ) : (sorted xs).length = xs.length := (sorted_perm xs).length_eq

/-- The ascending sample does not depend on the order of the values. -/
lemma sorted_congr {xs ys : List ℚ} (h : xs.Perm ys) : sorted xs = sorted ys := by
  refine List.Perm.eq_of_pairwise (fun a b _ _ => le_antisymm) (pairwise_sorted xs)
    (pairwise_sorted ys) ?_
  exact (sorted_perm xs).trans (h.trans (sorted_perm ys).symm)

/-! ### Values between ranks -/

/-- The value of a sample at a place, on the line between the values at the ranks around it. -/
def valueAt (s : List ℚ) (place : ℚ) : ℚ :=
  s.getD ⌊place⌋₊ 0 + (s.getD ⌈place⌉₊ 0 - s.getD ⌊place⌋₊ 0) * (place - ⌊place⌋₊)

/-- The place so many percent of the way from the first rank of a sample to the last. -/
def placeOf (n : ℕ) (p : ℚ) : ℚ := max 0 (min 100 p) / 100 * (n - 1 : ℕ)

lemma interpolate_rat (s : List ℚ) (p : ℚ) : interpolate s p = valueAt s (placeOf s.length p) := by
  have hbounds : (0 : ℚ) ≤ 100 := by norm_num
  have hshare : percentage p = max 0 (min 100 p) := clamp_rat hbounds p
  have hplace : percentage p / ((100 : ℕ) : ℚ) * (s.length - 1 : ℕ) = placeOf s.length p := by
    rw [hshare]
    rfl
  rw [interpolate]
  simp only [floor_rat, ceil_rat, finite_rat, nat_rat, hplace, Nat.cast_zero, valueAt]
  split_ifs with hrank
  · rw [← hrank, sub_self, zero_mul, add_zero]
  · rfl

lemma percentile_rat {xs : List ℚ} (hne : xs ≠ []) (p : ℚ) :
    percentile xs p = valueAt (sorted xs) (placeOf xs.length p) := by
  rw [percentile, if_neg (mt List.isEmpty_iff.1 hne), interpolate_rat, length_sorted]

section Place

variable {n : ℕ} {p : ℚ}

lemma placeOf_nonneg (n : ℕ) (p : ℚ) : 0 ≤ placeOf n p := by
  rw [placeOf]
  have := le_max_left 0 (min 100 p)
  positivity

lemma placeOf_le (n : ℕ) (p : ℚ) : placeOf n p ≤ (n - 1 : ℕ) := by
  have hshare : max 0 (min 100 p) / 100 ≤ 1 := by
    rw [div_le_one (by norm_num)]
    exact max_le (by norm_num) (min_le_left _ _)
  exact mul_le_of_le_one_left (Nat.cast_nonneg _) hshare

lemma placeOf_mono (n : ℕ) : Monotone (placeOf n) := by
  intro p q h
  rw [placeOf, placeOf]
  gcongr

lemma placeOf_of_nonpos (n : ℕ) (h : p ≤ 0) : placeOf n p = 0 := by
  rw [placeOf, min_eq_right (by linarith), max_eq_left h, zero_div, zero_mul]

lemma placeOf_of_ge (n : ℕ) (h : 100 ≤ p) : placeOf n p = (n - 1 : ℕ) := by
  rw [placeOf, min_eq_left h, max_eq_right (by norm_num), div_self (by norm_num), one_mul]

/-- Both ranks around a place are ranks of the sample. -/
lemma ceil_placeOf_lt (h : 0 < n) (p : ℚ) : ⌈placeOf n p⌉₊ < n := by
  have := Nat.ceil_le.2 (placeOf_le n p)
  omega

lemma floor_placeOf_lt (h : 0 < n) (p : ℚ) : ⌊placeOf n p⌋₊ < n :=
  (Nat.floor_le_ceil _).trans_lt (ceil_placeOf_lt h p)

end Place

section Ascending

variable {s : List ℚ} (hs : s.Pairwise (· ≤ ·))
include hs

lemma getD_le_getD {i j : ℕ} (h : i ≤ j) (hj : j < s.length) : s.getD i 0 ≤ s.getD j 0 := by
  have hi : i < s.length := h.trans_lt hj
  rw [List.getD_eq_getElem _ _ hi, List.getD_eq_getElem _ _ hj]
  rcases h.eq_or_lt with rfl | hlt
  · exact le_refl _
  · exact List.pairwise_iff_getElem.1 hs i j hi hj hlt

variable {place place' : ℚ}

lemma getD_floor_le_valueAt (h : 0 ≤ place) (hlast : ⌈place⌉₊ < s.length) :
    s.getD ⌊place⌋₊ 0 ≤ valueAt s place := by
  have hrise := getD_le_getD hs (Nat.floor_le_ceil place) hlast
  have hpart := Nat.floor_le h
  have := mul_nonneg (sub_nonneg.2 hrise) (sub_nonneg.2 hpart)
  rw [valueAt]
  linarith

lemma valueAt_le_getD_ceil (hlast : ⌈place⌉₊ < s.length) :
    valueAt s place ≤ s.getD ⌈place⌉₊ 0 := by
  have hrise := getD_le_getD hs (Nat.floor_le_ceil place) hlast
  have hpart : place - ⌊place⌋₊ ≤ 1 := by
    have := Nat.lt_floor_add_one place
    linarith
  have := mul_le_of_le_one_right (sub_nonneg.2 hrise) hpart
  rw [valueAt]
  linarith

/-- The value does not fall from one place to a later one. -/
lemma valueAt_le_valueAt (h : 0 ≤ place) (hle : place ≤ place') (hlast : ⌈place'⌉₊ < s.length) :
    valueAt s place ≤ valueAt s place' := by
  have hceil : ⌈place⌉₊ ≤ ⌈place'⌉₊ := Nat.ceil_mono hle
  rcases (Nat.floor_mono hle).eq_or_lt with hsame | hnext
  · -- both places are on one line, or the first is the rank where it starts
    have hends := getD_le_getD hs hceil hlast
    have hrise := getD_le_getD hs (Nat.floor_le_ceil place) (hceil.trans_lt hlast)
    have hpart := Nat.floor_le h
    rw [valueAt, valueAt, ← hsame]
    have hstep := mul_le_mul (sub_le_sub_right hends (s.getD ⌊place⌋₊ 0))
      (sub_le_sub_right hle (⌊place⌋₊ : ℚ)) (sub_nonneg.2 hpart)
      (sub_nonneg.2 (hrise.trans hends))
    linarith
  · -- a rank lies between the places
    have hrank : ⌈place⌉₊ ≤ ⌊place'⌋₊ := (Nat.ceil_le_floor_add_one place).trans hnext
    have hfloor : ⌊place'⌋₊ < s.length := (Nat.floor_le_ceil place').trans_lt hlast
    calc valueAt s place ≤ s.getD ⌈place⌉₊ 0 := valueAt_le_getD_ceil hs (hceil.trans_lt hlast)
      _ ≤ s.getD ⌊place'⌋₊ 0 := getD_le_getD hs hrank hfloor
      _ ≤ valueAt s place' := getD_floor_le_valueAt hs (h.trans hle) hlast

end Ascending

/-- At a rank the value is that of the sample. -/
lemma valueAt_natCast (s : List ℚ) (k : ℕ) : valueAt s k = s.getD k 0 := by
  rw [valueAt, Nat.floor_natCast, sub_self, mul_zero, add_zero]

/-- Halfway between two ranks the value is the mean of theirs. -/
lemma valueAt_half (s : List ℚ) (k : ℕ) :
    valueAt s (k + 1 / 2) = (s.getD k 0 + s.getD (k + 1) 0) / 2 := by
  have hfloor : ⌊(k + 1 / 2 : ℚ)⌋₊ = k := by
    rw [Nat.floor_eq_iff (by positivity)]
    constructor <;> linarith
  have hceil : ⌈(k + 1 / 2 : ℚ)⌉₊ = k + 1 := by
    rw [Nat.ceil_eq_iff (by omega)]
    push_cast
    constructor <;> linarith
  rw [valueAt, hfloor, hceil]
  ring

/-! ### Percentiles of a sample -/

lemma percentile_mono (xs : List ℚ) : Monotone (percentile xs) := by
  intro p q h
  by_cases hne : xs = []
  · subst hne
    exact le_refl _
  · have hpos : 0 < xs.length := List.length_pos_iff.2 hne
    rw [percentile_rat hne, percentile_rat hne]
    refine valueAt_le_valueAt (pairwise_sorted xs) (placeOf_nonneg _ p) (placeOf_mono _ h) ?_
    rw [length_sorted]
    exact ceil_placeOf_lt hpos q

lemma percentile_perm {xs ys : List ℚ} (h : xs.Perm ys) (p : ℚ) :
    percentile ys p = percentile xs p := by
  rw [percentile, percentile, sorted_congr h, h.isEmpty_eq]

section Sample

variable {xs : List ℚ} {x p : ℚ}

lemma getD_sorted_mem {i : ℕ} (hi : i < xs.length) : (sorted xs).getD i 0 ∈ xs := by
  have hi' : i < (sorted xs).length := by rwa [length_sorted]
  rw [List.getD_eq_getElem _ _ hi']
  exact (sorted_perm xs).subset (List.getElem_mem hi')

lemma exists_getD_sorted (hx : x ∈ xs) : ∃ i < xs.length, (sorted xs).getD i 0 = x := by
  obtain ⟨i, hi, rfl⟩ := List.mem_iff_getElem.1 ((sorted_perm xs).symm.subset hx)
  exact ⟨i, by rwa [← length_sorted xs], List.getD_eq_getElem _ _ hi⟩

variable (hne : xs ≠ [])
include hne

lemma isLeast_percentile (h : p ≤ 0) : IsLeast {x | x ∈ xs} (percentile xs p) := by
  have hpos : 0 < xs.length := List.length_pos_iff.2 hne
  have hfirst : percentile xs p = (sorted xs).getD 0 0 := by
    rw [percentile_rat hne, placeOf_of_nonpos _ h, ← Nat.cast_zero, valueAt_natCast, Nat.cast_zero]
  rw [hfirst]
  refine ⟨getD_sorted_mem hpos, fun x hx => ?_⟩
  obtain ⟨i, hi, rfl⟩ := exists_getD_sorted hx
  exact getD_le_getD (pairwise_sorted xs) (Nat.zero_le i) (by rwa [length_sorted])

lemma isGreatest_percentile (h : 100 ≤ p) : IsGreatest {x | x ∈ xs} (percentile xs p) := by
  have hpos : 0 < xs.length := List.length_pos_iff.2 hne
  have hlast : percentile xs p = (sorted xs).getD (xs.length - 1) 0 := by
    rw [percentile_rat hne, placeOf_of_ge _ h, valueAt_natCast]
  rw [hlast]
  refine ⟨getD_sorted_mem (by omega), fun x hx => ?_⟩
  obtain ⟨i, hi, rfl⟩ := exists_getD_sorted hx
  exact getD_le_getD (pairwise_sorted xs) (by omega) (by rw [length_sorted]; omega)

/-- Both ranks that a percentile reads are ranks of the sample. -/
lemma percentile_eq_getElem (p : ℚ) :
    ∃ (_ : ⌊placeOf xs.length p⌋₊ < (sorted xs).length)
      (_ : ⌈placeOf xs.length p⌉₊ < (sorted xs).length),
      percentile xs p = (sorted xs)[⌊placeOf xs.length p⌋₊] +
        ((sorted xs)[⌈placeOf xs.length p⌉₊] - (sorted xs)[⌊placeOf xs.length p⌋₊]) *
          (placeOf xs.length p - ⌊placeOf xs.length p⌋₊) := by
  have hpos : 0 < xs.length := List.length_pos_iff.2 hne
  have hfloor : ⌊placeOf xs.length p⌋₊ < (sorted xs).length := by
    rw [length_sorted]
    exact floor_placeOf_lt hpos p
  have hceil : ⌈placeOf xs.length p⌉₊ < (sorted xs).length := by
    rw [length_sorted]
    exact ceil_placeOf_lt hpos p
  refine ⟨hfloor, hceil, ?_⟩
  rw [percentile_rat hne, valueAt, List.getD_eq_getElem _ _ hfloor, List.getD_eq_getElem _ _ hceil]

lemma le_percentile (p : ℚ) : percentile xs 0 ≤ percentile xs p := by
  have hleast : IsLeast {x | x ∈ xs} (percentile xs 0) := isLeast_percentile hne le_rfl
  rw [hleast.unique (isLeast_percentile hne (min_le_right p 0))]
  exact percentile_mono xs (min_le_left p 0)

lemma percentile_le (p : ℚ) : percentile xs p ≤ percentile xs 100 := by
  have hgreatest : IsGreatest {x | x ∈ xs} (percentile xs 100) := isGreatest_percentile hne le_rfl
  rw [hgreatest.unique (isGreatest_percentile hne (le_max_right p 100))]
  exact percentile_mono xs (le_max_left p 100)

lemma median_of_odd {k : ℕ} (h : xs.length = 2 * k + 1) : (sorted xs)[k]? = some (median xs) := by
  have hk : k < (sorted xs).length := by rw [length_sorted]; omega
  have hplace : placeOf xs.length 50 = k := by
    rw [placeOf, h]
    norm_num
    ring
  have hmedian : median xs = valueAt (sorted xs) k := by
    rw [← hplace]
    exact percentile_rat hne 50
  rw [hmedian, valueAt_natCast, List.getD_eq_getElem _ _ hk, List.getElem?_eq_getElem hk]

lemma median_of_even {k : ℕ} (h : xs.length = 2 * k + 2) : ∃ a b, (sorted xs)[k]? = some a ∧
    (sorted xs)[k + 1]? = some b ∧ median xs = (a + b) / 2 := by
  have hk : k < (sorted xs).length := by rw [length_sorted]; omega
  have hnext : k + 1 < (sorted xs).length := by rw [length_sorted]; omega
  have hplace : placeOf xs.length 50 = k + 1 / 2 := by
    rw [placeOf, h]
    norm_num
    ring
  have hmedian : median xs = valueAt (sorted xs) (k + 1 / 2) := by
    rw [← hplace]
    exact percentile_rat hne 50
  refine ⟨_, _, List.getElem?_eq_getElem hk, List.getElem?_eq_getElem hnext, ?_⟩
  rw [hmedian, valueAt_half, List.getD_eq_getElem _ _ hk, List.getD_eq_getElem _ _ hnext]

end Sample

/-- A summary gives five percentiles, rounded to four places. -/
lemma ofValues_percentiles (sqrt : ℚ → ℚ) (xs : List ℚ) :
    let s := Summary.ofValues sqrt xs
    [s.p25, s.median, s.p75, s.p90, s.p95] =
      [25, 50, 75, 90, 95].map fun p => nearest 4 (percentile xs p) := by
  by_cases hne : xs = []
  · subst hne
    have hzero : ∀ p : ℚ, nearest 4 (percentile [] p) = 0 :=
      fun _ => nearest_of_decimal (decimal_natCast 4 0)
    simp only [List.map_cons, List.map_nil, hzero]
    rfl
  · rw [Summary.ofValues, if_neg (mt List.isEmpty_iff.1 hne)]
    simp only [roundTo_rat, median]
    rfl

lemma ofValues_ordered (sqrt : ℚ → ℚ) (xs : List ℚ) :
    let s := Summary.ofValues sqrt xs
    s.p25 ≤ s.median ∧ s.median ≤ s.p75 ∧ s.p75 ≤ s.p90 ∧ s.p90 ≤ s.p95 := by
  have hlist := ofValues_percentiles sqrt xs
  simp only [List.map_cons, List.map_nil, List.cons.injEq, and_true] at hlist
  obtain ⟨h25, h50, h75, h90, h95⟩ := hlist
  have hround : Monotone fun p => nearest 4 (percentile xs p) :=
    (nearest_mono 4).comp (percentile_mono xs)
  dsimp only
  rw [h25, h50, h75, h90, h95]
  exact ⟨hround (by norm_num), hround (by norm_num), hround (by norm_num), hround (by norm_num)⟩

/-- **A percentile lies between the least and the greatest value, in the order of the
percentages.** In every sample that is not empty, it is read from the ascending sample at ranks that
the sample has, reaches the ends at 0 and at 100, and does not depend on the order of the values.
The median is the value in the middle, or the mean of the two there. The percentiles of every
summary are in order. -/
theorem percentiles_ordered (xs : List ℚ) :
    (xs ≠ [] →
      ((sorted xs).Perm xs ∧ (sorted xs).Pairwise (· ≤ ·)) ∧
      (∀ p : ℚ,
        let place := max 0 (min 100 p) / 100 * (xs.length - 1 : ℕ)
        ∃ (_ : ⌊place⌋₊ < (sorted xs).length) (_ : ⌈place⌉₊ < (sorted xs).length),
          percentile xs p = (sorted xs)[⌊place⌋₊] +
            ((sorted xs)[⌈place⌉₊] - (sorted xs)[⌊place⌋₊]) * (place - ⌊place⌋₊)) ∧
      (∃ least greatest, IsLeast {x | x ∈ xs} least ∧ IsGreatest {x | x ∈ xs} greatest ∧
        (∀ p, least ≤ percentile xs p ∧ percentile xs p ≤ greatest) ∧
        (∀ p ≤ 0, percentile xs p = least) ∧ ∀ p ≥ 100, percentile xs p = greatest) ∧
      (∀ ys p, xs.Perm ys → percentile ys p = percentile xs p) ∧
      Monotone (percentile xs) ∧
      (∀ k, xs.length = 2 * k + 1 → (sorted xs)[k]? = some (median xs)) ∧
      ∀ k, xs.length = 2 * k + 2 → ∃ a b, (sorted xs)[k]? = some a ∧
        (sorted xs)[k + 1]? = some b ∧ median xs = (a + b) / 2) ∧
    ∀ sqrt,
      let s := Summary.ofValues sqrt xs
      [s.p25, s.median, s.p75, s.p90, s.p95] =
        ([25, 50, 75, 90, 95].map fun p => nearest 4 (percentile xs p)) ∧
      s.p25 ≤ s.median ∧ s.median ≤ s.p75 ∧ s.p75 ≤ s.p90 ∧ s.p90 ≤ s.p95 := by
  refine ⟨fun hne => ⟨⟨sorted_perm xs, pairwise_sorted xs⟩, percentile_eq_getElem hne, ?_,
    fun ys p h => percentile_perm h p, percentile_mono xs, fun k hk => median_of_odd hne hk,
    fun k hk => median_of_even hne hk⟩,
    fun sqrt => ⟨ofValues_percentiles sqrt xs, ofValues_ordered sqrt xs⟩⟩
  -- the ends are the percentiles at 0 and at 100
  have hleast : IsLeast {x | x ∈ xs} (percentile xs 0) := isLeast_percentile hne le_rfl
  have hgreatest : IsGreatest {x | x ∈ xs} (percentile xs 100) := isGreatest_percentile hne le_rfl
  exact ⟨_, _, hleast, hgreatest, fun p => ⟨le_percentile hne p, percentile_le hne p⟩,
    fun p h => (isLeast_percentile hne h).unique hleast,
    fun p h => (isGreatest_percentile hne h).unique hgreatest⟩

theorem percentiles_ordered_unsorted :
    let xs : List ℚ := [5, 1, 7 / 2, 2]
    xs ≠ [] ∧ sorted xs = [1, 2, 7 / 2, 5] ∧ median xs = 11 / 4 ∧
    percentile xs 30 ≤ percentile xs 60 ∧
    percentile [2, 5, 1, 7 / 2] 60 = percentile xs 60 := by
  intro xs
  have hne : xs ≠ [] := List.cons_ne_nil _ _
  obtain ⟨hperm, hascending⟩ := ((percentiles_ordered xs).1 hne).1
  obtain ⟨-, -, -, hanyOrder, hmono, -, heven⟩ := (percentiles_ordered xs).1 hne
  have hsorted : sorted xs = [1, 2, 7 / 2, 5] := by
    refine List.Perm.eq_of_pairwise (fun a b _ _ => le_antisymm) hascending (by norm_num) ?_
    exact hperm.trans (by decide +kernel)
  obtain ⟨a, b, ha, hb, hmedian⟩ := heven 1 rfl
  rw [hsorted] at ha hb
  cases ha
  cases hb
  refine ⟨hne, hsorted, ?_, hmono (by norm_num), hanyOrder _ _ (by decide +kernel)⟩
  rw [hmedian]
  norm_num

end TemplateMetrics.Statistics
