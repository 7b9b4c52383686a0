import TemplateMetrics.Scalar

/-!
Location and spread of a sample.

Every function is total. Where a quotient has no value (an empty sample, a mean of zero) the
answer is zero; a single value is its own mean, median and percentile, and has no spread.
-/

namespace TemplateMetrics.Statistics

open Scalar

variable {K : Type} [Scalar K]

def mean (xs : List K) : K :=
  if xs.isEmpty then nat 0 else finite (sum xs / nat xs.length)

def sorted (xs : List K) : List K := (xs.map finite).mergeSort before

def percentage (p : K) : K := if isFinite p then clamp p (nat 0) (nat 100) else nat 0

/-- The value between the closest ranks of an ascending sample: `p` percent of the way from the
first rank to the last, in proportion to the distances from the two ranks around it. -/
def interpolate (ascending : List K) (p : K) : K :=
  let rank := percentage p / nat 100 * nat (ascending.length - 1)
  let lower := floor rank
  let upper := ceil rank
  let low := ascending.getD lower (nat 0)
  if lower = upper then low
  else finite (low + (ascending.getD upper (nat 0) - low) * (rank - nat lower))

/-- The value below which `p` percent of a sample lies. -/
def percentile (xs : List K) (p : K) : K :=
  if xs.isEmpty then nat 0 else interpolate (sorted xs) p

def median (xs : List K) : K := percentile xs (nat 50)

def variance (xs : List K) : K :=
  let avg := mean xs
  sum (xs.map fun x => (x - avg) * (x - avg)) / nat xs.length

def deviation (sqrt : K → K) (xs : List K) : K :=
  if xs.length < 2 then nat 0 else finite (sqrt (variance xs))

def variation (sqrt : K → K) (xs : List K) : K :=
  let avg := mean xs
  if eq avg (nat 0) then nat 0 else finite (deviation sqrt xs / avg)

/-- Sum of the values, each weighed by how far its rank is from the middle; `rank` is that of the
first value. -/
def rankSum (n : Nat) : Nat → List K → K → K
  | _, [], acc => acc
  | rank, x :: r, acc =>
    rankSum n (rank + 1) r (acc + (nat 2 * (nat rank + nat 1) - nat n - nat 1) * x)

/-- Inequality of a sample of non-negative values: 0 when all are equal, 1 when one has all. -/
def gini (xs : List K) : K :=
  let n := xs.length
  if n < 2 then nat 0
  else
    let ascending := sorted xs
    let total := sum ascending
    if le total (nat 0) then nat 0
    else
      clamp (finite (rankSum n 0 ascending (nat 0) / ((nat n - nat 1) * total))) (nat 0) (nat 1)

/-- Information of a frequency distribution, in bits. -/
def entropy (log2 : K → K) (frequencies : List K) : K :=
  let present := frequencies.filter fun f => lt (nat 0) f
  let total := sum present
  if le total (nat 0) then nat 0
  else
    let bits := present.map fun f =>
      let p := f / total
      (nat 0 - p) * log2 p
    Scalar.max (finite (sum bits)) (nat 0)

/-! ### Summaries -/

structure Summary (K : Type) where
  count : Nat
  min : K
  max : K
  mean : K
  median : K
  deviation : K
  variation : K
  p25 : K
  p75 : K
  p90 : K
  p95 : K
  gini : K

def Summary.empty : Summary K :=
  let z := nat 0
  ⟨0, z, z, z, z, z, z, z, z, z, z, z⟩

/-- The summary of a sample; all but the extremes is rounded to four places. -/
def Summary.ofValues (sqrt : K → K) (xs : List K) : Summary K :=
  if xs.isEmpty then Summary.empty
  else
    let ascending := sorted xs
    { count := xs.length
      min := ascending.getD 0 (nat 0)
      max := ascending.getD (ascending.length - 1) (nat 0)
      mean := roundTo 4 (Statistics.mean xs)
      median := roundTo 4 (Statistics.median xs)
      deviation := roundTo 4 (Statistics.deviation sqrt xs)
      variation := roundTo 4 (Statistics.variation sqrt xs)
      p25 := roundTo 4 (percentile xs (nat 25))
      p75 := roundTo 4 (percentile xs (nat 75))
      p90 := roundTo 4 (percentile xs (nat 90))
      p95 := roundTo 4 (percentile xs (nat 95))
      gini := roundTo 4 (Statistics.gini xs) }

end TemplateMetrics.Statistics
