import TemplateMetrics.NameMap
import TemplateMetrics.Statistics.Sample

/-!
How evenly names are used.
-/

namespace TemplateMetrics.Statistics

open Scalar

variable {K : Type} [Scalar K]

/-- Chance that two uses drawn at random have different names. -/
def simpson (c : Counts) : K :=
  let total := c.total
  if total = 0 then nat 0
  else
    let concentration := sum (c.values.map fun n =>
      let p : K := nat n / nat total
      p * p)
    clamp (nat 1 - concentration) (nat 0) (nat 1)

def usageEntropy (log2 : K → K) (c : Counts) : K := entropy log2 (c.values.map nat)

/-- Entropy relative to the largest one with as many names. -/
def evenness (log2 : K → K) (c : Counts) : K :=
  let distinct := c.distinct
  if distinct < 2 then nat 0
  else clamp (usageEntropy log2 c / log2 (nat distinct)) (nat 0) (nat 1)

/-- Names with higher counts come first, equal counts by ascending name. -/
def ranksBefore (a b : String × Nat) : Bool :=
  decide (b.2 < a.2) || (decide (a.2 = b.2) && decide (a.1 ≤ b.1))

def top (n : Nat) (c : Counts) : List (String × Nat) := (c.entries.mergeSort ranksBefore).take n

structure Diversity (K : Type) where
  total : Nat
  distinct : Nat
  simpson : K
  entropy : K
  evenness : K

def Diversity.ofCounts (log2 : K → K) (c : Counts) : Diversity K where
  total := c.total
  distinct := c.distinct
  simpson := roundTo 4 (Statistics.simpson c)
  entropy := roundTo 4 (usageEntropy log2 c)
  evenness := roundTo 4 (Statistics.evenness log2 c)

end TemplateMetrics.Statistics
