import TemplateMetrics.NameMap
import TemplateMetrics.Scalar
import TemplateMetrics.Text.Replace

/-!
Scores, grades and the insights that explain them.

A score starts at 100 and loses points for every rule whose driver is past its threshold; the same
crossings give the insights. So a score is fully determined by a table and the driver values.
-/

namespace TemplateMetrics.Score

open Scalar

inductive Direction where
  | above
  | below
deriving Repr, DecidableEq

def Direction.text : Direction → String
  | .above => "above"
  | .below => "below"

/-- A threshold and what it costs to be past it. -/
structure Rule (K : Type) where
  driver : String
  direction : Direction
  threshold : K
  /-- Points lost for each unit past the threshold. -/
  perUnit : K
  maxPenalty : K
  /-- The insight, with a place for the value. -/
  insight : String
deriving Repr

structure Bands (K : Type) where
  a : K
  b : K
  c : K
  d : K
deriving Repr

structure Table (K : Type) where
  rules : List (Rule K)
  bands : Bands K
deriving Repr

structure Weights (K : Type) where
  style : K
  complexity : K
  architecture : K
  callables : K
  maintainability : K
deriving Repr

variable {K : Type} [Scalar K]

namespace Rule

/-- Distance past the threshold; zero if it is not crossed. -/
def excess (r : Rule K) (value : K) : K :=
  let distance := match r.direction with
    | .above => value - r.threshold
    | .below => r.threshold - value
  if isFinite distance then Scalar.max distance (nat 0) else nat 0

def triggered (r : Rule K) (value : K) : Bool := lt (nat 0) (r.excess value)

def penalty (r : Rule K) (value : K) : K :=
  clamp (r.excess value * r.perUnit) (nat 0) (Scalar.max r.maxPenalty (nat 0))

/-- The insight with the value, rounded to two places, in every place for it. -/
def explain (write : K → String) (r : Rule K) (value : K) : String :=
  Text.replaceAll "\x7bvalue\x7d" (write (roundTo 2 value)) r.insight

end Rule

/-- The grade of a score: the first band that it reaches, from A down, else F. -/
def Bands.grade (bands : Bands K) (score : K) : String :=
  if le bands.a score then "A"
  else if le bands.b score then "B"
  else if le bands.c score then "C"
  else if le bands.d score then "D"
  else "F"

structure Graded (K : Type) where
  score : K
  grade : String
  insights : List String
deriving Repr

/-- The rules whose drivers have a value, each with that value. -/
def applicable (rules : List (Rule K)) (drivers : NameMap K) : List (Rule K × K) :=
  rules.filterMap fun r => (drivers.get? r.driver).map fun value => (r, value)

/-- Score and grade from driver values. Rules without a value are skipped, and the score stays from
0 to 100. -/
def Table.grade (write : K → String) (table : Table K) (drivers : NameMap K) : Graded K :=
  let crossed := (applicable table.rules drivers).filter fun (r, value) => r.triggered value
  let points := crossed.foldl (fun score (r, value) => score - r.penalty value) (nat 100)
  let score := roundTo 2 (clamp points (nat 0) (nat 100))
  { score := score
    grade := table.bands.grade score
    insights := crossed.map fun (r, value) => r.explain write value }

def Weights.of (w : Weights K) : String → K
  | "style" => w.style
  | "complexity" => w.complexity
  | "architecture" => w.architecture
  | "callables" => w.callables
  | "maintainability" => w.maintainability
  | _ => nat 0

/-- The mean of the scores, each with the weight of its name. Negative weights count as zero, and
without any weight the score is full. -/
def overall (weights : Weights K) (scores : List (String × K)) : K :=
  let weigh := fun name => Scalar.max (weights.of name) (nat 0)
  let (points, total) := scores.foldl
    (fun (points, total) (name, score) => (points + score * weigh name, total + weigh name))
    (nat 0, nat 0)
  if lt (nat 0) total then roundTo 2 (points / total) else nat 100

end TemplateMetrics.Score
