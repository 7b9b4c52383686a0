import TemplateMetrics.Json.Basic
import TemplateMetrics.Settings.Basic

/-!
Settings from a document.

A document need not be complete: what is missing keeps its default, and what is unknown is ignored.
A structure may also be written as a list of its fields in order.
-/

namespace TemplateMetrics.Settings

/-- Where a document comes from: it was read as a whole, or it was merged from several layers. -/
inductive Origin where
  | whole
  | layers
deriving Repr, DecidableEq

abbrev Decoder (α : Type) := Json → Option α

namespace Decode

/-- Access to the fields of a structure, by position or by name. -/
def fieldsOf : Json → Option (Nat → String → Option Json)
  | .obj fields => some fun _ name => fields.lookup name
  | .arr items => some fun i _ => items[i]?
  | _ => none

/-- A field; where it is missing its default. -/
def field {α : Type} (fields : Nat → String → Option Json) (i : Nat) (name : String)
    (decode : Decoder α) (default : α) : Option α :=
  match fields i name with
  | none => some default
  | some j => decode j

def required {α : Type} (fields : Nat → String → Option Json) (i : Nat) (name : String)
    (decode : Decoder α) : Option α := (fields i name).bind decode

def float : Decoder Float
  | .int n =>
    if -Int.ofNat (Nat.pow 2 63) ≤ n ∧ n < Int.ofNat (Nat.pow 2 64) then Json.number? (.int n)
    else none
  | j => Json.number? j

def natural : Decoder Nat := fun j => (Json.nat? j).filter (· < Nat.pow 2 64)

def string : Decoder String := Json.str?

def list {α : Type} (decode : Decoder α) : Decoder (List α)
  | .arr items => items.mapM decode
  | _ => none

def optional {α : Type} (decode : Decoder α) : Decoder (Option α)
  | .null => some none
  | j => (decode j).map some

def nameMap {α : Type} (decode : Decoder α) : Decoder (NameMap α)
  | .obj fields => do
    let entries ← fields.mapM fun (e : String × Json) => (decode e.2).map fun a => (e.1, a)
    return NameMap.ofList entries
  | _ => none

/-- A word that stands for a value. In a whole document a table may stand for it that has the word
as its only key, over nothing. -/
def word {α : Type} (origin : Origin) (ofWord? : String → Option α) : Decoder α
  | .str s => ofWord? s
  | .obj [(s, .obj [])] => if origin = .whole then ofWord? s else none
  | .obj [(s, .arr [])] => if origin = .whole then ofWord? s else none
  | _ => none

def risk? : String → Option Risk
  | "low" => some .low
  | "medium" => some .medium
  | "high" => some .high
  | _ => none

def direction? : String → Option Score.Direction
  | "above" => some .above
  | "below" => some .below
  | _ => none

/-- Four limits; more are ignored. -/
def ratingLimits : Decoder RatingLimits
  | .arr (a :: b :: c :: d :: _) => do
    return ⟨← float a, ← float b, ← float c, ← float d⟩
  | _ => none

def complexityWeights : Decoder ComplexityWeights := fun j => do
  let fields ← fieldsOf j
  let d := ComplexityWeights.default
  return {
    condition := ← field fields 0 "condition" float d.condition
    loop := ← field fields 1 "loop" float d.loop
    ternary := ← field fields 2 "ternary" float d.ternary
    logicalOperator := ← field fields 3 "logical_operator" float d.logicalOperator
    test := ← field fields 4 "test" float d.test
    depth := ← field fields 5 "depth" float d.depth }

def complexity : Decoder ComplexitySettings := fun j => do
  let fields ← fieldsOf j
  let d := ComplexitySettings.default
  return {
    weights := ← field fields 0 "weights" complexityWeights d.weights
    ratingLimits := ← field fields 1 "rating_thresholds" ratingLimits d.ratingLimits }

def single (name : String) (default : Nat) : Decoder Nat := fun j => do
  let fields ← fieldsOf j
  field fields 0 name natural default

def size : Decoder SizeSettings := fun j => do
  let fields ← fieldsOf j
  let d := SizeSettings.default
  return {
    ratingLimits := ← field fields 0 "rating_thresholds" ratingLimits d.ratingLimits
    largeTemplateLines := ← field fields 1 "large_template_lines" natural d.largeTemplateLines }

def security (origin : Origin) : Decoder SecuritySettings := fun j => do
  let fields ← fieldsOf j
  let d := SecuritySettings.default
  let risks := nameMap (word origin risk?)
  return {
    filters := ← field fields 0 "filters" risks d.filters
    functions := ← field fields 1 "functions" risks d.functions }

def classification : Decoder ClassificationSettings := fun j => do
  let fields ← fieldsOf j
  let d := ClassificationSettings.default
  return {
    coreComponentRefs := ← field fields 0 "core_component_refs" natural d.coreComponentRefs
    layoutMinBlocks := ← field fields 1 "layout_min_blocks" natural d.layoutMinBlocks
    baseTemplateBlocks := ← field fields 2 "base_template_blocks" natural d.baseTemplateBlocks
    baseTemplateRefs := ← field fields 3 "base_template_refs" natural d.baseTemplateRefs
    reusableComponentRefs :=
      ← field fields 4 "reusable_component_refs" natural d.reusableComponentRefs
    orchestratorDependencies :=
      ← field fields 5 "orchestrator_dependencies" natural d.orchestratorDependencies
    complexLeafScore := ← field fields 6 "complex_leaf_score" float d.complexLeafScore
    criticalRefs := ← field fields 7 "critical_refs" natural d.criticalRefs
    criticalComplexity := ← field fields 8 "critical_complexity" float d.criticalComplexity
    highRefs := ← field fields 9 "high_refs" natural d.highRefs
    highDependencies := ← field fields 10 "high_dependencies" natural d.highDependencies
    highSharedRefs := ← field fields 11 "high_shared_refs" natural d.highSharedRefs
    highSharedDependencies :=
      ← field fields 12 "high_shared_dependencies" natural d.highSharedDependencies
    mediumRefs := ← field fields 13 "medium_refs" natural d.mediumRefs
    mediumDependencies := ← field fields 14 "medium_dependencies" natural d.mediumDependencies }

def coupling : Decoder CouplingSettings := fun j => do
  let fields ← fieldsOf j
  let d := CouplingSettings.default
  return {
    highlyCoupledThreshold :=
      ← field fields 0 "highly_coupled_threshold" natural d.highlyCoupledThreshold
    hotspotCount := ← field fields 1 "hotspot_count" natural d.hotspotCount
    stableThreshold := ← field fields 2 "stable_threshold" float d.stableThreshold
    unstableThreshold := ← field fields 3 "unstable_threshold" float d.unstableThreshold }

def weights : Decoder (Score.Weights Float) := fun j => do
  let fields ← fieldsOf j
  let d := Score.Weights.default
  return {
    style := ← field fields 0 "style" float d.style
    complexity := ← field fields 1 "complexity" float d.complexity
    architecture := ← field fields 2 "architecture" float d.architecture
    callables := ← field fields 3 "callables" float d.callables
    maintainability := ← field fields 4 "maintainability" float d.maintainability }

def bands : Decoder (Score.Bands Float) := fun j => do
  let fields ← fieldsOf j
  let d := Score.Bands.default
  return {
    a := ← field fields 0 "a" float d.a
    b := ← field fields 1 "b" float d.b
    c := ← field fields 2 "c" float d.c
    d := ← field fields 3 "d" float d.d }

/-- A rule; all of its fields have to be there. -/
def rule (origin : Origin) : Decoder (Score.Rule Float) := fun j => do
  let fields ← fieldsOf j
  return {
    driver := ← required fields 0 "driver" string
    direction := ← required fields 1 "direction" (word origin direction?)
    threshold := ← required fields 2 "threshold" float
    perUnit := ← required fields 3 "per_unit" float
    maxPenalty := ← required fields 4 "max_penalty" float
    insight := ← required fields 5 "insight" string }

/-- A table; one without rules has none, whatever the default of its dimension is. -/
def table (origin : Origin) : Decoder (Score.Table Float) := fun j => do
  let fields ← fieldsOf j
  return {
    rules := ← field fields 0 "rules" (list (rule origin)) []
    bands := ← field fields 1 "bands" bands Score.Bands.default }

def scoring (origin : Origin) : Decoder ScoringSettings := fun j => do
  let fields ← fieldsOf j
  let d := ScoringSettings.default
  return {
    failUnder := ← field fields 0 "fail_under" (optional float) d.failUnder
    weights := ← field fields 1 "weights" weights d.weights
    overall := ← field fields 2 "overall" bands d.overall
    style := ← field fields 3 "style" (table origin) d.style
    complexity := ← field fields 4 "complexity" (table origin) d.complexity
    architecture := ← field fields 5 "architecture" (table origin) d.architecture
    callables := ← field fields 6 "callables" (table origin) d.callables
    maintainability := ← field fields 7 "maintainability" (table origin) d.maintainability }

end Decode

open Decode

/-- Settings from a document, or nothing if one of its values is of the wrong kind. -/
def ofJson? (origin : Origin) (j : Json) : Option Settings := do
  let fields ← fieldsOf j
  let d := Settings.default
  return {
    extensions := ← field fields 0 "extensions" (list string) d.extensions
    exclude := ← field fields 1 "exclude" (list string) d.exclude
    complexity := ← field fields 2 "complexity" Decode.complexity d.complexity
    complexConditionArity := ← field fields 3 "control_flow"
      (single "complex_condition_arity" d.complexConditionArity) d.complexConditionArity
    maxLineLength := ← field fields 4 "style" (single "max_line_length" d.maxLineLength)
      d.maxLineLength
    size := ← field fields 5 "size" Decode.size d.size
    security := ← field fields 6 "security" (Decode.security origin) d.security
    classification := ← field fields 7 "classification" Decode.classification d.classification
    coupling := ← field fields 8 "coupling" Decode.coupling d.coupling
    scoring := ← field fields 9 "scoring" (Decode.scoring origin) d.scoring }

end TemplateMetrics.Settings
