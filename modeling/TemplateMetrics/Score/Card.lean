import TemplateMetrics.Analysis.Blocks
import TemplateMetrics.Analysis.Coupling
import TemplateMetrics.Analysis.Layout
import TemplateMetrics.Analysis.Security
import TemplateMetrics.Decimal.Layout
import TemplateMetrics.Statistics.Diversity

/-!
The cards of the five dimensions. A card reduces a batch to the drivers of its score, further
details, and distributions over the templates that were analyzed.
-/

namespace TemplateMetrics.Score

open Scalar Statistics

/-- What a card is made of before it is graded. -/
structure Material where
  drivers : NameMap Float
  details : Metrics
  distributions : NameMap (Summary Float)

structure Card where
  name : String
  graded : Graded Float
  material : Material

/-! ### Pieces of cards -/

/-- The values of a metric over the templates that were analyzed. -/
def samples (b : Batch) (key : String) : List Float :=
  b.successful.map fun r => r.metrics.number key

def percent (part whole : Float) : Float := roundTo 2 (ratio part whole * 100.0)

def largest (xs : List Float) : Float := xs.foldl Scalar.max 0.0

/-- How often each text of a metric occurs. -/
def tally (results : List Result) (key : String) : Counts :=
  Counts.ofNames (results.map fun r => r.metrics.stringD key "unknown")

/-- The counts of a metric, summed over the templates that were analyzed. -/
def merged (b : Batch) (key : String) : Counts :=
  Counts.merge (b.successful.map fun r => r.metrics.counts key)

def total (b : Batch) (key : String) : Nat :=
  (b.successful.map fun r => r.metrics.count key).foldl (· + ·) 0

/-- Larger values come first, equal ones by ascending path. -/
def largerFirst (a b : String × Float) : Bool :=
  decide (floatKey b.2 < floatKey a.2) ||
    (decide (floatKey a.2 = floatKey b.2) && decide (a.1 ≤ b.1))

/-- How many entries of a ranking are shown. -/
def shown : Nat := 5

/-- The templates with the largest positive values of a metric. -/
def topTemplates (b : Batch) (key : String) : Json :=
  let values := b.successful.map fun r => (r.path, r.metrics.number key)
  let ranked := (values.filter fun e => 0.0 < e.2).mergeSort largerFirst
  .arr ((ranked.take shown).map fun (path, value) =>
    .ofFields [("template", .str path), ("value", .ofFloat value)])

def topNames (c : Counts) : Json :=
  .arr ((top shown c).map fun (name, count) =>
    .ofFields [("name", .str name), ("count", .nat count)])

def distributionsOf (samples : List (String × List Float)) : NameMap (Summary Float) :=
  NameMap.ofList (samples.map fun (name, xs) => (name, .ofValues Float.sqrt xs))

def diversityJson (c : Counts) : Json :=
  let d := Diversity.ofCounts Float.log2 c
  .ofFields [("total", .nat d.total), ("distinct", .nat d.distinct),
    ("simpson", .ofFloat d.simpson), ("entropy", .ofFloat d.entropy),
    ("normalized_entropy", .ofFloat d.evenness)]

/-! ### The dimensions -/

def styleMaterial (b : Batch) : Material :=
  let layout := Layout.ofBatch b
  { drivers := NameMap.ofList ([("indentation_consistency", layout.indentationConsistency),
      ("long_line_pct", roundTo 2 (layout.longLineRatio * 100.0)),
      ("trailing_whitespace_pct", roundTo 2 (layout.trailingRatio * 100.0)),
      ("mixed_indentation_files", Float.ofNat layout.mixedFiles)] ++
      -- without templates there are no names to judge
      if layout.templates = 0 then [] else [("naming_consistency", layout.namingConsistency)])
    details := NameMap.ofList [("dominant_indentation", .str layout.dominantIndentation),
      ("total_violations", .nat layout.totalViolations),
      ("templates_with_violations", .nat layout.violating.length),
      ("naming_patterns", .ofCounts (merged b "naming_patterns")),
      ("worst_templates", .arr ((layout.violating.take shown).map fun t =>
        .ofFields [("template", .str t.path), ("violations", .nat t.violations)]))]
    distributions := distributionsOf [("avg_line_length", samples b "avg_line_length"),
      ("max_line_length", samples b "max_line_length"),
      ("naming_consistency", samples b "naming_consistency")] }

def complexityMaterial (b : Batch) : Material :=
  let scores := samples b "complexity_score"
  let depths := samples b "max_depth"
  let ratings := tally b.successful "complexity_rating"
  let flagged := fun key => b.successful.countP fun r => r.metrics.flag key
  { drivers := NameMap.ofList [("avg_complexity", roundTo 2 (mean scores)),
      ("max_depth", largest depths),
      ("complex_template_pct", percent (Float.ofNat (ratings.getD "D" 0 + ratings.getD "E" 0))
        (Float.ofNat scores.length)),
      ("max_complexity", largest scores),
      ("nested_loop_templates", Float.ofNat (flagged "has_nested_loops"))]
    details := NameMap.ofList [("total_conditions", .nat (total b "conditions")),
      ("total_loops", .nat (total b "loops")), ("total_ternaries", .nat (total b "ternaries")),
      ("total_logical_operators", .nat (total b "logical_operators")),
      ("complex_condition_templates", .nat (flagged "has_complex_conditions")),
      ("complexity_ratings", .ofCounts ratings),
      ("most_complex", topTemplates b "complexity_score")]
    distributions := distributionsOf [("complexity_score", scores), ("max_depth", depths),
      ("max_control_depth", samples b "max_control_depth")] }

def architectureMaterial (settings : CouplingSettings) (b : Batch) : Material :=
  let coupling := Coupling.ofGraph settings b.graph
  let blocks := Blocks.ofBatch b
  let s := coupling.summary
  let depths := samples b "inheritance_depth"
  { drivers := NameMap.ofList [("cycle_count", Float.ofNat s.cycleCount),
      ("orphan_pct", percent (Float.ofNat s.orphanCount) (Float.ofNat b.results.length)),
      ("avg_instability", s.meanInstability), ("max_inheritance_depth", largest depths),
      ("highly_coupled", Float.ofNat s.highlyCoupledCount)]
    details := NameMap.ofList [("edge_count", .nat s.edgeCount),
      ("total_fan_in", .nat s.totalFanIn), ("total_fan_out", .nat s.totalFanOut),
      ("stable_count", .nat s.stableCount), ("balanced_count", .nat s.balancedCount),
      ("unstable_count", .nat s.unstableCount), ("cycles", .arr (coupling.cycles.map Json.strs)),
      ("orphans", .strs coupling.orphans),
      ("hotspots", .arr ((coupling.hotspots.take shown).map fun n =>
        .ofFields [("template", .str n.path), ("fan_in", .nat n.fanIn),
          ("fan_out", .nat n.fanOut)])),
      ("architectural_roles", .ofCounts (tally b.successful "architectural_role")),
      ("coupling_risks", .ofCounts (tally b.successful "coupling_risk")),
      ("orphaned_blocks", .nat blocks.orphaned.length),
      ("avg_blocks_per_template", .ofFloat blocks.meanPerTemplate)]
    distributions := distributionsOf [("fan_in", samples b "referenced_by"),
      ("fan_out", samples b "references"), ("instability", samples b "instability"),
      ("inheritance_depth", depths)] }

def callablesMaterial (settings : SecuritySettings) (b : Batch) : Material :=
  let security := Security.ofBatch settings b
  let filters := merged b "filters"
  let functions := merged b "functions"
  let density := samples b "callable_density"
  { drivers := NameMap.ofList [("high_risk_calls", Float.ofNat (security.calls .high)),
      ("medium_risk_calls", Float.ofNat (security.calls .medium)),
      ("avg_callable_density", roundTo 4 (mean density)),
      ("top_filter_share_pct",
        percent (Float.ofNat (filters.values.foldl Nat.max 0)) (Float.ofNat filters.total))]
    details := NameMap.ofList [("filter_diversity", diversityJson filters),
      ("function_diversity", diversityJson functions), ("top_filters", topNames filters),
      ("top_functions", topNames functions),
      ("top_macros", topNames (merged b "macro_calls")),
      ("low_risk_calls", .nat (security.calls .low)),
      ("templates_with_findings", .nat security.templatesWithFindings),
      ("riskiest_usages", .arr ((security.findings.take shown).map Finding.toJson))]
    distributions := distributionsOf [("callable_density", density),
      ("filter_calls", samples b "total_filter_calls"),
      ("function_calls", samples b "total_function_calls"),
      ("unique_variables", samples b "unique_variables")] }

def maintainabilityMaterial (largeLines : Nat) (b : Batch) : Material :=
  let lines := samples b "lines"
  let totalLines := sum lines
  let large := lines.countP fun l => Float.ofNat largeLines < l
  let analyzed := b.results.length
  { drivers := NameMap.ofList ([("avg_lines", roundTo 2 (mean lines)),
      ("large_template_pct", percent (Float.ofNat large) (Float.ofNat lines.length)),
      ("size_gini", roundTo 4 (gini lines))] ++
      (if 0.0 < totalLines then
        [("comment_pct", percent (sum (samples b "comment_lines")) totalLines)] else []) ++
      (if 0 < analyzed then
        [("error_pct", percent (Float.ofNat b.errors.length) (Float.ofNat analyzed))] else []))
    details := NameMap.ofList [("total_lines", .nat totalLines.toUInt64.toNat),
      ("total_bytes", .nat (total b "file_size")), ("error_count", .nat b.errors.length),
      ("size_ratings", .ofCounts (tally b.successful "size_rating")),
      ("categories", .ofCounts (tally b.results "category")),
      ("largest_templates", topTemplates b "lines")]
    distributions := distributionsOf [("lines", lines), ("file_size", samples b "file_size"),
      ("comment_ratio", samples b "comment_ratio"), ("logic_ratio", samples b "logic_ratio")] }

/-! ### Cards -/

def Card.of (name : String) (table : Table Float) (m : Material) : Card :=
  ⟨name, table.grade Decimal.inText.write m.drivers, m⟩

/-- The names of the dimensions, in the order of a report. -/
def dimensions : List String :=
  ["style", "complexity", "architecture", "callables", "maintainability"]

/-- The cards of a batch, one for each dimension. -/
def cards (s : Settings) (b : Batch) : List Card :=
  [.of "style" s.scoring.style (styleMaterial b),
    .of "complexity" s.scoring.complexity (complexityMaterial b),
    .of "architecture" s.scoring.architecture (architectureMaterial s.coupling b),
    .of "callables" s.scoring.callables (callablesMaterial s.security b),
    .of "maintainability" s.scoring.maintainability
      (maintainabilityMaterial s.size.largeTemplateLines b)]

def summaryJson (s : Summary Float) : Json :=
  .ofFields [("count", .nat s.count), ("min", .ofFloat s.min), ("max", .ofFloat s.max),
    ("mean", .ofFloat s.mean), ("median", .ofFloat s.median), ("std_dev", .ofFloat s.deviation),
    ("coefficient_of_variation", .ofFloat s.variation), ("p25", .ofFloat s.p25),
    ("p75", .ofFloat s.p75), ("p90", .ofFloat s.p90), ("p95", .ofFloat s.p95),
    ("gini", .ofFloat s.gini)]

def Card.toJson (c : Card) : Json :=
  .ofFields [("name", .str c.name), ("score", .ofFloat c.graded.score),
    ("grade", .str c.graded.grade),
    ("core_metrics", .ofMap (c.material.drivers.map fun _ x => .ofFloat (roundTo 4 x))),
    ("detail_metrics", .ofMap c.material.details),
    ("distributions", .ofMap (c.material.distributions.map fun _ => summaryJson)),
    ("insights", .strs c.graded.insights)]

end TemplateMetrics.Score
