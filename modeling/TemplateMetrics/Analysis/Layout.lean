import TemplateMetrics.Analysis.Batch
import TemplateMetrics.Statistics.Sample

/-!
Consistency of layout and naming across templates.
-/

namespace TemplateMetrics

/-- What is wrong with the layout of one template. -/
structure TemplateLayout where
  path : String
  lines : Nat
  indentation : String
  namingConsistency : Float
  longLines : Nat
  trailingLines : Nat
  mixedLines : Nat
deriving Repr

namespace TemplateLayout

def ofResult (r : Result) : TemplateLayout where
  path := r.path
  lines := r.metrics.count "lines"
  indentation := r.metrics.stringD "indentation_style" "none"
  namingConsistency := r.metrics.number "naming_consistency"
  longLines := r.metrics.count "long_lines"
  trailingLines := r.metrics.count "trailing_whitespace_lines"
  mixedLines := r.metrics.count "mixed_indentation_lines"

def violations (t : TemplateLayout) : Nat := t.longLines + t.trailingLines + t.mixedLines

/-- Templates with more violations come first, others by ascending path. -/
def ranksBefore (a b : TemplateLayout) : Bool :=
  decide (b.violations < a.violations) ||
    (decide (a.violations = b.violations) && decide (a.path ≤ b.path))

def toJson (t : TemplateLayout) : Json :=
  .ofFields [("path", .str t.path), ("lines", .nat t.lines),
    ("indentation_style", .str t.indentation),
    ("naming_consistency", .ofFloat t.namingConsistency), ("long_lines", .nat t.longLines),
    ("trailing_whitespace_lines", .nat t.trailingLines),
    ("mixed_indentation_lines", .nat t.mixedLines), ("violations", .nat t.violations)]

end TemplateLayout

structure Layout where
  /-- Templates with violations, those with most first. -/
  violating : List TemplateLayout
  templates : Nat
  dominantIndentation : String
  /-- Percentage of the indented templates that are indented in the dominant way. -/
  indentationConsistency : Float
  namingConsistency : Float
  longLineRatio : Float
  trailingRatio : Float
  mixedFiles : Nat
  totalViolations : Nat
deriving Repr

namespace Layout

/-- The dominant indentation and how many templates have it. -/
def dominant (tabs spaces indented : Nat) : String × Nat :=
  if tabs = 0 ∧ spaces = 0 then (if 0 < indented then "mixed" else "none", 0)
  else if spaces < tabs then ("tabs", tabs)
  else ("spaces", spaces)

def ofBatch (b : Batch) : Layout :=
  let templates := b.successful.map TemplateLayout.ofResult
  let indentedAs := fun s => templates.countP fun t => t.indentation = s
  let indented := templates.countP fun t => t.indentation ≠ "none"
  let (style, count) := dominant (indentedAs "tabs") (indentedAs "spaces") indented
  let total := fun (f : TemplateLayout → Nat) => (templates.map f).foldl (· + ·) 0
  let ofLines := fun (f : TemplateLayout → Nat) => Scalar.roundTo 4
    (Scalar.ratio (Float.ofNat (total f)) (Float.ofNat (total (·.lines))))
  { violating :=
      (templates.filter fun t => 0 < t.violations).mergeSort TemplateLayout.ranksBefore
    templates := templates.length
    dominantIndentation := style
    indentationConsistency := Scalar.roundTo 2
      (if indented = 0 then 100.0 else Float.ofNat count / Float.ofNat indented * 100.0)
    namingConsistency :=
      if templates.isEmpty then 100.0
      else Scalar.roundTo 2 (Statistics.mean (templates.map (·.namingConsistency)))
    longLineRatio := ofLines (·.longLines)
    trailingRatio := ofLines (·.trailingLines)
    mixedFiles := indentedAs "mixed"
    totalViolations := total TemplateLayout.violations }

def toJson (l : Layout) : Json :=
  .ofFields [("templates", .arr (l.violating.map TemplateLayout.toJson)),
    ("summary", .ofFields [("templates", .nat l.templates),
      ("dominant_indentation", .str l.dominantIndentation),
      ("indentation_consistency", .ofFloat l.indentationConsistency),
      ("avg_naming_consistency", .ofFloat l.namingConsistency),
      ("long_line_ratio", .ofFloat l.longLineRatio),
      ("trailing_whitespace_ratio", .ofFloat l.trailingRatio),
      ("mixed_indentation_files", .nat l.mixedFiles),
      ("total_violations", .nat l.totalViolations)])]

end Layout

end TemplateMetrics
