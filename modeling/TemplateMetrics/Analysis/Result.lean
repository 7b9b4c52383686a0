import TemplateMetrics.Failure
import TemplateMetrics.Metrics

/-!
Results of templates, and records of those that failed.
-/

namespace TemplateMetrics

structure Result where
  path : String
  metrics : Metrics

namespace Result

/-- With more metrics, which replace old ones of the same names. -/
def enrich (r : Result) (extra : Metrics) : Result := { r with metrics := r.metrics.union extra }

/-- Whether this stands in for a template that could not be analyzed. -/
def isFailure (r : Result) : Bool := r.metrics.contains "analysis_error"

def toJson (r : Result) : Json :=
  .ofFields [("path", .str r.path), ("metrics", .ofMap r.metrics)]

end Result

inductive Stage where
  | read
  | parse
deriving Repr, DecidableEq

def Stage.text : Stage → String
  | .read => "read"
  | .parse => "parse"

/-- A template that failed, and why. -/
structure ErrorRecord where
  path : String
  stage : Stage
  message : String
deriving Repr, DecidableEq

namespace ErrorRecord

def ofFailure (path : String) (f : Failure) : ErrorRecord :=
  ⟨path, if f.isReadFailure then .read else .parse, f.text⟩

def toJson (e : ErrorRecord) : Json :=
  .ofFields [("path", .str e.path), ("kind", .str e.stage.text), ("message", .str e.message)]

end ErrorRecord

end TemplateMetrics
