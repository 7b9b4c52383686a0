import TemplateMetrics.Analysis.Batch

/-!
Risky calls across templates.
-/

namespace TemplateMetrics

inductive CallableKind where
  | filter
  | function
deriving Repr, DecidableEq

def CallableKind.text : CallableKind → String
  | .filter => "filter"
  | .function => "function"

/-- The calls of one risky filter or function in one template. -/
structure Finding where
  template : String
  callable : String
  kind : CallableKind
  risk : Risk
  count : Nat
deriving Repr, DecidableEq

namespace Finding

/-- Higher risks come first, then templates and then names in ascending order. -/
def ranksBefore (a b : Finding) : Bool :=
  decide (b.risk.rank < a.risk.rank) ||
    (decide (a.risk = b.risk) && (decide (a.template < b.template) ||
      (decide (a.template = b.template) && decide (a.callable ≤ b.callable))))

def toJson (f : Finding) : Json :=
  .ofFields [("template", .str f.template), ("callable", .str f.callable),
    ("kind", .str f.kind.text), ("level", .str f.risk.text), ("count", .nat f.count)]

end Finding

structure Security where
  findings : List Finding
deriving Repr

namespace Security

def findingsIn (r : Result) (kind : CallableKind) (key : String) (risks : NameMap Risk) :
    List Finding :=
  (r.metrics.counts key).entries.filterMap fun (name, count) =>
    (risks.get? name).map fun risk => ⟨r.path, name, kind, risk, count⟩

/-- Filters first, then functions, by ascending name. -/
def findingsOf (settings : SecuritySettings) (r : Result) : List Finding :=
  findingsIn r .filter "filters" settings.filters ++
    findingsIn r .function "functions" settings.functions

def ofBatch (settings : SecuritySettings) (b : Batch) : Security :=
  ⟨(b.successful.flatMap (findingsOf settings)).mergeSort Finding.ranksBefore⟩

/-- Number of calls of one risk. -/
def calls (s : Security) (risk : Risk) : Nat :=
  ((s.findings.filter fun f => f.risk = risk).map (·.count)).foldl (· + ·) 0

def templatesWithFindings (s : Security) : Nat :=
  (NameSet.ofNames (s.findings.map (·.template))).size

def toJson (s : Security) : Json :=
  .ofFields [("findings", .arr (s.findings.map Finding.toJson)),
    ("summary", .ofFields [("high_risk_calls", .nat (s.calls .high)),
      ("medium_risk_calls", .nat (s.calls .medium)), ("low_risk_calls", .nat (s.calls .low)),
      ("templates_with_findings", .nat s.templatesWithFindings),
      ("total_findings", .nat s.findings.length)])]

end Security

end TemplateMetrics
