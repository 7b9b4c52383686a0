import TemplateMetrics.Analysis.Role
import TemplateMetrics.Analysis.Template

/-!
Analysis of many templates.

Every template is analyzed on its own first. The graph of their references is built from all the
results, and each result then gets the metrics that depend on the graph, failed ones included: a
failed template may still be referenced by others.
-/

namespace TemplateMetrics

def progressOf (total : Nat) : List (Nat × Nat) := (List.range total).map fun i => (i + 1, total)

structure Batch where
  /-- One result for each input, in their order. -/
  results : List Result
  graph : Graph
  errors : List ErrorRecord

/-- The graph of references in results; every result is a node. -/
def Graph.ofResults (results : List Result) : Graph :=
  results.foldl (fun g r =>
    (Reference.ofMetrics r.path r.metrics).foldl Graph.addReference (g.addNode r.path)) Graph.empty

namespace Batch

/-- Metrics of a result that depend on the other templates. -/
def graphMetrics (settings : ClassificationSettings) (graph : Graph) (parents : Parents)
    (fanIns : Counts) (r : Result) : Metrics :=
  let referencedBy := fanIns.getD r.path 0
  let references := graph.fanOut r.path
  let extra := NameMap.ofList [("referenced_by", .nat referencedBy),
    ("references", .nat references),
    ("instability", .ofFloat (Scalar.roundTo 4 (graph.instability r.path))),
    ("inheritance_depth", .nat (parents.depth r.path)),
    ("is_orphan", .bool (referencedBy = 0 ∧ references = 0))]
  let profile := Profile.ofMetrics (r.metrics.union extra)
  (extra.insert "architectural_role" (.str (profile.role settings))).insert "coupling_risk"
    (.str (profile.couplingRisk settings))

def enrich (settings : ClassificationSettings) (graph : Graph) (results : List Result) :
    List Result :=
  let parents := Parents.ofGraph graph
  let fanIns := graph.fanIns
  results.map fun r => r.enrich (graphMetrics settings graph parents fanIns r)

def analyze (a : Analyzer) (inputs : List Input) : Batch :=
  let outcomes := inputs.map a.analyzeOrFallback
  let results := outcomes.map (·.1)
  let graph := Graph.ofResults results
  { results := enrich a.settings.classification graph results
    graph := graph
    errors := outcomes.filterMap (·.2) }

/-- What is told after each template: how many are done by then, and of how many. -/
def progress (b : Batch) : List (Nat × Nat) := progressOf b.results.length

def successful (b : Batch) : List Result := b.results.filter fun r => !r.isFailure

def get? (b : Batch) (path : String) : Option Result := b.results.find? fun r => r.path = path

end Batch

def Reference.record (r : Reference) : Json :=
  .ofFields [("source", .str r.source), ("target", .str r.target),
    ("kind", .str r.relation.text), ("metadata", .ofMap r.metadata)]

def Graph.toJson (g : Graph) : Json :=
  .ofFields [("adjacency", .ofMap (g.adjacency.map fun _ => Json.strs)),
    ("dependencies", .arr (g.references.map Reference.record))]

def Batch.toJson (b : Batch) : Json :=
  .ofFields [("results", .arr (b.results.map Result.toJson)), ("graph", b.graph.toJson),
    ("errors", .arr (b.errors.map ErrorRecord.toJson)),
    ("summary", .ofFields [("templates_analyzed", .nat b.results.length),
      ("errors", .nat b.errors.length)])]

end TemplateMetrics
