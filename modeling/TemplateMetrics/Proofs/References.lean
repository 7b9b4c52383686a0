import TemplateMetrics.Proofs.Graph
import TemplateMetrics.Proofs.Walk

/-!
References on their way from the tree to the graph.

A node refers to another template when its target is written as a literal (`Refers`). The collector
records these references in document order, the metrics carry them under `dependencies`, and the
graph reads them back from there. Nothing is lost on the way: reading undoes writing
(`Reference.ofJson?_toJson`), and no other metric takes the place of `dependencies`.
-/

namespace TemplateMetrics

open Syntax

/-! ### The form they have in metrics -/

lemma Relation.ofText?_text (r : Relation) : ofText? r.text = some r := by
  cases r <;> rfl

/-- A reference is read back as it was written, from the source that its metrics belong to. -/
lemma Reference.ofJson?_toJson (source : String) (r : Reference) :
    ofJson? source r.toJson = some { r with source } := by
  have htype : r.toJson.field? "type" = some (.str r.relation.text) := by
    simp [toJson, NameMap.ofList]
  have htemplate : r.toJson.field? "template" = some (.str r.target) := by
    simp [toJson, NameMap.ofList]
  have hmetadata : r.toJson.field? "metadata" = some (.ofMap r.metadata) := by
    simp [toJson, NameMap.ofList]
  simp [ofJson?, htype, htemplate, hmetadata, Json.str?, Relation.ofText?_text, Json.ofMap,
    NameMap.ofList_entries]

lemma Reference.ofMetrics_eq {source : String} {m : Metrics} {rs : List Reference}
    (h : m.get? "dependencies" = some (.arr (rs.map toJson))) (hs : ∀ r ∈ rs, r.source = source) :
    ofMetrics source m = rs := by
  have hread : ∀ r ∈ rs, ofJson? source r.toJson = some r := by
    intro r hr
    rw [ofJson?_toJson, ← hs r hr]
  have hlist : m.list "dependencies" = rs.map toJson := by
    rw [Metrics.list, h]
  rw [ofMetrics, hlist, List.filterMap_map]
  exact (List.filterMap_congr hread).trans List.filterMap_some

/-! ### Where they stand in the tree -/

/-- A node that names another template by a literal: how it refers to it, the literal, and what else
the reference records. -/
inductive Refers : Node → Relation → String → NameMap Json → Prop
  | parent (t) : Refers (.extendsTag (.literal (.str t))) .parent t NameMap.empty
  | inclusion (t passed options) :
      Refers (.includeTag (.literal (.str t)) passed options) .inclusion t
        (Collect.References.includeMetadata passed options)
  | embedding (t passed options body) :
      Refers (.embedTag (.literal (.str t)) passed options body) .embedding t
        (Collect.References.includeMetadata passed options)
  | importing (t localName names) :
      Refers (.importTag (.literal (.str t)) localName names) .importing t
        (Collect.References.importMetadata localName names)
  | inclusionCall (t args) :
      Refers (.functionCall "include" (.literal (.str t) :: args)) .inclusionCall t NameMap.empty

lemma Syntax.Node.strLiteral?_eq_some {n : Node} {t : String} :
    n.strLiteral? = some t ↔ n = .literal (.str t) := by
  cases n with
  | literal value => cases value <;> simp [strLiteral?]
  | _ => simp [strLiteral?]

namespace Collect.References

/-- The reference of a node is what the node says, from the template it stands in. -/
lemma ofNode?_eq_some_iff {source : String} {n : Node} {r : Reference} :
    ofNode? source n = some r ↔
      Refers n r.relation r.target r.metadata ∧ r.source = source := by
  constructor
  · intro h
    unfold ofNode? at h
    split at h
    case h_6 => cases h
    all_goals
      obtain ⟨t, ht, rfl⟩ := Option.map_eq_some_iff.1 h
      obtain rfl := Node.strLiteral?_eq_some.1 ht
      exact ⟨by constructor, rfl⟩
  · obtain ⟨src, target, relation, metadata⟩ := r
    rintro ⟨h, rfl⟩
    cases h <;> rfl

lemma references_enter (source : String) (n : Node) (s : References) :
    (enter source n s).references = s.references ++ (ofNode? source n).toList := by
  have hblocks : (blocksOf n s).references = s.references := by
    unfold blocksOf
    split
    · rfl
    · split <;> rfl
    · rfl
  cases h : ofNode? source n with
  | none => simp [enter, h, hblocks]
  | some r => simp [enter, h, hblocks]

/-- The collector records the references of all nodes, in document order. -/
lemma references_run (path : String) (parents : Option Parents) (root : Node) (s : References) :
    ((collector path parents).run s root).references =
      s.references ++ root.nodes.filterMap (ofNode? path) := by
  have key : ∀ (ns : List Node) (s : References),
      (ns.foldl (fun s n => enter path n s) s).references =
        s.references ++ ns.filterMap (ofNode? path) := by
    intro ns
    induction ns with
    | nil => intro s; simp
    | cons n r ih =>
      intro s
      rw [List.foldl_cons, ih, references_enter, List.append_assoc]
      cases h : ofNode? path n <;> simp [h]
  rw [Collector.run_of_leave (collector path parents) fun _ _ => rfl]
  exact key root.nodes s

lemma get?_dependencies (path : String) (parents : Option Parents) (s : References) :
    (metrics path parents s).get? "dependencies" =
      some (.arr (s.references.map Reference.toJson)) := by
  simp [metrics, NameMap.ofList]

end Collect.References

/-! ### One template -/

namespace Analyzer

/-- The collector of references is the last, so no other collector takes the place of its metrics,
and no metric of the text does. -/
lemma get?_collect_of_references {settings : Settings} {path source : String} {root : Node}
    {parents : Option Parents} {key : String} {value : Json}
    (h : (Collect.References.metrics path parents
      ((Collect.References.collector path parents).run .start root)).get? key = some value)
    (hderived : ∀ m, (derived settings path source m).get? key = none) :
    (collect settings path source root parents).get? key = some value := by
  have htree : ((Collect.standard path settings parents).traverse root).metrics.get? key =
      some value := by
    rw [Collect.States.standard_eq, Collect.States.traverse_watch,
      Collect.States.get?_metrics_watch]
    change ((Collect.References.metrics path parents
      ((Collect.References.collector path parents).run .start root)).get? key).or _ = _
    rw [h, Option.some_or]
  simp only [collect, NameMap.get?_union, NameMap.get?_unionKeeping, hderived, htree,
    Option.none_or, Option.some_or]

lemma get?_dependencies_collect (settings : Settings) (path source : String) (root : Node)
    (parents : Option Parents) :
    (collect settings path source root parents).get? "dependencies" =
      some (.arr ((root.nodes.filterMap (Collect.References.ofNode? path)).map
        Reference.toJson)) := by
  refine get?_collect_of_references ?_ fun m => by simp [derived, NameMap.ofList]
  rw [Collect.References.get?_dependencies, Collect.References.references_run]
  rfl

/-- The tree of an input, if its text can be read and is well formed. -/
def tree (a : Analyzer) (input : Input) : Except Failure Node := do
  let source ← input.source
  a.parse (Path.normalize input.path) source

/-- The references that the tree of an input makes, in document order. -/
def references (a : Analyzer) (input : Input) : List Reference :=
  match a.tree input with
  | .ok root => root.nodes.filterMap (Collect.References.ofNode? (Path.normalize input.path))
  | .error _ => []

lemma mem_references {a : Analyzer} {input : Input} {r : Reference} :
    r ∈ a.references input ↔ r.source = Path.normalize input.path ∧
      ∃ root, a.tree input = .ok root ∧ ∃ n ∈ root.nodes,
        Refers n r.relation r.target r.metadata := by
  unfold references
  cases htree : a.tree input with
  | error f => simp
  | ok root =>
    simp only [List.mem_filterMap, Collect.References.ofNode?_eq_some_iff, Except.ok.injEq]
    constructor
    · rintro ⟨n, hn, href, hs⟩
      exact ⟨hs, root, rfl, n, hn, href⟩
    · rintro ⟨hs, _, rfl, n, hn, href⟩
      exact ⟨n, hn, href, hs⟩

lemma analyze_of_tree {a : Analyzer} {input : Input} {root : Node} (h : a.tree input = .ok root) :
    ∃ source, a.analyze input = .ok ⟨Path.normalize input.path,
      collect a.settings (Path.normalize input.path) source root none⟩ := by
  unfold tree at h
  cases hs : input.source with
  | error f =>
    rw [hs] at h
    cases h
  | ok source =>
    rw [hs] at h
    change a.parse (Path.normalize input.path) source = .ok root at h
    refine ⟨source, ?_⟩
    simp [analyze, analyzeSource, hs, h, bind, Except.bind, pure, Except.pure]

lemma analyze_of_tree_error {a : Analyzer} {input : Input} {f : Failure}
    (h : a.tree input = .error f) : a.analyze input = .error f := by
  unfold tree at h
  cases hs : input.source with
  | error f' =>
    rw [hs] at h
    obtain rfl : f' = f := by simpa [bind, Except.bind] using h
    simp [analyze, hs, bind, Except.bind]
  | ok source =>
    rw [hs] at h
    change a.parse (Path.normalize input.path) source = .error f at h
    simp [analyze, analyzeSource, hs, h, bind, Except.bind]

lemma get?_dependencies_fallback (a : Analyzer) (path : String) (f : Failure) :
    (a.fallback path f).metrics.get? "dependencies" = some (.arr []) := by
  have hbase := get?_dependencies_collect a.settings (Path.normalize path) "" (.template []) none
  have hnone : (Node.template []).nodes.filterMap
      (Collect.References.ofNode? (Path.normalize path)) = [] := by
    rw [Node.nodes_eq]
    rfl
  rw [hnone] at hbase
  simp [fallback, NameMap.ofList, hbase, zeroed]

/-- The metrics of an input carry the references of its tree. -/
lemma ofMetrics_analyzeOrFallback (a : Analyzer) (input : Input) :
    Reference.ofMetrics (a.analyzeOrFallback input).1.path (a.analyzeOrFallback input).1.metrics =
      a.references input := by
  unfold references analyzeOrFallback
  cases htree : a.tree input with
  | error f =>
    -- a template that failed carries none
    rw [analyze_of_tree_error htree]
    exact Reference.ofMetrics_eq (get?_dependencies_fallback a input.path f)
      fun r hr => absurd hr List.not_mem_nil
  | ok root =>
    obtain ⟨source, hresult⟩ := analyze_of_tree htree
    have hdependencies := get?_dependencies_collect a.settings (Path.normalize input.path) source
      root none
    rw [hresult]
    dsimp only
    refine Reference.ofMetrics_eq hdependencies fun r hr => ?_
    obtain ⟨n, -, hn⟩ := List.mem_filterMap.1 hr
    exact (Collect.References.ofNode?_eq_some_iff.1 hn).2

end Analyzer

/-! ### The graph of a batch -/

namespace Batch

lemma graph_eq (a : Analyzer) (inputs : List Input) :
    (analyze a inputs).graph = Graph.ofResults (inputs.map fun i => (a.analyzeOrFallback i).1) := by
  rw [analyze, List.map_map]
  rfl

lemma references_graph (a : Analyzer) (inputs : List Input) :
    (analyze a inputs).graph.references = inputs.flatMap a.references := by
  rw [graph_eq, Graph.references_ofResults, List.flatMap_map]
  exact List.flatMap_congr fun input _ => a.ofMetrics_analyzeOrFallback input

/-- Metrics that depend on the graph leave the paths of the results as they are. -/
lemma paths_results (a : Analyzer) (inputs : List Input) :
    (analyze a inputs).results.map (·.path) =
      inputs.map fun i => (a.analyzeOrFallback i).1.path := by
  simp [analyze, enrich, Result.enrich, Function.comp_def]

/-- **The graph of a batch holds exactly the literal references of its templates.** Its edges are
the pairs of a template that could be analyzed and a target that one of its nodes names. All
references are there, in the order of the inputs and of their documents, each as its node states
it. Its sources are the paths of the results, failed ones included. -/
theorem graph_holds_literal_references (a : Analyzer) (inputs : List Input) :
    (∀ p q, (p, q) ∈ (analyze a inputs).graph.edges ↔
      ∃ input ∈ inputs, ∃ result root, a.analyze input = .ok result ∧ result.path = p ∧
        a.tree input = .ok root ∧ ∃ n ∈ root.nodes, ∃ relation t metadata,
          Refers n relation t metadata ∧ Path.normalizeTarget t = q) ∧
    (analyze a inputs).graph.references = inputs.flatMap (fun input =>
      match a.tree input with
      | .ok root => root.nodes.filterMap (Collect.References.ofNode? (Path.normalize input.path))
      | .error _ => []) ∧
    (∀ source n r, Collect.References.ofNode? source n = some r ↔
      Refers n r.relation r.target r.metadata ∧ r.source = source) ∧
    ∀ p, p ∈ (analyze a inputs).graph.adjacency.keys ↔
      p ∈ (analyze a inputs).results.map (·.path) := by
  refine ⟨fun p q => ?_, references_graph a inputs,
    fun _ _ _ => Collect.References.ofNode?_eq_some_iff, fun p => ?_⟩
  · have hedges : (p, q) ∈ (analyze a inputs).graph.edges ↔
        ∃ r ∈ (analyze a inputs).graph.references,
          r.source = p ∧ Path.normalizeTarget r.target = q := by
      rw [graph_eq, Graph.ofResults_eq_build]
      exact Graph.mem_edges_build
    rw [hedges, references_graph]
    simp only [List.mem_flatMap, Analyzer.mem_references]
    constructor
    · rintro ⟨r, ⟨input, hi, hs, root, htree, n, hn, href⟩, rfl, rfl⟩
      obtain ⟨source, hresult⟩ := Analyzer.analyze_of_tree htree
      exact ⟨input, hi, _, root, hresult, hs.symm, htree, n, hn, _, _, _, href, rfl⟩
    · -- the references of a result are those of its tree, under its path
      rintro ⟨input, hi, result, root, hresult, rfl, htree, n, hn, relation, t, metadata, href, rfl⟩
      obtain ⟨source, hresult'⟩ := Analyzer.analyze_of_tree htree
      obtain rfl := Except.ok.inj (hresult'.symm.trans hresult)
      exact ⟨⟨Path.normalize input.path, t, relation, metadata⟩,
        ⟨input, hi, rfl, root, htree, n, hn, href⟩, rfl, rfl⟩
  · rw [NameMap.mem_keys, graph_eq, Graph.contains_ofResults, paths_results, List.map_map]
    rfl

end Batch

end TemplateMetrics
