import Mathlib.Data.List.Perm.Basic
import TemplateMetrics.Graph.Cycles
import TemplateMetrics.Proofs.Standing

/-!
What the result of a template does not depend on.

Two runs are compared. If one batch is another in a different order, everything but the order of
its lists is the same (`Batch.analyze_perm`). If two batches have a template in common, its results
agree on all metrics that the graph does not decide, and on all metrics once the template has the
same sources and the same ancestors in both (`Batch.shared_input_agrees`). Both follow from what
the graph of a batch holds at one path: the references of the template that has the path.
-/

namespace TemplateMetrics

/-- Whatever is asked of a graph is asked of its adjacency; the list of references is not used. -/
lemma Graph.queries_congr {g g' : Graph} (h : g.adjacency = g'.adjacency) :
    g.nodes = g'.nodes ∧ g.edges = g'.edges ∧ g.orphans = g'.orphans ∧
      g.backEdgeCount = g'.backEdgeCount ∧ g.cycleGroups = g'.cycleGroups := by
  obtain ⟨adjacency, references⟩ := g
  obtain ⟨adjacency', references'⟩ := g'
  obtain rfl : adjacency = adjacency' := h
  exact ⟨rfl, rfl, rfl, rfl, rfl⟩

namespace Batch

variable {a : Analyzer} {inputs inputs' : List Input} {input : Input}

/-- Where paths are different, a path leads to the one result that has it. -/
lemma get?_eq_some_iff {b : Batch} (h : b.Distinct) {path : String} {r : Result} :
    b.get? path = some r ↔ r ∈ b.results ∧ r.path = path := by
  constructor
  · intro hget
    exact ⟨List.mem_of_find?_eq_some hget, by simpa using List.find?_some hget⟩
  · rintro ⟨hr, rfl⟩
    obtain ⟨s, hs⟩ : ∃ s, b.get? r.path = some s :=
      Option.isSome_iff_exists.1 (List.find?_isSome.2 ⟨r, hr, by simp⟩)
    have hpath : s.path = r.path := by simpa using List.find?_some hs
    obtain rfl : s = r := List.inj_on_of_nodup_map h (List.mem_of_find?_eq_some hs) hr hpath
    exact hs

lemma mem_edges_graph {p q : String} : (p, q) ∈ (analyze a inputs).graph.edges ↔
    ∃ r ∈ (analyze a inputs).graph.references,
      r.source = p ∧ Path.normalizeTarget r.target = q := by
  rw [graph_eq, Graph.ofResults_eq_build]
  exact Graph.mem_edges_build

/-! ### The order of the inputs -/

/-- A batch in another order has the same references from every path. -/
lemma filter_references_perm (h : (analyze a inputs).Distinct) (hperm : inputs.Perm inputs')
    (path : String) :
    (analyze a inputs).graph.references.filter (·.source = path) =
      (analyze a inputs').graph.references.filter (·.source = path) := by
  have h' := distinct_perm h hperm
  by_cases hpath : path ∈ inputs.map fun i => (a.analyzeOrFallback i).1.path
  · obtain ⟨input, hi, rfl⟩ := List.mem_map.1 hpath
    rw [filter_references h hi, filter_references h' (hperm.mem_iff.1 hi)]
  · -- a path that no result has is the source of nothing
    have hpath' : path ∉ inputs'.map fun i => (a.analyzeOrFallback i).1.path :=
      fun hmem => hpath ((hperm.map _).mem_iff.2 hmem)
    rw [graph_eq, graph_eq, Graph.filter_references_of_not_mem, Graph.filter_references_of_not_mem]
    · simpa using hpath'
    · simpa using hpath

lemma adjacency_perm (h : (analyze a inputs).Distinct) (hperm : inputs.Perm inputs') :
    (analyze a inputs).graph.adjacency = (analyze a inputs').graph.adjacency := by
  refine NameMap.ext_get? fun path => ?_
  have hrefs := filter_references_perm h hperm path
  have hmem := ((hperm.map fun i => (a.analyzeOrFallback i).1).map (·.path)).mem_iff (a := path)
  rw [graph_eq, graph_eq] at hrefs ⊢
  rw [Graph.get?_adjacency_ofResults, Graph.get?_adjacency_ofResults, hrefs, if_congr hmem rfl rfl]

lemma parents_perm (h : (analyze a inputs).Distinct) (hperm : inputs.Perm inputs') :
    Parents.ofGraph (analyze a inputs).graph = Parents.ofGraph (analyze a inputs').graph := by
  refine NameMap.ext_get? fun path => ?_
  rw [Parents.get?_ofGraph, Parents.get?_ofGraph, filter_references_perm h hperm]

lemma resultOf_perm (h : (analyze a inputs).Distinct) (hperm : inputs.Perm inputs')
    (input : Input) : resultOf a inputs input = resultOf a inputs' input := by
  have hadjacency := adjacency_perm h hperm
  obtain ⟨-, hedges, -⟩ := Graph.queries_congr hadjacency
  refine resultOf_congr rfl (Graph.fanIn_congr fun s => ?_) (Graph.fanOut_congr ?_) ?_
  · rw [hedges]
  · rw [hadjacency]
  · rw [parents_perm h hperm]

/-- **A batch does not depend on the order of its inputs**, as long as the results have different
paths: the results and the records of failures are the same up to their order, each path leads to
the same result, and the graph has the same adjacency and gives the same answers. -/
theorem analyze_perm (h : (analyze a inputs).Distinct) (hperm : inputs.Perm inputs') :
    (∀ path, (analyze a inputs).get? path = (analyze a inputs').get? path) ∧
    (analyze a inputs).results.Perm (analyze a inputs').results ∧
    (analyze a inputs).graph.adjacency = (analyze a inputs').graph.adjacency ∧
    (analyze a inputs).graph.nodes = (analyze a inputs').graph.nodes ∧
    (analyze a inputs).graph.edges = (analyze a inputs').graph.edges ∧
    (analyze a inputs).graph.orphans = (analyze a inputs').graph.orphans ∧
    (analyze a inputs).graph.backEdgeCount = (analyze a inputs').graph.backEdgeCount ∧
    (analyze a inputs).graph.cycleGroups = (analyze a inputs').graph.cycleGroups ∧
    (analyze a inputs).errors.Perm (analyze a inputs').errors := by
  have h' := distinct_perm h hperm
  have hresults : (analyze a inputs).results.Perm (analyze a inputs').results := by
    rw [results_eq, results_eq, List.map_congr_left fun i _ => resultOf_perm h hperm i]
    exact hperm.map _
  have hget : ∀ path, (analyze a inputs).get? path = (analyze a inputs').get? path := by
    intro path
    refine Option.ext fun r => ?_
    rw [get?_eq_some_iff h, get?_eq_some_iff h', hresults.mem_iff]
  have herrors : (analyze a inputs).errors.Perm (analyze a inputs').errors := by
    rw [errors_eq, errors_eq]
    exact hperm.filterMap _
  have hadjacency := adjacency_perm h hperm
  -- all queries are answered from the adjacency alone
  obtain ⟨hnodes, hedges, horphans, hcount, hgroups⟩ := Graph.queries_congr hadjacency
  exact ⟨hget, hresults, hadjacency, hnodes, hedges, horphans, hcount, hgroups, herrors⟩

/-- The parent of a page, the page, a template that includes it, and one that cannot be parsed. -/
def siteInputs : List Input :=
  [.ofContent "base.twig" "\x7b% block body %\x7d\x7b% endblock %\x7d",
    .ofContent "page.twig" "\x7b% extends 'base.twig' %\x7d",
    .ofContent "menu.twig" "\x7b% include './page.twig' %\x7d", .ofContent "broken.twig" "\x7b% if"]

theorem analyze_perm_reversed :
    let b := analyze (.ofSettings .default) siteInputs
    let b' := analyze (.ofSettings .default) siteInputs.reverse
    b.Distinct ∧ b.get? "page.twig" = b'.get? "page.twig" ∧ b.results.Perm b'.results ∧
      b.graph.cycleGroups = b'.graph.cycleGroups ∧ b.errors.Perm b'.errors := by
  intro b b'
  have hdistinct : b.Distinct := distinct_iff.2 (by decide +kernel)
  obtain ⟨hget, hresults, -, -, -, -, -, hgroups, herrors⟩ :=
    analyze_perm hdistinct (List.reverse_perm siteInputs).symm
  exact ⟨hdistinct, hget "page.twig", hresults, hgroups, herrors⟩

/-! ### The other templates -/

/-- Names of the metrics that other templates have a part in. -/
def sharedNames : List String :=
  ["referenced_by", "instability", "inheritance_depth", "architectural_role", "coupling_risk",
    "is_orphan"]

/-- Of the metrics from the graph, only the number of references is a template's own. -/
lemma get?_graphMetrics (settings : ClassificationSettings) (g : Graph) (parents : Parents)
    (fanIns : Counts) (r : Result) {key : String} (hkey : key ∉ sharedNames) :
    (graphMetrics settings g parents fanIns r).get? key =
      if key = "references" then some (.nat (g.fanOut r.path)) else none := by
  simp only [sharedNames, List.mem_cons, List.not_mem_nil, or_false, not_or] at hkey
  simp [graphMetrics, NameMap.ofList, hkey]

/-- What the graph does not decide is in a batch as it is for the template alone. -/
lemma get?_resultOf (a : Analyzer) (inputs : List Input) (input : Input) {key : String}
    (hkey : key ∉ sharedNames) (hreferences : key ≠ "references") :
    (resultOf a inputs input).metrics.get? key =
      (a.analyzeOrFallback input).1.metrics.get? key := by
  unfold resultOf Result.enrich
  dsimp only
  rw [NameMap.get?_union, get?_graphMetrics _ _ _ _ _ hkey, if_neg hreferences, Option.none_or]

/-- **Other templates have a part in no metrics but those of `sharedNames`**, and in these only
through the sources and the ancestors of the template: where two batches with different paths have
an input in common, its results agree on all other metrics, and on all metrics if it has the same
sources and the same ancestors in both. -/
theorem shared_input_agrees (h : (analyze a inputs).Distinct) (h' : (analyze a inputs').Distinct)
    {i j : Nat} (hi : inputs[i]? = some input) (hj : inputs'[j]? = some input) :
    ∃ r r', (analyze a inputs).results[i]? = some r ∧ (analyze a inputs').results[j]? = some r' ∧
      r.path = r'.path ∧
      (∀ key ∉ sharedNames, r.metrics.get? key = r'.metrics.get? key) ∧
      ((∀ s, (s, r.path) ∈ (analyze a inputs).graph.edges ↔
          (s, r.path) ∈ (analyze a inputs').graph.edges) →
        (Parents.ofGraph (analyze a inputs).graph).ancestors r.path =
          (Parents.ofGraph (analyze a inputs').graph).ancestors r.path →
        r.metrics = r'.metrics) := by
  -- the references of an input are its own in both batches
  have hout : (analyze a inputs).graph.fanOut (a.analyzeOrFallback input).1.path =
      (analyze a inputs').graph.fanOut (a.analyzeOrFallback input).1.path :=
    Graph.fanOut_congr ((get?_adjacency h (List.mem_of_getElem? hi)).trans
      (get?_adjacency h' (List.mem_of_getElem? hj)).symm)
  refine ⟨resultOf a inputs input, resultOf a inputs' input, ?_, ?_, ?_, ?_, ?_⟩
  · rw [results_eq, List.getElem?_map, hi, Option.map_some]
  · rw [results_eq, List.getElem?_map, hj, Option.map_some]
  · rw [path_resultOf, path_resultOf]
  · intro key hkey
    simp only [resultOf, Result.enrich, NameMap.get?_union, get?_graphMetrics _ _ _ _ _ hkey, hout]
  · intro hsources hancestors
    rw [path_resultOf] at hsources hancestors
    rw [resultOf_congr rfl (Graph.fanIn_congr hsources) hout (congrArg List.length hancestors)]

/-- Without the parent of the page, the page has the same ancestors still: a parent need not be
among the templates. -/
theorem shared_input_agrees_withoutParent :
    let b := analyze (.ofSettings .default) siteInputs
    let b' := analyze (.ofSettings .default) siteInputs.tail
    b.Distinct ∧ b'.Distinct ∧ ∃ r r', b.results[1]? = some r ∧ b'.results[0]? = some r' ∧
      r.metrics = r'.metrics := by
  intro b b'
  have hdistinct : b.Distinct := distinct_iff.2 (by decide +kernel)
  have hdistinct' : b'.Distinct := distinct_iff.2 (by decide +kernel)
  have hnone : Analyzer.references (.ofSettings .default) siteInputs[0] = [] :=
    List.isEmpty_iff.1 (by decide +kernel)
  have hreferences : b.graph.references = b'.graph.references := by
    have hsplit : siteInputs = siteInputs[0] :: siteInputs.tail := rfl
    rw [references_graph, references_graph, hsplit, List.flatMap_cons, hnone]
    rfl
  obtain ⟨r, r', hr, hr', -, -, hagree⟩ := shared_input_agrees hdistinct hdistinct'
    (i := 1) (j := 0) rfl rfl
  refine ⟨hdistinct, hdistinct', r, r', hr, hr', hagree (fun s => ?_) ?_⟩
  · rw [mem_edges_graph, mem_edges_graph, hreferences]
  · unfold Parents.ofGraph
    rw [hreferences]

end Batch

end TemplateMetrics
