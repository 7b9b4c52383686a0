import TemplateMetrics.Proofs.Accounting
import TemplateMetrics.Proofs.Degrees

/-!
Where a template stands in the graph of its batch.

In a batch whose results have different paths, the references from a path are those of the one
template that has it (`Batch.filter_references`). Its targets and its parent are then its own, and
only its fan-in and the parents further up come from other templates. These numbers are all that
the metrics from the graph look at (`Batch.graphMetrics_congr`).
-/

namespace TemplateMetrics

/-! ### Parents -/

namespace Parents

variable {p : Parents} {path : String}

/-- The parent of a path is the target of its first reference to a parent. -/
lemma get?_ofGraph (g : Graph) (path : String) :
    (ofGraph g).get? path = ((g.references.filter (·.source = path)).find?
      (·.relation = .parent)).map (Path.normalizeTarget ·.target) := by
  -- the fold keeps a parent that is known and takes the first one else
  have key : ∀ (rs : List Reference) (p : Parents),
      (rs.foldl (fun p r => if r.relation = .parent ∧ !p.contains r.source then
          p.insert r.source (Path.normalizeTarget r.target) else p) p).get? path =
        (p.get? path).or (((rs.filter (·.source = path)).find? (·.relation = .parent)).map
          (Path.normalizeTarget ·.target)) := by
    intro rs
    induction rs with
    | nil => simp
    | cons r rest ih =>
      intro p
      rw [List.foldl_cons, ih]
      by_cases hs : r.source = path
      · subst hs
        cases hp : p.get? r.source with
        | none => by_cases hr : r.relation = .parent <;> simp [hr, hp, NameMap.contains]
        | some parent => simp [hp, NameMap.contains]
      · by_cases hnew : r.relation = .parent ∧ !p.contains r.source
        · rw [if_pos hnew]
          simp [hs, Ne.symm hs]
        · rw [if_neg hnew]
          simp [hs]
  exact key g.references NameMap.empty

lemma depth_of_get? (h : p.get? path = none) : p.depth path = 0 := by
  rw [depth, ancestors, chain, h]
  rfl

end Parents

/-! ### What each result adds to the graph -/

namespace Graph

variable {results : List Result} {r : Result}

/-- The references from a path are those of the results that have it. -/
lemma filter_references_eq (results : List Result) (path : String) :
    (ofResults results).references.filter (·.source = path) =
      (results.filter (·.path = path)).flatMap fun r => Reference.ofMetrics r.path r.metrics := by
  rw [references_ofResults]
  induction results with
  | nil => rfl
  | cons r rest ih =>
    rw [List.flatMap_cons, List.filter_append, ih]
    by_cases hpath : r.path = path
    · -- what a result refers to starts at its own path
      have hown : (Reference.ofMetrics r.path r.metrics).filter (·.source = path) =
          Reference.ofMetrics r.path r.metrics :=
        List.filter_eq_self.2 fun ref href => by simp [source_of_mem_ofMetrics href, hpath]
      rw [hown, List.filter_cons_of_pos (by simpa using hpath), List.flatMap_cons]
    · have hnone : (Reference.ofMetrics r.path r.metrics).filter (·.source = path) = [] :=
        List.filter_eq_nil_iff.2 fun ref href => by simp [source_of_mem_ofMetrics href, hpath]
      rw [hnone, List.nil_append, List.filter_cons_of_neg (by simpa using hpath)]

/-- With different paths, the references from the path of a result are its own. -/
lemma filter_references_ofResults (hdistinct : (results.map (·.path)).Nodup) (hr : r ∈ results) :
    (ofResults results).references.filter (·.source = r.path) =
      Reference.ofMetrics r.path r.metrics := by
  have hmem : ∀ s, s ∈ results.filter (·.path = r.path) ↔ s ∈ [r] := by
    intro s
    rw [List.mem_filter, List.mem_singleton, decide_eq_true_eq]
    constructor
    · rintro ⟨hs, hpath⟩
      exact List.inj_on_of_nodup_map hdistinct hs hr hpath
    · rintro rfl
      exact ⟨hr, rfl⟩
  have honly : results.filter (·.path = r.path) = [r] :=
    List.perm_singleton.1 ((List.perm_ext_iff_of_nodup (hdistinct.of_map.filter _)
      (List.nodup_singleton r)).2 hmem)
  rw [filter_references_eq, honly, List.flatMap_singleton]

lemma filter_references_of_not_mem {path : String} (h : path ∉ results.map (·.path)) :
    (ofResults results).references.filter (·.source = path) = [] := by
  have hnone : results.filter (·.path = path) = [] := by
    refine List.filter_eq_nil_iff.2 fun r hr hpath => h ?_
    exact List.mem_map.2 ⟨r, hr, of_decide_eq_true hpath⟩
  rw [filter_references_eq, hnone, List.flatMap_nil]

/-- The adjacency lists the paths of the results, each with the targets of its references. -/
lemma get?_adjacency_ofResults (results : List Result) (path : String) :
    (ofResults results).adjacency.get? path = if path ∈ results.map (·.path) then
      some (((ofResults results).references.filter (·.source = path)).map
        (Path.normalizeTarget ·.target)) else none := by
  have htargets : ((ofResults results).adjacency.get? path).getD [] =
      ((ofResults results).references.filter (·.source = path)).map
        (Path.normalizeTarget ·.target) := by
    rw [ofResults_eq_build]
    exact getD_adjacency_build ..
  have hcontains := contains_ofResults results path
  rw [NameMap.contains_eq_isSome] at hcontains
  cases hpath : (ofResults results).adjacency.get? path with
  | none =>
    rw [hpath] at hcontains
    rw [if_neg fun h => absurd (hcontains.2 h) (by simp)]
  | some targets =>
    rw [hpath] at hcontains htargets
    rw [if_pos (hcontains.1 rfl), ← htargets]
    rfl

end Graph

/-! ### Batches -/

lemma Analyzer.references_of_error {a : Analyzer} {input : Input} {f : Failure}
    (h : a.analyze input = .error f) : a.references input = [] := by
  unfold references
  cases htree : a.tree input with
  | error f => rfl
  | ok root =>
    obtain ⟨source, hresult⟩ := analyze_of_tree htree
    cases hresult.symm.trans h

namespace Batch

variable {a : Analyzer} {inputs : List Input} {input : Input}

/-- The results have different paths. -/
def Distinct (b : Batch) : Prop := (b.results.map (·.path)).Nodup

lemma distinct_iff : (analyze a inputs).Distinct ↔
    (inputs.map fun i => (a.analyzeOrFallback i).1.path).Nodup := by
  rw [Distinct, paths_results]

lemma distinct_perm {inputs' : List Input} (h : (analyze a inputs).Distinct)
    (hperm : inputs.Perm inputs') : (analyze a inputs').Distinct :=
  distinct_iff.2 ((hperm.map _).nodup_iff.1 (distinct_iff.1 h))

/-- The result of an input in a batch. -/
def resultOf (a : Analyzer) (inputs : List Input) (input : Input) : Result :=
  let graph := (analyze a inputs).graph
  let own := (a.analyzeOrFallback input).1
  own.enrich (graphMetrics a.settings.classification graph (Parents.ofGraph graph) graph.fanIns own)

lemma path_resultOf (a : Analyzer) (inputs : List Input) (input : Input) :
    (resultOf a inputs input).path = (a.analyzeOrFallback input).1.path := rfl

lemma isFailure_resultOf (a : Analyzer) (inputs : List Input) (input : Input) :
    (resultOf a inputs input).isFailure = true ↔ ∃ f, a.analyze input = .error f := by
  have hsame : (resultOf a inputs input).isFailure = (a.analyzeOrFallback input).1.isFailure :=
    Result.isFailure_enrich (unmarked_graphMetrics ..)
  rw [hsame, Analyzer.isFailure_analyzeOrFallback]

lemma results_eq (a : Analyzer) (inputs : List Input) :
    (analyze a inputs).results = inputs.map (resultOf a inputs) := by
  rw [analyze, enrich, List.map_map, List.map_map]
  rfl

/-- With different paths, the references from the path of a template are those of its own tree. -/
lemma filter_references (h : (analyze a inputs).Distinct) (hi : input ∈ inputs) :
    (analyze a inputs).graph.references.filter (·.source = (a.analyzeOrFallback input).1.path) =
      a.references input := by
  have hdistinct : ((inputs.map fun i => (a.analyzeOrFallback i).1).map (·.path)).Nodup := by
    rw [List.map_map]
    exact distinct_iff.1 h
  rw [graph_eq, Graph.filter_references_ofResults hdistinct (List.mem_map_of_mem hi),
    Analyzer.ofMetrics_analyzeOrFallback]

/-- With different paths, the targets of a template are those of its own tree. -/
lemma get?_adjacency (h : (analyze a inputs).Distinct) (hi : input ∈ inputs) :
    (analyze a inputs).graph.adjacency.get? (a.analyzeOrFallback input).1.path =
      some ((a.references input).map (Path.normalizeTarget ·.target)) := by
  have hown := filter_references h hi
  rw [graph_eq] at hown ⊢
  rw [Graph.get?_adjacency_ofResults, hown,
    if_pos (List.mem_map_of_mem (List.mem_map_of_mem hi))]

lemma standing_of_failed (h : (analyze a inputs).Distinct) (hi : input ∈ inputs) {f : Failure}
    (hf : a.analyze input = .error f) :
    (analyze a inputs).graph.fanOut (a.analyzeOrFallback input).1.path = 0 ∧
      (Parents.ofGraph (analyze a inputs).graph).depth (a.analyzeOrFallback input).1.path = 0 := by
  have hnone := Analyzer.references_of_error hf
  refine ⟨Graph.fanOut_of_nil ?_, Parents.depth_of_get? ?_⟩
  · rw [get?_adjacency h hi, hnone]
    rfl
  · rw [Parents.get?_ofGraph, filter_references h hi, hnone]
    rfl

/-- The metrics from the graph depend on the degrees and the depth of the template alone. -/
lemma graphMetrics_congr (settings : ClassificationSettings) {g g' : Graph} {r : Result}
    (hin : g.fanIn r.path = g'.fanIn r.path) (hout : g.fanOut r.path = g'.fanOut r.path)
    (hdepth : (Parents.ofGraph g).depth r.path = (Parents.ofGraph g').depth r.path) :
    graphMetrics settings g (Parents.ofGraph g) g.fanIns r =
      graphMetrics settings g' (Parents.ofGraph g') g'.fanIns r := by
  unfold graphMetrics Graph.instability
  rw [Graph.getD_fanIns, Graph.getD_fanIns, hin, hout, hdepth]

/-- A template that stands in two batches alike has the same result in both. -/
lemma resultOf_congr {inputs' : List Input} {path : String}
    (hpath : (a.analyzeOrFallback input).1.path = path)
    (hin : (analyze a inputs).graph.fanIn path = (analyze a inputs').graph.fanIn path)
    (hout : (analyze a inputs).graph.fanOut path = (analyze a inputs').graph.fanOut path)
    (hdepth : (Parents.ofGraph (analyze a inputs).graph).depth path =
      (Parents.ofGraph (analyze a inputs').graph).depth path) :
    resultOf a inputs input = resultOf a inputs' input := by
  subst hpath
  unfold resultOf
  dsimp only
  rw [graphMetrics_congr _ hin hout hdepth]

end Batch

end TemplateMetrics
