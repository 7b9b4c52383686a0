import Mathlib.Data.List.Forall2
import TemplateMetrics.Proofs.References

/-!
What a batch says of its inputs.

A failed template is known by one metric, `analysis_error`, and by a record in a list of its own.
The two views agree because the metric is written in one place only: no metric of a tree or a text
has its name, and none that is added from the graph.
-/

namespace TemplateMetrics

/-! ### The mark of a failure -/

/-- Metrics that carry no mark of a failure. -/
def Metrics.Unmarked (m : Metrics) : Prop := m.get? "analysis_error" = none

namespace Metrics.Unmarked

lemma empty : Unmarked NameMap.empty := rfl

/-- The names of metrics are written out, so it can be read off them. -/
lemma ofList {l : List (String × Json)} (h : "analysis_error" ∉ l.map (·.1)) :
    Unmarked (NameMap.ofList l) :=
  NameMap.get?_ofList_eq_none.2 h

lemma insert {m : Metrics} (h : m.Unmarked) {key : String} (hkey : "analysis_error" ≠ key)
    (value : Json) : Unmarked (m.insert key value) := by
  rw [Unmarked, NameMap.get?_insert, if_neg hkey, h]

lemma union {a b : Metrics} (ha : a.Unmarked) (hb : b.Unmarked) : Unmarked (a.union b) := by
  rw [Unmarked, NameMap.get?_union, ha, hb, Option.none_or]

lemma unionKeeping {a b : Metrics} (ha : a.Unmarked) (hb : b.Unmarked) :
    Unmarked (a.unionKeeping b) := by
  rw [Unmarked, NameMap.get?_unionKeeping, ha, hb, Option.none_or]

end Metrics.Unmarked

/-- More metrics leave the mark of a failure as it is. -/
lemma Result.get?_enrich {r : Result} {extra : Metrics} (h : extra.Unmarked) :
    (r.enrich extra).metrics.get? "analysis_error" = r.metrics.get? "analysis_error" := by
  rw [Result.enrich, NameMap.get?_union, h, Option.none_or]

lemma Result.isFailure_enrich {r : Result} {extra : Metrics} (h : extra.Unmarked) :
    (r.enrich extra).isFailure = r.isFailure := by
  rw [isFailure, isFailure, NameMap.contains, NameMap.contains, get?_enrich h]

/-! ### One template -/

namespace Collect

lemma Complexity.unmarked (w : ComplexityWeights) (s : Complexity) : (s.metrics w).Unmarked := by
  unfold metrics
  split
  · exact .ofList (by simp)
  · exact .empty

lemma States.unmarked_watch (path : String) (settings : Settings) (parents : Option Parents)
    (st : States) : (st.watch path settings parents).metrics.Unmarked := by
  have hcontrolFlow : st.controlFlow.metrics.Unmarked := .ofList (by simp)
  have hcallables : st.callables.metrics.Unmarked := .ofList (by simp)
  have hfree : st.free.metrics.Unmarked := .ofList (by simp)
  have hreferences : (References.metrics path parents st.references).Unmarked := .ofList (by simp)
  rw [Metrics.Unmarked, get?_metrics_watch, hreferences, hfree, hcallables, hcontrolFlow,
    Complexity.unmarked _ st.complexity]
  rfl

end Collect

namespace Analyzer

variable {a : Analyzer} {input : Input} {r : Result} {f : Failure}

lemma unmarked_collect (settings : Settings) (path source : String) (root : Syntax.Node)
    (parents : Option Parents) : (collect settings path source root parents).Unmarked := by
  have htree : ((Collect.standard path settings parents).traverse root).metrics.Unmarked := by
    rw [Collect.States.standard_eq, Collect.States.traverse_watch]
    exact Collect.States.unmarked_watch ..
  have htext : (Style.metrics settings.maxLineLength source).Unmarked := .ofList (by simp)
  have hderived : ∀ m, (derived settings path source m).Unmarked := fun m => .ofList (by simp)
  unfold collect
  exact (htree.unionKeeping htext).union (hderived _)

lemma unmarked_of_analyze (h : a.analyze input = .ok r) : r.metrics.Unmarked := by
  cases htree : a.tree input with
  | error f =>
    rw [analyze_of_tree_error htree] at h
    cases h
  | ok root =>
    obtain ⟨source, hresult⟩ := analyze_of_tree htree
    obtain rfl := Except.ok.inj (hresult.symm.trans h)
    dsimp only
    exact unmarked_collect ..

lemma get?_fallback (a : Analyzer) (path : String) (f : Failure) :
    (a.fallback path f).metrics.get? "analysis_error" = some (.str f.text) := by
  simp [fallback, NameMap.ofList]

lemma analyzeOrFallback_of_ok (h : a.analyze input = .ok r) :
    a.analyzeOrFallback input = (r, none) := by
  rw [analyzeOrFallback, h]

lemma analyzeOrFallback_of_error (h : a.analyze input = .error f) :
    a.analyzeOrFallback input =
      (a.fallback input.path f, some (.ofFailure input.path f)) := by
  rw [analyzeOrFallback, h]

lemma fails_iff : (∃ f, a.analyze input = .error f) ↔ (a.analyze input).toBool = false := by
  cases a.analyze input <;> simp [Except.toBool]

/-- A result is marked exactly where the analysis fails. -/
lemma isFailure_analyzeOrFallback (a : Analyzer) (input : Input) :
    (a.analyzeOrFallback input).1.isFailure = true ↔ ∃ f, a.analyze input = .error f := by
  cases h : a.analyze input with
  | ok r =>
    have hunmarked : r.metrics.get? "analysis_error" = none := unmarked_of_analyze h
    rw [analyzeOrFallback_of_ok h]
    simp [Result.isFailure, NameMap.contains, hunmarked]
  | error f =>
    rw [analyzeOrFallback_of_error h]
    simp [Result.isFailure, NameMap.contains, get?_fallback]

/-- With the parser of this library a template fails by reading only where there is no text. -/
lemma isReadFailure_iff (hparse : a.parse = parseTemplate) (h : a.analyze input = .error f) :
    f.isReadFailure = true ↔ ∃ f', input.source = .error f' := by
  cases hsource : input.source with
  | error f' =>
    -- without a text there is nothing to parse, and the failure of reading is the only one
    have hf : a.analyze input = .error f' := by rw [analyze, hsource]; rfl
    obtain rfl := Except.error.inj (hf.symm.trans h)
    exact iff_of_true (input.unread f' hsource) ⟨f', rfl⟩
  | ok source =>
    -- with a text, what can fail is the syntax
    refine iff_of_false (fun hread => ?_) (by simp)
    rw [analyze, hsource] at h
    change (a.parse (Path.normalize input.path) source >>= _) = _ at h
    rw [hparse, parseTemplate] at h
    cases hp : Syntax.parse source with
    | ok root =>
      rw [hp] at h
      cases h
    | error e =>
      rw [hp] at h
      obtain rfl := Except.error.inj h
      cases hread

end Analyzer

/-! ### The batch -/

/-- A result that stands for an input in a batch. -/
structure Result.StandsFor (a : Analyzer) (input : Input) (r : Result) : Prop where
  enriched : ∃ extra, r = (a.analyzeOrFallback input).1.enrich extra
  failure : r.isFailure = true ↔ ∃ f, a.analyze input = .error f
  message : ∀ f, a.analyze input = .error f →
    r.metrics.get? "analysis_error" = some (.str f.text)
  /-- The graph makes no failure a success, and no success a failure. -/
  unchanged : r.isFailure = (a.analyzeOrFallback input).1.isFailure

lemma Result.standsFor_enrich (a : Analyzer) (input : Input) {extra : Metrics}
    (h : extra.Unmarked) : ((a.analyzeOrFallback input).1.enrich extra).StandsFor a input where
  enriched := ⟨extra, rfl⟩
  failure := by
    rw [isFailure_enrich h]
    exact a.isFailure_analyzeOrFallback input
  message := by
    intro f hf
    rw [get?_enrich h, Analyzer.analyzeOrFallback_of_error hf, Analyzer.get?_fallback]
  unchanged := isFailure_enrich h

/-- A record that tells why the analysis of an input failed. -/
structure ErrorRecord.TellsOf (a : Analyzer) (input : Input) (f : Failure) (e : ErrorRecord) :
    Prop where
  path : e.path = input.path
  message : e.message = f.text
  stage : e.stage = .read ↔ (∃ m, f = .io m) ∨ ∃ p, f = .notFound p
  unread : a.parse = Analyzer.parseTemplate → (e.stage = .read ↔ ∃ f', input.source = .error f')

lemma ErrorRecord.stage_ofFailure (path : String) (f : Failure) :
    (ofFailure path f).stage = .read ↔ f.isReadFailure = true := by
  unfold ofFailure
  split <;> simp_all

lemma Failure.isReadFailure_iff (f : Failure) :
    f.isReadFailure = true ↔ (∃ m, f = .io m) ∨ ∃ p, f = .notFound p := by
  cases f <;> simp [isReadFailure]

lemma ErrorRecord.tellsOf_ofFailure {a : Analyzer} {input : Input} {f : Failure}
    (h : a.analyze input = .error f) : (ofFailure input.path f).TellsOf a input f where
  path := rfl
  message := rfl
  stage := (stage_ofFailure ..).trans f.isReadFailure_iff
  unread := fun hparse => (stage_ofFailure ..).trans (Analyzer.isReadFailure_iff hparse h)

namespace Batch

/-- The inputs that cannot be analyzed, each with its failure. -/
def failures (a : Analyzer) (inputs : List Input) : List (Input × Failure) :=
  inputs.filterMap fun input =>
    match a.analyze input with
    | .ok _ => none
    | .error f => some (input, f)

lemma unmarked_graphMetrics (settings : ClassificationSettings) (graph : Graph) (parents : Parents)
    (fanIns : Counts) (r : Result) : (graphMetrics settings graph parents fanIns r).Unmarked :=
  ((Metrics.Unmarked.ofList (by simp)).insert (by simp) _).insert (by simp) _

/-- The results stand for the inputs, one for each and in their order. -/
lemma exists_results_eq (a : Analyzer) (inputs : List Input) :
    ∃ result : Input → Result, (∀ input, (result input).StandsFor a input) ∧
      (analyze a inputs).results = inputs.map result := by
  have hmap : (analyze a inputs).results = inputs.map fun input =>
      (a.analyzeOrFallback input).1.enrich (graphMetrics a.settings.classification
        (analyze a inputs).graph (Parents.ofGraph (analyze a inputs).graph)
        (analyze a inputs).graph.fanIns (a.analyzeOrFallback input).1) := by
    rw [analyze, enrich, List.map_map, List.map_map]
    rfl
  exact ⟨_, fun input => Result.standsFor_enrich a input (unmarked_graphMetrics ..), hmap⟩

lemma errors_eq (a : Analyzer) (inputs : List Input) :
    (analyze a inputs).errors = inputs.filterMap fun input => (a.analyzeOrFallback input).2 := by
  rw [analyze, List.filterMap_map]
  rfl

/-- Two selections from one list agree where they agree on each of its items. -/
lemma forall₂_filterMap {α β γ : Type} {f : α → Option β} {g : α → Option γ} {R : β → γ → Prop}
    (h : ∀ x, Option.Rel R (f x) (g x)) (l : List α) :
    List.Forall₂ R (l.filterMap f) (l.filterMap g) := by
  have hsame : List.Forall₂ Eq l l := List.forall₂_same.2 fun _ _ => rfl
  refine List.rel_filterMap (fun x y hxy => ?_) hsame
  subst hxy
  exact h x

/-- Each failure has a record, in the order of the inputs. -/
lemma forall₂_failures (a : Analyzer) (inputs : List Input) :
    List.Forall₂ (fun failed e => e.TellsOf a failed.1 failed.2) (failures a inputs)
      (analyze a inputs).errors := by
  rw [failures, errors_eq]
  refine forall₂_filterMap (fun input => ?_) inputs
  cases h : a.analyze input with
  | ok r =>
    rw [Analyzer.analyzeOrFallback_of_ok h]
    exact .none
  | error f =>
    rw [Analyzer.analyzeOrFallback_of_error h]
    exact .some (ErrorRecord.tellsOf_ofFailure h)

/-- Each result that is marked as failed has a record with the message of the mark. -/
lemma forall₂_failed (a : Analyzer) (inputs : List Input) :
    List.Forall₂ (fun r e => r.metrics.get? "analysis_error" = some (.str e.message))
      ((analyze a inputs).results.filter Result.isFailure) (analyze a inputs).errors := by
  obtain ⟨result, hresult, hresults⟩ := exists_results_eq a inputs
  rw [hresults, errors_eq, ← List.filterMap_eq_filter, List.filterMap_map]
  refine forall₂_filterMap (fun input => ?_) inputs
  have hfailure := (hresult input).failure
  rw [Function.comp_apply, Option.guard]
  cases h : a.analyze input with
  | ok s =>
    -- neither marked nor recorded
    rw [if_neg (by simp [hfailure, h]), Analyzer.analyzeOrFallback_of_ok h]
    exact .none
  | error f =>
    -- marked, and recorded with the same message
    rw [if_pos (hfailure.2 ⟨f, h⟩), Analyzer.analyzeOrFallback_of_error h]
    exact .some ((hresult input).message f h)

lemma field?_summary (b : Batch) :
    b.toJson.field? "summary" = some (.ofFields [("templates_analyzed", .nat b.results.length),
      ("errors", .nat b.errors.length)]) := by
  simp [toJson, NameMap.ofList]

/-- **A batch accounts for every input**: there is one result for each, in their order, marked as
failed exactly where the analysis fails, and one record for each failure, in the same order and with
the same message. What is not a failure is successful. -/
theorem analyze_accounts (a : Analyzer) (inputs : List Input) :
    List.Forall₂ (fun input r => r.StandsFor a input) inputs (analyze a inputs).results ∧
    List.Forall₂ (fun failed e => e.TellsOf a failed.1 failed.2) (failures a inputs)
      (analyze a inputs).errors ∧
    List.Forall₂ (fun r e => r.metrics.get? "analysis_error" = some (.str e.message))
      ((analyze a inputs).results.filter Result.isFailure) (analyze a inputs).errors ∧
    (∃ summary, (analyze a inputs).toJson.field? "summary" = some summary ∧
      summary.field? "templates_analyzed" = some (.nat (analyze a inputs).results.length) ∧
      summary.field? "errors" = some (.nat (analyze a inputs).errors.length)) ∧
    (analyze a inputs).successful.length + (analyze a inputs).errors.length =
      (analyze a inputs).results.length := by
  refine ⟨?_, forall₂_failures a inputs, forall₂_failed a inputs, ⟨_, field?_summary _, ?_, ?_⟩, ?_⟩
  · obtain ⟨result, hresult, hresults⟩ := exists_results_eq a inputs
    rw [hresults, List.forall₂_map_right_iff, List.forall₂_same]
    exact fun input _ => hresult input
  · simp [NameMap.ofList]
  · simp [NameMap.ofList]
  · -- as many results are marked as there are records
    have hsplit := List.length_eq_length_filter_add (l := (analyze a inputs).results)
      Result.isFailure
    have hfailed := (forall₂_failed a inputs).length_eq
    rw [successful]
    omega

end Batch

end TemplateMetrics
