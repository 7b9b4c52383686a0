import Mathlib.Algebra.BigOperators.Group.List.Lemmas
import Mathlib.Data.List.Dedup
import Mathlib.Data.List.Sigma
import TemplateMetrics.Analysis.Security
import TemplateMetrics.Proofs.EdgeCounts
import TemplateMetrics.Proofs.Independence

/-!
Risky calls on their way from the trees to the report.

The collector counts the calls of a tree by name, the metrics carry the counts as objects, and the
report reads them back, keeps the names that are listed as risky and adds up their counts. Nothing
is lost or counted twice on the way: the counts of a tree are those of its nodes
(`Collect.Callables.counted_run`), they are read as they were written (`Metrics.counts_eq`), and the
findings of a template are its different risky names, each with the number of its calls
(`Security.findingsIn_perm`).
-/

namespace TemplateMetrics

open Syntax

/-! ### Counts in metrics -/

lemma Metrics.counts_eq {m : Metrics} {key : String} {c : Counts}
    (h : m.get? key = some (.ofCounts c)) : m.counts key = c := by
  have hread : (c.entries.map fun e => (e.1, Json.nat e.2)).map
      (fun e => (e.1, e.2.nat?.getD 0)) = c.entries := by
    rw [List.map_map]
    exact List.map_id _
  rw [counts, object?, h, Json.ofCounts]
  dsimp only [Option.getD_some]
  rw [hread, NameMap.ofList_entries]

/-! ### Calls in a tree -/

/-- The name that a node calls, if it is a call of the kind. -/
def Syntax.Node.called? : CallableKind → Node → Option String
  | .filter, .filterCall name _ _ => some name
  | .function, .functionCall name _ => some name
  | _, _ => none

/-- The names that the nodes of a tree call, in document order. -/
def Syntax.Node.calls (kind : CallableKind) (root : Node) : List String :=
  root.nodes.filterMap (Node.called? kind)

/-- The calls that a template makes; none if it has no tree. -/
def Analyzer.calls (a : Analyzer) (kind : CallableKind) (input : Input) : List String :=
  match a.tree input with
  | .ok root => root.calls kind
  | .error _ => []

def CallableKind.all : List CallableKind := [.filter, .function]

/-- The name of the metric that carries the calls of a kind. -/
def CallableKind.key : CallableKind → String
  | .filter => "filters"
  | .function => "functions"

namespace Collect.Callables

/-- The counts of one kind of calls. -/
def counted (s : Callables) : CallableKind → Counts
  | .filter => s.filters
  | .function => s.functions

lemma counted_enter (kind : CallableKind) (n : Node) (s : Callables) :
    (enter n s).counted kind = (n.called? kind).toList.foldl Counts.bump (s.counted kind) := by
  cases kind <;> cases n <;> rfl

lemma counted_run (kind : CallableKind) (root : Node) :
    (collector.run start root).counted kind = Counts.ofNames (root.calls kind) := by
  have key : ∀ (ns : List Node) (s : Callables),
      (ns.foldl (fun s n => enter n s) s).counted kind =
        (ns.filterMap (Node.called? kind)).foldl Counts.bump (s.counted kind) := by
    intro ns
    induction ns with
    | nil => exact fun s => rfl
    | cons n r ih =>
      intro s
      rw [List.foldl_cons, ih, counted_enter]
      cases h : n.called? kind with
      | none => rw [List.filterMap_cons_none h]; rfl
      | some name => rw [List.filterMap_cons_some h]; rfl
  rw [Collector.run_of_leave collector fun _ _ => rfl]
  refine (key root.nodes start).trans ?_
  cases kind <;> rfl

lemma get?_metrics_key (kind : CallableKind) (s : Callables) :
    s.metrics.get? kind.key = some (.ofCounts (s.counted kind)) := by
  cases kind <;> simp [metrics, NameMap.ofList, CallableKind.key, counted]

end Collect.Callables

/-- No metric of the text and none derived takes the place of the calls of a tree. -/
lemma Analyzer.get?_calls_collect (kind : CallableKind) (settings : Settings)
    (path source : String) (root : Node) (parents : Option Parents) :
    (collect settings path source root parents).get? kind.key =
      some (.ofCounts (Counts.ofNames (root.calls kind))) := by
  -- no other part of the metrics has the names of calls
  have hderived : ∀ m, (derived settings path source m).get? kind.key = none := by
    intro m
    cases kind <;> exact NameMap.get?_ofList_eq_none.2 (by simp [CallableKind.key])
  have hreferences : ∀ s, (Collect.References.metrics path parents s).get? kind.key = none := by
    intro s
    cases kind <;> exact NameMap.get?_ofList_eq_none.2 (by simp [CallableKind.key])
  have hfree : ∀ s : Collect.Variables, s.metrics.get? kind.key = none := by
    intro s
    cases kind <;> exact NameMap.get?_ofList_eq_none.2 (by simp [CallableKind.key])
  have htree : ((Collect.standard path settings parents).traverse root).metrics.get? kind.key =
      some (.ofCounts (Counts.ofNames (root.calls kind))) := by
    rw [Collect.States.standard_eq, Collect.States.traverse_watch,
      Collect.States.get?_metrics_watch, hreferences, hfree, Option.none_or, Option.none_or,
      Collect.Callables.get?_metrics_key, Option.some_or]
    change some (Json.ofCounts ((Collect.Callables.collector.run .start root).counted kind)) = _
    rw [Collect.Callables.counted_run]
  simp only [collect, NameMap.get?_union, NameMap.get?_unionKeeping, hderived, htree,
    Option.none_or, Option.some_or]

/-! ### Findings of a template -/

/-- The risky names of a kind. -/
def SecuritySettings.risks (settings : SecuritySettings) : CallableKind → NameMap Risk
  | .filter => settings.filters
  | .function => settings.functions

namespace Security

/-- The different risky names among the calls of a template, each with the number of its calls. -/
def found (path : String) (kind : CallableKind) (risks : NameMap Risk) (names : List String) :
    List Finding :=
  names.dedup.filterMap fun name =>
    (risks.get? name).map fun risk => ⟨path, name, kind, risk, names.count name⟩

/-- A template whose metrics count some calls has the findings of these calls. -/
lemma findingsIn_perm {r : Result} {kind : CallableKind} {names : List String}
    (h : r.metrics.counts kind.key = Counts.ofNames names) (risks : NameMap Risk) :
    (findingsIn r kind kind.key risks).Perm (found r.path kind risks names) := by
  have hperm := (Counts.entries_ofNames_perm names).filterMap fun e =>
    (risks.get? e.1).map fun risk => (⟨r.path, e.1, kind, risk, e.2⟩ : Finding)
  rw [List.filterMap_map] at hperm
  rw [findingsIn, h]
  exact hperm

/-- The counts of the findings of one risk add up to the number of calls with that risk. -/
lemma sum_found (path : String) (kind : CallableKind) (risks : NameMap Risk) (names : List String)
    (risk : Risk) :
    (((found path kind risks names).filter fun f => f.risk = risk).map (·.count)).sum =
      names.countP fun name => risks.get? name = some risk := by
  have key : ∀ l : List String,
      ((l.filterMap fun name => (risks.get? name).map fun risk =>
        (⟨path, name, kind, risk, names.count name⟩ : Finding)).filter
          fun f => f.risk = risk).map (·.count) =
      (l.filter fun name => risks.get? name = some risk).map fun name => names.count name := by
    intro l
    induction l with
    | nil => rfl
    | cons name r ih =>
      cases hname : risks.get? name with
      | none => simpa [hname] using ih
      | some risk' => by_cases hrisk : risk' = risk <;> simpa [hname, hrisk] using ih
  rw [found, key, List.sum_map_count_dedup_filter_eq_countP]

lemma length_found (path : String) (kind : CallableKind) (risks : NameMap Risk)
    (names : List String) :
    (found path kind risks names).length =
      (names.dedup.filter fun name => (risks.get? name).isSome).length := by
  rw [found, List.length_filterMap_eq_countP, List.countP_eq_length_filter]
  simp only [Option.isSome_map]

/-! ### Findings of a batch -/

variable {a : Analyzer} {inputs : List Input} {input : Input}

lemma counts_resultOf {root : Node} (h : a.tree input = .ok root) (inputs : List Input)
    (kind : CallableKind) :
    (Batch.resultOf a inputs input).metrics.counts kind.key =
      Counts.ofNames (root.calls kind) := by
  obtain ⟨source, hresult⟩ := Analyzer.analyze_of_tree h
  have hshared : kind.key ∉ Batch.sharedNames := by cases kind <;> decide
  have hreferences : kind.key ≠ "references" := by cases kind <;> decide
  refine Metrics.counts_eq ?_
  rw [Batch.get?_resultOf a inputs input hshared hreferences,
    Analyzer.analyzeOrFallback_of_ok hresult]
  dsimp only
  exact Analyzer.get?_calls_collect ..

/-- All findings of a template, from its calls. -/
def foundFor (settings : SecuritySettings) (a : Analyzer) (inputs : List Input) (input : Input) :
    List Finding :=
  CallableKind.all.flatMap fun kind =>
    found (Batch.resultOf a inputs input).path kind (settings.risks kind) (a.calls kind input)

lemma findingsOf_perm (settings : SecuritySettings) {root : Node} (h : a.tree input = .ok root) :
    (findingsOf settings (Batch.resultOf a inputs input)).Perm
      (foundFor settings a inputs input) := by
  have hkind : ∀ kind, (findingsIn (Batch.resultOf a inputs input) kind kind.key
      (settings.risks kind)).Perm (found (Batch.resultOf a inputs input).path kind
        (settings.risks kind) (a.calls kind input)) := by
    intro kind
    have hcalls : a.calls kind input = root.calls kind := by
      rw [Analyzer.calls, h]
    rw [hcalls]
    exact findingsIn_perm (counts_resultOf h inputs kind) (settings.risks kind)
  have hboth : foundFor settings a inputs input =
      found (Batch.resultOf a inputs input).path .filter (settings.risks .filter)
        (a.calls .filter input) ++
      found (Batch.resultOf a inputs input).path .function (settings.risks .function)
        (a.calls .function input) := by
    simp [foundFor, CallableKind.all]
  rw [hboth]
  exact (hkind .filter).append (hkind .function)

lemma findings_perm (settings : SecuritySettings) (a : Analyzer) (inputs : List Input) :
    (ofBatch settings (Batch.analyze a inputs)).findings.Perm
      (inputs.flatMap (foundFor settings a inputs)) := by
  have key : ∀ l : List Input,
      (((l.map (Batch.resultOf a inputs)).filter fun r => !r.isFailure).flatMap
        (findingsOf settings)).Perm (l.flatMap (foundFor settings a inputs)) := by
    intro l
    induction l with
    | nil => exact .refl _
    | cons input r ih =>
      rw [List.map_cons, List.flatMap_cons]
      cases htree : a.tree input with
      | ok root =>
        obtain ⟨source, hresult⟩ := Analyzer.analyze_of_tree htree
        have hok : (!(Batch.resultOf a inputs input).isFailure) = true := by
          rw [Bool.not_eq_true', ← Bool.not_eq_true, Batch.isFailure_resultOf, hresult]
          simp
        rw [List.filter_cons, if_pos hok, List.flatMap_cons]
        exact (findingsOf_perm settings htree).append ih
      | error f =>
        -- a template that failed has no calls to count
        have hfailed : ¬(!(Batch.resultOf a inputs input).isFailure) = true := by
          rw [Bool.not_eq_true', Bool.not_eq_false, Batch.isFailure_resultOf]
          exact ⟨f, Analyzer.analyze_of_tree_error htree⟩
        have hnone : foundFor settings a inputs input = [] := by
          simp [foundFor, CallableKind.all, found, Analyzer.calls, htree]
        rw [List.filter_cons, if_neg hfailed, hnone]
        exact ih
  have hsort := List.mergeSort_perm ((Batch.analyze a inputs).successful.flatMap
    (findingsOf settings)) Finding.ranksBefore
  refine hsort.trans ?_
  rw [Batch.successful, Batch.results_eq]
  exact key inputs

/-- The counts of the findings of one risk add up to the calls of that risk in all trees. -/
lemma sum_findings (settings : SecuritySettings) (a : Analyzer) (inputs : List Input)
    (risk : Risk) :
    (((ofBatch settings (Batch.analyze a inputs)).findings.filter fun f => f.risk = risk).map
      (·.count)).sum =
    (inputs.map fun input =>
      (a.calls .filter input).countP (fun name => settings.filters.get? name = some risk) +
      (a.calls .function input).countP
        fun name => settings.functions.get? name = some risk).sum := by
  have hinput : ∀ input,
      (((foundFor settings a inputs input).filter fun f => f.risk = risk).map (·.count)).sum =
      (a.calls .filter input).countP (fun name => settings.filters.get? name = some risk) +
      (a.calls .function input).countP fun name => settings.functions.get? name = some risk := by
    intro input
    simp only [foundFor, CallableKind.all, List.flatMap_cons, List.flatMap_nil, List.append_nil,
      List.filter_append, List.map_append, List.sum_append, sum_found, SecuritySettings.risks]
  rw [(((findings_perm settings a inputs).filter _).map _).sum_eq, List.filter_flatMap,
    List.map_flatMap, List.flatMap_def, List.sum_flatten, List.map_map]
  exact congrArg List.sum (List.map_congr_left fun input _ => hinput input)

/-! ### Risky names -/

/-- A name that one of the templates calls. -/
structure Occurrence where
  /-- The place of the template among the inputs. -/
  place : Nat
  kind : CallableKind
  name : String

/-- The different risky names of each template. -/
def occurrences (settings : SecuritySettings) (a : Analyzer) (inputs : List Input) :
    List Occurrence :=
  inputs.zipIdx.flatMap fun e => CallableKind.all.flatMap fun kind =>
    ((a.calls kind e.1).dedup.filter fun name => ((settings.risks kind).get? name).isSome).map
      fun name => ⟨e.2, kind, name⟩

lemma mem_occurrences {settings : SecuritySettings} {o : Occurrence} :
    o ∈ occurrences settings a inputs ↔ ∃ input, inputs[o.place]? = some input ∧
      o.name ∈ a.calls o.kind input ∧ ((settings.risks o.kind).get? o.name).isSome = true := by
  have hkind : ∀ kind, kind ∈ CallableKind.all := by
    intro kind
    cases kind <;> decide
  simp only [occurrences, List.mem_flatMap, List.mem_zipIdx_iff_getElem?, List.mem_map,
    List.mem_filter, List.mem_dedup]
  constructor
  · rintro ⟨⟨input, i⟩, hi, kind, -, name, ⟨hname, hrisk⟩, rfl⟩
    exact ⟨input, hi, hname, hrisk⟩
  · rintro ⟨input, hi, hname, hrisk⟩
    exact ⟨(input, o.place), hi, o.kind, hkind _, o.name, ⟨hname, hrisk⟩, rfl⟩

lemma nodup_occurrences (settings : SecuritySettings) (a : Analyzer) (inputs : List Input) :
    (occurrences settings a inputs).Nodup := by
  refine List.nodup_flatMap.2 ⟨fun e _ => List.nodup_flatMap.2 ⟨fun kind _ => ?_, ?_⟩, ?_⟩
  · exact ((List.nodup_dedup _).filter _).map fun _ _ h => (Occurrence.mk.inj h).2.2
  · -- one name of two kinds is two occurrences
    have hkinds : CallableKind.all.Pairwise (· ≠ ·) := by decide
    refine hkinds.imp fun {kind kind'} hne o ho ho' => ?_
    obtain ⟨name, -, rfl⟩ := List.mem_map.1 ho
    obtain ⟨name', -, heq⟩ := List.mem_map.1 ho'
    exact hne (Occurrence.mk.inj heq).2.1.symm
  · -- and so is one name in two templates, even where they have the same path
    have hplaces := List.pairwise_map.1 (List.nodup_zipIdx_map_snd inputs)
    refine hplaces.imp fun {e e'} hne o ho ho' => ?_
    obtain ⟨kind, -, ho⟩ := List.mem_flatMap.1 ho
    obtain ⟨kind', -, ho'⟩ := List.mem_flatMap.1 ho'
    obtain ⟨name, -, rfl⟩ := List.mem_map.1 ho
    obtain ⟨name', -, heq⟩ := List.mem_map.1 ho'
    exact hne (Occurrence.mk.inj heq).1.symm

lemma length_findings (settings : SecuritySettings) (a : Analyzer) (inputs : List Input) :
    (ofBatch settings (Batch.analyze a inputs)).findings.length =
      (occurrences settings a inputs).length := by
  have hfound : ∀ input, (foundFor settings a inputs input).length =
      (CallableKind.all.map fun kind => ((a.calls kind input).dedup.filter
        fun name => ((settings.risks kind).get? name).isSome).length).sum := by
    intro input
    simp only [foundFor, List.length_flatMap, length_found]
  have hplaces : ∀ f : Input → Nat, inputs.map f = inputs.zipIdx.map fun e => f e.1 := by
    intro f
    conv_lhs => rw [← List.zipIdx_map_fst 0 inputs, List.map_map]
    rfl
  rw [(findings_perm settings a inputs).length_eq, List.length_flatMap, hplaces, occurrences,
    List.length_flatMap]
  simp only [hfound, List.length_flatMap, List.length_map]

end Security

/-! ### The order of the findings -/

namespace Finding

/-- Higher risks come first, then templates and then names in ascending order. -/
def Precedes (f g : Finding) : Prop :=
  g.risk.rank < f.risk.rank ∨ f.risk = g.risk ∧
    (f.template < g.template ∨ f.template = g.template ∧ f.callable ≤ g.callable)

lemma ranksBefore_iff (f g : Finding) : ranksBefore f g = true ↔ f.Precedes g := by
  simp [ranksBefore, Precedes]

lemma Precedes.trans {f g h : Finding} (hfg : f.Precedes g) (hgh : g.Precedes h) :
    f.Precedes h := by
  rcases hfg with hrank | ⟨hrisk, htemplate⟩
  · refine .inl ?_
    rcases hgh with hrank' | ⟨hrisk', -⟩
    · exact hrank'.trans hrank
    · exact hrisk' ▸ hrank
  · rcases hgh with hrank' | ⟨hrisk', htemplate'⟩
    · exact .inl (hrisk ▸ hrank')
    · refine .inr ⟨hrisk.trans hrisk', ?_⟩
      rcases htemplate with hlt | ⟨heq, hle⟩
      · rcases htemplate' with hlt' | ⟨heq', -⟩
        · exact .inl (String.lt_trans hlt hlt')
        · exact .inl (heq' ▸ hlt)
      · rcases htemplate' with hlt' | ⟨heq', hle'⟩
        · exact .inl (heq ▸ hlt')
        · exact .inr ⟨heq.trans heq', String.le_trans hle hle'⟩

lemma Precedes.total (f g : Finding) : f.Precedes g ∨ g.Precedes f := by
  rcases Nat.lt_trichotomy f.risk.rank g.risk.rank with hlt | heq | hlt
  · exact .inr (.inl hlt)
  · have hrisk : f.risk = g.risk := by
      cases hf : f.risk <;> cases hg : g.risk <;> simp_all [Risk.rank]
    by_cases htemplate : f.template = g.template
    · rcases String.le_total f.callable g.callable with hle | hle
      · exact .inl (.inr ⟨hrisk, .inr ⟨htemplate, hle⟩⟩)
      · exact .inr (.inr ⟨hrisk.symm, .inr ⟨htemplate.symm, hle⟩⟩)
    · by_cases hlt : f.template < g.template
      · exact .inl (.inr ⟨hrisk, .inl hlt⟩)
      · exact .inr (.inr ⟨hrisk.symm, .inl (Entries.lt_of_not_lt_of_ne hlt htemplate)⟩)
  · exact .inl (.inl hlt)

end Finding

lemma Security.pairwise_findings (settings : SecuritySettings) (b : Batch) :
    (ofBatch settings b).findings.Pairwise Finding.Precedes := by
  refine (List.pairwise_mergeSort (fun f g h hfg hgh => ?_) (fun f g => ?_) _).imp fun h =>
    (Finding.ranksBefore_iff ..).1 h
  · rw [Finding.ranksBefore_iff] at hfg hgh ⊢
    exact hfg.trans hgh
  · rw [Bool.or_eq_true, Finding.ranksBefore_iff, Finding.ranksBefore_iff]
    exact Finding.Precedes.total f g

namespace Security

lemma calls_eq (s : Security) (risk : Risk) :
    s.calls risk = ((s.findings.filter fun f => f.risk = risk).map (·.count)).sum := by
  rw [calls, List.sum_eq_foldl_nat]

lemma field?_summary (s : Security) :
    s.toJson.field? "summary" = some (.ofFields [("high_risk_calls", .nat (s.calls .high)),
      ("medium_risk_calls", .nat (s.calls .medium)), ("low_risk_calls", .nat (s.calls .low)),
      ("templates_with_findings", .nat s.templatesWithFindings),
      ("total_findings", .nat s.findings.length)]) := by
  simp [toJson, NameMap.ofList]

/-- **Risky calls are neither lost nor counted twice.** For each risk the report has as many calls
as the trees have nodes that call a filter or a function listed with that risk, and so many are the
counts of its findings together. There is one finding for each risky name of a kind that occurs in a
template. The findings are in order, and the summary tells of these numbers. -/
theorem risky_calls_reported (settings : SecuritySettings) (a : Analyzer) (inputs : List Input) :
    let report := ofBatch settings (Batch.analyze a inputs)
    (∀ risk, report.calls risk = (inputs.map fun input =>
        (a.calls .filter input).countP (fun name => settings.filters.get? name = some risk) +
        (a.calls .function input).countP fun name => settings.functions.get? name = some risk).sum ∧
      ((report.findings.filter fun f => f.risk = risk).map (·.count)).sum = report.calls risk) ∧
    report.findings.length = {o : Occurrence | ∃ input, inputs[o.place]? = some input ∧
      o.name ∈ a.calls o.kind input ∧ ((settings.risks o.kind).get? o.name).isSome = true}.ncard ∧
    report.findings.Pairwise Finding.Precedes ∧
    ∃ summary, report.toJson.field? "summary" = some summary ∧
      summary.field? "high_risk_calls" = some (.nat (report.calls .high)) ∧
      summary.field? "medium_risk_calls" = some (.nat (report.calls .medium)) ∧
      summary.field? "low_risk_calls" = some (.nat (report.calls .low)) ∧
      summary.field? "total_findings" = some (.nat report.findings.length) := by
  intro report
  refine ⟨fun risk => ⟨?_, (calls_eq report risk).symm⟩, ?_, pairwise_findings settings _,
    ⟨_, field?_summary report, ?_, ?_, ?_, ?_⟩⟩
  · rw [calls_eq]
    exact sum_findings settings a inputs risk
  · refine (length_findings settings a inputs).trans (Eq.symm ?_)
    exact ncard_eq_length (nodup_occurrences settings a inputs) fun o => mem_occurrences.symm
  all_goals simp [NameMap.ofList]

end Security

end TemplateMetrics
