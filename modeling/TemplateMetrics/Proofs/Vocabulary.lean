import TemplateMetrics.Proofs.Standing

/-!
The names under which metrics are found.

Every producer of metrics writes a fixed list of names; only those of complexity may be missing, and
they are there exactly if the tree has a node of one of the `countedKinds`. The names of a template
are those of all producers together, so they are the same for all templates, failed ones included:
a failed template takes the names of the empty tree (`Analyzer.contains_fallback`). The values of a
failed template are zero, and they stay so when the metrics of the graph are added, since the
failed template refers to nothing.
-/

namespace TemplateMetrics

open Syntax

/-! ### Producers -/

namespace Collect

def Complexity.names : List String :=
  ["complexity_score", "conditions", "loops", "ternaries", "logical_operators", "tests",
    "max_depth"]

def ControlFlow.names : List String :=
  ["ifs", "fors", "blocks", "macros", "sets", "block_names", "macro_names", "unique_blocks",
    "unique_macros", "max_control_depth", "has_nested_loops", "has_complex_conditions"]

def Callables.names : List String :=
  ["functions", "filters", "test_calls", "macro_calls", "macro_definitions",
    "total_function_calls", "total_filter_calls", "unique_functions", "unique_filters"]

def Variables.names : List String :=
  ["variables", "unique_variables", "variable_references", "defined_variables"]

def References.names : List String :=
  ["extends", "dependencies", "includes", "embeds", "imports", "dependency_count",
    "provided_blocks", "used_blocks", "inheritance_depth", "top_references"]

/-- Names of the metrics that every tree has. -/
def treeNames : List String :=
  References.names ++ (Variables.names ++ (Callables.names ++ ControlFlow.names))

end Collect

def Style.names : List String :=
  ["lines", "code_lines", "blank_lines", "comment_lines", "chars", "avg_line_length",
    "max_line_length", "long_lines", "trailing_whitespace_lines", "tab_indented_lines",
    "space_indented_lines", "mixed_indentation_lines", "indentation_style", "declared_names",
    "naming_patterns", "dominant_naming_pattern", "naming_consistency"]

namespace Analyzer

def derivedNames : List String :=
  ["file", "directory", "file_size", "category", "comment_ratio", "blank_line_ratio",
    "logic_ratio", "callable_density", "complexity_rating", "size_rating"]

/-- Names of the metrics that every template has. -/
def baseNames : List String := Collect.treeNames ++ Style.names ++ derivedNames

end Analyzer

/-- Names of the metrics that a template has in a batch only. -/
def Batch.addedNames : List String :=
  ["referenced_by", "references", "instability", "architectural_role", "coupling_risk",
    "is_orphan"]

/-! ### Nodes that count for complexity -/

/-- Kinds of nodes that give a template metrics of complexity. -/
def countedKinds : List String :=
  ["if", "for", "block", "macro", "conditional", "logical", "test_expr"]

namespace Collect

namespace Complexity

lemma isCounted_iff (n : Node) : isCounted n = true ↔ n.kind ∈ countedKinds := by
  cases n <;> simp [isCounted, Node.kind, countedKinds]

lemma applicable_enter (n : Node) (s : Complexity) :
    (enter n s).applicable = (s.applicable || isCounted n) := by
  unfold enter
  by_cases hcounted : isCounted n = true
  · by_cases hnesting : isNesting n = true <;> simp [hcounted, hnesting, nest]
  · simp [hcounted]

lemma applicable_leave (n : Node) (s : Complexity) : (leave n s).applicable = s.applicable := by
  unfold leave
  split <;> rfl

/-- After a walk from the start, metrics of complexity apply if a node of the tree counts. -/
lemma applicable_run (w : ComplexityWeights) (root : Node) :
    ((collector w).run start root).applicable = true ↔ ∃ n ∈ root.nodes, n.kind ∈ countedKinds := by
  have henter : ∀ n s, ((collector w).enter n s).applicable = true ↔
      s.applicable = true ∨ n.kind ∈ countedKinds := by
    intro n s
    change (enter n s).applicable = true ↔ _
    rw [applicable_enter, Bool.or_eq_true, isCounted_iff]
  have hleave : ∀ n s, ((collector w).leave n s).applicable = true ↔
      s.applicable = true ∨ False := by
    intro n s
    change (leave n s).applicable = true ↔ _
    rw [applicable_leave, or_false]
  have hrun := (collector w).run_mark (fun s => s.applicable = true) henter hleave start root
  simpa [start] using hrun

lemma contains_metrics (w : ComplexityWeights) (s : Complexity) {key : String} :
    (s.metrics w).contains key = true ↔ s.applicable = true ∧ key ∈ names := by
  unfold metrics
  by_cases h : s.applicable = true
  · rw [if_pos h]
    exact NameMap.contains_ofList.trans (and_iff_right h).symm
  · simp [h]

end Complexity

lemma States.contains_watch (path : String) (settings : Settings) (parents : Option Parents)
    (st : States) {key : String} :
    (st.watch path settings parents).metrics.contains key = true ↔
      key ∈ treeNames ∨ st.complexity.applicable = true ∧ key ∈ Complexity.names := by
  have hcomplexity : (st.complexity.metrics settings.complexity.weights).contains key = true ↔
      st.complexity.applicable = true ∧ key ∈ Complexity.names := Complexity.contains_metrics ..
  have hcontrolFlow : st.controlFlow.metrics.contains key = true ↔ key ∈ ControlFlow.names :=
    NameMap.contains_ofList
  have hcallables : st.callables.metrics.contains key = true ↔ key ∈ Callables.names :=
    NameMap.contains_ofList
  have hfree : st.free.metrics.contains key = true ↔ key ∈ Variables.names :=
    NameMap.contains_ofList
  have hreferences : (References.metrics path parents st.references).contains key = true ↔
      key ∈ References.names := NameMap.contains_ofList
  rw [NameMap.contains_eq_isSome] at hcomplexity hcontrolFlow hcallables hfree hreferences ⊢
  rw [get?_metrics_watch]
  simp only [Option.isSome_or, Bool.or_eq_true, hcomplexity, hcontrolFlow, hcallables, hfree,
    hreferences, treeNames, List.mem_append, or_assoc]

lemma contains_standard (path : String) (settings : Settings) (parents : Option Parents)
    (root : Node) {key : String} :
    ((standard path settings parents).traverse root).metrics.contains key = true ↔
      key ∈ treeNames ∨ (∃ n ∈ root.nodes, n.kind ∈ countedKinds) ∧ key ∈ Complexity.names := by
  rw [States.standard_eq, States.traverse_watch, States.contains_watch, States.through,
    ← Complexity.applicable_run settings.complexity.weights]
  rfl

end Collect

/-! ### Templates -/

namespace Analyzer

lemma contains_collect (settings : Settings) (path source : String) (root : Node)
    (parents : Option Parents) {key : String} :
    (collect settings path source root parents).contains key = true ↔
      key ∈ baseNames ∨
        (∃ n ∈ root.nodes, n.kind ∈ countedKinds) ∧ key ∈ Collect.Complexity.names := by
  have htext : (Style.metrics settings.maxLineLength source).contains key = true ↔
      key ∈ Style.names := NameMap.contains_ofList
  have hderived : ∀ m, (derived settings path source m).contains key = true ↔
      key ∈ derivedNames := fun m => NameMap.contains_ofList
  unfold collect
  rw [NameMap.contains_union, NameMap.contains_unionKeeping, Collect.contains_standard, htext,
    hderived, baseNames, List.mem_append, List.mem_append]
  exact (or_congr_left or_right_comm).trans or_right_comm

/-- A failed template has the names of every template, and one more. -/
lemma contains_fallback (a : Analyzer) (path : String) (f : Failure) {key : String} :
    (a.fallback path f).metrics.contains key = true ↔ key ∈ baseNames ∨ key = "analysis_error" := by
  -- the tree of a failed template is empty, so nothing counts
  have hnone : ¬∃ n ∈ (Node.template []).nodes, n.kind ∈ countedKinds := by
    rw [Node.nodes_eq]
    decide
  have hset : ∀ k ∈ ["file", "directory", "category", "complexity_rating", "size_rating",
      "analysis_error"], k ∈ baseNames ∨ k = "analysis_error" := by decide
  unfold fallback
  rw [NameMap.contains_union, NameMap.contains_map, contains_collect, NameMap.contains_ofList]
  simp only [hnone, false_and, or_false]
  constructor
  · rintro (hkey | hkey)
    · exact .inl hkey
    · exact hset key hkey
  · rintro (hkey | rfl)
    · exact .inl hkey
    · exact .inr (by simp)

end Analyzer

/-! ### Zeros -/

/-- If this is a number, it is zero. -/
def Json.ZeroIfNumber : Json → Prop
  | .int n => n = 0
  | .float x => (x == 0) = true
  | _ => True

/-- If this is a truth value, it is false. -/
def Json.FalseIfBool : Json → Prop
  | .bool b => b = false
  | _ => True

lemma Json.zeroIfNumber_ofFloat {x : Float} (h : (x == 0) = true) : (ofFloat x).ZeroIfNumber := by
  unfold ofFloat
  split
  · exact h
  · trivial

section Rounding

open Float.Model

/-- A zero divided by any float is a zero, of either sign, or no number. -/
lemma zero_div_float (y : Float) : Float.ofNat 0 / y = 0.0 ∨ Float.ofNat 0 / y = -0.0 ∨
    Float.ofNat 0 / y = 0.0 / 0.0 := by
  have hzero : (Float.ofNat 0).toModel.unpack = .zero .positive := by
    have hpack : (Float.ofNat 0).toModel = pack (.zero .positive) := by decide +kernel
    rw [hpack]
    rfl
  have hdiv : Float.ofNat 0 / y =
      .ofModel (pack (.div .binary64 (.zero .positive) y.toModel.unpack)) := by
    rw [← hzero]
    rfl
  rw [hdiv]
  -- the quotient is decided by what kind of number the divisor is
  cases y.toModel.unpack with
  | notANumber => exact .inr (.inr (by decide +kernel))
  | zero s => exact .inr (.inr (by cases s <;> decide +kernel))
  | infinity s => cases s <;> decide +kernel
  | finite s m e hm =>
    have hquotient : UnpackedFloat.div .binary64 (.zero .positive) (.finite s m e hm) =
        .zero (.positive / s) := rfl
    rw [hquotient]
    cases s <;> decide +kernel

/-- The share of outgoing edges is zero where there are none, also when it is rounded. -/
lemma roundTo_instabilityOf (fanIn : Nat) :
    (Scalar.roundTo 4 (Graph.instabilityOf fanIn 0) == 0) = true := by
  unfold Graph.instabilityOf
  split
  · decide +kernel
  · rcases zero_div_float (Float.ofNat (fanIn + 0)) with h | h | h
    all_goals
      rw [h]
      decide +kernel

end Rounding

namespace Analyzer

lemma zeroed_spec (j : Json) : (zeroed j).ZeroIfNumber ∧ (zeroed j).FalseIfBool := by
  cases j <;> simp [zeroed, Json.ZeroIfNumber, Json.FalseIfBool]

/-- A failed template has no number but zero and no truth value but `false`. -/
lemma zero_of_fallback {a : Analyzer} {path : String} {f : Failure} {key : String} {value : Json}
    (h : (a.fallback path f).metrics.get? key = some value) :
    value.ZeroIfNumber ∧ value.FalseIfBool := by
  unfold fallback at h
  rw [NameMap.get?_union, Option.or_eq_some_iff] at h
  rcases h with h | ⟨-, h⟩
  · -- what is set on top of the zeroed metrics are texts
    have htext : ∃ s, value = .str s := by
      have hmem := NameMap.mem_of_get?_ofList h
      simp only [List.mem_cons, Prod.mk.injEq, List.not_mem_nil, or_false] at hmem
      rcases hmem with ⟨-, rfl⟩ | ⟨-, rfl⟩ | ⟨-, rfl⟩ | ⟨-, rfl⟩ | ⟨-, rfl⟩ | ⟨-, rfl⟩
      all_goals exact ⟨_, rfl⟩
    obtain ⟨s, rfl⟩ := htext
    exact ⟨trivial, trivial⟩
  · rw [NameMap.get?_map, Option.map_eq_some_iff] at h
    obtain ⟨j, -, rfl⟩ := h
    exact zeroed_spec j

end Analyzer

namespace Batch

lemma contains_graphMetrics (settings : ClassificationSettings) (g : Graph) (parents : Parents)
    (fanIns : Counts) (r : Result) {key : String} :
    (graphMetrics settings g parents fanIns r).contains key = true ↔
      key = "inheritance_depth" ∨ key ∈ addedNames := by
  unfold graphMetrics
  simp only [NameMap.contains_insert, Bool.or_eq_true, decide_eq_true_eq, NameMap.contains_ofList,
    List.map_cons, List.map_nil, addedNames, List.mem_cons, List.not_mem_nil, or_false]
  grind

/-- A template that refers to nothing has no number but its fan-in from the graph. -/
lemma zero_of_graphMetrics {settings : ClassificationSettings} {g : Graph} {parents : Parents}
    {fanIns : Counts} {r : Result} (hout : g.fanOut r.path = 0) (hdepth : parents.depth r.path = 0)
    {key : String} {value : Json} (hkey : key ≠ "referenced_by")
    (h : (graphMetrics settings g parents fanIns r).get? key = some value) :
    value.ZeroIfNumber := by
  have hshare := Json.zeroIfNumber_ofFloat (roundTo_instabilityOf (g.fanIn r.path))
  unfold graphMetrics Graph.instability at h
  dsimp only at h
  rw [hout, hdepth, NameMap.get?_insert, NameMap.get?_insert] at h
  split at h
  · obtain rfl := Option.some.inj h
    trivial
  split at h
  · obtain rfl := Option.some.inj h
    trivial
  have hmem := NameMap.mem_of_get?_ofList h
  simp only [List.mem_cons, Prod.mk.injEq, hkey, false_and, false_or, List.not_mem_nil,
    or_false] at hmem
  rcases hmem with ⟨-, rfl⟩ | ⟨-, rfl⟩ | ⟨-, rfl⟩ | ⟨-, rfl⟩
  · rfl
  · exact hshare
  · rfl
  · trivial

lemma contains_base (a : Analyzer) (input : Input) {key : String}
    (hkey : key ∈ Analyzer.baseNames) :
    (a.analyzeOrFallback input).1.metrics.contains key = true := by
  cases htree : a.tree input with
  | error f =>
    rw [Analyzer.analyzeOrFallback_of_error (Analyzer.analyze_of_tree_error htree)]
    exact (a.contains_fallback input.path f).2 (.inl hkey)
  | ok root =>
    obtain ⟨source, hresult⟩ := Analyzer.analyze_of_tree htree
    rw [Analyzer.analyzeOrFallback_of_ok hresult]
    dsimp only
    exact (Analyzer.contains_collect ..).2 (.inl hkey)

lemma contains_resultOf (a : Analyzer) (inputs : List Input) (input : Input) {key : String} :
    (resultOf a inputs input).metrics.contains key = true ↔
      (a.analyzeOrFallback input).1.metrics.contains key = true ∨ key ∈ addedNames := by
  unfold resultOf Result.enrich
  dsimp only
  rw [NameMap.contains_union, contains_graphMetrics, ← or_assoc]
  -- the depth is replaced, not added
  refine or_congr_left (or_iff_left_of_imp ?_)
  rintro rfl
  exact contains_base a input (by decide)

/-- A failed template has no number in a batch but its fan-in. -/
lemma zero_of_resultOf {a : Analyzer} {inputs : List Input} (h : (analyze a inputs).Distinct)
    {input : Input} (hi : input ∈ inputs) {f : Failure} (hf : a.analyze input = .error f)
    {key : String} {value : Json} (hkey : key ≠ "referenced_by")
    (hvalue : (resultOf a inputs input).metrics.get? key = some value) : value.ZeroIfNumber := by
  obtain ⟨hout, hdepth⟩ := standing_of_failed h hi hf
  unfold resultOf Result.enrich at hvalue
  dsimp only at hvalue
  rw [NameMap.get?_union, Option.or_eq_some_iff] at hvalue
  rcases hvalue with hgraph | ⟨-, hown⟩
  · exact zero_of_graphMetrics hout hdepth hkey hgraph
  · rw [Analyzer.analyzeOrFallback_of_error hf] at hown
    exact (Analyzer.zero_of_fallback hown).1

/-- **The names of metrics are fixed.** Every template that can be analyzed has the names of
`Analyzer.baseNames`, and those of complexity exactly if one of its nodes counts for it. Every
failed template has the base names and its mark, with no number but zero, no truth value but `false`
and a category of its own. In a batch every result gets the names of `addedNames` as well, and a
failed one has still no number but zero, its fan-in apart. -/
theorem vocabulary_fixed (a : Analyzer) :
    (Analyzer.baseNames ++ Collect.Complexity.names ++ "analysis_error" :: addedNames).Nodup ∧
    (∀ path source parents root, a.parse (Path.normalize path) source = .ok root →
      ∃ r, a.analyzeSource path source parents = .ok r ∧ ∀ key, key ∈ r.metrics.keys ↔
        key ∈ Analyzer.baseNames ∨
          (∃ n ∈ root.nodes, n.kind ∈ countedKinds) ∧ key ∈ Collect.Complexity.names) ∧
    (∀ path f,
      (∀ key, key ∈ (a.fallback path f).metrics.keys ↔
        key ∈ Analyzer.baseNames ∨ key = "analysis_error") ∧
      (∀ key value, (a.fallback path f).metrics.get? key = some value →
        value.ZeroIfNumber ∧ value.FalseIfBool) ∧
      (a.fallback path f).metrics.get? "category" = some (.str "error")) ∧
    ∀ inputs, (analyze a inputs).Distinct →
      List.Forall₂ (fun input r =>
        (∀ key, key ∈ r.metrics.keys ↔
          key ∈ (a.analyzeOrFallback input).1.metrics.keys ∨ key ∈ addedNames) ∧
        ∀ f, a.analyze input = .error f → ∀ key value, key ≠ "referenced_by" →
          r.metrics.get? key = some value → value.ZeroIfNumber)
        inputs (analyze a inputs).results := by
  refine ⟨by decide +kernel, ?_, ?_, ?_⟩
  · intro path source parents root hroot
    refine ⟨⟨Path.normalize path,
      Analyzer.collect a.settings (Path.normalize path) source root parents⟩, ?_, fun key => ?_⟩
    · unfold Analyzer.analyzeSource
      dsimp only
      rw [hroot]
      rfl
    · rw [NameMap.mem_keys, Analyzer.contains_collect]
  · intro path f
    refine ⟨fun key => ?_, fun key value => Analyzer.zero_of_fallback, ?_⟩
    · rw [NameMap.mem_keys, Analyzer.contains_fallback]
    · simp [Analyzer.fallback, NameMap.ofList]
  · intro inputs hdistinct
    rw [results_eq, List.forall₂_map_right_iff, List.forall₂_same]
    intro input hi
    refine ⟨fun key => ?_, fun f hf key value => zero_of_resultOf hdistinct hi hf⟩
    rw [NameMap.mem_keys, NameMap.mem_keys, contains_resultOf]

theorem vocabulary_fixed_brokenTarget :
    let a := Analyzer.ofSettings .default
    let text := "\x7b% if a %\x7d\x7b% include 'broken.twig' %\x7d\x7b% endif %\x7d"
    let b := analyze a [.ofContent "broken.twig" "\x7b% if", .ofContent "page.twig" text]
    (∃ root, a.parse (Path.normalize "page.twig") text = .ok root ∧
      ∃ r, a.analyzeSource "page.twig" text none = .ok r ∧ "max_depth" ∈ r.metrics.keys) ∧
    b.Distinct ∧ ∃ r, b.results[0]? = some r ∧ "instability" ∈ r.metrics.keys ∧
      ∀ value, r.metrics.get? "instability" = some value → value.ZeroIfNumber := by
  intro a text b
  obtain ⟨-, hanalyzed, -, hbatch⟩ := vocabulary_fixed a
  have hdistinct : b.Distinct := distinct_iff.2 (by decide +kernel)
  obtain ⟨f, hf⟩ : ∃ f, a.analyze (.ofContent "broken.twig" "\x7b% if") = .error f :=
    Analyzer.fails_iff.2 (by decide +kernel)
  obtain ⟨r, rest, ⟨hnames, hzero⟩, -, hresults⟩ :=
    List.forall₂_cons_left_iff.1 (hbatch _ hdistinct)
  refine ⟨?_, hdistinct, r, ?_, (hnames _).2 (.inr (by decide)), fun value => ?_⟩
  · have hcounted : (a.parse (Path.normalize "page.twig") text).toOption.any
        (·.nodes.any (·.kind ∈ countedKinds)) = true := by decide +kernel
    cases hroot : a.parse (Path.normalize "page.twig") text with
    | error f =>
      rw [hroot] at hcounted
      cases hcounted
    | ok root =>
      rw [hroot] at hcounted
      obtain ⟨n, hn, hkind⟩ := List.any_eq_true.1 hcounted
      obtain ⟨r, hr, hkeys⟩ := hanalyzed _ _ none root hroot
      exact ⟨root, rfl, r, hr, (hkeys _).2 (.inr ⟨⟨n, hn, of_decide_eq_true hkind⟩, by decide⟩)⟩
  · rw [hresults]
    rfl
  · exact hzero f hf "instability" value (by decide)

end Batch

end TemplateMetrics
