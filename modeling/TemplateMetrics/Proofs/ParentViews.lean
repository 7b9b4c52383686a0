import TemplateMetrics.Proofs.Identity
import TemplateMetrics.Proofs.Independence

/-!
The parent of a template, as its metrics and as the graph have it.

The parent is told in three places. The collector keeps the first literal it meets, and its metrics
take the name of the parent and a depth from there. The graph reads the recorded references back and
takes the first to a parent. They agree because the collector keeps nothing else than the first
reference to a parent that it has recorded (`Collect.References.Tracks`), and this reference comes
from the first node of the tree that extends a template by a literal
(`Collect.References.find?_references`).
-/

namespace TemplateMetrics

open Syntax

/-! ### The first parent of a tree -/

namespace Syntax.Node

/-- `x` is the literal of the first node in document order that extends a template by a literal. -/
def FirstParent (root : Node) (x : String) : Prop :=
  ∃ before after, root.nodes = before ++ .extendsTag (.literal (.str x)) :: after ∧
    ∀ t, .extendsTag (.literal (.str t)) ∉ before

/-- The literal that a node extends. -/
def parentLiteral? : Node → Option String
  | .extendsTag target => target.strLiteral?
  | _ => none

def firstParent? (root : Node) : Option String := root.nodes.findSome? parentLiteral?

lemma parentLiteral?_eq_some_iff {n : Node} {t : String} :
    n.parentLiteral? = some t ↔ n = .extendsTag (.literal (.str t)) := by
  cases n with
  | extendsTag target => simp [parentLiteral?, strLiteral?_eq_some]
  | _ => simp [parentLiteral?]

lemma firstParent?_eq_some_iff {root : Node} {x : String} :
    root.firstParent? = some x ↔ root.FirstParent x := by
  have hnone : ∀ before : List Node, (∀ n ∈ before, n.parentLiteral? = none) ↔
      ∀ t, Node.extendsTag (.literal (.str t)) ∉ before := by
    intro before
    simp only [Option.eq_none_iff_forall_ne_some, ne_eq, parentLiteral?_eq_some_iff]
    exact ⟨fun h t ht => h _ ht t rfl, fun h n hn t ht => h t (ht ▸ hn)⟩
  rw [firstParent?, List.findSome?_eq_some_iff]
  constructor
  · rintro ⟨before, n, after, hnodes, hn, hbefore⟩
    rw [parentLiteral?_eq_some_iff] at hn
    subst hn
    exact ⟨before, after, hnodes, (hnone before).1 hbefore⟩
  · rintro ⟨before, after, hnodes, hbefore⟩
    exact ⟨before, _, after, hnodes, parentLiteral?_eq_some_iff.2 rfl, (hnone before).2 hbefore⟩

lemma firstParent?_eq_none_iff {root : Node} :
    root.firstParent? = none ↔ ¬ ∃ x, root.FirstParent x := by
  rw [Option.eq_none_iff_forall_ne_some, not_exists]
  simp only [ne_eq, firstParent?_eq_some_iff]

end Syntax.Node

/-- Of the nodes that refer to a template, those that name a parent extend it. -/
lemma Refers.parentLiteral?_eq {n : Node} {relation : Relation} {t : String}
    {metadata : NameMap Json} (h : Refers n relation t metadata) :
    n.parentLiteral? = if relation = .parent then some t else none := by
  cases h <;> rfl

/-! ### The collector -/

namespace Collect.References

/-- The parent is the target of the first reference to a parent that was recorded. -/
def Tracks (s : References) : Prop :=
  s.parent = (s.references.find? (·.relation = .parent)).map (·.target)

lemma tracks_enter (source : String) (n : Node) {s : References} (h : s.Tracks) :
    (enter source n s).Tracks := by
  have hparent : (blocksOf n s).parent = s.parent := by
    unfold blocksOf
    split
    · rfl
    · split <;> rfl
    · rfl
  unfold Tracks at h ⊢
  rw [references_enter, List.find?_append, Option.map_or, ← h]
  cases hn : ofNode? source n with
  | none => simp [enter, hn, hparent]
  | some r => by_cases hr : r.relation = .parent <;> simp [enter, hn, hparent, hr]

lemma tracks_run (path : String) (parents : Option Parents) (root : Node) :
    ((collector path parents).run start root).Tracks := by
  have key : ∀ (ns : List Node) {s : References}, s.Tracks →
      (ns.foldl (fun s n => enter path n s) s).Tracks := by
    intro ns
    induction ns with
    | nil => exact fun h => h
    | cons n r ih => exact fun h => ih (tracks_enter path n h)
  have hstart : start.Tracks := rfl
  have hrun := key root.nodes hstart
  rwa [Collector.run_of_leave (collector path parents) fun _ _ => rfl]

/-- The first reference to a parent comes from the first node that extends a literal. -/
lemma find?_references (path : String) (root : Node) :
    ((root.nodes.filterMap (ofNode? path)).find? (·.relation = .parent)).map (·.target) =
      root.firstParent? := by
  have key : ∀ ns : List Node,
      ((ns.filterMap (ofNode? path)).find? (·.relation = .parent)).map (·.target) =
        ns.findSome? Node.parentLiteral? := by
    intro ns
    induction ns with
    | nil => rfl
    | cons n r ih =>
      cases hn : ofNode? path n with
      | none =>
        -- a node that extends a literal would be a reference
        have hliteral : n.parentLiteral? = none := by
          refine Option.eq_none_iff_forall_ne_some.2 fun t ht => ?_
          rw [Node.parentLiteral?_eq_some_iff] at ht
          subst ht
          cases hn
        rw [List.filterMap_cons_none hn, List.findSome?_cons_of_isNone (by simp [hliteral]), ih]
      | some ref =>
        have hliteral := (ofNode?_eq_some_iff.1 hn).1.parentLiteral?_eq
        rw [List.filterMap_cons_some hn]
        by_cases hparent : ref.relation = .parent
        · -- the first parent by either list
          rw [if_pos hparent] at hliteral
          rw [List.find?_cons_of_pos (by simpa using hparent), Option.map_some,
            List.findSome?_cons_of_isSome (by simp [hliteral]), hliteral]
        · -- a reference of another kind is passed over by both
          rw [if_neg hparent] at hliteral
          rw [List.find?_cons_of_neg (by simpa using hparent), ih,
            List.findSome?_cons_of_isNone (by simp [hliteral])]
  exact key root.nodes

lemma parent_run (path : String) (parents : Option Parents) (root : Node) :
    ((collector path parents).run start root).parent = root.firstParent? := by
  have htracks := tracks_run path parents root
  rw [Tracks, references_run] at htracks
  rw [htracks, ← find?_references path root]
  rfl

end Collect.References

/-! ### One template -/

namespace Analyzer

variable {a : Analyzer} {input : Input} {root : Node}

/-- The metrics of a template tell the first parent of its tree, or the empty text, and a depth of
one where there is one. -/
lemma parent_of_analyze (htree : a.tree input = .ok root) :
    ∃ own, a.analyze input = .ok own ∧ own.path = Path.normalize input.path ∧
      own.metrics.get? "extends" = some (.str (root.firstParent?.getD "")) ∧
      own.metrics.get? "inheritance_depth" =
        some (.nat (if root.firstParent?.isSome then 1 else 0)) := by
  obtain ⟨source, hown⟩ := analyze_of_tree htree
  refine ⟨_, hown, rfl, ?_, ?_⟩
  · dsimp only
    refine get?_collect_of_references ?_ fun m => by simp [derived, NameMap.ofList]
    rw [← Collect.References.parent_run (Path.normalize input.path) none root]
    simp [Collect.References.metrics, NameMap.ofList]
  · dsimp only
    refine get?_collect_of_references ?_ fun m => by simp [derived, NameMap.ofList]
    rw [← Collect.References.parent_run (Path.normalize input.path) none root]
    simp [Collect.References.metrics, NameMap.ofList, Collect.References.inheritanceDepth]

end Analyzer

/-! ### A batch -/

namespace Batch

variable {a : Analyzer} {inputs : List Input} {input : Input} {root : Node}

/-- The graph has the first parent of the tree of a template, as a path. -/
lemma get?_parents (h : (analyze a inputs).Distinct) (hi : input ∈ inputs)
    (htree : a.tree input = .ok root) :
    (Parents.ofGraph (analyze a inputs).graph).get? (a.analyzeOrFallback input).1.path =
      root.firstParent?.map Path.normalizeTarget := by
  have hreferences : a.references input =
      root.nodes.filterMap (Collect.References.ofNode? (Path.normalize input.path)) := by
    rw [Analyzer.references, htree]
  rw [Parents.get?_ofGraph, filter_references h hi, hreferences,
    ← Collect.References.find?_references (Path.normalize input.path) root, Option.map_map]
  rfl

lemma get?_parents_of_failed (h : (analyze a inputs).Distinct) (hi : input ∈ inputs) {f : Failure}
    (hf : a.analyze input = .error f) :
    (Parents.ofGraph (analyze a inputs).graph).get? (a.analyzeOrFallback input).1.path = none := by
  rw [Parents.get?_ofGraph, filter_references h hi, Analyzer.references_of_error hf]
  rfl

/-- A path that no result has is the source of nothing, so it has no parent in the graph. -/
lemma get?_parents_of_not_mem {path : String}
    (hpath : path ∉ (analyze a inputs).results.map (·.path)) :
    (Parents.ofGraph (analyze a inputs).graph).get? path = none := by
  have hnone : path ∉ (inputs.map fun i => (a.analyzeOrFallback i).1).map (·.path) := by
    rwa [paths_results, ← Function.comp_def Result.path, ← List.map_map] at hpath
  rw [Parents.get?_ofGraph, graph_eq, Graph.filter_references_of_not_mem hnone]
  rfl

/-- **All views of the parent of a template agree.** Where results have different paths, the first
node in document order that extends a template by a literal decides all of them: the metric
`extends`, alone and in the batch, is its literal, the depth of the template alone is one, and the
graph leads from the template to that literal as a path. A tree without such a node has the empty
text, no depth and no parent. Neither a template that failed nor a path without a result has a
parent in the graph. -/
theorem parent_views_agree (h : (analyze a inputs).Distinct) :
    (∀ (i : Nat) (input : Input) (r : Result), inputs[i]? = some input →
      (analyze a inputs).results[i]? = some r → r.isFailure = false →
      ∃ root own, a.tree input = .ok root ∧ a.analyze input = .ok own ∧ own.path = r.path ∧
        (∀ x, root.FirstParent x →
          own.metrics.get? "extends" = some (.str x) ∧ r.metrics.get? "extends" = some (.str x) ∧
          own.metrics.get? "inheritance_depth" = some (.nat 1) ∧
          (Parents.ofGraph (analyze a inputs).graph).get? r.path =
            some (Path.normalizeTarget x)) ∧
        ((¬ ∃ x, root.FirstParent x) →
          own.metrics.get? "extends" = some (.str "") ∧ r.metrics.get? "extends" = some (.str "") ∧
          own.metrics.get? "inheritance_depth" = some (.nat 0) ∧
          (Parents.ofGraph (analyze a inputs).graph).get? r.path = none)) ∧
    (∀ r ∈ (analyze a inputs).results, r.isFailure = true →
      (Parents.ofGraph (analyze a inputs).graph).get? r.path = none) ∧
    ∀ path, path ∉ (analyze a inputs).results.map (·.path) →
      (Parents.ofGraph (analyze a inputs).graph).get? path = none := by
  refine ⟨?_, ?_, fun path => get?_parents_of_not_mem⟩
  · intro i input r hi hr hsuccess
    have hmem := List.mem_of_getElem? hi
    obtain rfl : resultOf a inputs input = r := by
      rw [results_eq, List.getElem?_map, hi] at hr
      exact Option.some.inj hr
    cases htree : a.tree input with
    | error f =>
      have hfailed := (isFailure_resultOf a inputs input).2
        ⟨f, Analyzer.analyze_of_tree_error htree⟩
      rw [hfailed] at hsuccess
      cases hsuccess
    | ok root =>
      obtain ⟨own, hown, -, hextends, hdepth⟩ := Analyzer.parent_of_analyze htree
      have hparent := get?_parents h hmem htree
      -- the batch leaves the metric as the analysis of the template alone gives it
      have hbatch : (resultOf a inputs input).metrics.get? "extends" =
          own.metrics.get? "extends" := by
        rw [get?_resultOf a inputs input (by decide) (by decide),
          Analyzer.analyzeOrFallback_of_ok hown]
      rw [← path_resultOf a inputs] at hparent
      have hpath : own.path = (resultOf a inputs input).path := by
        rw [path_resultOf, Analyzer.analyzeOrFallback_of_ok hown]
      refine ⟨root, own, rfl, hown, hpath, fun x hx => ?_, fun hx => ?_⟩
      · rw [← Node.firstParent?_eq_some_iff] at hx
        rw [hx] at hextends hdepth hparent
        exact ⟨hextends, hbatch.trans hextends, hdepth, hparent⟩
      · rw [← Node.firstParent?_eq_none_iff] at hx
        rw [hx] at hextends hdepth hparent
        exact ⟨hextends, hbatch.trans hextends, hdepth, hparent⟩
  · intro r hr hfailed
    rw [results_eq] at hr
    obtain ⟨input, hi, rfl⟩ := List.mem_map.1 hr
    obtain ⟨f, hf⟩ := (isFailure_resultOf a inputs input).1 hfailed
    rw [path_resultOf]
    exact get?_parents_of_failed h hi hf

/-- A page with a parent that is no literal, one inside a condition and a second one behind it, a
template without a parent, and one that cannot be parsed. -/
def pageInputs : List Input :=
  [.ofContent "page.twig" ("\x7b% extends layout %\x7d\x7b% if a %\x7d" ++
      "\x7b% extends './base.twig' %\x7d\x7b% endif %\x7d\x7b% extends 'other.twig' %\x7d"),
    .ofContent "plain.twig" "text", .ofContent "broken.twig" "\x7b% extends 'base.twig'"]

theorem parent_views_agree_page :
    let b := analyze (.ofSettings .default) pageInputs
    b.Distinct ∧
    (∃ r, b.results[0]? = some r ∧ r.isFailure = false ∧
      r.metrics.get? "extends" = some (.str "./base.twig") ∧
      (Parents.ofGraph b.graph).get? r.path = some (Path.normalizeTarget "./base.twig")) ∧
    (∃ r, b.results[1]? = some r ∧ r.isFailure = false ∧
      r.metrics.get? "extends" = some (.str "") ∧ (Parents.ofGraph b.graph).get? r.path = none) ∧
    (∃ r ∈ b.results, r.isFailure = true ∧ (Parents.ofGraph b.graph).get? r.path = none) ∧
    "base.twig" ∉ b.results.map (·.path) ∧ (Parents.ofGraph b.graph).get? "base.twig" = none := by
  intro b
  have hpaths : b.results.map (·.path) = pageInputs.map (·.path) := by
    have hnormal : ∀ input ∈ pageInputs, Path.normalize input.path = input.path := by decide
    rw [paths_results]
    refine List.map_congr_left fun input hi => ?_
    exact (Analyzer.path_analyzeOrFallback_iff _ input).2 (.inr (hnormal input hi))
  have hdistinct : b.Distinct := by
    rw [Distinct, hpaths]
    decide
  have hresult : ∀ {i : Nat} {input : Input}, pageInputs[i]? = some input →
      b.results[i]? = some (resultOf (.ofSettings .default) pageInputs input) := by
    intro i input hi
    rw [results_eq, List.getElem?_map, hi, Option.map_some]
  have hsuccess : ∀ input, ((Analyzer.ofSettings .default).analyze input).toBool = true →
      (resultOf (.ofSettings .default) pageInputs input).isFailure = false := by
    intro input hinput
    rw [← Bool.not_eq_true, isFailure_resultOf, Analyzer.fails_iff, hinput]
    decide
  have hpage := hsuccess pageInputs[0] (by decide +kernel)
  have hplain := hsuccess pageInputs[1] (by decide +kernel)
  have hbroken := (isFailure_resultOf (.ofSettings .default) pageInputs pageInputs[2]).2
    (Analyzer.fails_iff.2 (by decide +kernel))
  have habsent : "base.twig" ∉ b.results.map (·.path) := by
    rw [hpaths]
    decide
  obtain ⟨hviews, hfailed, hunknown⟩ := parent_views_agree hdistinct
  obtain ⟨root, own, htree, -, -, hsome, -⟩ := hviews 0 pageInputs[0] _ rfl (hresult rfl) hpage
  obtain ⟨root', own', htree', -, -, -, hnone⟩ := hviews 1 pageInputs[1] _ rfl (hresult rfl) hplain
  have hfirst : root.FirstParent "./base.twig" := by
    have hparent : ((Analyzer.ofSettings .default).tree pageInputs[0]).toOption.bind
        Node.firstParent? = some "./base.twig" := by decide +kernel
    rw [htree] at hparent
    exact Node.firstParent?_eq_some_iff.1 hparent
  have hfirst' : ¬ ∃ x, root'.FirstParent x := by
    have hparent : ((Analyzer.ofSettings .default).tree pageInputs[1]).toOption.bind
        Node.firstParent? = none := by decide +kernel
    rw [htree'] at hparent
    exact Node.firstParent?_eq_none_iff.1 hparent
  obtain ⟨-, hextends, -, hparent⟩ := hsome _ hfirst
  obtain ⟨-, hextends', -, hparent'⟩ := hnone hfirst'
  have hmem := List.mem_of_getElem? (hresult (i := 2) rfl)
  exact ⟨hdistinct, ⟨_, hresult rfl, hpage, hextends, hparent⟩,
    ⟨_, hresult rfl, hplain, hextends', hparent'⟩, ⟨_, hmem, hbroken, hfailed _ hmem hbroken⟩,
    habsent, hunknown _ habsent⟩

end Batch

end TemplateMetrics
