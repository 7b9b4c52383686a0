import Mathlib.Algebra.BigOperators.Group.Finset.Basic
import Mathlib.Data.List.Perm.Subperm
import Mathlib.Data.Set.Card
import TemplateMetrics.Proofs.CycleGroups
import TemplateMetrics.Proofs.Standing

/-!
The degrees of a graph and its edges.

Degrees are asked for in several ways: by going over the adjacency, from a table that is filled edge
by edge, as the length of a list without repetitions. All of them count the same edges, which are
listed once each and in ascending order (`Graph.pairwise_edges`). So both kinds of degrees add up to
the number of edges, and a node without any is a path that was added (`Graph.isAnalyzed_of_orphan`).
-/

namespace TemplateMetrics

/-! ### Counting -/

/-- Items are as many as their numbers under each of their names together. -/
lemma sum_countP_eq_length {α : Type*} (name : α → String) {names : List String}
    (hnodup : names.Nodup) {l : List α} (h : ∀ x ∈ l, name x ∈ names) :
    (names.map fun k => l.countP fun x => name x = k).sum = l.length := by
  have hcount : ∀ k, l.countP (fun x => name x = k) = (l.map name).count k := by
    intro k
    rw [List.count, List.countP_map]
    exact List.countP_congr fun x _ => by simp
  have hsum := Multiset.sum_count_eq_card (s := names.toFinset) (m := (l.map name : List String))
    (by simpa using h)
  simp only [hcount]
  rw [← List.sum_toFinset _ hnodup]
  simpa using hsum

namespace Graph

variable {g : Graph} {node s t : String}

/-! ### Edges -/

/-- The edges are listed by ascending source, and those of one source by ascending target. -/
lemma pairwise_edges (g : Graph) : g.edges.Pairwise (Prod.Lex (· < ·) (· < ·)) := by
  refine List.pairwise_flatMap.2 ⟨fun e _ => ?_, ?_⟩
  · refine List.pairwise_map.2 ((NameMap.pairwise_keys _).imp fun {t t'} h => ?_)
    exact .right e.1 h
  · refine g.adjacency.ascending.imp fun {e e'} h => ?_
    intro x hx y hy
    obtain ⟨t, -, rfl⟩ := List.mem_map.1 hx
    obtain ⟨t', -, rfl⟩ := List.mem_map.1 hy
    exact .left _ _ h

lemma nodup_edges (g : Graph) : g.edges.Nodup := by
  refine g.pairwise_edges.imp fun {e e'} h heq => ?_
  subst heq
  rcases Prod.lex_def.1 h with hsource | ⟨-, htarget⟩
  · exact String.lt_irrefl _ hsource
  · exact String.lt_irrefl _ htarget

/-- The edges of a graph are the references that were added to it, with their targets normalized. -/
lemma mem_edges_ops {ops : List Op} : (s, t) ∈ (build ops).edges ↔
    ∃ r, Op.reference r ∈ ops ∧ r.source = s ∧ Path.normalizeTarget r.target = t := by
  have hreference : ∀ r, r ∈ ops.filterMap Op.reference? ↔ Op.reference r ∈ ops := by
    intro r
    rw [List.mem_filterMap]
    constructor
    · rintro ⟨op, hop, hr⟩
      cases op with
      | node path => cases hr
      | reference r' =>
        obtain rfl := Option.some.inj hr
        exact hop
    · exact fun h => ⟨_, h, rfl⟩
  rw [mem_edges_build, references_build]
  simp only [hreference]

/-! ### Fan-out -/

/-- Going over the targets in turn keeps the first of each. -/
lemma targets_spec (g : Graph) (node : String) :
    (g.targets node).Nodup ∧ ∀ t, t ∈ g.targets node ↔ (node, t) ∈ g.edges := by
  -- the fold keeps a list without repetitions, of what it started with and what it has passed
  have key : ∀ (l seen : List String), seen.Nodup →
      (l.foldl (fun seen t => if seen.contains t then seen else seen ++ [t]) seen).Nodup ∧
      ∀ t, t ∈ l.foldl (fun seen t => if seen.contains t then seen else seen ++ [t]) seen ↔
        t ∈ seen ∨ t ∈ l := by
    intro l
    induction l with
    | nil => exact fun seen h => ⟨h, fun t => by simp⟩
    | cons x r ih =>
      intro seen hseen
      rw [List.foldl_cons]
      by_cases hx : x ∈ seen
      · rw [if_pos (List.contains_iff_mem.2 hx)]
        obtain ⟨hnodup, hmem⟩ := ih seen hseen
        refine ⟨hnodup, fun t => ?_⟩
        rw [hmem, List.mem_cons]
        constructor
        · exact Or.imp_right .inr
        · rintro (ht | rfl | ht)
          · exact .inl ht
          · exact .inl hx
          · exact .inr ht
      · rw [if_neg (mt List.contains_iff_mem.1 hx)]
        have hnew : (seen ++ [x]).Nodup := by
          rw [← List.concat_eq_append]
          exact hseen.concat hx
        obtain ⟨hnodup, hmem⟩ := ih _ hnew
        refine ⟨hnodup, fun t => ?_⟩
        rw [hmem, List.mem_append, List.mem_singleton, List.mem_cons, or_assoc]
  obtain ⟨hnodup, hmem⟩ := key ((g.adjacency.get? node).getD []) [] List.nodup_nil
  refine ⟨hnodup, fun t => ?_⟩
  rw [mem_edges]
  exact (hmem t).trans (or_iff_right List.not_mem_nil)

lemma countP_edges_source (g : Graph) (node : String) :
    g.edges.countP (fun e => e.1 = node) = g.fanOut node := by
  obtain ⟨hnodup, hmem⟩ := g.targets_spec node
  have hperm : (g.edges.filter fun e => e.1 = node).Perm
      ((g.targets node).map fun t => (node, t)) := by
    refine (List.perm_ext_iff_of_nodup (g.nodup_edges.filter _)
      (hnodup.map fun _ _ h => (Prod.mk.inj h).2)).2 fun e => ?_
    rw [List.mem_filter, List.mem_map, decide_eq_true_eq]
    constructor
    · rintro ⟨he, rfl⟩
      exact ⟨e.2, (hmem e.2).2 he, rfl⟩
    · rintro ⟨t, ht, rfl⟩
      exact ⟨(hmem t).1 ht, rfl⟩
  rw [List.countP_eq_length_filter, hperm.length_eq, List.length_map, fanOut]

/-! ### Nodes -/

lemma mem_nodes_iff : node ∈ g.nodes ↔ g.isAnalyzed node = true ∨ ∃ s, (s, node) ∈ g.edges := by
  constructor
  · intro h
    rw [nodes, NameSet.mem_toList_ofNames, List.mem_append, NameMap.mem_keys] at h
    refine h.imp_right fun hvalue => ?_
    obtain ⟨targets, htargets, ht⟩ := List.mem_flatten.1 hvalue
    obtain ⟨⟨s, _⟩, he, rfl⟩ := List.mem_map.1 htargets
    exact ⟨s, mem_edges.2 (exists_entry_iff.1 ⟨_, he, rfl, ht⟩)⟩
  · rintro (h | ⟨s, h⟩)
    · rw [nodes, NameSet.mem_toList_ofNames, List.mem_append, NameMap.mem_keys]
      exact .inl h
    · exact (mem_nodes_of_edge h).2

lemma nodup_nodes (g : Graph) : g.nodes.Nodup := NameMap.nodup_keys _

/-- The table of fan-ins lists the nodes in their order, each with its fan-in. -/
lemma entries_fanIns (g : Graph) : g.fanIns.entries = g.nodes.map fun n => (n, g.fanIn n) := by
  have hascending : Entries.Ascending (g.nodes.map fun n => (n, g.fanIn n)) :=
    List.pairwise_map.2 g.pairwise_nodes
  have hcontains : ∀ n, g.fanIns.contains n = true ↔ n ∈ g.nodes := by
    intro n
    rw [fanIns, Counts.contains_foldl_bump, NameMap.contains_ofList, List.map_map]
    simp only [Function.comp_def, List.map_id']
    refine or_iff_right_of_imp fun hn => ?_
    obtain ⟨⟨s, t⟩, he, rfl⟩ := List.mem_map.1 hn
    exact (mem_nodes_of_edge he).2
  refine Entries.eq_of_find?_eq g.fanIns.ascending hascending fun k => Option.ext fun v => ?_
  rw [Entries.find?_eq_some_iff hascending]
  change g.fanIns.get? k = some v ↔ _
  -- an edge leads to a node, so counting edges adds no name to the table
  have hvalue := g.getD_fanIns k
  have hk := hcontains k
  rw [NameMap.getD] at hvalue
  rw [NameMap.contains_eq_isSome] at hk
  simp only [List.mem_map, Prod.mk.injEq]
  cases hget : g.fanIns.get? k with
  | none =>
    rw [hget] at hk
    simp only [reduceCtorEq, false_iff]
    rintro ⟨n, hn, rfl, -⟩
    exact absurd (hk.2 hn) (by simp)
  | some w =>
    rw [hget] at hk hvalue
    obtain rfl : w = g.fanIn k := hvalue
    constructor
    · rintro h
      exact ⟨k, hk.1 rfl, rfl, Option.some.inj h⟩
    · rintro ⟨n, -, rfl, rfl⟩
      rfl

lemma get?_fanIns (h : node ∈ g.nodes) : g.fanIns.get? node = some (g.fanIn node) := by
  rw [← NameMap.mem_entries, entries_fanIns]
  exact List.mem_map.2 ⟨node, h, rfl⟩

lemma orphans_eq (g : Graph) :
    g.orphans = g.nodes.filter fun n => g.fanIn n = 0 ∧ g.fanOut n = 0 := by
  rw [orphans, entries_fanIns, List.filter_map, List.map_map]
  exact List.map_id _

/-- A node without edges is no target, so it was added. -/
lemma isAnalyzed_of_orphan (h : node ∈ g.orphans) : g.isAnalyzed node = true := by
  rw [orphans_eq, List.mem_filter, decide_eq_true_eq] at h
  obtain ⟨hnode, hin, -⟩ := h
  refine (mem_nodes_iff.1 hnode).resolve_right ?_
  rintro ⟨s, hs⟩
  rw [← length_sources, List.length_eq_zero_iff] at hin
  have hmem := mem_sources.2 hs
  rw [hin] at hmem
  exact absurd hmem List.not_mem_nil

lemma length_orphans_le (g : Graph) : g.orphans.length ≤ g.adjacency.size := by
  have hnodup : g.orphans.Nodup := by
    rw [orphans_eq]
    exact g.nodup_nodes.filter _
  have hsub : g.orphans ⊆ g.adjacency.keys := fun n hn =>
    NameMap.mem_keys.2 (isAnalyzed_of_orphan hn)
  have hle := (hnodup.subperm hsub).length_le
  rwa [NameMap.keys, List.length_map] at hle

/-! ### Sums -/

lemma sum_fanIn (g : Graph) : (g.nodes.map g.fanIn).sum = g.edgeCount := by
  have hsum := sum_countP_eq_length (fun e : String × String => e.2) g.nodup_nodes (l := g.edges)
    fun e he => (mem_nodes_of_edge he).2
  simp only [countP_edges_target] at hsum
  exact hsum

lemma sum_fanOut (g : Graph) : (g.nodes.map g.fanOut).sum = g.edgeCount := by
  have hsum := sum_countP_eq_length (fun e : String × String => e.1) g.nodup_nodes (l := g.edges)
    fun e he => (mem_nodes_of_edge he).1
  simp only [countP_edges_source] at hsum
  exact hsum

end Graph

/-! ### Batches -/

namespace Batch

variable {a : Analyzer} {inputs : List Input} {r : Result}

lemma mem_nodes_of_result (hr : r ∈ (analyze a inputs).results) :
    r.path ∈ (analyze a inputs).graph.nodes := by
  refine Graph.mem_nodes_iff.2 (.inl ?_)
  have hpath := List.mem_map_of_mem (f := Result.path) hr
  rw [paths_results] at hpath
  rw [Graph.isAnalyzed, graph_eq, Graph.contains_ofResults, List.map_map]
  exact hpath

lemma degrees_of_result (hr : r ∈ (analyze a inputs).results) :
    r.metrics.get? "referenced_by" = some (.nat ((analyze a inputs).graph.fanIn r.path)) ∧
    r.metrics.get? "references" = some (.nat ((analyze a inputs).graph.fanOut r.path)) ∧
    r.metrics.get? "is_orphan" =
      some (.bool (decide (r.path ∈ (analyze a inputs).graph.orphans))) := by
  have hnode := mem_nodes_of_result hr
  have horphan : r.path ∈ (analyze a inputs).graph.orphans ↔
      (analyze a inputs).graph.fanIn r.path = 0 ∧ (analyze a inputs).graph.fanOut r.path = 0 := by
    rw [Graph.orphans_eq, List.mem_filter, decide_eq_true_eq]
    exact and_iff_right hnode
  obtain ⟨input, hresult⟩ : ∃ input, r = resultOf a inputs input := by
    rw [results_eq] at hr
    obtain ⟨input, -, rfl⟩ := List.mem_map.1 hr
    exact ⟨input, rfl⟩
  simp only [horphan]
  subst hresult
  simp [resultOf, Result.enrich, graphMetrics, NameMap.ofList, Graph.getD_fanIns]

end Batch

namespace Graph

/-- **Every query of degrees counts the same edges.** The edges of a graph are the references that
were added, once each and in ascending order. A fan-in is the number of sources and a fan-out the
number of targets, whichever way they are asked for, and both add up to the number of edges. The
orphans are the nodes without edges, all of them paths that were added. The degrees among the
metrics of a batch are those of its graph. -/
theorem degrees_count_edges (ops : List Op) :
    let g := build ops
    (g.edges.Pairwise (Prod.Lex (· < ·) (· < ·)) ∧ ∀ s t, (s, t) ∈ g.edges ↔
      ∃ r, .reference r ∈ ops ∧ r.source = s ∧ Path.normalizeTarget r.target = t) ∧
    (g.nodes.Pairwise (· < ·) ∧
      ∀ n, n ∈ g.nodes ↔ n ∈ ops.map Op.source ∨ ∃ s, (s, n) ∈ g.edges) ∧
    (g.fanIns.keys = g.nodes ∧ ∀ n ∈ g.nodes,
      g.fanIns.get? n = some (g.fanIn n) ∧ g.fanIn n = {s | (s, n) ∈ g.edges}.ncard ∧
      g.fanOut n = (g.targets n).length ∧ g.fanOut n = {t | (n, t) ∈ g.edges}.ncard) ∧
    ((g.nodes.map g.fanIn).sum = g.edgeCount ∧ (g.nodes.map g.fanOut).sum = g.edgeCount) ∧
    (g.orphans = g.nodes.filter (fun n => g.fanIn n = 0 ∧ g.fanOut n = 0) ∧
      (∀ n ∈ g.orphans, g.isAnalyzed n = true) ∧ g.orphans.length ≤ g.adjacency.keys.length) ∧
    ∀ a inputs, ∀ r ∈ (Batch.analyze a inputs).results,
      r.metrics.get? "referenced_by" = some (.nat ((Batch.analyze a inputs).graph.fanIn r.path)) ∧
      r.metrics.get? "references" = some (.nat ((Batch.analyze a inputs).graph.fanOut r.path)) ∧
      r.metrics.get? "is_orphan" =
        some (.bool (decide (r.path ∈ (Batch.analyze a inputs).graph.orphans))) := by
  intro g
  refine ⟨⟨g.pairwise_edges, fun s t => mem_edges_ops⟩, ⟨g.pairwise_nodes, fun n => ?_⟩,
    ⟨?_, fun n hn => ⟨get?_fanIns hn, ?_, rfl, ?_⟩⟩, ⟨g.sum_fanIn, g.sum_fanOut⟩,
    ⟨g.orphans_eq, fun n => isAnalyzed_of_orphan, ?_⟩, fun a inputs r => Batch.degrees_of_result⟩
  · rw [mem_nodes_iff, isAnalyzed, contains_build]
  · rw [NameMap.keys, entries_fanIns, List.map_map]
    exact List.map_id _
  · rw [← length_sources]
    exact (ncard_eq_length (g.nodup_sources n) fun s => mem_sources.symm).symm
  · obtain ⟨hnodup, hmem⟩ := g.targets_spec n
    exact (ncard_eq_length hnodup fun t => (hmem t).symm).symm
  · rw [NameMap.keys, List.length_map]
    exact g.length_orphans_le

/-- A reference made twice, one to the template itself, one to a template that was never added, and
a template apart from them. -/
def tangledOps : List Op :=
  [.node "alone.twig", .reference ⟨"page.twig", "./menu.twig", .inclusion, NameMap.empty⟩,
    .reference ⟨"page.twig", "menu.twig", .embedding, NameMap.empty⟩,
    .reference ⟨"menu.twig", "menu.twig", .inclusion, NameMap.empty⟩,
    .reference ⟨"menu.twig", "gone.twig", .importing, NameMap.empty⟩]

theorem degrees_count_edges_tangled :
    let g := build tangledOps
    ("menu.twig" ∈ g.nodes ∧ g.fanIns.get? "menu.twig" = some (g.fanIn "menu.twig") ∧
      2 = {s | (s, "menu.twig") ∈ g.edges}.ncard) ∧
    ("alone.twig" ∈ g.orphans ∧ g.isAnalyzed "alone.twig" = true) ∧
    ∃ r ∈ (Batch.analyze (.ofSettings .default) [.ofContent "a.twig" ""]).results,
      r.metrics.get? "references" = some (.nat
        ((Batch.analyze (.ofSettings .default) [.ofContent "a.twig" ""]).graph.fanOut r.path)) := by
  intro g
  obtain ⟨-, -, ⟨-, hdegrees⟩, -, ⟨-, horphans, -⟩, hbatch⟩ := degrees_count_edges tangledOps
  have hmenu : "menu.twig" ∈ g.nodes := by decide +kernel
  have halone : "alone.twig" ∈ g.orphans := by decide +kernel
  have hfanIn : g.fanIn "menu.twig" = 2 := by decide +kernel
  obtain ⟨htable, hsources, -⟩ := hdegrees _ hmenu
  refine ⟨⟨hmenu, htable, hfanIn.symm.trans hsources⟩, ⟨halone, horphans _ halone⟩, ?_⟩
  have hresult : Batch.resultOf (.ofSettings .default) [.ofContent "a.twig" ""]
      (.ofContent "a.twig" "") ∈
        (Batch.analyze (.ofSettings .default) [.ofContent "a.twig" ""]).results := by
    rw [Batch.results_eq]
    exact List.mem_singleton.2 rfl
  exact ⟨_, hresult, (hbatch _ _ _ hresult).2.1⟩

end Graph

end TemplateMetrics
