import TemplateMetrics.Analysis.Coupling
import TemplateMetrics.Proofs.EdgeCounts

/-!
What the answers of a graph depend on.

A graph keeps its references in the order they were added, with repetitions. No query sees this:
nodes, edges and successors are listed once each and in ascending order, so their sets decide them,
and every other query is computed from these lists. That holds of the depth-first search too, whose
count depends on the order in which it follows the edges. So graphs with the same sources and the
same edges give the same answers (`Graph.Alike`), however they were built.
-/

namespace TemplateMetrics

/-- Sets with the same names are equal. -/
lemma NameSet.ext_contains {s s' : NameSet}
    (h : ∀ name, s.contains name = true ↔ s'.contains name = true) : s = s' := by
  refine NameMap.ext_get? fun name => ?_
  have hname := h name
  rw [NameMap.contains_eq_isSome, NameMap.contains_eq_isSome] at hname
  cases hs : s.get? name <;> cases hs' : s'.get? name <;> simp_all

/-- A set of names does not depend on the order and the repetitions of the list it is made of. -/
lemma NameSet.ofNames_congr {names names' : List String}
    (h : ∀ name, name ∈ names ↔ name ∈ names') : ofNames names = ofNames names' := by
  refine ext_contains fun name => ?_
  rw [contains_ofNames, contains_ofNames, h]

namespace Graph

/-- Graphs with the same sources and the same edges. -/
structure Alike (g g' : Graph) : Prop where
  isAnalyzed : ∀ path, g.isAnalyzed path = true ↔ g'.isAnalyzed path = true
  mem_edges : ∀ s t, (s, t) ∈ g.edges ↔ (s, t) ∈ g'.edges

namespace Alike

variable {g g' : Graph} (h : g.Alike g')
include h

/-! ### Lists in ascending order -/

lemma edges_eq : g.edges = g'.edges := by
  have hperm : g.edges.Perm g'.edges := by
    refine (List.perm_ext_iff_of_nodup g.nodup_edges g'.nodup_edges).2 ?_
    rintro ⟨s, t⟩
    exact h.mem_edges s t
  refine hperm.eq_of_pairwise (fun e e' _ _ hlt hgt => ?_) g.pairwise_edges g'.pairwise_edges
  -- an edge before and behind another would be before itself
  rcases Prod.lex_def.1 hlt with hs | ⟨hs, ht⟩ <;> rcases Prod.lex_def.1 hgt with hs' | ⟨hs', ht'⟩
  · exact absurd (String.lt_trans hs hs') (String.lt_irrefl _)
  · exact absurd hs (hs' ▸ String.lt_irrefl _)
  · exact absurd hs' (hs ▸ String.lt_irrefl _)
  · exact absurd (String.lt_trans ht ht') (String.lt_irrefl _)

lemma nodes_eq : g.nodes = g'.nodes := by
  refine congrArg NameSet.toList (NameSet.ofNames_congr fun node => ?_)
  have hnode : node ∈ g.nodes ↔ node ∈ g'.nodes := by
    simp only [mem_nodes_iff, h.isAnalyzed, h.mem_edges]
  rwa [nodes, nodes, NameSet.mem_toList_ofNames, NameSet.mem_toList_ofNames] at hnode

lemma successors_eq : g.successors = g'.successors := by
  funext source
  refine congrArg NameSet.toList (NameSet.ofNames_congr fun t => ?_)
  have ht := h.mem_edges source t
  rwa [Graph.mem_edges, Graph.mem_edges] at ht

/-! ### Degrees -/

lemma fanOut_eq : g.fanOut = g'.fanOut := by
  funext node
  rw [← countP_edges_source, ← countP_edges_source, h.edges_eq]

lemma edgeCount_eq : g.edgeCount = g'.edgeCount := by
  rw [edgeCount, edgeCount, h.edges_eq]

lemma fanIns_eq : g.fanIns = g'.fanIns := by
  rw [fanIns, fanIns, h.edges_eq, h.nodes_eq]

lemma orphans_eq : g.orphans = g'.orphans := by
  rw [orphans, orphans, h.fanIns_eq, h.fanOut_eq]

lemma meanInstability_eq : g.meanInstability = g'.meanInstability := by
  rw [meanInstability, meanInstability, h.fanIns_eq, h.fanOut_eq]

/-! ### Cycles -/

/-- The search starts from the nodes and follows the successors in the order they are listed. -/
lemma backEdgeCount_eq : g.backEdgeCount = g'.backEdgeCount := by
  rw [backEdgeCount, backEdgeCount, h.nodes_eq, h.successors_eq]

lemma reachable_eq : g.reachable = g'.reachable := by
  funext node
  rw [reachable, reachable, h.successors_eq, h.edgeCount_eq]

lemma components_eq : g.components = g'.components := by
  rw [components, components, h.nodes_eq, h.reachable_eq]

lemma isCyclic_eq : g.isCyclic = g'.isCyclic := by
  funext component
  rw [isCyclic, isCyclic, h.successors_eq]

lemma cycleGroups_eq : g.cycleGroups = g'.cycleGroups := by
  rw [cycleGroups, cycleGroups, h.components_eq, h.isCyclic_eq]

/-! ### Coupling -/

lemma nodesOf_eq : Coupling.nodesOf g = Coupling.nodesOf g' := by
  have hanalyzed : g.isAnalyzed = g'.isAnalyzed := by
    funext path
    exact Bool.eq_iff_iff.2 (h.isAnalyzed path)
  rw [Coupling.nodesOf, Coupling.nodesOf, h.fanIns_eq, h.fanOut_eq, hanalyzed]

lemma summarize_eq (settings : CouplingSettings) (nodes : List NodeCoupling)
    (highlyCoupled orphans : List String) :
    Coupling.summarize settings g nodes highlyCoupled orphans =
      Coupling.summarize settings g' nodes highlyCoupled orphans := by
  rw [Coupling.summarize, Coupling.summarize, h.edgeCount_eq, h.meanInstability_eq,
    h.backEdgeCount_eq]

lemma coupling_eq (settings : CouplingSettings) :
    Coupling.ofGraph settings g = Coupling.ofGraph settings g' := by
  rw [Coupling.ofGraph, Coupling.ofGraph, h.nodesOf_eq, h.orphans_eq, h.cycleGroups_eq]
  simp only [h.summarize_eq settings]

end Alike

/-! ### What the answers tell -/

/-- The report of the nodes tells which paths are sources. -/
lemma isAnalyzed_iff_mem_nodesOf (g : Graph) (path : String) :
    g.isAnalyzed path = true ↔ ∃ n ∈ Coupling.nodesOf g, n.path = path ∧ n.analyzed = true := by
  rw [Coupling.nodesOf, entries_fanIns, List.map_map]
  constructor
  · intro hpath
    have hnode : path ∈ g.nodes := mem_nodes_iff.2 (.inl hpath)
    exact ⟨_, List.mem_map_of_mem hnode, rfl, hpath⟩
  · rintro ⟨n, hn, rfl, hanalyzed⟩
    obtain ⟨path, -, rfl⟩ := List.mem_map.1 hn
    exact hanalyzed

/-- The paths that steps add, on their own or as the source of a reference. -/
def addedPaths (ops : List Op) : Set String := {path | ∃ op ∈ ops, op.source = path}

/-- The pairs of source and target that steps add. -/
def addedPairs (ops : List Op) : Set (String × String) :=
  {e | ∃ r, Op.reference r ∈ ops ∧ (r.source, Path.normalizeTarget r.target) = e}

lemma alike_build_iff (ops ops' : List Op) :
    (build ops).Alike (build ops') ↔
      addedPaths ops = addedPaths ops' ∧ addedPairs ops = addedPairs ops' := by
  have hpaths : ∀ (ops : List Op) (path : String),
      (build ops).isAnalyzed path = true ↔ path ∈ addedPaths ops := by
    intro ops path
    rw [isAnalyzed, contains_build, List.mem_map]
    rfl
  have hpairs : ∀ (ops : List Op) (s t : String),
      (s, t) ∈ (build ops).edges ↔ (s, t) ∈ addedPairs ops := by
    intro ops s t
    simp [mem_edges_ops, addedPairs]
  constructor
  · intro h
    refine ⟨?_, ?_⟩
    · ext path
      rw [← hpaths, ← hpaths]
      exact h.isAnalyzed path
    · ext ⟨s, t⟩
      rw [← hpairs, ← hpairs]
      exact h.mem_edges s t
  · rintro ⟨hsame, hsame'⟩
    refine ⟨fun path => ?_, fun s t => ?_⟩
    · rw [hpaths, hpaths, hsame]
    · rw [hpairs, hpairs, hsame']

/-- **The answers of a graph depend on the sets of its paths and pairs, and on nothing else.** Two
lists of steps, in any order and with any repetitions, build graphs with the same answers exactly
where they add the same paths and the same pairs of source and target. -/
theorem answers_eq_iff (ops ops' : List Op) :
    let g := build ops
    let g' := build ops'
    (addedPaths ops = addedPaths ops' ∧ addedPairs ops = addedPairs ops') ↔
      g.nodes = g'.nodes ∧ g.edges = g'.edges ∧ g.edgeCount = g'.edgeCount ∧
      g.fanIns = g'.fanIns ∧ (∀ node, g.fanOut node = g'.fanOut node) ∧ g.orphans = g'.orphans ∧
      g.backEdgeCount = g'.backEdgeCount ∧ g.cycleGroups = g'.cycleGroups ∧
      g.meanInstability = g'.meanInstability ∧
      ∀ settings, Coupling.ofGraph settings g = Coupling.ofGraph settings g' := by
  intro g g'
  rw [← alike_build_iff]
  constructor
  · intro h
    exact ⟨h.nodes_eq, h.edges_eq, h.edgeCount_eq, h.fanIns_eq, fun node => by rw [h.fanOut_eq],
      h.orphans_eq, h.backEdgeCount_eq, h.cycleGroups_eq, h.meanInstability_eq, h.coupling_eq⟩
  · rintro ⟨-, hedges, -, -, -, -, -, -, -, hcoupling⟩
    refine ⟨fun path => ?_, fun s t => by rw [hedges]⟩
    -- which of the nodes are sources is told by the coupling of the nodes alone
    have hnodes : Coupling.nodesOf g = Coupling.nodesOf g' :=
      congrArg Coupling.nodes (hcoupling CouplingSettings.default)
    rw [isAnalyzed_iff_mem_nodesOf, isAnalyzed_iff_mem_nodesOf, hnodes]

end Graph

end TemplateMetrics
