import Mathlib.Data.List.Nodup
import TemplateMetrics.Proofs.Counting
import TemplateMetrics.Proofs.Graph

/-!
Degrees of the nodes of a graph.

The fan-in of a node is the number of its sources, whether it is asked for one node or taken from
the table of all nodes (`Graph.getD_fanIns`), so it depends on nothing but the set of the sources
(`Graph.fanIn_congr`). The fan-out depends on nothing but the targets of the node itself.
-/

namespace TemplateMetrics

namespace Graph

variable {g g' : Graph} {node s : String}

/-! ### Fan-in -/

/-- The sources that refer to a node, ascending. -/
def sources (g : Graph) (node : String) : List String :=
  (g.adjacency.entries.filter fun e => e.2.contains node).map (·.1)

lemma mem_sources : s ∈ g.sources node ↔ (s, node) ∈ g.edges := by
  rw [mem_edges, ← exists_entry_iff]
  simp only [sources, List.mem_map, List.mem_filter, List.contains_iff_mem]
  constructor
  · rintro ⟨e, ⟨he, hnode⟩, rfl⟩
    exact ⟨e, he, rfl, hnode⟩
  · rintro ⟨e, he, rfl, hnode⟩
    exact ⟨e, ⟨he, hnode⟩, rfl⟩

lemma nodup_sources (g : Graph) (node : String) : (g.sources node).Nodup := by
  exact (NameMap.nodup_keys _).sublist (List.filter_sublist.map _)

lemma length_sources (g : Graph) (node : String) : (g.sources node).length = g.fanIn node := by
  rw [sources, List.length_map, ← List.countP_eq_length_filter, fanIn, NameMap.values,
    List.countP_map]
  rfl

/-- Nodes with the same sources have the same fan-in. -/
lemma fanIn_congr (h : ∀ s, (s, node) ∈ g.edges ↔ (s, node) ∈ g'.edges) :
    g.fanIn node = g'.fanIn node := by
  have hsources : ∀ s, s ∈ g.sources node ↔ s ∈ g'.sources node := by
    intro s
    rw [mem_sources, mem_sources, h]
  rw [← length_sources, ← length_sources]
  exact ((List.perm_ext_iff_of_nodup (g.nodup_sources node) (g'.nodup_sources node)).2
    hsources).length_eq

/-- A source has at most one edge to a node. -/
lemma countP_edges_of (source : String) (targets : List String) (node : String) :
    ((NameSet.ofNames targets).toList.map fun t => (source, t)).countP (fun e => e.2 = node) =
      if targets.contains node then 1 else 0 := by
  have hnodup : (NameSet.ofNames targets).toList.Nodup := NameMap.nodup_keys _
  have hcount : ((NameSet.ofNames targets).toList.map fun t => (source, t)).countP
      (fun e => e.2 = node) = (NameSet.ofNames targets).toList.count node := by
    rw [List.countP_map, List.count]
    exact List.countP_congr fun t _ => by simp
  rw [hcount, hnodup.count]
  simp

/-- The fan-in of a node is the number of edges to it. -/
lemma countP_edges_target (g : Graph) (node : String) :
    g.edges.countP (fun e => e.2 = node) = g.fanIn node := by
  have hedges : ∀ entries : List (String × List String),
      (entries.flatMap fun e => (NameSet.ofNames e.2).toList.map fun t => (e.1, t)).countP
        (fun e => e.2 = node) = entries.countP fun e => e.2.contains node := by
    intro entries
    induction entries with
    | nil => rfl
    | cons e r ih =>
      rw [List.flatMap_cons, List.countP_append, ih, countP_edges_of, List.countP_cons,
        Nat.add_comm]
  rw [edges, hedges, fanIn, NameMap.values, List.countP_map]
  rfl

/-- The table of all fan-ins agrees with the fan-in of each node. -/
lemma getD_fanIns (g : Graph) (node : String) : g.fanIns.getD node 0 = g.fanIn node := by
  have hzero : (NameMap.ofList (g.nodes.map fun n => (n, 0))).getD node 0 = 0 := by
    rw [NameMap.getD, NameMap.get?_ofList_map fun _ => 0]
    split <;> rfl
  rw [fanIns, Counts.getD_foldl_bump, hzero, Nat.zero_add, countP_edges_target]

/-! ### Fan-out -/

/-- Sources with the same targets have the same fan-out. -/
lemma fanOut_congr (h : g.adjacency.get? node = g'.adjacency.get? node) :
    g.fanOut node = g'.fanOut node := by
  rw [fanOut, fanOut, targets, targets, h]

lemma fanOut_of_nil (h : g.adjacency.get? node = some []) : g.fanOut node = 0 := by
  rw [fanOut, targets, h]
  rfl

end Graph

end TemplateMetrics
