import Mathlib.Data.List.Nodup
import Mathlib.Data.List.Perm.Subperm
import Mathlib.Logic.Relation
import TemplateMetrics.Graph.Cycles
import TemplateMetrics.Proofs.Graph

/-!
The groups of nodes that lie on a common cycle.

The exploration from a node ends with every node at the end of a path of edges, and with no other
(`Graph.contains_reachable`): what it has seen is closed under edges once its list is empty, and
each edge puts one node on the list, which bounds the number of steps. A group is then the class of
a node under mutual reachability, listed where its least member stands.
-/

namespace TemplateMetrics.Graph

variable {g : Graph} {u v w : String}

/-! ### Paths -/

def Edge (g : Graph) (u v : String) : Prop := (u, v) ∈ g.edges

/-- There is a path of one or more edges. -/
def Reaches (g : Graph) : String → String → Prop := Relation.TransGen g.Edge

/-- Each of two nodes reaches the other, or they are one node on a cycle. -/
def Mutual (g : Graph) (u v : String) : Prop := g.Reaches u v ∧ g.Reaches v u

lemma mem_successors : v ∈ g.successors u ↔ g.Edge u v := by
  rw [successors, NameSet.mem_toList_ofNames, Edge, mem_edges]
  rfl

lemma nodup_successors (g : Graph) (u : String) : (g.successors u).Nodup := NameMap.nodup_keys _

lemma pairwise_nodes (g : Graph) : g.nodes.Pairwise (· < ·) := NameMap.pairwise_keys _

lemma mem_nodes_of_edge (h : g.Edge u v) : u ∈ g.nodes ∧ v ∈ g.nodes := by
  rw [Edge, mem_edges] at h
  cases hu : g.adjacency.get? u with
  | none =>
    rw [hu] at h
    exact absurd h List.not_mem_nil
  | some targets =>
    rw [hu] at h
    have hkey : u ∈ g.adjacency.keys := by simp [NameMap.contains, hu]
    have hvalue : targets ∈ g.adjacency.values :=
      List.mem_map.2 ⟨(u, targets), NameMap.mem_entries.2 hu, rfl⟩
    simp only [nodes, NameSet.mem_toList_ofNames, List.mem_append]
    exact ⟨.inl hkey, .inr (List.mem_flatten.2 ⟨targets, hvalue, h⟩)⟩

lemma mem_nodes_of_reaches (h : g.Reaches u v) : u ∈ g.nodes ∧ v ∈ g.nodes := by
  obtain ⟨_, hfirst, _⟩ := Relation.TransGen.head'_iff.1 h
  obtain ⟨_, _, hlast⟩ := Relation.TransGen.tail'_iff.1 h
  exact ⟨(mem_nodes_of_edge hfirst).1, (mem_nodes_of_edge hlast).2⟩

namespace Mutual

lemma symm (h : g.Mutual u v) : g.Mutual v u := ⟨h.2, h.1⟩

lemma trans (h : g.Mutual u v) (h' : g.Mutual v w) : g.Mutual u w :=
  ⟨Relation.TransGen.trans h.1 h'.1, Relation.TransGen.trans h'.2 h.2⟩

lemma self (h : g.Mutual u v) : g.Mutual u u := h.trans h.symm

/-- A node on a cycle has an edge that stays among the nodes of the cycle. -/
lemma exists_edge (h : g.Mutual u v) : ∃ w, g.Edge v w ∧ g.Mutual u w := by
  obtain ⟨w, hvw, hwv⟩ := Relation.TransGen.head'_iff.1 h.symm.self.1
  exact ⟨w, hvw, Relation.TransGen.tail h.1 hvw, Relation.TransGen.trans_right hwv h.2⟩

end Mutual

/-! ### Exploration -/

/-- Edges that the exploration has not followed yet. -/
def pending (g : Graph) (seen : NameSet) : Nat :=
  (g.edges.filter fun e => !seen.contains e.1).length

/-- Seeing a node takes its edges from those not followed. -/
lemma length_successors_add_pending (seen : NameSet) (h : seen.contains u = false) :
    (g.successors u).length + g.pending (seen.add u) ≤ g.pending seen := by
  set unseen := g.edges.filter fun e => !seen.contains e.1 with hunseen
  have hsplit := List.length_eq_length_filter_add (l := unseen) fun e => decide (e.1 = u)
  -- the edges that are left do not start at the node
  have hrest : unseen.filter (fun e => !decide (e.1 = u)) =
      g.edges.filter fun e => !(seen.add u).contains e.1 := by
    rw [hunseen, List.filter_filter]
    refine List.filter_congr fun e _ => ?_
    simp
  have hown : ((g.successors u).map fun v => (u, v)).length ≤
      (unseen.filter fun e => decide (e.1 = u)).length := by
    refine (List.Nodup.subperm ?_ ?_).length_le
    · exact (g.nodup_successors u).map fun _ _ h => (Prod.mk.inj h).2
    · intro e he
      obtain ⟨v, hv, rfl⟩ := List.mem_map.1 he
      have hedge : (u, v) ∈ g.edges := mem_successors.1 hv
      simp [hunseen, hedge, h]
  rw [hrest] at hsplit
  rw [List.length_map] at hown
  calc (g.successors u).length + g.pending (seen.add u)
      ≤ (unseen.filter fun e => decide (e.1 = u)).length + g.pending (seen.add u) :=
        Nat.add_le_add_right hown _
    _ = g.pending seen := hsplit.symm

lemma explore_sound {next : String → List String} {P : String → Prop}
    (hnext : ∀ x, P x → ∀ y ∈ next x, P y) (steps : Nat) (list : List String) (seen : NameSet)
    (hlist : ∀ x ∈ list, P x) (hseen : ∀ x, seen.contains x = true → P x) :
    ∀ x, (explore next steps list seen).contains x = true → P x := by
  fun_induction explore next steps list seen with
  | case1 => exact hseen
  | case2 => exact hseen
  | case3 steps u rest seen _ ih =>
    -- the node was seen before
    exact ih (fun x hx => hlist x (List.mem_cons_of_mem _ hx)) hseen
  | case4 steps u rest seen _ ih =>
    -- a new node brings its successors
    have hu : P u := hlist u List.mem_cons_self
    refine ih (fun x hx => ?_) fun x hx => ?_
    · rcases List.mem_append.1 hx with hx | hx
      · exact hnext u hu x hx
      · exact hlist x (List.mem_cons_of_mem _ hx)
    · rw [NameSet.contains_add_iff] at hx
      rcases hx with rfl | hx
      · exact hu
      · exact hseen x hx

/-- With a step for each node on the list and each edge not followed, the exploration sees the whole
list, and the targets of all that it sees. -/
lemma explore_complete (steps : Nat) (list : List String) (seen : NameSet)
    (hsteps : list.length + g.pending seen ≤ steps)
    (hclosed : ∀ x, seen.contains x = true → ∀ y, g.Edge x y → seen.contains y = true ∨ y ∈ list) :
    (∀ x, seen.contains x = true ∨ x ∈ list →
      (explore g.successors steps list seen).contains x = true) ∧
    ∀ x y, (explore g.successors steps list seen).contains x = true → g.Edge x y →
      (explore g.successors steps list seen).contains y = true := by
  fun_induction explore g.successors steps list seen with
  | case1 list seen =>
    -- no step is left for a node on the list, so there is none
    obtain rfl : list = [] := List.length_eq_zero_iff.1 (by omega)
    simpa using fun x y hx hy => hclosed x hx y hy
  | case2 seen => simpa using fun x y hx hy => hclosed x hx y hy
  | case3 steps u rest seen hu ih =>
    obtain ⟨hall, hnext⟩ := ih (by simp at hsteps; omega) fun x hx y hy => by
      rcases hclosed x hx y hy with hy | hy
      · exact .inl hy
      · rcases List.mem_cons.1 hy with rfl | hy
        · exact .inl hu
        · exact .inr hy
    refine ⟨fun x hx => ?_, hnext⟩
    rcases hx with hx | hx
    · exact hall x (.inl hx)
    · rcases List.mem_cons.1 hx with rfl | hx
      · exact hall x (.inl hu)
      · exact hall x (.inr hx)
  | case4 steps u rest seen hu ih =>
    -- the successors of a new node come on the list, which its edges pay for
    have hpending := g.length_successors_add_pending (u := u) seen (by simpa using hu)
    obtain ⟨hall, hnext⟩ := ih (by simp at hsteps ⊢; omega) fun x hx y hy => by
      rw [NameSet.contains_add_iff] at hx ⊢
      rcases hx with rfl | hx
      · exact .inr (List.mem_append_left _ (mem_successors.2 hy))
      · rcases hclosed x hx y hy with hy | hy
        · exact .inl (.inr hy)
        · rcases List.mem_cons.1 hy with rfl | hy
          · exact .inl (.inl rfl)
          · exact .inr (List.mem_append_right _ hy)
    refine ⟨fun x hx => hall x ?_, hnext⟩
    rw [NameSet.contains_add_iff]
    rcases hx with hx | hx
    · exact .inl (.inr hx)
    · rcases List.mem_cons.1 hx with rfl | hx
      · exact .inl (.inl rfl)
      · exact .inr (List.mem_append_right _ hx)

lemma contains_reachable : (g.reachable u).contains v = true ↔ g.Reaches u v := by
  have hpending : g.pending NameMap.empty ≤ g.edgeCount := List.length_filter_le ..
  have hlength : (g.successors u).length ≤ g.edgeCount := by
    have h := g.length_successors_add_pending (u := u) NameMap.empty rfl
    omega
  obtain ⟨hall, hnext⟩ := explore_complete (g := g) (2 * g.edgeCount + 1) (g.successors u)
    NameMap.empty (by omega) fun x hx => by simp at hx
  constructor
  · refine explore_sound (P := g.Reaches u) (fun x hx y hy => ?_) _ _ _ (fun x hx => ?_)
      (fun x hx => by simp at hx) v
    · exact Relation.TransGen.tail hx (mem_successors.1 hy)
    · exact Relation.TransGen.single (mem_successors.1 hx)
  · intro h
    induction h with
    | single h => exact hall _ (.inr (mem_successors.2 h))
    | tail _ h ih => exact hnext _ _ ih h

/-! ### Groups -/

/-- The nodes that reach a node and are reached from it. -/
def circle (g : Graph) (u : String) : List String :=
  g.nodes.filter fun v => (g.reachable u).contains v && (g.reachable v).contains u

lemma mem_circle : v ∈ g.circle u ↔ g.Mutual u v := by
  rw [circle, List.mem_filter, Bool.and_eq_true, contains_reachable, contains_reachable]
  exact ⟨fun h => h.2, fun h => ⟨(mem_nodes_of_reaches h.1).2, h⟩⟩

lemma pairwise_circle (g : Graph) (u : String) : (g.circle u).Pairwise (· < ·) :=
  g.pairwise_nodes.filter _

lemma circle_eq (h : g.Mutual u v) : g.circle u = g.circle v := by
  refine List.filter_congr fun w _ => Bool.eq_iff_iff.2 ?_
  rw [Bool.and_eq_true, Bool.and_eq_true, contains_reachable, contains_reachable,
    contains_reachable, contains_reachable]
  exact ⟨h.symm.trans, h.trans⟩

/-- The circles, each listed where its least member stands. -/
def circles (g : Graph) : List (List String) :=
  g.nodes.filterMap fun u => if (g.circle u).head? = some u then some (g.circle u) else none

/-- Circles stand by ascending first member, and no two of them share a member. -/
lemma pairwise_circles (g : Graph) :
    g.circles.Pairwise fun a b => List.Lex (· < ·) a b ∧ a.Disjoint b := by
  rw [circles, List.pairwise_filterMap]
  refine g.pairwise_nodes.imp fun {u v} huv a ha b hb => ?_
  obtain ⟨hu, ha⟩ := Option.ite_none_right_eq_some.1 ha
  obtain ⟨hv, hb⟩ := Option.ite_none_right_eq_some.1 hb
  obtain rfl := Option.some.inj ha
  obtain rfl := Option.some.inj hb
  constructor
  · obtain ⟨as, has⟩ := List.head?_eq_some_iff.1 hu
    obtain ⟨bs, hbs⟩ := List.head?_eq_some_iff.1 hv
    rw [has, hbs]
    exact .rel huv
  · intro x hxu hxv
    -- a common member would make the two circles one
    have hsame : g.circle u = g.circle v :=
      circle_eq ((mem_circle.1 hxu).trans (mem_circle.1 hxv).symm)
    rw [hsame, hv] at hu
    exact String.ne_of_lt huv (Option.some.inj hu).symm

/-! ### Components -/

/-- The nodes of the component of a node. -/
def component (g : Graph) (u : String) : List String :=
  g.nodes.filter fun v =>
    decide (u = v) || ((g.reachable u).contains v && (g.reachable v).contains u)

lemma components_eq (g : Graph) : g.components = g.nodes.filterMap fun u =>
    if (g.component u).head? = some u then some (g.component u) else none := by
  refine List.filterMap_congr fun u hu => ?_
  let table := NameMap.ofList (g.nodes.map fun n => (n, g.reachable n))
  have htable : ∀ n ∈ g.nodes, table.getD n NameMap.empty = g.reachable n := by
    intro n hn
    rw [NameMap.getD, NameMap.get?_ofList_map, if_pos hn]
    rfl
  have hcomponent : (g.nodes.filter fun v => decide (u = v) ||
      ((table.getD u NameMap.empty).contains v && (table.getD v NameMap.empty).contains u)) =
        g.component u := by
    refine List.filter_congr fun v hv => ?_
    rw [htable u hu, htable v hv]
  rw [← hcomponent]

lemma component_of_reaches (h : g.Reaches u u) : g.component u = g.circle u := by
  refine List.filter_congr fun v _ => ?_
  by_cases huv : u = v
  · subst huv
    rw [contains_reachable.2 h, Bool.and_self, Bool.or_true]
  · rw [decide_eq_false huv, Bool.false_or]

lemma component_of_not_reaches (hu : u ∈ g.nodes) (h : ¬ g.Reaches u u) : g.component u = [u] := by
  have hsame : ∀ v ∈ g.nodes, (decide (u = v) ||
      ((g.reachable u).contains v && (g.reachable v).contains u)) = (v == u) := by
    intro v _
    have hnot : ¬ ((g.reachable u).contains v && (g.reachable v).contains u) = true := by
      rw [Bool.and_eq_true, contains_reachable, contains_reachable]
      exact fun hmutual => h (Mutual.self hmutual).1
    rw [Bool.eq_false_iff.2 hnot, Bool.or_false, Bool.eq_iff_iff, decide_eq_true_iff, beq_iff_eq]
    exact eq_comm
  have hnodup : g.nodes.Nodup := NameMap.nodup_keys _
  rw [component, List.filter_congr hsame, List.filter_beq, List.count_eq_one_of_mem hnodup hu]
  rfl

/-- The node that is alone on its cycle has an edge to itself. -/
lemma isCyclic_circle (h : (g.circle u).head? = some u) : g.isCyclic (g.circle u) = true := by
  have hu : g.Mutual u u := mem_circle.1 (List.mem_of_head? h)
  obtain ⟨w, hedge, hw⟩ := hu.exists_edge
  have hmem : w ∈ g.circle u := mem_circle.2 hw
  obtain ⟨rest, hcircle⟩ := List.head?_eq_some_iff.1 h
  rw [hcircle] at hmem ⊢
  cases rest with
  | nil =>
    obtain rfl := List.mem_singleton.1 hmem
    have hloop : w ∈ g.successors w := mem_successors.2 hedge
    simp [isCyclic, hloop]
  | cons v more => simp [isCyclic]

lemma filter_components (g : Graph) : g.components.filter g.isCyclic = g.circles := by
  rw [components_eq, List.filter_filterMap, circles]
  refine List.filterMap_congr fun u hu => ?_
  by_cases hcycle : g.Reaches u u
  · rw [component_of_reaches hcycle]
    split
    · rename_i hhead
      simp [Option.filter, isCyclic_circle hhead]
    · rfl
  · -- a node on no cycle is a component of its own, which is left out
    have hnone : g.circle u = [] := List.eq_nil_iff_forall_not_mem.2 fun v hv =>
      hcycle (Mutual.self (mem_circle.1 hv)).1
    have hloop : u ∉ g.successors u := fun hmem =>
      hcycle (Relation.TransGen.single (mem_successors.1 hmem))
    rw [component_of_not_reaches hu hcycle, hnone]
    simp [Option.filter, isCyclic, hloop]

lemma inOrder_of_lex {a b : List String} (h : List.Lex (· < ·) a b) : inOrder a b = true := by
  induction h with
  | nil => rfl
  | rel h => simp [inOrder, h]
  | cons _ ih => simp [inOrder, ih]

/-- **The components that have a cycle are the circles**, and sorting finds them in order. -/
lemma cycleGroups_eq (g : Graph) : g.cycleGroups = g.circles := by
  have hmembers : g.circles.map (·.mergeSort fun a b => decide (a ≤ b)) = g.circles := by
    refine (List.map_congr_left fun group hgroup => ?_).trans (List.map_id _)
    obtain ⟨u, -, hgroup⟩ := List.mem_filterMap.1 hgroup
    obtain ⟨-, hgroup⟩ := Option.ite_none_right_eq_some.1 hgroup
    obtain rfl := Option.some.inj hgroup
    exact List.mergeSort_of_pairwise
      ((g.pairwise_circle u).imp fun h => decide_eq_true (Std.le_of_lt h))
  rw [cycleGroups, filter_components, hmembers]
  refine List.mergeSort_of_pairwise (g.pairwise_circles.imp fun h => inOrder_of_lex h.1)

lemma mem_cycleGroups {group : List String} :
    group ∈ g.cycleGroups ↔ ∃ u, group.head? = some u ∧ group = g.circle u := by
  rw [cycleGroups_eq, circles, List.mem_filterMap]
  constructor
  · rintro ⟨u, -, h⟩
    obtain ⟨hhead, h⟩ := Option.ite_none_right_eq_some.1 h
    obtain rfl := Option.some.inj h
    exact ⟨u, hhead, rfl⟩
  · rintro ⟨u, hhead, rfl⟩
    have hu : u ∈ g.circle u := List.mem_of_head? hhead
    exact ⟨u, (mem_nodes_of_reaches (mem_circle.1 hu).1).1, if_pos hhead⟩

lemma eq_circle_of_mem {group : List String} (h : group ∈ g.cycleGroups) (hu : u ∈ group) :
    group = g.circle u := by
  obtain ⟨w, -, rfl⟩ := mem_cycleGroups.1 h
  exact circle_eq (mem_circle.1 hu)

lemma ne_nil_of_mem_cycleGroups {group : List String} (h : group ∈ g.cycleGroups) :
    group ≠ [] := by
  obtain ⟨w, hhead, -⟩ := mem_cycleGroups.1 h
  rintro rfl
  cases hhead

lemma circle_mem_cycleGroups (h : g.Reaches u u) : g.circle u ∈ g.cycleGroups := by
  have hu : u ∈ g.circle u := mem_circle.2 ⟨h, h⟩
  cases hhead : (g.circle u).head? with
  | none =>
    rw [List.head?_eq_none_iff.1 hhead] at hu
    cases hu
  | some w => exact mem_cycleGroups.2 ⟨w, hhead, circle_eq (mem_circle.1 (List.mem_of_head? hhead))⟩

lemma exists_group_iff :
    (∃ group ∈ g.cycleGroups, u ∈ group ∧ v ∈ group) ↔ g.Mutual u v := by
  constructor
  · rintro ⟨group, hgroup, hu, hv⟩
    rw [eq_circle_of_mem hgroup hu] at hv
    exact mem_circle.1 hv
  · intro h
    exact ⟨g.circle u, circle_mem_cycleGroups h.self.1, mem_circle.2 h.self, mem_circle.2 h⟩

/-- Groups stand by ascending first member, and no two of them share a member. -/
lemma pairwise_cycleGroups (g : Graph) :
    g.cycleGroups.Pairwise fun a b => List.Lex (· < ·) a b ∧ a.Disjoint b := by
  rw [cycleGroups_eq]
  exact g.pairwise_circles

/-- **The cycle groups are the partition of the nodes on cycles by mutual reachability.** -/
theorem cycleGroups_partition (g : Graph) :
    (∀ u, (∃ group ∈ g.cycleGroups, u ∈ group) ↔ g.Reaches u u) ∧
    (∀ u v, (∃ group ∈ g.cycleGroups, u ∈ group ∧ v ∈ group) ↔
      (u = v ∧ g.Reaches u u) ∨ (g.Reaches u v ∧ g.Reaches v u)) ∧
    (∀ group ∈ g.cycleGroups, group ≠ [] ∧ (∀ u ∈ group, u ∈ g.nodes) ∧
      group.Pairwise (· < ·)) ∧
    g.cycleGroups.Pairwise List.Disjoint ∧
    g.cycleGroups.Pairwise (List.Lex (· < ·)) := by
  refine ⟨fun u => ?_, fun u v => ?_, fun group hgroup => ⟨ne_nil_of_mem_cycleGroups hgroup, ?_⟩,
    g.pairwise_cycleGroups.imp And.right, g.pairwise_cycleGroups.imp And.left⟩
  · have h := exists_group_iff (g := g) (u := u) (v := u)
    simp only [and_self, Mutual] at h
    exact h
  · rw [exists_group_iff]
    constructor
    · exact .inr
    · rintro (⟨rfl, h⟩ | h)
      · exact ⟨h, h⟩
      · exact h
  · obtain ⟨w, -, rfl⟩ := mem_cycleGroups.1 hgroup
    exact ⟨fun u hu => (mem_nodes_of_reaches (mem_circle.1 hu).1).2, g.pairwise_circle w⟩

end TemplateMetrics.Graph
