import Mathlib.Algebra.Order.BigOperators.Group.List
import Mathlib.Data.List.Perm.Subperm
import TemplateMetrics.Analysis.Coupling
import TemplateMetrics.Proofs.Counting
import TemplateMetrics.Proofs.EdgeCounts
import TemplateMetrics.Statistics.Diversity

/-!
Rankings: the first few of many items, by descending score and ascending name.

Where no two items share a name the order is strict, and a ranking is known by what it holds and by
what it leaves out (`Selects`): there is only one (`Selects.unique`), so no order of the input can
show in it. The most used names and the hotspots of a graph are rankings of this kind. The counts
that are ranked come from many templates and are merged before; merging adds them up name by name.
-/

namespace TemplateMetrics

/-! ### Selections -/

section Selection

variable {α : Type} {score : α → ℕ} {name : α → String} {items picked picked' : List α} {k : ℕ}
  {a b : α}

/-- A higher score, or the same score and a smaller name. -/
def Outranks (score : α → ℕ) (name : α → String) (a b : α) : Prop :=
  score b < score a ∨ score a = score b ∧ name a < name b

instance : Decidable (Outranks score name a b) := inferInstanceAs (Decidable (_ ∨ _ ∧ _))

lemma Outranks.asymm (h : Outranks score name a b) : ¬ Outranks score name b a := by
  rcases h with hscore | ⟨hscore, hname⟩
  · rintro (hscore' | ⟨hscore', -⟩) <;> omega
  · rintro (hscore' | ⟨-, hname'⟩)
    · omega
    · exact String.lt_asymm hname hname'

lemma nodup_of_outranks (h : picked.Pairwise (Outranks score name)) : picked.Nodup := by
  refine h.imp fun {a b} hab heq => ?_
  subst heq
  exact hab.asymm hab

/-- The first `k` of the items, in order. -/
@[mk_iff]
structure Selects (score : α → ℕ) (name : α → String) (items : List α) (k : ℕ)
    (picked : List α) : Prop where
  length_eq : picked.length = min k items.length
  distinct : picked.Nodup
  subset : picked ⊆ items
  ordered : picked.Pairwise (Outranks score name)
  /-- What is left out comes after all that is picked. -/
  ahead : ∀ x ∈ items, x ∉ picked → ∀ y ∈ picked, Outranks score name y x

instance [DecidableEq α] : Decidable (Selects score name items k picked) :=
  decidable_of_iff _ (selects_iff score name items k picked).symm

/-- Of two selections neither holds an item that the other leaves out. The other would have to hold
one in its place, and each of the two would outrank the other. -/
lemma Selects.subset_of_selects (h : Selects score name items k picked)
    (h' : Selects score name items k picked') : picked ⊆ picked' := by
  intro x hx
  by_contra hx'
  have hlength : picked'.length = picked.length := h'.length_eq.trans h.length_eq.symm
  obtain ⟨y, hy', hy⟩ : ∃ y ∈ picked', y ∉ picked := by
    by_contra hnone
    push Not at hnone
    have hperm : picked'.Perm picked :=
      (h'.distinct.subperm hnone).perm_of_length_le hlength.ge
    exact hx' (hperm.mem_iff.2 hx)
  have hxy : Outranks score name x y := h.ahead y (h'.subset hy') hy x hx
  have hyx : Outranks score name y x := h'.ahead x (h.subset hx) hx' y hy'
  exact hxy.asymm hyx

lemma Selects.unique (h : Selects score name items k picked)
    (h' : Selects score name items k picked') : picked = picked' := by
  have hperm : picked.Perm picked' :=
    (List.perm_ext_iff_of_nodup h.distinct h'.distinct).2 fun _ =>
      ⟨fun hx => h.subset_of_selects h' hx, fun hx => h'.subset_of_selects h hx⟩
  exact hperm.eq_of_pairwise (fun _ _ _ _ hab hba => absurd hba hab.asymm) h.ordered h'.ordered

lemma Selects.eq_iff (h : Selects score name items k picked) :
    picked = picked' ↔ Selects score name items k picked' :=
  ⟨fun heq => heq ▸ h, h.unique⟩

/-- Items that are in order are selected by taking the first. -/
lemma selects_take {sorted : List α} (hperm : sorted.Perm items)
    (hsorted : sorted.Pairwise (Outranks score name)) :
    Selects score name items k (sorted.take k) where
  length_eq := by rw [List.length_take, hperm.length_eq]
  distinct := nodup_of_outranks (hsorted.sublist (List.take_sublist k sorted))
  subset := fun x hx => hperm.subset (List.mem_of_mem_take hx)
  ordered := hsorted.sublist (List.take_sublist k sorted)
  ahead := by
    intro x hx hleft y hy
    have hx' : x ∈ sorted.take k ++ sorted.drop k := by
      rw [List.take_append_drop]
      exact hperm.mem_iff.2 hx
    have hdrop : x ∈ sorted.drop k := (List.mem_append.1 hx').resolve_left hleft
    rw [← List.take_append_drop k sorted] at hsorted
    exact (List.pairwise_append.1 hsorted).2.2 y hy x hdrop

/-- A selection stays one when every item is replaced by another of its score and name. -/
lemma Selects.map {β : Type} {score' : β → ℕ} {name' : β → String} {f : α → β}
    (hf : ∀ x ∈ items, score' (f x) = score x ∧ name' (f x) = name x)
    (h : Selects score name items k picked) :
    Selects score' name' (items.map f) k (picked.map f) := by
  have hrank : ∀ x ∈ items, ∀ y ∈ items,
      Outranks score name x y → Outranks score' name' (f x) (f y) := by
    intro x hx y hy hxy
    rwa [Outranks, (hf x hx).1, (hf x hx).2, (hf y hy).1, (hf y hy).2]
  have hordered : (picked.map f).Pairwise (Outranks score' name') :=
    List.pairwise_map.2 (h.ordered.imp_of_mem fun {x y} hx hy =>
      hrank x (h.subset hx) y (h.subset hy))
  refine ⟨?_, nodup_of_outranks hordered, List.map_subset f h.subset, hordered, ?_⟩
  · rw [List.length_map, List.length_map, h.length_eq]
  · -- what was left out has an item that was left out
    intro x' hx' hleft y' hy'
    obtain ⟨x, hx, rfl⟩ := List.mem_map.1 hx'
    obtain ⟨y, hy, rfl⟩ := List.mem_map.1 hy'
    have hout : x ∉ picked := fun hpicked => hleft (List.mem_map_of_mem hpicked)
    exact hrank y (h.subset hy) x hx (h.ahead x hx hout y hy)

section Sorting

variable {before : α → α → Bool}
  (hbefore : ∀ a b, before a b = true ↔ score b < score a ∨ score a = score b ∧ name a ≤ name b)
include hbefore

lemma before_trans (a b c : α) (hab : before a b = true) (hbc : before b c = true) :
    before a c = true := by
  rw [hbefore] at hab hbc ⊢
  rcases hab with hab | ⟨hab, hname⟩
  · left
    omega
  · rcases hbc with hbc | ⟨hbc, hname'⟩
    · left
      omega
    · exact .inr ⟨hab.trans hbc, String.le_trans hname hname'⟩

lemma before_total (a b : α) : (before a b || before b a) = true := by
  rw [Bool.or_eq_true, hbefore, hbefore]
  rcases Nat.lt_trichotomy (score a) (score b) with hlt | heq | hlt
  · exact .inr (.inl hlt)
  · rcases String.le_total (name a) (name b) with hle | hle
    · exact .inl (.inr ⟨heq, hle⟩)
    · exact .inr (.inr ⟨heq.symm, hle⟩)
  · exact .inl (.inl hlt)

/-- Between items with different names the order is strict. -/
lemma outranks_of_before (h : before a b = true) (hne : name a ≠ name b) :
    Outranks score name a b := by
  refine ((hbefore a b).1 h).imp_right fun ⟨hscore, hname⟩ => ⟨hscore, ?_⟩
  exact Entries.lt_of_not_lt_of_ne (String.not_lt.2 hname) hne.symm

lemma selects_take_mergeSort (hnames : (items.map name).Nodup) :
    Selects score name items k ((items.mergeSort before).take k) := by
  have hperm : (items.mergeSort before).Perm items := List.mergeSort_perm items before
  have hsorted : (items.mergeSort before).Pairwise fun a b => before a b = true :=
    List.pairwise_mergeSort (before_trans hbefore) (before_total hbefore) items
  have hdistinct : (items.mergeSort before).Pairwise fun a b => name a ≠ name b :=
    List.pairwise_map.1 ((hperm.map name).nodup_iff.2 hnames)
  refine selects_take hperm ?_
  exact List.Pairwise.imp₂ (fun _ _ => outranks_of_before hbefore) hsorted hdistinct

end Sorting

end Selection

/-! ### The most used names -/

namespace Statistics

lemma ranksBefore_iff (a b : String × ℕ) :
    ranksBefore a b = true ↔ b.2 < a.2 ∨ a.2 = b.2 ∧ a.1 ≤ b.1 := by
  simp [ranksBefore]

lemma selects_top (c : Counts) (n : ℕ) : Selects Prod.snd Prod.fst c.entries n (top n c) :=
  selects_take_mergeSort ranksBefore_iff c.nodup_keys

end Statistics

/-! ### Hotspots -/

/-- Edges to a node and from it; one from the node to itself counts twice. -/
def Graph.degree (g : Graph) (node : String) : ℕ := g.fanIn node + g.fanOut node

namespace Coupling

lemma ranksBefore_iff (a b : NodeCoupling) :
    a.ranksBefore b = true ↔ b.total < a.total ∨ a.total = b.total ∧ a.path ≤ b.path := by
  simp [NodeCoupling.ranksBefore]

lemma map_path_nodesOf (g : Graph) : (nodesOf g).map (·.path) = g.nodes := by
  rw [nodesOf, Graph.entries_fanIns, List.map_map, List.map_map]
  exact List.map_id _

lemma degrees_nodesOf {g : Graph} {node : NodeCoupling} (h : node ∈ nodesOf g) :
    node.fanIn = g.fanIn node.path ∧ node.fanOut = g.fanOut node.path := by
  rw [nodesOf, Graph.entries_fanIns, List.map_map] at h
  obtain ⟨path, -, rfl⟩ := List.mem_map.1 h
  exact ⟨rfl, rfl⟩

lemma total_eq_degree {g : Graph} {node : NodeCoupling} (h : node ∈ nodesOf g) :
    node.total = g.degree node.path := by
  obtain ⟨hin, hout⟩ := degrees_nodesOf h
  rw [NodeCoupling.total, Graph.degree, hin, hout]

/-- The nodes with edges, as the report and as the graph has them. -/
lemma map_path_filter_nodesOf (g : Graph) :
    ((nodesOf g).filter fun node => 0 < node.total).map (·.path) =
      g.nodes.filter fun node => 0 < g.degree node := by
  have hconnected : (nodesOf g).filter (fun node => 0 < node.total) =
      (nodesOf g).filter fun node => 0 < g.degree node.path :=
    List.filter_congr fun node h => by rw [total_eq_degree h]
  rw [hconnected, ← map_path_nodesOf, List.filter_map]
  rfl

lemma hotspotsOf_subset (k : ℕ) (nodes : List NodeCoupling) : hotspotsOf k nodes ⊆ nodes := by
  intro node h
  have hsorted := List.mem_of_mem_take h
  exact List.mem_of_mem_filter (List.mem_mergeSort.1 hsorted)

lemma selects_hotspotsOf (g : Graph) (k : ℕ) :
    Selects g.degree id (g.nodes.filter fun node => 0 < g.degree node) k
      ((hotspotsOf k (nodesOf g)).map (·.path)) := by
  have hnames : (((nodesOf g).filter fun node => 0 < node.total).map (·.path)).Nodup := by
    rw [map_path_filter_nodesOf]
    exact g.nodup_nodes.filter _
  rw [← map_path_filter_nodesOf]
  refine (selects_take_mergeSort ranksBefore_iff hnames).map fun node h => ⟨?_, rfl⟩
  exact (total_eq_degree (List.mem_of_mem_filter h)).symm

end Coupling

/-! ### Merged counts -/

/-- A count that grows by an amount makes the sum grow by it, also where the name is new. -/
lemma Entries.sum_insert {name : String} (n : ℕ) {l : List (String × ℕ)} (h : Ascending l) :
    ((insert name ((find? name l).getD 0 + n) l).map Prod.snd).sum =
      (l.map Prod.snd).sum + n := by
  induction l with
  | nil => simp [insert, find?]
  | cons p r ih =>
    obtain ⟨hlt, hr⟩ := List.pairwise_cons.1 h
    rw [insert]
    split_ifs with hbefore hsame
    · -- the name comes before all others, so it is new
      have hnone : find? name (p :: r) = none := by
        refine find?_eq_none_of_lt fun q hq => ?_
        rcases List.mem_cons.1 hq with rfl | hq
        · exact hbefore
        · exact String.lt_trans hbefore (hlt q hq)
      simp only [hnone, Option.getD_none, List.map_cons, List.sum_cons]
      omega
    · simp only [find?, if_pos hsame, Option.getD_some, List.map_cons, List.sum_cons]
      omega
    · -- the name is further back, if it is there at all
      have hrest := ih hr
      simp only [find?, if_neg hsame, List.map_cons, List.sum_cons]
      omega

namespace Counts

/-- The step of merging: all counts of a map are added to those before. -/
def absorb (acc c : Counts) : Counts := c.entries.foldl (fun acc p => acc.add p.1 p.2) acc

lemma merge_eq_foldl (maps : List Counts) : merge maps = maps.foldl absorb NameMap.empty := rfl

lemma getD_absorb (acc c : Counts) (name : String) :
    (acc.absorb c).getD name 0 = acc.getD name 0 + c.getD name 0 := by
  have key : ∀ (l : List (String × ℕ)) (acc : Counts), Entries.Ascending l →
      (l.foldl (fun acc p => acc.add p.1 p.2) acc).getD name 0 =
        acc.getD name 0 + (Entries.find? name l).getD 0 := by
    intro l
    induction l with
    | nil => exact fun acc _ => rfl
    | cons p r ih =>
      intro acc h
      obtain ⟨hlt, hr⟩ := List.pairwise_cons.1 h
      rw [List.foldl_cons, ih _ hr, getD_add]
      by_cases hname : name = p.1
      · -- the rest has only larger names
        have hnone : Entries.find? p.1 r = none := Entries.find?_eq_none_of_lt hlt
        simp [Entries.find?, hname, hnone]
      · simp [Entries.find?, hname]
  exact key c.entries acc c.ascending

lemma contains_absorb (acc c : Counts) (name : String) :
    (acc.absorb c).contains name = true ↔ c.contains name = true ∨ acc.contains name = true := by
  rw [absorb, contains_foldl_add Prod.fst Prod.snd, ← NameMap.mem_keys (m := c), NameMap.keys]

lemma total_eq_sum (c : Counts) : c.total = (c.entries.map Prod.snd).sum :=
  List.sum_eq_foldl_nat.symm

lemma total_add (c : Counts) (name : String) (n : ℕ) : (c.add name n).total = c.total + n := by
  rw [total_eq_sum, total_eq_sum]
  exact Entries.sum_insert n c.ascending

lemma total_absorb (acc c : Counts) : (acc.absorb c).total = acc.total + c.total := by
  have key : ∀ (l : List (String × ℕ)) (acc : Counts),
      (l.foldl (fun acc p => acc.add p.1 p.2) acc).total = acc.total + (l.map Prod.snd).sum := by
    intro l
    induction l with
    | nil => exact fun acc => rfl
    | cons p r ih =>
      intro acc
      rw [List.foldl_cons, ih, total_add, List.map_cons, List.sum_cons, Nat.add_assoc]
  rw [absorb, key, ← total_eq_sum]

/-- What each step adds to a number is in the end added up over all the maps. -/
lemma foldl_absorb_eq_sum {f : Counts → ℕ} (h : ∀ acc c, f (absorb acc c) = f acc + f c)
    (maps : List Counts) (acc : Counts) :
    f (maps.foldl absorb acc) = f acc + (maps.map f).sum := by
  induction maps generalizing acc with
  | nil => rfl
  | cons c r ih => rw [List.foldl_cons, ih, h, List.map_cons, List.sum_cons, Nat.add_assoc]

lemma getD_merge (maps : List Counts) (name : String) :
    (merge maps).getD name 0 = (maps.map fun c => c.getD name 0).sum := by
  have hsum := foldl_absorb_eq_sum (f := fun c => c.getD name 0)
    (fun acc c => getD_absorb acc c name) maps NameMap.empty
  exact hsum.trans (Nat.zero_add _)

lemma total_merge (maps : List Counts) : (merge maps).total = (maps.map total).sum := by
  have hsum := foldl_absorb_eq_sum total_absorb maps NameMap.empty
  exact hsum.trans (Nat.zero_add _)

lemma contains_merge (maps : List Counts) (name : String) :
    (merge maps).contains name = true ↔ ∃ c ∈ maps, c.contains name = true := by
  have key : ∀ (maps : List Counts) (acc : Counts),
      (maps.foldl absorb acc).contains name = true ↔
        (∃ c ∈ maps, c.contains name = true) ∨ acc.contains name = true := by
    intro maps
    induction maps with
    | nil => simp
    | cons c r ih =>
      intro acc
      rw [List.foldl_cons, ih, contains_absorb, List.exists_mem_cons_iff, or_left_comm, or_assoc]
  rw [merge_eq_foldl, key, NameMap.contains_empty]
  simp

/-- Maps with the same names and the same counts are equal. -/
lemma ext_getD {c c' : Counts}
    (hcontains : ∀ name, c.contains name = true ↔ c'.contains name = true)
    (hcount : ∀ name, c.getD name 0 = c'.getD name 0) : c = c' := by
  refine NameMap.ext_get? fun name => ?_
  have hsome := hcontains name
  have hvalue := hcount name
  rw [NameMap.contains_eq_isSome, NameMap.contains_eq_isSome] at hsome
  rw [NameMap.getD, NameMap.getD] at hvalue
  cases hget : c.get? name <;> cases hget' : c'.get? name <;> simp_all

lemma merge_perm {maps maps' : List Counts} (h : maps.Perm maps') : merge maps = merge maps' := by
  refine ext_getD (fun name => ?_) fun name => ?_
  · rw [contains_merge, contains_merge]
    exact exists_congr fun c => and_congr_left fun _ => h.mem_iff
  · rw [getD_merge, getD_merge]
    exact (h.map _).sum_nat

lemma getD_le_total (c : Counts) (name : String) : c.getD name 0 ≤ c.total := by
  rw [NameMap.getD]
  cases hget : c.get? name with
  | none => exact Nat.zero_le _
  | some n =>
    rw [total_eq_sum]
    exact List.le_sum_of_mem (List.mem_map_of_mem (NameMap.mem_entries.2 hget))

/-- While maps are merged no count grows beyond the sum of their totals. -/
lemma getD_merge_take_le (maps : List Counts) (k : ℕ) (name : String) :
    (merge (maps.take k)).getD name 0 ≤ (maps.map total).sum := by
  have hparts : (maps.map total).sum =
      ((maps.take k).map total).sum + ((maps.drop k).map total).sum := by
    rw [← List.sum_append, ← List.map_append, List.take_append_drop]
  calc (merge (maps.take k)).getD name 0
      ≤ (merge (maps.take k)).total := getD_le_total _ _
    _ = ((maps.take k).map total).sum := total_merge _
    _ ≤ (maps.map total).sum := by omega

end Counts

/-- **Rankings hold the first items, and merged counts are sums.** The most used names of a map are
its first entries by descending count and ascending name, and no other list is such a selection. In
the same way the hotspots are the first of the nodes with edges, by descending degree and ascending
path, each reported with its degrees. Merging maps gives each of their names the sum of its counts,
in whichever order the maps come. The totals add up too, and no count on the way is larger than the
sum of the totals. -/
theorem rankings_exact :
    (∀ (c : Counts) (n : ℕ) (picked : List (String × ℕ)),
      Statistics.top n c = picked ↔ Selects Prod.snd Prod.fst c.entries n picked) ∧
    (∀ (settings : CouplingSettings) (g : Graph),
      let report := Coupling.ofGraph settings g
      (∀ node ∈ report.hotspots, node ∈ report.nodes ∧
        node.fanIn = g.fanIn node.path ∧ node.fanOut = g.fanOut node.path) ∧
      ∀ picked, report.hotspots.map (·.path) = picked ↔
        Selects g.degree id (g.nodes.filter fun node => 0 < g.degree node)
          settings.hotspotCount picked) ∧
    ∀ maps : List Counts,
      (∀ name, (Counts.merge maps).getD name 0 = (maps.map fun c => c.getD name 0).sum ∧
        ((Counts.merge maps).contains name = true ↔ ∃ c ∈ maps, c.contains name = true)) ∧
      (∀ maps', maps.Perm maps' → Counts.merge maps' = Counts.merge maps) ∧
      (Counts.merge maps).total = (maps.map Counts.total).sum ∧
      ∀ k name, (Counts.merge (maps.take k)).getD name 0 ≤ (maps.map Counts.total).sum := by
  refine ⟨fun c n picked => (Statistics.selects_top c n).eq_iff, fun settings g => ?_,
    fun maps => ?_⟩
  · refine ⟨fun node h => ?_, fun picked => ?_⟩
    · have hnode := Coupling.hotspotsOf_subset settings.hotspotCount (Coupling.nodesOf g) h
      exact ⟨hnode, Coupling.degrees_nodesOf hnode⟩
    · exact (Coupling.selects_hotspotsOf g settings.hotspotCount).eq_iff
  · exact ⟨fun name => ⟨Counts.getD_merge maps name, Counts.contains_merge maps name⟩,
      fun maps' h => (Counts.merge_perm h).symm, Counts.total_merge maps,
      Counts.getD_merge_take_le maps⟩

/-- Two names with one count, one of them left out, and two nodes with one degree. -/
theorem rankings_exact_tied :
    let c : Counts := NameMap.ofList [("x", 1), ("b", 5), ("a", 5)]
    let d : Counts := NameMap.ofList [("b", 3)]
    let report := Coupling.ofGraph ⟨10, 2, 0.3, 0.7⟩ (Graph.build Graph.tangledOps)
    (Statistics.top 1 c = [("a", 5)] ∧ Statistics.top 2 c = [("a", 5), ("b", 5)]) ∧
    (report.hotspots.map (·.path) = ["menu.twig", "gone.twig"] ∧
      ∃ node ∈ report.hotspots, node.path = "menu.twig" ∧ node.fanIn = 2 ∧ node.fanOut = 2) ∧
    [c, d].Perm [d, c] ∧ Counts.merge [d, c] = Counts.merge [c, d] ∧
    (Counts.merge [c, d]).getD "b" 0 = 8 ∧ (Counts.merge [c, d]).total = 14 := by
  intro c d report
  obtain ⟨htop, hreport, hmerge⟩ := rankings_exact
  obtain ⟨hdegrees, hhotspots⟩ :=
    hreport ⟨10, 2, 0.3, 0.7⟩ (Graph.build Graph.tangledOps)
  obtain ⟨hcounts, horder, htotal, -⟩ := hmerge [c, d]
  have hswap : [c, d].Perm [d, c] := List.Perm.swap d c []
  have hpaths : report.hotspots.map (·.path) = ["menu.twig", "gone.twig"] :=
    (hhotspots _).2 (by decide +kernel)
  refine ⟨⟨(htop c 1 _).2 (by decide +kernel), (htop c 2 _).2 (by decide +kernel)⟩,
    ⟨hpaths, ?_⟩, hswap, horder _ hswap, (hcounts "b").1.trans (by decide +kernel),
    htotal.trans (by decide +kernel)⟩
  obtain ⟨node, hnode, hpath⟩ : ∃ node ∈ report.hotspots, node.path = "menu.twig" := by
    refine List.mem_map.1 ?_
    rw [hpaths]
    exact List.mem_cons_self
  obtain ⟨-, hin, hout⟩ := hdegrees node hnode
  rw [hpath] at hin hout
  exact ⟨node, hnode, hpath, hin.trans (by decide +kernel), hout.trans (by decide +kernel)⟩

end TemplateMetrics
