import Mathlib.Tactic.Choose
import Mathlib.Tactic.TFAE
import TemplateMetrics.Proofs.CycleGroups

/-!
The edges that lead back in a depth-first search.

A search is described by its history: the nodes it has finished, the last one first, and the edges
that led back (`History`). Two facts about it carry everything. An edge leads back only to a node
from which the search came, so it closes a cycle. And an edge that does not lead back ends at a node
finished earlier, so no cycle is made of such edges alone: whatever the order of the search, each
group of nodes on a common cycle has an edge that leads back.
-/

namespace TemplateMetrics.Graph

/-! ### Histories -/

/-- What a search has done. -/
structure History where
  /-- Finished nodes, the last one first. -/
  finished : List String
  /-- Edges that led to a node that was discovered and not finished. -/
  back : List (String × String)

section

variable (next : String → List String)

/-- There is a path of edges, or the nodes are the same. -/
def Leads : String → String → Prop := Relation.ReflTransGen fun u v => v ∈ next u

/-- Every edge of a node that leads not back ends at a node finished before. -/
def Settled (back : List (String × String)) : List String → Prop
  | [] => True
  | u :: before => (∀ v ∈ next u, (u, v) ∈ back ∨ v ∈ before) ∧ Settled back before

/-- A search stands where its history has led it, with the nodes of `stack` not finished. -/
structure Search.Records (s : Search) (stack : List String) (h : History) : Prop where
  finished : ∀ v, s.finished.contains v = true ↔ v ∈ h.finished
  discovered : ∀ v, s.discovered.contains v = true ↔ v ∈ stack ∨ v ∈ h.finished
  count : s.backEdges = h.back.length
  nodup : h.back.Nodup
  source : ∀ u v, (u, v) ∈ h.back → u ∈ stack ∨ u ∈ h.finished
  closes : ∀ u v, (u, v) ∈ h.back → v ∈ next u ∧ Leads next v u
  settled : Settled next h.back h.finished

/-- A history that goes on from another: edges lead back from newly discovered nodes only. -/
structure History.Later (stack : List String) (h h' : History) : Prop where
  finished : h.finished ⊆ h'.finished
  back : ∀ u, u ∈ stack ∨ u ∈ h.finished → ∀ v, (u, v) ∈ h'.back ↔ (u, v) ∈ h.back

/-- A search on its way through the edges of `u`, of which those to `done` are followed. -/
structure Search.Follows (stack : List String) (u : String) (h₀ : History) (done : List String)
    (s : Search) (h : History) : Prop where
  records : s.Records next (u :: stack) h
  later : h₀.Later stack h
  own : ∀ v, (u, v) ∈ h.back → v ∈ done
  done : ∀ v ∈ done, (u, v) ∈ h.back ∨ v ∈ h.finished

/-- What the search does with one edge. -/
def Search.follow (room : Nat) (s : Search) (v : String) : Search :=
  if !s.discovered.contains v then visit next room s v
  else if !s.finished.contains v then { s with backEdges := s.backEdges + 1 }
  else s

end

variable {next : String → List String} {nodes stack : List String} {s : Search} {h h' : History}
  {u v : String}

lemma visit_succ (room : Nat) (hu : s.discovered.contains u = false) :
    visit next (room + 1) s u =
      let s' := (next u).foldl (Search.follow next room)
        { s with discovered := s.discovered.add u }
      { s' with finished := s'.finished.add u } := by
  rw [visit, if_neg (by simp [hu])]
  rfl

lemma visit_of_discovered (room : Nat) (hu : s.discovered.contains u = true) :
    visit next room s u = s := by
  cases room with
  | zero => rfl
  | succ room => rw [visit, if_pos hu]

lemma Settled.mono {back back' : List (String × String)} {l : List String}
    (hback : ∀ u ∈ l, ∀ v, (u, v) ∈ back → (u, v) ∈ back') (hl : Settled next back l) :
    Settled next back' l := by
  induction l with
  | nil => trivial
  | cons u before ih =>
    refine ⟨fun v hv => ?_, ih (fun w hw => hback w (List.mem_cons_of_mem _ hw)) hl.2⟩
    exact (hl.1 v hv).imp (hback u List.mem_cons_self v) id

/-- Nodes each of which has an edge to another of them that leads not back are never finished. -/
lemma Settled.not_mem {back : List (String × String)} {l : List String} {C : String → Prop}
    (hC : ∀ u, C u → ∃ v, C v ∧ v ∈ next u ∧ (u, v) ∉ back) (hl : Settled next back l) :
    ∀ u ∈ l, ¬ C u := by
  induction l with
  | nil => simp
  | cons w before ih =>
    intro u hu hCu
    rcases List.mem_cons.1 hu with rfl | hu
    · obtain ⟨v, hCv, hv, hback⟩ := hC u hCu
      exact ih hl.2 v ((hl.1 v hv).resolve_left hback) hCv
    · exact ih hl.2 u hu hCu

lemma History.Later.trans {h'' : History} (hlater : h.Later stack h')
    (hlater' : h'.Later (u :: stack) h'') : h.Later stack h'' where
  finished := List.Subset.trans hlater.finished hlater'.finished
  back := fun w hw v =>
    (hlater'.back w (hw.imp (List.mem_cons_of_mem _) fun hw => hlater.finished hw) v).trans
      (hlater.back w hw v)

/-! ### What a search does -/

namespace Search.Records

lemma discover (hrec : s.Records next stack h) (u : String) :
    Search.Records next { s with discovered := s.discovered.add u } (u :: stack) h where
  finished := hrec.finished
  discovered := fun v => by
    rw [NameSet.contains_add_iff, hrec.discovered, List.mem_cons, or_assoc]
  count := hrec.count
  nodup := hrec.nodup
  source := fun w v hv => (hrec.source w v hv).imp (List.mem_cons_of_mem _) id
  closes := hrec.closes
  settled := hrec.settled

lemma leadBack (hrec : s.Records next stack h) (hu : u ∈ stack) (hedge : v ∈ next u)
    (hleads : Leads next v u) (hnew : (u, v) ∉ h.back) :
    Search.Records next { s with backEdges := s.backEdges + 1 } stack
      ⟨h.finished, (u, v) :: h.back⟩ where
  finished := hrec.finished
  discovered := hrec.discovered
  count := by simp [hrec.count]
  nodup := List.nodup_cons.2 ⟨hnew, hrec.nodup⟩
  source := by
    intro w x hmem
    rcases List.mem_cons.1 hmem with heq | hmem
    · obtain ⟨rfl, rfl⟩ := Prod.mk.inj heq
      exact .inl hu
    · exact hrec.source w x hmem
  closes := by
    intro w x hmem
    rcases List.mem_cons.1 hmem with heq | hmem
    · obtain ⟨rfl, rfl⟩ := Prod.mk.inj heq
      exact ⟨hedge, hleads⟩
    · exact hrec.closes w x hmem
  settled := hrec.settled.mono fun _ _ _ hmem => List.mem_cons_of_mem _ hmem

/-- The node on top is finished when each of its edges leads back or to a finished node. -/
lemma finish (hrec : s.Records next (u :: stack) h)
    (hdone : ∀ v ∈ next u, (u, v) ∈ h.back ∨ v ∈ h.finished) :
    Search.Records next { s with finished := s.finished.add u } stack
      ⟨u :: h.finished, h.back⟩ where
  finished := fun v => by rw [NameSet.contains_add_iff, hrec.finished, List.mem_cons]
  discovered := fun v => by
    rw [hrec.discovered, List.mem_cons, List.mem_cons, or_assoc, or_left_comm]
  count := hrec.count
  nodup := hrec.nodup
  source := by
    intro w v hv
    have hmem := hrec.source w v hv
    rwa [List.mem_cons, or_assoc, or_left_comm, ← List.mem_cons] at hmem
  closes := hrec.closes
  settled := ⟨hdone, hrec.settled⟩

end Search.Records

/-! ### One node -/

/-- Nodes that are not discovered. -/
def unseen (nodes stack : List String) (h : History) : Nat :=
  (nodes.filter fun v => decide (v ∉ stack ∧ v ∉ h.finished)).length

lemma unseen_mono (hsub : h.finished ⊆ h'.finished) :
    unseen nodes stack h' ≤ unseen nodes stack h := by
  refine (List.monotone_filter_right nodes fun v hv => ?_).length_le
  simp only [decide_eq_true_eq] at hv ⊢
  exact ⟨hv.1, fun hfin => hv.2 (hsub hfin)⟩

lemma unseen_push (hu : u ∈ nodes) (hstack : u ∉ stack) (hfin : u ∉ h.finished) :
    unseen nodes (u :: stack) h < unseen nodes stack h := by
  have hsub : (nodes.filter fun v => decide (v ∉ u :: stack ∧ v ∉ h.finished)).Sublist
      (nodes.filter fun v => decide (v ∉ stack ∧ v ∉ h.finished)) := by
    refine List.monotone_filter_right nodes fun v hv => ?_
    simp only [List.mem_cons, not_or, decide_eq_true_eq] at hv ⊢
    exact ⟨hv.1.2, hv.2⟩
  refine Nat.lt_of_le_of_ne hsub.length_le fun heq => ?_
  have hmem : u ∈ nodes.filter fun v => decide (v ∉ u :: stack ∧ v ∉ h.finished) := by
    rw [hsub.eq_of_length heq]
    simp [hu, hstack, hfin]
  simp at hmem

/-- What a visit achieves with a given room: the node is finished, what was done before stays. -/
def Visits (next : String → List String) (nodes : List String) (room : Nat) : Prop :=
  ∀ {s : Search} {u : String} {stack : List String} {h : History}, s.Records next stack h →
    u ∈ nodes → unseen nodes stack h ≤ room → (∀ w ∈ stack, Leads next w u) → u ∉ stack →
    u ∉ h.finished →
    ∃ h', (visit next room s u).Records next stack h' ∧ h.Later stack h' ∧ u ∈ h'.finished

namespace Search.Follows

variable {h₀ : History} {done : List String} {room : Nat}

lemma extend {s' : Search} (hs : s.Follows next stack u h₀ done h)
    (hrec : s'.Records next (u :: stack) h') (hlater : h₀.Later stack h')
    (hfin : h.finished ⊆ h'.finished) (hback : ∀ w, (u, w) ∈ h.back → (u, w) ∈ h'.back)
    (hown : ∀ w, (u, w) ∈ h'.back → (u, w) ∈ h.back ∨ w = v)
    (hv : (u, v) ∈ h'.back ∨ v ∈ h'.finished) :
    s'.Follows next stack u h₀ (done ++ [v]) h' where
  records := hrec
  later := hlater
  own := fun w hw => List.mem_append.2 ((hown w hw).imp (hs.own w) List.mem_singleton.2)
  done := by
    intro w hw
    rcases List.mem_append.1 hw with hw | hw
    · exact (hs.done w hw).imp (hback w) fun hw => hfin hw
    · rwa [List.mem_singleton.1 hw]

/-- One edge: its end is finished afterwards, or the edge leads back. -/
lemma step (hvisits : Visits next nodes room) (hs : s.Follows next stack u h₀ done h)
    (hroom : unseen nodes (u :: stack) h₀ ≤ room) (hstack : ∀ w ∈ stack, Leads next w u)
    (hu : u ∉ stack ∧ u ∉ h₀.finished) (hedge : v ∈ next u) (hv : v ∈ nodes) (hnew : v ∉ done) :
    ∃ h', (s.follow next room v).Follows next stack u h₀ (done ++ [v]) h' := by
  have hrec := hs.records
  -- every node that is not finished leads to the one whose edges are followed
  have hleads : ∀ w ∈ u :: stack, Leads next w u := by
    intro w hw
    rcases List.mem_cons.1 hw with rfl | hw
    · exact .refl
    · exact hstack w hw
  unfold Search.follow
  by_cases hdisc : s.discovered.contains v = true
  · by_cases hfin : s.finished.contains v = true
    · -- finished before: nothing happens
      rw [if_neg (by simp [hdisc]), if_neg (by simp [hfin])]
      exact ⟨h, hs.extend hrec hs.later (fun _ hw => hw) (fun _ hw => hw) (fun _ hw => .inl hw)
        (.inr ((hrec.finished v).1 hfin))⟩
    · -- not finished: the edge leads back
      rw [if_neg (by simp [hdisc]), if_pos (by simpa using hfin)]
      have hon : v ∈ u :: stack :=
        ((hrec.discovered v).1 hdisc).resolve_right fun hv => hfin ((hrec.finished v).2 hv)
      have hrec' := hrec.leadBack List.mem_cons_self hedge (hleads v hon)
        fun hmem => hnew (hs.own v hmem)
      refine ⟨_, hs.extend hrec' ⟨hs.later.finished, fun w hw x => ?_⟩ (fun _ hw => hw)
        (fun _ hw => List.mem_cons_of_mem _ hw) (fun w hw => ?_) (.inl List.mem_cons_self)⟩
      · have hne : w ≠ u := by
          rintro rfl
          exact hw.elim hu.1 hu.2
        rw [← hs.later.back w hw x]
        simp [hne]
      · rcases List.mem_cons.1 hw with heq | hw
        · exact .inr (Prod.mk.inj heq).2
        · exact .inl hw
  · -- not discovered: the search goes on there
    rw [if_pos (by simpa using hdisc)]
    have hnot := mt (hrec.discovered v).2 hdisc
    rw [not_or] at hnot
    obtain ⟨h', hrec', hlater', hfin'⟩ := hvisits hrec hv
      (Nat.le_trans (unseen_mono hs.later.finished) hroom) (fun w hw => (hleads w hw).tail hedge)
      hnot.1 hnot.2
    have hsame := hlater'.back u (.inl List.mem_cons_self)
    exact ⟨h', hs.extend hrec' (hs.later.trans hlater') hlater'.finished (fun w => (hsame w).2)
      (fun w hw => .inl ((hsame w).1 hw)) (.inr hfin')⟩

lemma run (hvisits : Visits next nodes room) (hroom : unseen nodes (u :: stack) h₀ ≤ room)
    (hstack : ∀ w ∈ stack, Leads next w u) (hu : u ∉ stack ∧ u ∉ h₀.finished)
    (hnodes : ∀ v ∈ next u, v ∈ nodes) (hnodup : (next u).Nodup) (rest : List String)
    (hnext : done ++ rest = next u) (hs : s.Follows next stack u h₀ done h) :
    ∃ h', (rest.foldl (Search.follow next room) s).Follows next stack u h₀ (next u) h' := by
  induction rest generalizing done s h with
  | nil =>
    rw [List.append_nil] at hnext
    exact ⟨h, hnext ▸ hs⟩
  | cons v rest ih =>
    have hedge : v ∈ next u := hnext ▸ List.mem_append_right _ List.mem_cons_self
    have hnew : v ∉ done := by
      rw [← hnext] at hnodup
      exact fun hmem => List.disjoint_of_nodup_append hnodup hmem List.mem_cons_self
    obtain ⟨h', hs'⟩ := hs.step hvisits hroom hstack hu hedge (hnodes v hedge) hnew
    exact ih (by rw [← hnext, List.append_assoc, List.singleton_append]) hs'

end Search.Follows

/-- A visit finishes its node. The induction is on the room: every visit on the way starts with one
more node discovered. -/
lemma visits (hnodes : ∀ u, ∀ v ∈ next u, v ∈ nodes) (hnodup : ∀ u, (next u).Nodup) (room : Nat) :
    Visits next nodes room := by
  induction room with
  | zero =>
    intro s u stack h _ hu hroom _ hstack hfin
    -- the node itself is unseen and needs room
    have := unseen_push hu hstack hfin
    omega
  | succ room ih =>
    intro s u stack h hrec hu hroom hleads hstack hfin
    have hdisc : s.discovered.contains u = false := by
      by_contra hcon
      exact ((hrec.discovered u).1 (by simpa using hcon)).elim hstack hfin
    -- no edge of the node is known yet, since it was neither on the stack nor finished
    have hsource : ∀ v, (u, v) ∉ h.back := fun v hv => (hrec.source u v hv).elim hstack hfin
    have hstart : Search.Follows next stack u h [] { s with discovered := s.discovered.add u } h :=
      ⟨hrec.discover u, ⟨fun _ hv => hv, fun _ _ _ => Iff.rfl⟩, fun v hv => absurd hv (hsource v),
        by simp⟩
    have hpush := unseen_push hu hstack hfin
    obtain ⟨h', hrec', hlater', -, hdone⟩ := hstart.run ih (by omega) hleads ⟨hstack, hfin⟩
      (hnodes u) (hnodup u) (next u) rfl
    rw [visit_succ room hdisc]
    refine ⟨⟨u :: h'.finished, h'.back⟩, hrec'.finish hdone, ⟨fun w hw => ?_, hlater'.back⟩,
      List.mem_cons_self⟩
    exact List.mem_cons_of_mem _ (hlater'.finished hw)

/-! ### All nodes -/

lemma exists_history (nodes : List String) (hnodes : ∀ u, ∀ v ∈ next u, v ∈ nodes)
    (hnodup : ∀ u, (next u).Nodup) (us : List String) (hus : us ⊆ nodes)
    (hrec : s.Records next [] h) :
    ∃ h', (us.foldl (visit next nodes.length) s).Records next [] h' ∧ h.finished ⊆ h'.finished ∧
      us ⊆ h'.finished := by
  induction us generalizing s h with
  | nil => exact ⟨h, hrec, fun _ hv => hv, List.nil_subset _⟩
  | cons u us ih =>
    obtain ⟨hu, hus⟩ := List.cons_subset.1 hus
    have hvisit : ∃ h₁, (visit next nodes.length s u).Records next [] h₁ ∧
        h.finished ⊆ h₁.finished ∧ u ∈ h₁.finished := by
      by_cases hdisc : s.discovered.contains u = true
      · -- with an empty stack, all that is discovered is finished
        rw [visit_of_discovered _ hdisc]
        have hfin := ((hrec.discovered u).1 hdisc).resolve_left List.not_mem_nil
        exact ⟨h, hrec, fun _ hv => hv, hfin⟩
      · have hnot := mt (hrec.discovered u).2 hdisc
        rw [not_or] at hnot
        obtain ⟨h₁, hrec₁, hlater, hfin⟩ := visits hnodes hnodup nodes.length hrec hu
          (List.length_filter_le ..) (by simp) hnot.1 hnot.2
        exact ⟨h₁, hrec₁, hlater.finished, hfin⟩
    obtain ⟨h₁, hrec₁, hsub, hfin⟩ := hvisit
    obtain ⟨h', hrec', hsub', hall⟩ := ih hus hrec₁
    exact ⟨h', hrec', List.Subset.trans hsub hsub', List.cons_subset.2 ⟨hsub' hfin, hall⟩⟩

lemma records_start (next : String → List String) : Search.start.Records next [] ⟨[], []⟩ :=
  ⟨by simp [Search.start], by simp [Search.start], rfl, List.nodup_nil, by simp, by simp, trivial⟩

/-- The edges that lead back, as many as are counted: each closes a cycle, and each node on a cycle
has one among the nodes it shares the cycle with. -/
lemma exists_backEdges (g : Graph) :
    ∃ back : List (String × String), back.length = g.backEdgeCount ∧ back.Nodup ∧
      (∀ u v, (u, v) ∈ back → g.Edge u v ∧ g.Reaches u u) ∧
      ∀ u, g.Reaches u u → ∃ v w, (v, w) ∈ back ∧ g.Mutual u v := by
  set next : String → List String := fun n =>
    (NameMap.ofList (g.nodes.map fun n => (n, (g.successors n).reverse))).getD n [] with hnext
  have hnext_eq : ∀ u, next u = (g.successors u).reverse := by
    intro u
    rw [hnext]
    dsimp only
    rw [NameMap.getD, NameMap.get?_ofList_map]
    by_cases hu : u ∈ g.nodes
    · rw [if_pos hu]
      rfl
    · have hnone : g.successors u = [] :=
        List.eq_nil_iff_forall_not_mem.2 fun v hv => hu (mem_nodes_of_edge (mem_successors.1 hv)).1
      rw [if_neg hu, hnone]
      rfl
  have hedge : ∀ u v, v ∈ next u ↔ g.Edge u v := by
    intro u v
    rw [hnext_eq, List.mem_reverse, mem_successors]
  obtain ⟨h, hrec, -, hall⟩ := exists_history g.nodes
    (fun u v hv => (mem_nodes_of_edge ((hedge u v).1 hv)).2)
    (fun u => hnext_eq u ▸ List.nodup_reverse.2 (g.nodup_successors u)) g.nodes (fun _ hv => hv)
    (records_start next)
  refine ⟨h.back, hrec.count.symm, hrec.nodup, fun u v hv => ?_, fun u hu => ?_⟩
  · obtain ⟨hv, hleads⟩ := hrec.closes u v hv
    have hpath : Relation.ReflTransGen g.Edge v u :=
      Relation.ReflTransGen.mono (fun a b => (hedge a b).1) v u hleads
    exact ⟨(hedge u v).1 hv, .head' ((hedge u v).1 hv) hpath⟩
  · by_contra hnone
    push Not at hnone
    -- otherwise the nodes on the cycle could never be finished
    refine hrec.settled.not_mem (C := g.Mutual u) (fun v hv => ?_) u
      (hall (mem_nodes_of_reaches hu).1) ⟨hu, hu⟩
    obtain ⟨w, hvw, hw⟩ := hv.exists_edge
    exact ⟨w, hw, (hedge v w).2 hvw, fun hback => hnone v w hback hv⟩

/-- No group has more than one share in the edges that lead back. -/
lemma length_cycleGroups_le (g : Graph) : g.cycleGroups.length ≤ g.backEdgeCount := by
  obtain ⟨back, hcount, -, -, hback⟩ := g.exists_backEdges
  -- a cycle through the group has an edge that leads back, and it starts in the group
  have hown : ∀ group ∈ g.cycleGroups, ∃ e ∈ back, e.1 ∈ group := by
    intro group hgroup
    obtain ⟨u, hu⟩ := List.exists_mem_of_ne_nil _ (ne_nil_of_mem_cycleGroups hgroup)
    obtain rfl := eq_circle_of_mem hgroup hu
    obtain ⟨v, w, hvw, hv⟩ := hback u (mem_circle.1 hu).1
    exact ⟨(v, w), hvw, mem_circle.2 hv⟩
  choose! own hmem hsource using hown
  -- groups have no member in common, so neither have they such an edge
  have hnodup : (g.cycleGroups.map own).Nodup := by
    refine List.pairwise_map.2 (g.pairwise_cycleGroups.imp_of_mem ?_)
    intro a b ha hb hab heq
    exact hab.2 (hsource a ha) (heq ▸ hsource b hb)
  have hsub : g.cycleGroups.map own ⊆ back := by
    intro e he
    obtain ⟨group, hgroup, rfl⟩ := List.mem_map.1 he
    exact hmem group hgroup
  calc g.cycleGroups.length = (g.cycleGroups.map own).length := (List.length_map _).symm
    _ ≤ back.length := (hnodup.subperm hsub).length_le
    _ = g.backEdgeCount := hcount

lemma backEdgeCount_le (g : Graph) : g.backEdgeCount ≤ g.edgeCount := by
  obtain ⟨back, hcount, hnodup, hedge, -⟩ := g.exists_backEdges
  rw [← hcount]
  exact (hnodup.subperm fun e he => (hedge e.1 e.2 he).1).length_le

/-- **Both ways of looking for cycles say the same, and both are right**: no edge leads back in the
search if and only if there is no group, and if and only if there is no cycle. Each group has at
least one edge that leads back. -/
theorem cycles_found_exactly (g : Graph) :
    [g.backEdgeCount = 0, g.cycleGroups = [], ∀ u, ¬ g.Reaches u u].TFAE ∧
      g.cycleGroups.length ≤ g.backEdgeCount ∧ g.backEdgeCount ≤ g.edgeCount := by
  refine ⟨?_, g.length_cycleGroups_le, g.backEdgeCount_le⟩
  obtain ⟨back, hcount, -, hedge, -⟩ := g.exists_backEdges
  tfae_have 1 → 2 := by
    intro hzero
    have hle := g.length_cycleGroups_le
    exact List.length_eq_zero_iff.1 (by omega)
  tfae_have 2 → 3 := by
    intro hnil u hu
    have hgroup := circle_mem_cycleGroups hu
    rw [hnil] at hgroup
    exact absurd hgroup List.not_mem_nil
  tfae_have 3 → 1 := by
    intro hacyclic
    rw [← hcount, List.length_eq_zero_iff]
    exact List.eq_nil_iff_forall_not_mem.2 fun e he => hacyclic e.1 (hedge e.1 e.2 he).2
  tfae_finish

end TemplateMetrics.Graph
