import TemplateMetrics.Proofs.Walk

/-!
Places in a tree.

A node is named by the way that leads to it from the root, the numbers of the children to follow.
So one place encloses another if it is the start of it, and places have an order of their own, the
one in which a walk enters the nodes (`Node.map_at?_places`, `Node.pairwise_places`).
-/

namespace TemplateMetrics.Syntax

/-- The way to a node from the root, as the numbers of the children to follow. -/
abbrev Place := List Nat

/-- A place is that of an ancestor of another. -/
def Encloses (q p : Place) : Prop := q <+: p ∧ q ≠ p

/-- A place comes before another in document order. -/
def Before : Place → Place → Prop
  | _, [] => False
  | [], _ :: _ => True
  | i :: p, j :: q => i < j ∨ i = j ∧ Before p q

lemma mem_take_iff_getElem? {α : Type} {l : List α} {a : α} {i : Nat} :
    a ∈ l.take i ↔ ∃ j, j < i ∧ l[j]? = some a := by
  simp only [List.mem_iff_getElem?, List.getElem?_take]
  refine exists_congr fun j => ?_
  by_cases hj : j < i <;> simp [hj]

section Order

variable {i j : Nat} {p q : Place}

lemma not_encloses_nil : ¬ Encloses q [] := fun h => h.2 (List.prefix_nil.1 h.1)

lemma encloses_nil_cons : Encloses [] (i :: p) := ⟨List.nil_prefix, List.cons_ne_nil i p |>.symm⟩

lemma encloses_cons_cons : Encloses (j :: q) (i :: p) ↔ j = i ∧ Encloses q p := by
  simp only [Encloses, List.cons_prefix_cons, ne_eq, List.cons.injEq, not_and]
  constructor
  · rintro ⟨⟨rfl, hprefix⟩, hne⟩
    exact ⟨rfl, hprefix, hne rfl⟩
  · rintro ⟨rfl, hprefix, hne⟩
    exact ⟨⟨rfl, hprefix⟩, fun _ => hne⟩

/-- What encloses a place below the root is the root or stands below the same child. -/
lemma encloses_cons : Encloses q (i :: p) ↔ q = [] ∨ ∃ g, q = i :: g ∧ Encloses g p := by
  cases q with
  | nil => simp [encloses_nil_cons]
  | cons j q =>
    rw [encloses_cons_cons]
    constructor
    · rintro ⟨rfl, h⟩
      exact .inr ⟨q, rfl, h⟩
    · rintro (h | ⟨g, hg, h⟩)
      · cases h
      · obtain ⟨rfl, rfl⟩ := List.cons.inj hg
        exact ⟨rfl, h⟩

lemma Encloses.of_prefix {g : Place} (hq : g <+: q) (hp : Encloses q p) : Encloses g p := by
  refine ⟨hq.trans hp.1, ?_⟩
  rintro rfl
  exact hp.2 (hp.1.eq_of_length_le hq.length_le)

lemma Before.ne_nil (h : Before q p) : p ≠ [] := by
  rintro rfl
  cases q <;> exact h

lemma not_before_self (p : Place) : ¬ Before p p := by
  induction p with
  | nil => exact id
  | cons i p ih =>
    rintro (h | ⟨-, h⟩)
    · exact Nat.lt_irrefl i h
    · exact ih h

end Order

namespace Node

/-- The node at a place. -/
def at? : Node → Place → Option Node
  | n, [] => some n
  | n, i :: p => n.children[i]?.bind fun c => at? c p

/-- The nodes on the way to a place, the root first. -/
def trail : Node → Place → List Node
  | n, [] => [n]
  | n, i :: p => n :: n.children[i]?.toList.flatMap fun c => trail c p

/-- All places of a tree, in document order. -/
def places : Node → List Place :=
  fold fun _ below => [] :: below.zipIdx.flatMap fun ps => ps.1.map (ps.2 :: ·)

variable {n m c : Node} {i : Nat} {p : Place}

lemma at?_cons_eq_some :
    n.at? (i :: p) = some m ↔ ∃ c, n.children[i]? = some c ∧ c.at? p = some m :=
  Option.bind_eq_some_iff

lemma at?_cons (h : n.children[i]? = some c) (p : Place) : n.at? (i :: p) = c.at? p := by
  rw [at?, h, Option.bind_some]

/-- A node somewhere in a tree is the tree itself or stands below one of its children. -/
lemma exists_at?_iff {P : Place → Node → Prop} :
    (∃ p m, n.at? p = some m ∧ P p m) ↔
      P [] n ∨ ∃ i c, n.children[i]? = some c ∧ ∃ p m, c.at? p = some m ∧ P (i :: p) m := by
  constructor
  · rintro ⟨p, m, hm, hP⟩
    cases p with
    | nil =>
      obtain rfl := Option.some.inj hm
      exact .inl hP
    | cons i p =>
      obtain ⟨c, hc, hm⟩ := at?_cons_eq_some.1 hm
      exact .inr ⟨i, c, hc, p, m, hm, hP⟩
  · rintro (hP | ⟨i, c, hc, p, m, hm, hP⟩)
    · exact ⟨[], n, rfl, hP⟩
    · exact ⟨i :: p, m, (at?_cons hc p).trans hm, hP⟩

/-- The nodes around a place below a child are the node itself and those around it in the child. -/
lemma forall_encloses_cons (hc : n.children[i]? = some c) {P : Place → Node → Prop} :
    (∀ g m, Encloses g (i :: p) → n.at? g = some m → P g m) ↔
      P [] n ∧ ∀ g m, Encloses g p → c.at? g = some m → P (i :: g) m := by
  constructor
  · intro h
    refine ⟨h [] n encloses_nil_cons rfl, fun g m hg hm => ?_⟩
    exact h (i :: g) m (encloses_cons_cons.2 ⟨rfl, hg⟩) ((at?_cons hc g).trans hm)
  · rintro ⟨hn, h⟩ g m hg hm
    rcases encloses_cons.1 hg with rfl | ⟨g, rfl, hin⟩
    · obtain rfl := Option.some.inj hm
      exact hn
    · rw [at?_cons hc] at hm
      exact h g m hin hm

lemma exists_encloses_cons (hc : n.children[i]? = some c) {P : Place → Node → Prop} :
    (∃ g m, Encloses g (i :: p) ∧ n.at? g = some m ∧ P g m) ↔
      P [] n ∨ ∃ g m, Encloses g p ∧ c.at? g = some m ∧ P (i :: g) m := by
  have hforall := not_congr (forall_encloses_cons (p := p) hc (P := fun g m => ¬ P g m))
  push Not at hforall
  rwa [← or_iff_not_imp_left] at hforall

lemma trail_cons (h : n.children[i]? = some c) (p : Place) :
    n.trail (i :: p) = n :: c.trail p := by
  rw [trail, h, Option.toList_some, List.flatMap_singleton]

lemma places_eq (n : Node) :
    n.places = [] :: n.children.zipIdx.flatMap fun c => c.1.places.map (c.2 :: ·) := by
  rw [places, fold_eq, List.zipIdx_map, List.flatMap_map]
  rfl

lemma mem_places : p ∈ n.places ↔ ∃ m, n.at? p = some m := by
  induction p generalizing n with
  | nil =>
    rw [places_eq]
    exact iff_of_true List.mem_cons_self ⟨n, rfl⟩
  | cons i p ih =>
    rw [places_eq]
    simp only [List.mem_cons, reduceCtorEq, List.mem_flatMap, List.mem_map, List.cons.injEq,
      false_or, at?_cons_eq_some]
    constructor
    · rintro ⟨⟨c, j⟩, hc, q, hq, rfl, rfl⟩
      obtain ⟨m, hm⟩ := ih.1 hq
      exact ⟨m, c, List.mem_zipIdx_iff_getElem?.1 hc, hm⟩
    · rintro ⟨m, c, hc, hm⟩
      exact ⟨(c, i), List.mem_zipIdx_iff_getElem?.2 hc, p, ih.2 ⟨m, hm⟩, rfl, rfl⟩

/-- Places are listed in document order. -/
lemma pairwise_places (n : Node) : n.places.Pairwise Before := by
  induction n using Node.induct with
  | step n ih =>
    rw [places_eq, List.pairwise_cons, List.pairwise_flatMap]
    refine ⟨fun p hp => ?_, fun c hc => ?_, ?_⟩
    · obtain ⟨c, -, hp⟩ := List.mem_flatMap.1 hp
      obtain ⟨q, -, rfl⟩ := List.mem_map.1 hp
      exact trivial
    · refine List.pairwise_map.2 ((ih c.1 (List.fst_mem_of_mem_zipIdx hc)).imp ?_)
      exact fun h => .inr ⟨rfl, h⟩
    · -- the numbers of the children ascend
      have hascending : (n.children.zipIdx.map Prod.snd).Pairwise (· < ·) := by
        rw [List.zipIdx_map_snd]
        exact List.pairwise_lt_range' ..
      refine (List.pairwise_map.1 hascending).imp fun hlt p hp q hq => ?_
      obtain ⟨p, -, rfl⟩ := List.mem_map.1 hp
      obtain ⟨q, -, rfl⟩ := List.mem_map.1 hq
      exact .inl hlt

lemma nodup_places (n : Node) : n.places.Nodup := by
  refine n.pairwise_places.imp ?_
  rintro p _ h rfl
  exact not_before_self p h

/-- At the places in their order stand the nodes in document order. -/
lemma map_at?_places (n : Node) : n.places.map n.at? = n.nodes.map some := by
  induction n using Node.induct with
  | step n ih =>
    have hchildren : ∀ c ∈ n.children.zipIdx,
        (c.1.places.map (c.2 :: ·)).map n.at? = c.1.nodes.map some := by
      intro c hc
      rw [← ih c.1 (List.fst_mem_of_mem_zipIdx hc), List.map_map]
      exact List.map_congr_left fun p _ => at?_cons (List.mem_zipIdx_iff_getElem?.1 hc) p
    have hnodes : n.children.flatMap nodes = n.children.zipIdx.flatMap fun c => c.1.nodes := by
      rw [← List.flatMap_map Prod.fst nodes, List.zipIdx_map_fst]
    rw [places_eq, nodes_eq, List.map_cons, List.map_cons, List.map_flatMap, hnodes,
      List.map_flatMap, List.flatMap_congr hchildren]
    rfl

end Node

end TemplateMetrics.Syntax
