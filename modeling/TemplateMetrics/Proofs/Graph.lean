import Mathlib.Data.List.Basic
import Mathlib.Data.List.Induction
import TemplateMetrics.Analysis.Batch
import TemplateMetrics.Proofs.NameMap

/-!
Graphs as they are built: by adding paths and references in any order.

A graph is what its references and its sources say: the targets of a source are those of its
references in the order they were added (`Graph.getD_adjacency_build`), so the edges are the
references with the order and the repetitions forgotten (`Graph.mem_edges_build`).
-/

namespace TemplateMetrics

namespace Graph

/-- One step of building a graph. -/
inductive Op where
  | node (path : String)
  | reference (r : Reference)

/-- The path that a step makes a source. -/
def Op.source : Op → String
  | .node path => path
  | .reference r => r.source

def Op.reference? : Op → Option Reference
  | .node _ => none
  | .reference r => some r

def apply (g : Graph) : Op → Graph
  | .node path => g.addNode path
  | .reference r => g.addReference r

/-- The graph that a list of steps builds. -/
def build (ops : List Op) : Graph := ops.foldl apply empty

lemma build_concat (ops : List Op) (op : Op) : build (ops ++ [op]) = (build ops).apply op :=
  List.foldl_append ..

lemma references_apply (g : Graph) (op : Op) :
    (g.apply op).references = g.references ++ op.reference?.toList := by
  cases op with
  | node path => exact (List.append_nil _).symm
  | reference r => rfl

lemma contains_apply (g : Graph) (op : Op) (path : String) :
    (g.apply op).adjacency.contains path = true ↔
      path = op.source ∨ g.adjacency.contains path = true := by
  cases op <;>
    simp [apply, addNode, addReference, NameMap.alter, Op.source]

/-- A step adds the target of its reference to the targets of the source, and changes no other. -/
lemma getD_adjacency_apply (g : Graph) (op : Op) (path : String) :
    ((g.apply op).adjacency.get? path).getD [] = (g.adjacency.get? path).getD [] ++
      (op.reference?.toList.filter (·.source = path)).map (Path.normalizeTarget ·.target) := by
  cases op with
  | node p =>
    by_cases h : path = p
    · subst h
      simp [apply, addNode, Op.reference?]
    · simp [apply, addNode, Op.reference?, h]
  | reference r =>
    by_cases h : path = r.source
    · subst h
      simp [apply, addReference, Op.reference?]
    · simp [apply, addReference, Op.reference?, h, Ne.symm h]

lemma references_build (ops : List Op) : (build ops).references = ops.filterMap Op.reference? := by
  induction ops using List.reverseRecOn with
  | nil => rfl
  | append_singleton ops op ih =>
    rw [build_concat, references_apply, ih, List.filterMap_append]
    cases op <;> rfl

lemma contains_build (ops : List Op) (path : String) :
    (build ops).adjacency.contains path = true ↔ path ∈ ops.map Op.source := by
  induction ops using List.reverseRecOn with
  | nil => simp [build, empty]
  | append_singleton ops op ih =>
    rw [build_concat, contains_apply, ih, List.map_append, List.mem_append, or_comm]
    simp

lemma getD_adjacency_build (ops : List Op) (path : String) :
    ((build ops).adjacency.get? path).getD [] =
      ((build ops).references.filter (·.source = path)).map (Path.normalizeTarget ·.target) := by
  induction ops using List.reverseRecOn with
  | nil => rfl
  | append_singleton ops op ih =>
    rw [build_concat, getD_adjacency_apply, ih, references_apply, List.filter_append,
      List.map_append]

lemma exists_entry_iff {g : Graph} {p q : String} :
    (∃ e ∈ g.adjacency.entries, e.1 = p ∧ q ∈ e.2) ↔ q ∈ (g.adjacency.get? p).getD [] := by
  constructor
  · rintro ⟨⟨k, targets⟩, he, rfl, hq⟩
    rw [NameMap.mem_entries.1 he]
    exact hq
  · intro hq
    cases hp : g.adjacency.get? p with
    | none =>
      rw [hp] at hq
      exact absurd hq List.not_mem_nil
    | some targets =>
      rw [hp] at hq
      exact ⟨(p, targets), NameMap.mem_entries.2 hp, rfl, hq⟩

/-- The edges are the pairs that the adjacency lists. -/
lemma mem_edges {g : Graph} {p q : String} :
    (p, q) ∈ g.edges ↔ q ∈ (g.adjacency.get? p).getD [] := by
  rw [← exists_entry_iff]
  simp only [edges, List.mem_flatMap, List.mem_map, NameSet.mem_toList_ofNames, Prod.mk.injEq]
  constructor
  · rintro ⟨e, he, t, ht, rfl, rfl⟩
    exact ⟨e, he, rfl, ht⟩
  · rintro ⟨e, he, rfl, hq⟩
    exact ⟨e, he, q, hq, rfl, rfl⟩

/-- The edges are the references, with their targets normalized. -/
lemma mem_edges_build {ops : List Op} {p q : String} :
    (p, q) ∈ (build ops).edges ↔
      ∃ r ∈ (build ops).references, r.source = p ∧ Path.normalizeTarget r.target = q := by
  rw [mem_edges, getD_adjacency_build]
  simp [and_assoc]

/-! ### Graphs of results -/

/-- The steps that add a result and its references. -/
def opsOf (r : Result) : List Op :=
  .node r.path :: (Reference.ofMetrics r.path r.metrics).map .reference

lemma ofResults_eq_build (results : List Result) :
    ofResults results = build (results.flatMap opsOf) := by
  have hrefs : ∀ (rs : List Reference) (g : Graph),
      rs.foldl addReference g = (rs.map Op.reference).foldl apply g := by
    intro rs g
    rw [List.foldl_map]
    rfl
  rw [ofResults, build, List.foldl_flatMap]
  congr 1
  funext g r
  rw [opsOf, List.foldl_cons, hrefs]
  rfl

lemma source_of_mem_ofMetrics {source : String} {m : Metrics} {r : Reference}
    (h : r ∈ Reference.ofMetrics source m) : r.source = source := by
  obtain ⟨j, -, hj⟩ := List.mem_filterMap.1 h
  unfold Reference.ofJson? at hj
  simp only [Option.bind_eq_bind, Option.bind_eq_some_iff, pure, Option.some.injEq] at hj
  obtain ⟨-, -, -, -, -, -, -, -, -, -, rfl⟩ := hj
  rfl

/-- The references of a graph of results are those of the results, in order. -/
lemma references_ofResults (results : List Result) :
    (ofResults results).references =
      results.flatMap fun r => Reference.ofMetrics r.path r.metrics := by
  rw [ofResults_eq_build, references_build, List.filterMap_flatMap]
  refine List.flatMap_congr fun r _ => ?_
  rw [opsOf, List.filterMap_cons_none (by rfl), List.filterMap_map]
  exact List.filterMap_some

/-- The sources of a graph of results are their paths. -/
lemma contains_ofResults (results : List Result) (path : String) :
    (ofResults results).adjacency.contains path = true ↔ path ∈ results.map (·.path) := by
  rw [ofResults_eq_build, contains_build]
  simp only [List.map_flatMap, List.mem_flatMap, List.mem_map, opsOf, List.map_cons, List.map_map,
    List.mem_cons]
  constructor
  · rintro ⟨r, hr, rfl | ⟨ref, href, rfl⟩⟩
    · exact ⟨r, hr, rfl⟩
    · exact ⟨r, hr, (source_of_mem_ofMetrics href).symm⟩
  · rintro ⟨r, hr, rfl⟩
    exact ⟨r, hr, .inl rfl⟩

end Graph

end TemplateMetrics
