import TemplateMetrics.Proofs.Vocabulary

/-!
Collectors that share a walk.

None of them sees the others: each ends where it would end alone (`Watch.traverse_singleton`). Their
metrics are joined in order, so under each name stands the metric of the last collector that has one
(`Watch.get?_metrics_eq_some_iff`). The standard collectors have no name in common, whatever the
tree, so that for them the order does not matter (`Watch.metrics_perm`).
-/

namespace TemplateMetrics.Collect

open Syntax

namespace Watch

variable {watch watch' : Watch} {key : String} {value : Json}

lemma traverse_singleton (w : Watcher) (root : Node) : Watch.traverse [w] root = [w.run root] :=
  traverse_eq [w] root

/-! ### Metrics of several collectors -/

lemma get?_metrics (watch : Watch) (key : String) :
    watch.metrics.get? key = watch.reverse.findSome? fun w => w.metrics.get? key := by
  induction watch using List.reverseRecOn with
  | nil => rfl
  | append_singleton ws w ih =>
    have hlast : Watch.metrics (ws ++ [w]) = (Watch.metrics ws).union w.metrics :=
      List.foldl_append ..
    rw [hlast, NameMap.get?_union, ih, List.reverse_append, List.reverse_singleton,
      List.singleton_append, List.findSome?_cons]
    cases w.metrics.get? key <;> rfl

lemma get?_metrics_eq_none_iff :
    watch.metrics.get? key = none ↔ ∀ w ∈ watch, w.metrics.get? key = none := by
  rw [get?_metrics, List.findSome?_eq_none_iff]
  simp only [List.mem_reverse]

/-- A metric is that of the last collector that has one under its name. -/
lemma get?_metrics_eq_some_iff : watch.metrics.get? key = some value ↔
    ∃ before w after, watch = before ++ w :: after ∧ w.metrics.get? key = some value ∧
      ∀ later ∈ after, later.metrics.get? key = none := by
  rw [get?_metrics, List.findSome?_eq_some_iff]
  constructor
  · rintro ⟨after, w, before, hsplit, hw, hafter⟩
    refine ⟨before.reverse, w, after.reverse, ?_, hw, fun later hlater => ?_⟩
    · rw [← List.reverse_reverse watch, hsplit]
      simp
    · exact hafter later (List.mem_reverse.1 hlater)
  · rintro ⟨before, w, after, rfl, hw, hafter⟩
    refine ⟨after.reverse, w, before.reverse, by simp, hw, fun later hlater => ?_⟩
    exact hafter later (List.mem_reverse.1 hlater)

/-! ### Collectors without a common name -/

/-- No two collectors have a metric of the same name. -/
def Apart (watch : Watch) : Prop :=
  watch.Pairwise fun w w' => w.metrics.keys.Disjoint w'.metrics.keys

/-- Where no name is common, every metric of every collector stays. -/
lemma Apart.get?_eq_some_iff (h : watch.Apart) :
    watch.metrics.get? key = some value ↔ ∃ w ∈ watch, w.metrics.get? key = some value := by
  rw [get?_metrics_eq_some_iff]
  constructor
  · rintro ⟨before, w, after, rfl, hw, -⟩
    exact ⟨w, by simp, hw⟩
  · rintro ⟨w, hmem, hw⟩
    obtain ⟨before, after, rfl⟩ := List.append_of_mem hmem
    refine ⟨before, w, after, rfl, hw, fun later hlater => ?_⟩
    -- a later collector with this name would share it
    have hdisjoint : w.metrics.keys.Disjoint later.metrics.keys :=
      (List.pairwise_cons.1 (List.pairwise_append.1 h).2.1).1 later hlater
    have hkey : key ∈ w.metrics.keys := by
      rw [NameMap.mem_keys, NameMap.contains_eq_isSome, hw]
      rfl
    have hlater' := hdisjoint hkey
    rw [NameMap.mem_keys, NameMap.contains_eq_isSome] at hlater'
    exact Option.not_isSome_iff_eq_none.1 hlater'

lemma Apart.perm (h : watch.Apart) (hperm : watch.Perm watch') : watch'.Apart := by
  refine (hperm.pairwise_iff ?_).1 h
  intro w w' hdisjoint key hw' hw
  exact hdisjoint hw hw'

/-- Where no name is common, the order of the collectors does not matter. -/
lemma metrics_perm (h : watch.Apart) (hperm : watch.Perm watch') :
    watch.metrics = watch'.metrics := by
  refine NameMap.ext_get? fun key => Option.ext fun value => ?_
  rw [h.get?_eq_some_iff, (h.perm hperm).get?_eq_some_iff]
  simp only [hperm.mem_iff]

lemma exists_of_forall₂ {α β : Type*} {R : α → β → Prop} {l : List α} {l' : List β}
    (h : List.Forall₂ R l l') {a : α} (ha : a ∈ l) : ∃ b ∈ l', R a b := by
  induction h with
  | nil => exact absurd ha List.not_mem_nil
  | @cons a' b l l' hab _ ih =>
    rcases List.mem_cons.1 ha with rfl | hl
    · exact ⟨b, List.mem_cons_self, hab⟩
    · obtain ⟨b', hb', hR⟩ := ih hl
      exact ⟨b', List.mem_cons_of_mem _ hb', hR⟩

/-- Collectors that keep to lists of names without a common one have no common name. -/
lemma apart_of_names {names : List (List String)}
    (h : List.Forall₂ (fun w l => w.metrics.keys ⊆ l) watch names) (hnames : names.flatten.Nodup) :
    watch.Apart := by
  have hdisjoint := (List.nodup_flatten.1 hnames).2
  clear hnames
  induction h with
  | nil => exact .nil
  | @cons w l ws ls hw hws ih =>
    obtain ⟨hl, hls⟩ := List.pairwise_cons.1 hdisjoint
    refine List.pairwise_cons.2 ⟨fun w' hw' => ?_, ih hls⟩
    obtain ⟨l', hl', hsub⟩ := exists_of_forall₂ hws hw'
    exact List.disjoint_of_subset_left hw (List.disjoint_of_subset_right hsub (hl l' hl'))

end Watch

/-! ### The standard collectors -/

namespace States

/-- The standard collectors have no name in common, in whatever states they are. -/
lemma apart_watch (path : String) (settings : Settings) (parents : Option Parents) (st : States) :
    (st.watch path settings parents).Apart := by
  have hcomplexity : (st.complexity.metrics settings.complexity.weights).keys ⊆
      Complexity.names := by
    intro key hkey
    exact ((Complexity.contains_metrics ..).1 (NameMap.mem_keys.1 hkey)).2
  have hlisted : ∀ l : List (String × Json), (NameMap.ofList l).keys ⊆ l.map (·.1) := by
    intro l key hkey
    exact NameMap.contains_ofList.1 (NameMap.mem_keys.1 hkey)
  have hnames : List.Forall₂ (fun w l => w.metrics.keys ⊆ l) (st.watch path settings parents)
      [Complexity.names, ControlFlow.names, Callables.names, Variables.names, References.names] :=
    .cons hcomplexity (.cons (hlisted _) (.cons (hlisted _) (.cons (hlisted _)
      (.cons (hlisted _) .nil))))
  exact Watch.apart_of_names hnames (by decide +kernel)

end States

/-- **Collectors that share a walk do not see each other.** Each ends the walk in the state in which
it ends one of its own: the node entered, its children walked in order, the node left. Under each
name stands the metric of the last collector that has one. The standard collectors have no name in
common, so their metrics are the same in whatever order they are told of the walk. -/
theorem shared_walk_is_own_walk (watch : Watch) (root : Node) :
    List.Forall₂ (fun w after => Watch.traverse [w] root = [after] ∧
      after = { w with state := w.collector.run w.state root }) watch (watch.traverse root) ∧
    (∀ (σ : Type) (c : Collector σ) (s : σ) (n : Node),
      c.run s n = c.leave n (n.children.foldl c.run (c.enter n s))) ∧
    (∀ (ws : Watch) key value, ws.metrics.get? key = some value ↔
      ∃ before w after, ws = before ++ w :: after ∧ w.metrics.get? key = some value ∧
        ∀ later ∈ after, later.metrics.get? key = none) ∧
    (∀ (ws : Watch) key, ws.metrics.get? key = none ↔ ∀ w ∈ ws, w.metrics.get? key = none) ∧
    ∀ path settings parents,
      ((standard path settings parents).traverse root).Pairwise
        (fun w w' => w.metrics.keys.Disjoint w'.metrics.keys) ∧
      ∀ order : Watch, order.Perm (standard path settings parents) →
        (order.traverse root).metrics =
          ((standard path settings parents).traverse root).metrics := by
  refine ⟨?_, fun σ c s n => c.run_eq s n, fun ws key value => Watch.get?_metrics_eq_some_iff,
    fun ws key => Watch.get?_metrics_eq_none_iff, fun path settings parents => ?_⟩
  · rw [Watch.traverse_eq, List.forall₂_map_right_iff, List.forall₂_same]
    exact fun w _ => ⟨Watch.traverse_singleton w root, rfl⟩
  · have hapart : ((standard path settings parents).traverse root).Apart := by
      rw [States.standard_eq, States.traverse_watch]
      exact States.apart_watch ..
    refine ⟨hapart, fun order hperm => (Watch.metrics_perm hapart ?_).symm⟩
    rw [Watch.traverse_eq, Watch.traverse_eq]
    exact (hperm.map _).symm

/-- A loop that sets a name and passes it to a filter. -/
def loopWithFilter : Node :=
  .template [.forTag ["x"] (.nameRef "xs") none
    [.setTag ["y"] (some (.nameRef "x")) [],
      .output (.filterCall "raw" (some (.nameRef "y")) [])] []]

theorem shared_walk_is_own_walk_reversed :
    let watch : Watch := standard "page.twig" .default none
    let reversed : Watch := watch.reverse
    reversed.Perm watch ∧
      (Watch.traverse reversed loopWithFilter).metrics =
        (Watch.traverse watch loopWithFilter).metrics := by
  have hperm := List.reverse_perm (standard "page.twig" .default none)
  obtain ⟨-, -, -, -, hstandard⟩ := shared_walk_is_own_walk [] loopWithFilter
  exact ⟨hperm, (hstandard "page.twig" .default none).2 _ hperm⟩

end TemplateMetrics.Collect
