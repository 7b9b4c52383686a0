import TemplateMetrics.Proofs.Counting
import TemplateMetrics.Proofs.LexicalScope

/-!
Free variables.

The collector of variables keeps a stack of frames while it walks. What it counts can be said
without the walk, in terms of the places at which a name is bound. When a child of a node is
entered, the names in scope are those of before, those of the node, and those that the children
walked so far leave bound (`Within`), which is how binding unfolds from a node to its children.
-/

namespace TemplateMetrics

open Syntax

namespace Collect.Variables

variable {root n c m : Node} {i : Nat} {p : Place} {x : String}

/-! ### Frames -/

variable {s t : Variables}

lemma inScope_bind (hs : s.scopes ≠ []) (name : String) :
    (s.bind name).inScope x = true ↔ s.inScope x = true ∨ x = name := by
  obtain ⟨scopes, references, defined⟩ := s
  cases scopes with
  | nil => exact absurd rfl hs
  | cons frame outer =>
    simp only [inScope, bind, List.any_cons, NameSet.contains_add, Bool.or_eq_true,
      decide_eq_true_eq]
    tauto

lemma inScope_foldl {f : Variables → String → Variables}
    (hf : ∀ s a, s.scopes ≠ [] → Extended s.scopes (f s a).scopes ∧
      ((f s a).inScope x = true ↔ s.inScope x = true ∨ x = a)) (names : List String)
    (hs : s.scopes ≠ []) :
    (names.foldl f s).inScope x = true ↔ s.inScope x = true ∨ x ∈ names := by
  induction names generalizing s with
  | nil => simp
  | cons a r ih =>
    obtain ⟨hextended, hscope⟩ := hf s a hs
    rw [List.foldl_cons, ih hextended.ne_nil, hscope, List.mem_cons, or_assoc]

lemma inScope_enter (hn : opensScope n = false) (hs : s.scopes ≠ []) :
    (enter n s).inScope x = true ↔ s.inScope x = true ∨ x ∈ n.importNames := by
  cases n with
  | forTag | macroTag | block => cases hn
  | importTag target localName names =>
    exact inScope_foldl (fun s a hs => ⟨extended_bind hs a, inScope_bind hs a⟩) _ hs
  | nameRef name =>
    have hsame : (enter (.nameRef name) s).inScope x = s.inScope x := by
      rw [enter]
      split <;> rfl
    simp [hsame, Node.importNames]
  | _ => simp [enter, Node.importNames]

lemma inScope_leave (hn : opensScope n = false) (hs : s.scopes ≠ []) :
    (leave n s).inScope x = true ↔ s.inScope x = true ∨ x ∈ n.setNames := by
  cases n with
  | forTag | macroTag | block => cases hn
  | setTag targets value body =>
    exact inScope_foldl (f := fun s t => { s.bind t with defined := s.defined.add t })
      (fun s a hs => ⟨extended_bind hs a, inScope_bind hs a⟩) targets hs
  | _ => simp [leave, Node.setNames]

lemma inScope_push (names : List String) :
    (s.push names).inScope x = true ↔ x ∈ names ∨ s.inScope x = true := by
  simp [inScope, push]

/-- Inside a node its own names are in scope, besides the ones that are always there. -/
lemma inScope_enter_iff (hx : x ∉ builtinNames) (hs : s.scopes ≠ []) :
    (enter n s).inScope x = true ↔
      s.inScope x = true ∨ x ∈ n.scopeNames ∨ x ∈ n.importNames := by
  -- the names that a loop and a macro add by themselves are no references
  have hloop : x ≠ "loop" := by
    rintro rfl
    exact hx (by decide)
  have hvarargs : x ≠ "varargs" := by
    rintro rfl
    exact hx (by decide)
  cases n with
  | forTag targets iter condition body orElse =>
    rw [enter, inScope_push]
    simp [Node.scopeNames, Node.importNames, hloop, or_comm]
  | macroTag name params defaults body =>
    rw [enter, inScope_push]
    simp [Node.scopeNames, Node.importNames, hvarargs, or_comm]
  | block name body =>
    rw [enter, inScope_push]
    simp [Node.scopeNames, Node.importNames]
  | _ =>
    rw [inScope_enter rfl hs]
    simp [Node.scopeNames]

lemma ne_nil_run (hs : s.scopes ≠ []) (n : Node) : (collector.run s n).scopes ≠ [] :=
  (balanced.run n hs).ne_nil

lemma inScope_foldl_run {cs : List Node}
    (hcs : ∀ c ∈ cs, ∀ s : Variables, s.scopes ≠ [] →
      ((collector.run s c).inScope x = true ↔ s.inScope x = true ∨ x ∈ c.bindings))
    (hs : s.scopes ≠ []) :
    (cs.foldl collector.run s).inScope x = true ↔
      s.inScope x = true ∨ ∃ c ∈ cs, x ∈ c.bindings := by
  induction cs generalizing s with
  | nil => simp
  | cons c r ih =>
    rw [List.foldl_cons, ih (fun d hd => hcs d (List.mem_cons_of_mem _ hd)) (ne_nil_run hs c),
      hcs c List.mem_cons_self s hs, List.exists_mem_cons_iff, or_assoc]

/-- Behind a node the names that it leaves bound are in scope, besides those that were before. -/
lemma inScope_run (n : Node) (hs : s.scopes ≠ []) :
    (collector.run s n).inScope x = true ↔ s.inScope x = true ∨ x ∈ n.bindings := by
  induction n using Node.induct generalizing s with
  | step n ih =>
    have hsound : (enter n s).scopes ≠ [] := balanced.sound_enter n hs
    have hback : Extended (enter n s).scopes (n.children.foldl collector.run (enter n s)).scopes :=
      balanced.foldl (fun d _ s hs => balanced.run d hs) hsound
    rw [Collector.run_eq, mem_bindings_step]
    change (leave n (n.children.foldl collector.run (enter n s))).inScope x = true ↔ _
    cases hn : opensScope n with
    | false =>
      rw [inScope_leave hn hback.ne_nil, inScope_foldl_run (fun c hc s hs => ih c hc hs) hsound,
        inScope_enter hn hs]
      simp only [true_and, or_assoc]
    | true =>
      -- the frame goes with all that was bound inside
      obtain ⟨frame, hframe⟩ := scopes_enter hn s
      rw [hframe] at hback
      generalize ht : n.children.foldl collector.run (enter n s) = t at hback ⊢
      generalize hscopes : t.scopes = scopes at hback
      obtain ⟨-⟩ := hback
      rw [leave_eq_pop hn, inScope, scopes_pop hscopes hs]
      simp [inScope]

/-! ### References -/

/-- What each step of a loop keeps, the loop keeps. -/
lemma foldl_keeps {α β γ : Type} (view : β → γ) {f : β → α → β}
    (hf : ∀ b a, view (f b a) = view b) (l : List α) (b : β) : view (l.foldl f b) = view b := by
  induction l generalizing b with
  | nil => rfl
  | cons a r ih => rw [List.foldl_cons, ih, hf]

lemma references_bind (s : Variables) (name : String) :
    (s.bind name).references = s.references := by
  rw [bind]
  split <;> rfl

lemma defined_bind (s : Variables) (name : String) : (s.bind name).defined = s.defined := by
  rw [bind]
  split <;> rfl

open Classical in
/-- The name referred to at a place of a node, if it is free there when the node is entered. -/
noncomputable def freeAt (s : Variables) (n : Node) (p : Place) : Option String :=
  ((n.at? p).bind Node.reference?).filter fun x =>
    x ∉ builtinNames ∧ s.inScope x = false ∧ ¬ Bound n p x

lemma references_enter (n : Node) (s : Variables) :
    (enter n s).references = (freeAt s n []).toList.foldl Counts.bump s.references := by
  cases n with
  | nameRef name =>
    -- a name that stands alone has nothing around it that could bind it
    have hbound : ¬ Bound (.nameRef name) [] name := by
      rw [bound_iff]
      rintro (⟨q, m, hq, -⟩ | ⟨q, m, -, -, hq, -⟩)
      · exact not_encloses_nil hq
      · exact hq.ne_nil rfl
    rw [enter, freeAt, Node.at?, Option.bind_some, Node.reference?, Option.filter_some]
    by_cases hbuiltin : name ∈ builtinNames
    · simp [hbuiltin]
    · by_cases hscope : s.inScope name = true
      · simp [hscope]
      · simp [hbuiltin, hscope, hbound]
  | importTag target localName names => exact foldl_keeps references references_bind _ s
  | _ => rfl

lemma references_leave (n : Node) (s : Variables) : (leave n s).references = s.references := by
  have hpop : s.pop.references = s.references := by
    rw [pop]
    split <;> rfl
  cases n with
  | forTag | macroTag | block => exact hpop
  | setTag targets value body =>
    exact foldl_keeps (f := fun s t => { s.bind t with defined := s.defined.add t }) references
      references_bind targets s
  | _ => rfl

/-- In `t` the names in scope are those in scope in `s`, those of the node entered, and those that
the children walked so far leave bound. -/
def Within (s : Variables) (n : Node) (walked : List Node) (t : Variables) : Prop :=
  ∀ x, x ∉ builtinNames → (t.inScope x = true ↔ s.inScope x = true ∨
    (x ∈ n.scopeNames ∨ x ∈ n.importNames) ∨ ∃ d ∈ walked, x ∈ d.bindings)

lemma within_enter (hs : s.scopes ≠ []) (n : Node) : Within s n [] (enter n s) := by
  intro x hx
  simp [inScope_enter_iff hx hs]

lemma Within.run {walked : List Node} (h : Within s n walked t) (ht : t.scopes ≠ []) (c : Node) :
    Within s n (walked ++ [c]) (collector.run t c) := by
  intro x hx
  rw [inScope_run c ht, h x hx]
  simp only [List.mem_append, List.mem_singleton, or_and_right, exists_or, exists_eq_left,
    or_assoc]

/-- What is free below a child is free in the child when it is entered. -/
lemma Within.freeAt_cons (hc : n.children[i]? = some c) (h : Within s n (n.children.take i) t)
    (p : Place) : freeAt s n (i :: p) = freeAt t c p := by
  rw [freeAt, freeAt, Node.at?_cons hc]
  refine congrArg (Option.filter · _) (funext fun x => ?_)
  rw [decide_eq_decide, bound_cons hc]
  refine and_congr_right fun hx => ?_
  rw [← Bool.not_eq_true, ← Bool.not_eq_true, h x hx]
  simp only [not_or, and_assoc]

/-- The walks over the children that are left, when those before have been walked. -/
lemma references_foldl_run {cs walked : List Node} (hsplit : n.children = walked ++ cs)
    (hcs : ∀ c ∈ cs, ∀ t : Variables, t.scopes ≠ [] → (collector.run t c).references =
      (c.places.filterMap (freeAt t c)).foldl Counts.bump t.references)
    (ht : t.scopes ≠ []) (h : Within s n walked t) :
    (cs.foldl collector.run t).references =
      (((cs.zipIdx walked.length).flatMap fun c => c.1.places.map (c.2 :: ·)).filterMap
        (freeAt s n)).foldl Counts.bump t.references := by
  induction cs generalizing walked t with
  | nil => rfl
  | cons c r ih =>
    have hc : n.children[walked.length]? = some c := by simp [hsplit]
    have htake : n.children.take walked.length = walked := by simp [hsplit]
    -- after the children before it, a child finds the names in scope that its places do
    have hfirst : (c.places.map (walked.length :: ·)).filterMap (freeAt s n) =
        c.places.filterMap (freeAt t c) := by
      rw [List.filterMap_map]
      exact List.filterMap_congr fun p _ => Within.freeAt_cons hc (htake.symm ▸ h) p
    have hrest := ih (by simp [hsplit]) (fun d hd => hcs d (List.mem_cons_of_mem _ hd))
      (ne_nil_run ht c) (h.run ht c)
    rw [List.foldl_cons, hrest, hcs c List.mem_cons_self t ht, List.zipIdx_cons,
      List.flatMap_cons, List.filterMap_append, List.foldl_append, hfirst, List.length_append,
      List.length_singleton]

/-- A walk counts the names that are referred to at the places of the tree and free there. -/
lemma references_run (n : Node) (hs : s.scopes ≠ []) :
    (collector.run s n).references =
      (n.places.filterMap (freeAt s n)).foldl Counts.bump s.references := by
  induction n using Node.induct generalizing s with
  | step n ih =>
    -- the node itself comes first, then its children in their order
    have hsound : (enter n s).scopes ≠ [] := balanced.sound_enter n hs
    have hsplit : n.children = [] ++ n.children := rfl
    have hchildren := references_foldl_run hsplit (fun c hc t ht => ih c hc ht) hsound
      (within_enter hs n)
    have hfirst : ∀ l : List Place, ([] :: l).filterMap (freeAt s n) =
        (freeAt s n []).toList ++ l.filterMap (freeAt s n) := by
      intro l
      cases hfree : freeAt s n [] <;> simp [hfree]
    rw [Collector.run_eq]
    change (leave n (n.children.foldl collector.run (enter n s))).references = _
    rw [references_leave, hchildren, references_enter, Node.places_eq, ← List.foldl_append, hfirst]
    rfl

/-! ### The counts -/

/-- The places at which a name is referred to and free. -/
def freePlaces (root : Node) (x : String) : Set Place :=
  {p | root.at? p = some (.nameRef x) ∧ x ∉ builtinNames ∧ ¬ Bound root p x}

lemma reference?_eq_some : n.reference? = some x ↔ n = .nameRef x := by
  cases n <;> simp [Node.reference?]

lemma freeAt_start : freeAt start root p = some x ↔ p ∈ freePlaces root x := by
  have hempty : start.inScope x = false := rfl
  simp [freeAt, freePlaces, Option.filter_eq_some_iff, Option.bind_eq_some_iff,
    reference?_eq_some, hempty]

/-- As many names are found as there are places for them. -/
lemma count_free (root : Node) (x : String) :
    (root.places.filterMap (freeAt start root)).count x = (freePlaces root x).ncard := by
  classical
  have hfound : (freePlaces root x).ncard =
      (root.places.filter fun p => freeAt start root p = some x).length := by
    refine ncard_eq_length (root.nodup_places.filter _) fun p => ?_
    rw [List.mem_filter, decide_eq_true_eq, freeAt_start, and_iff_right_of_imp]
    exact fun hp => Node.mem_places.2 ⟨_, hp.1⟩
  rw [hfound, ← List.countP_eq_length_filter, List.count, List.countP_filterMap]
  refine List.countP_congr fun p _ => ?_
  cases freeAt start root p <;> simp

lemma defined_enter (n : Node) (s : Variables) : (enter n s).defined = s.defined := by
  cases n with
  | nameRef name =>
    rw [enter]
    split <;> rfl
  | importTag target localName names => exact foldl_keeps defined defined_bind _ s
  | _ => rfl

lemma defined_leave (n : Node) (s : Variables) :
    (leave n s).defined = n.setNames.foldl NameSet.add s.defined := by
  have hpop : s.pop.defined = s.defined := by
    rw [pop]
    split <;> rfl
  have hset : ∀ (targets : List String) (s : Variables),
      (targets.foldl (fun s t => { s.bind t with defined := s.defined.add t }) s).defined =
        targets.foldl NameSet.add s.defined := by
    intro targets
    induction targets with
    | nil => exact fun s => rfl
    | cons a r ih =>
      intro s
      rw [List.foldl_cons, ih, List.foldl_cons]
  cases n with
  | forTag | macroTag | block => exact hpop
  | setTag targets value body => exact hset targets s
  | _ => rfl

lemma contains_defined_run (root : Node) (x : String) :
    (collector.run start root).defined.contains x = true ↔ ∃ n ∈ root.nodes, x ∈ n.setNames := by
  have henter : ∀ n s, (collector.enter n s).defined.contains x = true ↔
      s.defined.contains x = true ∨ False := by
    intro n s
    change (enter n s).defined.contains x = true ↔ _
    rw [defined_enter, or_false]
  have hleave : ∀ n s, (collector.leave n s).defined.contains x = true ↔
      s.defined.contains x = true ∨ x ∈ n.setNames := by
    intro n s
    change (leave n s).defined.contains x = true ↔ _
    rw [defined_leave, NameSet.contains_foldl_add, or_comm]
  have hrun := collector.run_mark (fun s => s.defined.contains x = true) henter hleave start root
  simpa [start] using hrun

lemma get?_metrics (s : Variables) :
    s.metrics.get? "variables" = some (.ofCounts s.references) ∧
      s.metrics.get? "unique_variables" = some (.nat s.references.size) ∧
      s.metrics.get? "variable_references" = some (.nat s.references.total) ∧
      s.metrics.get? "defined_variables" = some (.nat s.defined.size) := by
  rw [metrics]
  refine ⟨?_, ?_, ?_, ?_⟩ <;> exact NameMap.get?_ofList_of_mem (by simp) (by simp)

/-- **Free variables are counted by lexical scope.** Places are listed in document order. Each name
is counted once for every place at which it is referred to and is neither always there nor bound,
and names without such a place are left out. The totals are those of the counts, and the number of
variables defined is that of the different targets of sets. -/
theorem free_variables_counted (root : Node) :
    let m := (Watch.traverse [⟨collector, start⟩] root).metrics
    (root.places.Pairwise Before ∧ root.places.map root.at? = root.nodes.map some) ∧
    (∃ counts : Counts,
      m.get? "variables" = some (.obj (counts.entries.map fun e => (e.1, .nat e.2))) ∧
      (∀ x, counts.get? x =
        if (freePlaces root x).ncard = 0 then none else some (freePlaces root x).ncard) ∧
      m.get? "variable_references" = some (.nat (counts.entries.map Prod.snd).sum) ∧
      m.get? "unique_variables" = some (.nat counts.entries.length)) ∧
    m.get? "defined_variables" =
      some (.nat {x | ∃ n ∈ root.nodes, x ∈ n.setNames}.ncard) := by
  intro m
  set s := collector.run start root with hs
  have hm : ∀ key, m.get? key = s.metrics.get? key := by
    intro key
    have hone : m = NameMap.empty.union s.metrics := by
      change Watch.metrics (Watch.traverse _ root) = _
      rw [Watch.traverse_eq]
      rfl
    rw [hone, NameMap.get?_union, NameMap.get?_empty, Option.or_none]
  have hcounts : s.references = Counts.ofNames (root.places.filterMap (freeAt start root)) :=
    references_run root (List.cons_ne_nil _ _)
  have hdefined : s.defined.size = {x | ∃ n ∈ root.nodes, x ∈ n.setNames}.ncard :=
    NameMap.size_eq_ncard fun x => (contains_defined_run root x).symm
  have htotal : s.references.total = (s.references.entries.map Prod.snd).sum :=
    List.sum_eq_foldl_nat.symm
  obtain ⟨hvariables, hunique, hreferences, hnames⟩ := s.get?_metrics
  refine ⟨⟨root.pairwise_places, root.map_at?_places⟩,
    ⟨s.references, (hm _).trans hvariables, fun x => ?_, ?_, (hm _).trans hunique⟩, ?_⟩
  · -- a name without such a place has no entry
    rw [hcounts, Counts.get?_ofNames, ← count_free]
    by_cases hx : x ∈ root.places.filterMap (freeAt start root)
    · rw [if_pos hx, if_neg (Nat.ne_of_gt (List.count_pos_iff.2 hx))]
    · rw [if_neg hx, if_pos (List.count_eq_zero.2 hx)]
  · rw [hm, hreferences, htotal]
  · rw [hm, hnames, hdefined]

end Collect.Variables

end TemplateMetrics
