import TemplateMetrics.Proofs.NameMap
import TemplateMetrics.Proofs.Walk

/-!
Collectors that open a level when they enter a node close it when they leave the node.

`Balanced` says what one node asks of a collector: whatever happens between entering and leaving,
as long as it is balanced itself, leaving leads back to where entering started. From that a whole
walk is balanced, and no level is closed that was not opened.
-/

namespace TemplateMetrics.Collect

open Syntax

variable {σ : Type}

/-- Every node of a list of events is left in a state that satisfies `guard`. -/
def LeavesWith (c : Collector σ) (guard : Node → σ → Prop) : σ → List Event → Prop
  | _, [] => True
  | s, .enter n :: es => LeavesWith c guard (c.enter n s) es
  | s, .leave n :: es => guard n s ∧ LeavesWith c guard (c.leave n s) es

variable {c : Collector σ} {guard : Node → σ → Prop}

lemma leavesWith_append {s : σ} {es fs : List Event} (he : LeavesWith c guard s es)
    (hf : LeavesWith c guard (es.foldl c.step s) fs) : LeavesWith c guard s (es ++ fs) := by
  induction es generalizing s with
  | nil => exact hf
  | cons e r ih =>
    cases e with
    | enter n => exact ih he hf
    | leave n => exact ⟨he.1, ih he.2 hf⟩

/-- The state in which a node is left is the one that the events before it lead to. -/
lemma LeavesWith.guard_at {s : σ} {before after : List Event} {n : Node}
    (h : LeavesWith c guard s (before ++ .leave n :: after)) :
    guard n (before.foldl c.step s) := by
  induction before generalizing s with
  | nil => exact h.1
  | cons e r ih =>
    cases e with
    | enter m => exact ih h
    | leave m => exact ih h.2

/-- Levels are opened and closed in pairs. `back s t` says that `t` stands where `s` stood. -/
structure Balanced (c : Collector σ) (sound : σ → Prop) (back : σ → σ → Prop)
    (guard : Node → σ → Prop) : Prop where
  refl : ∀ {s}, sound s → back s s
  trans : ∀ {s t u}, back s t → back t u → back s u
  sound_back : ∀ {s t}, sound s → back s t → sound t
  sound_enter : ∀ {s} (n), sound s → sound (c.enter n s)
  leave_enter : ∀ {s t} (n), sound s → back (c.enter n s) t → back s (c.leave n t)
  guard_leave : ∀ {s t} (n), sound s → back (c.enter n s) t → guard n t

namespace Balanced

variable {sound : σ → Prop} {back : σ → σ → Prop}

lemma foldl (h : Balanced c sound back guard) {cs : List Node}
    (hcs : ∀ d ∈ cs, ∀ s, sound s → back s (c.run s d)) {s : σ} (hs : sound s) :
    back s (cs.foldl c.run s) := by
  induction cs generalizing s with
  | nil => exact h.refl hs
  | cons d r ih =>
    have hd := hcs d List.mem_cons_self s hs
    have hr := ih (fun e he => hcs e (List.mem_cons_of_mem _ he)) (h.sound_back hs hd)
    exact h.trans hd hr

lemma run (h : Balanced c sound back guard) (n : Node) {s : σ} (hs : sound s) :
    back s (c.run s n) := by
  induction n using Node.induct generalizing s with
  | step n ih =>
    rw [Collector.run_eq]
    exact h.leave_enter n hs (h.foldl (fun d hd s hs => ih d hd hs) (h.sound_enter n hs))

/-- Every node of a walk is left in a state that satisfies the guard. -/
lemma leavesWith (h : Balanced c sound back guard) (n : Node) {s : σ} (hs : sound s) :
    LeavesWith c guard s n.events := by
  induction n using Node.induct generalizing s with
  | step n ih =>
    have hsn := h.sound_enter n hs
    -- between two children the state is sound again, so each of them starts as the first does
    have hchildren : ∀ (cs : List Node), (∀ d ∈ cs, d ∈ n.children) → ∀ t, sound t →
        LeavesWith c guard t (cs.flatMap Node.events) := by
      intro cs
      induction cs with
      | nil => exact fun _ _ _ => trivial
      | cons d r ihr =>
        intro hcs t ht
        rw [List.flatMap_cons]
        have hd := hcs d List.mem_cons_self
        refine leavesWith_append (ih d hd ht) (ihr (fun e he => hcs e (List.mem_cons_of_mem _ he))
          _ ?_)
        exact h.sound_back ht (h.run d ht)
    rw [Node.events_eq, ← List.cons_append]
    refine leavesWith_append ?_ ⟨?_, trivial⟩
    · exact hchildren _ (fun _ hd => hd) _ hsn
    · refine h.guard_leave n hs ?_
      have hbefore : (.enter n :: n.children.flatMap Node.events).foldl c.step s =
          n.children.foldl c.run (c.enter n s) := Collector.foldl_flatMap_events ..
      rw [hbefore]
      exact h.foldl (fun d _ t ht => h.run d ht) hsn

end Balanced

/-! ### Depths -/

/-- A collector that counts its depth up when it enters a node of some kinds, and down when it
leaves one, is balanced. -/
lemma balanced_of_depth {depth : σ → Nat} {opens : Node → Bool}
    (henter : ∀ n s, depth (c.enter n s) = depth s + if opens n then 1 else 0)
    (hleave : ∀ n s, depth (c.leave n s) = depth s - if opens n then 1 else 0) :
    Balanced c (fun _ => True) (fun s t => depth t = depth s)
      (fun n s => opens n = true → 0 < depth s) where
  refl _ := rfl
  trans hst htu := htu.trans hst
  sound_back _ _ := trivial
  sound_enter _ _ := trivial
  leave_enter n _ h := by
    rw [henter] at h
    rw [hleave, h, Nat.add_sub_cancel]
  guard_leave {s t} n _ h := by
    intro hn
    have ht : depth t = depth s + 1 := by
      rw [h, henter, hn]
      rfl
    exact ht ▸ Nat.succ_pos _

namespace Complexity

lemma depth_enter (w : ComplexityWeights) (n : Node) (s : Complexity) :
    ((collector w).enter n s).depth = s.depth + if isNesting n then 1 else 0 := by
  cases n <;> rfl

lemma depth_leave (w : ComplexityWeights) (n : Node) (s : Complexity) :
    ((collector w).leave n s).depth = s.depth - if isNesting n then 1 else 0 := by
  cases n <;> rfl

lemma balanced (w : ComplexityWeights) :
    Balanced (collector w) (fun _ => True) (fun s t => t.depth = s.depth)
      (fun n s => isNesting n = true → 0 < s.depth) :=
  balanced_of_depth (depth_enter w) (depth_leave w)

end Complexity

namespace ControlFlow

/-- The nodes that open a level. -/
def isLevel : Node → Bool
  | .ifTag .. | .forTag .. => true
  | _ => false

lemma depth_enter (arity : Nat) (n : Node) (s : ControlFlow) :
    ((collector arity).enter n s).depth = s.depth + if isLevel n then 1 else 0 := by
  cases n <;> rfl

lemma depth_leave (arity : Nat) (n : Node) (s : ControlFlow) :
    ((collector arity).leave n s).depth = s.depth - if isLevel n then 1 else 0 := by
  cases n <;> rfl

lemma balanced (arity : Nat) :
    Balanced (collector arity) (fun _ => True) (fun s t => t.depth = s.depth)
      (fun n s => isLevel n = true → 0 < s.depth) :=
  balanced_of_depth (depth_enter arity) (depth_leave arity)

end ControlFlow

/-! ### Scopes -/

namespace Variables

/-- The nodes that open a scope. -/
def opensScope : Node → Bool
  | .forTag .. | .macroTag .. | .block .. => true
  | _ => false

/-- The same scopes, except that names may have been added to the innermost. -/
inductive Extended : List NameSet → List NameSet → Prop
  | mk {frame frame' : NameSet} {outer : List NameSet}
      (h : ∀ x, frame.contains x = true → frame'.contains x = true) :
      Extended (frame :: outer) (frame' :: outer)

namespace Extended

lemma refl {scopes : List NameSet} (h : scopes ≠ []) : Extended scopes scopes := by
  cases scopes with
  | nil => exact absurd rfl h
  | cons frame outer => exact ⟨fun _ hx => hx⟩

lemma trans {a b d : List NameSet} (hab : Extended a b) (hbd : Extended b d) : Extended a d := by
  obtain ⟨h⟩ := hab
  obtain ⟨h'⟩ := hbd
  exact ⟨fun x hx => h' x (h x hx)⟩

lemma ne_nil {a b : List NameSet} (h : Extended a b) : b ≠ [] := by
  obtain ⟨-⟩ := h
  exact List.cons_ne_nil _ _

lemma length_eq {a b : List NameSet} (h : Extended a b) : b.length = a.length := by
  obtain ⟨-⟩ := h
  rfl

end Extended

lemma extended_bind {s : Variables} (h : s.scopes ≠ []) (name : String) :
    Extended s.scopes (s.bind name).scopes := by
  obtain ⟨scopes, references, defined⟩ := s
  cases scopes with
  | nil => exact absurd rfl h
  | cons frame outer =>
    refine ⟨fun x hx => ?_⟩
    rw [NameSet.contains_add, hx, Bool.or_true]

/-- Binding names one after the other adds to the innermost scope only. -/
lemma extended_foldl {α : Type} {f : Variables → α → Variables}
    (hf : ∀ s a, s.scopes ≠ [] → Extended s.scopes (f s a).scopes) (as : List α)
    {s : Variables} (h : s.scopes ≠ []) : Extended s.scopes (as.foldl f s).scopes := by
  induction as generalizing s with
  | nil => exact .refl h
  | cons a r ih =>
    have ha := hf s a h
    exact ha.trans (ih ha.ne_nil)

/-- A node that opens no scope adds to the innermost one at most. -/
lemma extended_enter {n : Node} (hn : opensScope n = false) {s : Variables} (h : s.scopes ≠ []) :
    Extended s.scopes (enter n s).scopes := by
  cases n with
  | nameRef name =>
    -- a name is looked up and not bound
    have hs : (enter (.nameRef name) s).scopes = s.scopes := by
      rw [enter]
      split <;> rfl
    rw [hs]
    exact .refl h
  | importTag target localName names => exact extended_foldl (fun s a h => extended_bind h a) _ h
  | forTag => cases hn
  | macroTag => cases hn
  | block => cases hn
  | _ => exact .refl h

lemma extended_leave {n : Node} (hn : opensScope n = false) {s : Variables} (h : s.scopes ≠ []) :
    Extended s.scopes (leave n s).scopes := by
  cases n with
  | setTag targets value body =>
    exact extended_foldl (f := fun s t => { s.bind t with defined := s.defined.add t })
      (fun s a h => extended_bind h a) targets h
  | forTag => cases hn
  | macroTag => cases hn
  | block => cases hn
  | _ => exact .refl h

lemma scopes_enter {n : Node} (hn : opensScope n = true) (s : Variables) :
    ∃ frame, (enter n s).scopes = frame :: s.scopes := by
  cases n with
  | forTag => exact ⟨_, rfl⟩
  | macroTag => exact ⟨_, rfl⟩
  | block => exact ⟨_, rfl⟩
  | _ => cases hn

lemma leave_eq_pop {n : Node} (hn : opensScope n = true) (s : Variables) : leave n s = s.pop := by
  cases n with
  | forTag => rfl
  | macroTag => rfl
  | block => rfl
  | _ => cases hn

lemma scopes_pop {s : Variables} {frame : NameSet} {outer : List NameSet}
    (h : s.scopes = frame :: outer) (ho : outer ≠ []) : s.pop.scopes = outer := by
  obtain ⟨scopes, references, defined⟩ := s
  obtain rfl : scopes = frame :: outer := h
  cases outer with
  | nil => exact absurd rfl ho
  | cons => rfl

lemma balanced :
    Balanced collector (fun s => s.scopes ≠ []) (fun s t => Extended s.scopes t.scopes)
      (fun n s => opensScope n = true → 1 < s.scopes.length) where
  refl h := .refl h
  trans hst htu := hst.trans htu
  sound_back _ h := h.ne_nil
  sound_enter {s} n h := by
    cases hn : opensScope n with
    | false => exact (extended_enter hn h).ne_nil
    | true =>
      obtain ⟨frame, hf⟩ := scopes_enter hn s
      exact hf ▸ List.cons_ne_nil _ _
  leave_enter {s t} n h hback := by
    cases hn : opensScope n with
    | false =>
      exact ((extended_enter hn h).trans hback).trans (extended_leave hn hback.ne_nil)
    | true =>
      -- what was added inside goes with the frame
      obtain ⟨frame, hf⟩ := scopes_enter hn s
      change Extended (enter n s).scopes t.scopes at hback
      rw [hf] at hback
      generalize ht : t.scopes = scopes at hback
      obtain ⟨-⟩ := hback
      change Extended s.scopes (leave n t).scopes
      rw [leave_eq_pop hn, scopes_pop ht h]
      exact .refl h
  guard_leave {s t} n h hback hn := by
    obtain ⟨frame, hf⟩ := scopes_enter hn s
    have hlen : t.scopes.length = (enter n s).scopes.length := hback.length_eq
    have hpos := List.length_pos_iff.2 h
    rw [hlen, hf, List.length_cons]
    omega

end Variables

/-! ### The standard collectors -/

namespace States

variable (path : String) (settings : Settings) (parents : Option Parents)

lemma openScopes_watch (st : States) : (st.watch path settings parents).openScopes =
    st.complexity.depth + st.controlFlow.depth + (st.free.scopes.length - 1) := by
  simp [Watch.openScopes, watch, Complexity.collector, ControlFlow.collector, Callables.collector,
    Variables.collector, References.collector]

lemma through_depths (st : States) (root : Node) :
    (st.through path settings parents root.events).complexity.depth = st.complexity.depth ∧
      (st.through path settings parents root.events).controlFlow.depth = st.controlFlow.depth :=
  ⟨(Complexity.balanced _).run root trivial, (ControlFlow.balanced _).run root trivial⟩

lemma through_scopes (st : States) (h : st.free.scopes ≠ []) (root : Node) :
    Variables.Extended st.free.scopes
      (st.through path settings parents root.events).free.scopes :=
  Variables.balanced.run root h

end States

/-- **Balanced traversal.** A walk enters every node once, in document order, and leaves it once,
behind its children, and the collectors go through exactly these events. It leads the depths of the
standard collectors back to where they were, and adds to the innermost scope at most. On the way no
depth is counted down from zero and the outermost scope is never asked to close. -/
theorem traverse_balanced (path : String) (settings : Settings) (parents : Option Parents)
    (root : Node) (st : States) (hst : st.free.scopes ≠ []) :
    let after := st.through path settings parents root.events
    (WellNested root.events ∧ root.events.filterMap Event.entered? = root.nodes ∧
      (root.events.filterMap Event.entered?).length = root.size ∧
      (root.events.filterMap Event.left?).length = root.size ∧
      ∀ n : Node, n.events = .enter n :: (n.children.flatMap Node.events ++ [.leave n])) ∧
    (∀ (watch : Watch) (n : Node), watch.traverse n =
      (n.children.foldl Watch.traverse (watch.map (·.step (.enter n)))).map
        (·.step (.leave n))) ∧
    ((st.watch path settings parents).traverse root = after.watch path settings parents ∧
      after.complexity.depth = st.complexity.depth ∧
      after.controlFlow.depth = st.controlFlow.depth ∧
      Variables.Extended st.free.scopes after.free.scopes) ∧
    (∀ (before rest : List Event) (n : Node), root.events = before ++ .leave n :: rest →
      (Complexity.isNesting n = true →
        0 < (st.through path settings parents before).complexity.depth) ∧
      (ControlFlow.isLevel n = true →
        0 < (st.through path settings parents before).controlFlow.depth) ∧
      (Variables.opensScope n = true →
        1 < (st.through path settings parents before).free.scopes.length)) ∧
    (standard path settings parents).traverse root =
      (States.start.through path settings parents root.events).watch path settings parents ∧
    ((standard path settings parents).traverse root).openScopes = 0 := by
  have hlength : (root.events.filterMap Event.entered?).length = root.size := by
    rw [entered_events, Node.length_nodes]
  have hstandard : (standard path settings parents).traverse root =
      (States.start.through path settings parents root.events).watch path settings parents := by
    rw [States.standard_eq, States.traverse_watch]
  refine ⟨⟨wellNested_events root, entered_events root, hlength, ?_, Node.events_eq⟩,
    Watch.traverse_children, ?_, ?_, hstandard, ?_⟩
  · rw [(wellNested_events root).length_left, hlength]
  · obtain ⟨hcomplexity, hcontrol⟩ := st.through_depths path settings parents root
    exact ⟨States.traverse_watch path settings parents st root, hcomplexity, hcontrol,
      st.through_scopes path settings parents hst root⟩
  · intro before rest n h
    have hcomplexity := (Complexity.balanced settings.complexity.weights).leavesWith root
      (s := st.complexity) trivial
    have hcontrol := (ControlFlow.balanced settings.complexConditionArity).leavesWith root
      (s := st.controlFlow) trivial
    have hscopes := Variables.balanced.leavesWith root hst
    -- cut at the event that leaves the node, each run has its guard there
    rw [h] at hcomplexity hcontrol hscopes
    exact ⟨hcomplexity.guard_at, hcontrol.guard_at, hscopes.guard_at⟩
  · obtain ⟨hcomplexity, hcontrol⟩ := States.start.through_depths path settings parents root
    have hscopes := States.start.through_scopes path settings parents (List.cons_ne_nil _ _) root
    rw [hstandard, States.openScopes_watch, hcomplexity, hcontrol, hscopes.length_eq]
    rfl

/-- A loop around a block that sets a name. -/
def loopWithBlock : Node :=
  .template [.forTag ["x"] (.nameRef "xs") none
    [.block "b" [.setTag ["y"] (some (.nameRef "x")) []], .output (.nameRef "y")] []]

/-- Inside a block of a loop. -/
def insideLoop : States :=
  { States.start with
    complexity := { Complexity.start with depth := 2, maxDepth := 2 }
    controlFlow := { ControlFlow.start with depth := 1, maxDepth := 1 }
    free := { Variables.start with
      scopes := [NameMap.empty, NameSet.ofNames ["row", "loop"], NameMap.empty] } }

theorem traverse_balanced_inside_loop :
    let after := insideLoop.through "page.twig" Settings.default none loopWithBlock.events
    insideLoop.free.scopes ≠ [] ∧
      (insideLoop.watch "page.twig" Settings.default none).traverse loopWithBlock =
        after.watch "page.twig" Settings.default none ∧
      (insideLoop.complexity.loops = 0 ∧ after.complexity.loops = 1 ∧
        insideLoop.free.defined.contains "y" = false ∧ after.free.defined.contains "y" = true) ∧
      after.complexity.depth = 2 ∧ after.controlFlow.depth = 1 ∧
      Variables.Extended insideLoop.free.scopes after.free.scopes := by
  have hscopes : insideLoop.free.scopes ≠ [] := List.cons_ne_nil _ _
  obtain ⟨-, -, ⟨htraverse, hdepths⟩, -⟩ :=
    traverse_balanced "page.twig" Settings.default none loopWithBlock insideLoop hscopes
  exact ⟨hscopes, htraverse, ⟨rfl, rfl, rfl, by decide +kernel⟩, hdepths⟩

end TemplateMetrics.Collect
