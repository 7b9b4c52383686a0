import Mathlib.Algebra.GroupWithZero.Nat
import Mathlib.Data.List.Basic
import TemplateMetrics.Collect.Standard
import TemplateMetrics.Proofs.NameMap

/-!
The walk over a tree, and what a state machine makes of it.

A walk is described by one equation, `Node.events_eq`: a node is entered, its children are walked in
order, and the node is left. The state of a collector follows it (`Collector.run_eq`), and
collectors that share a walk run as if each were alone (`Watch.traverse_eq`).
-/

namespace TemplateMetrics

open Syntax

/-! ### Nodes and events -/

namespace Syntax

namespace Node

/-- All nodes of a tree, each before its children. -/
def nodes (n : Node) : List Node := n :: n.children.attach.flatMap fun c => nodes c.1
termination_by sizeOf n
decreasing_by exact sizeOf_lt_of_mem_children c.2

lemma nodes_eq (n : Node) : n.nodes = n :: n.children.flatMap nodes := by
  rw [nodes, List.flatMap_subtype (fun _ _ => rfl), List.unattach_attach]

lemma mem_nodes_self (n : Node) : n ∈ n.nodes := by
  rw [nodes_eq]
  exact List.mem_cons_self

lemma size_eq (n : Node) : n.size = 1 + (n.children.map size).sum := by
  rw [size, fold_eq, ← List.sum_eq_foldl_nat]

lemma length_nodes (n : Node) : n.nodes.length = n.size := by
  induction n using Node.induct with
  | step n ih =>
    have hsum : n.children.map (fun c => c.nodes.length) = n.children.map size :=
      List.map_congr_left ih
    rw [nodes_eq, size_eq, List.length_cons, List.length_flatMap, hsum, Nat.add_comm]

lemma events_eq (n : Node) :
    n.events = .enter n :: (n.children.flatMap events ++ [.leave n]) := by
  -- the walk is built in front of what comes after it
  set walk := fold fun (n : Node) (walks : List (List Event → List Event)) rest =>
    .enter n :: walks.foldr (fun walk rest => walk rest) (.leave n :: rest) with hwalk
  have hchildren : ∀ (cs : List Node), (∀ c ∈ cs, ∀ rest, walk c rest = c.events ++ rest) →
      ∀ rest, (cs.map walk).foldr (fun walk rest => walk rest) rest =
        cs.flatMap events ++ rest := by
    intro cs hcs rest
    induction cs with
    | nil => rfl
    | cons c r ih =>
      rw [List.map_cons, List.foldr_cons, ih fun d hd => hcs d (List.mem_cons_of_mem _ hd),
        hcs c List.mem_cons_self, List.flatMap_cons, List.append_assoc]
  have hstep : ∀ (m : Node) (rest : List Event), walk m rest =
      .enter m :: (m.children.map walk).foldr (fun walk rest => walk rest) (.leave m :: rest) := by
    intro m rest
    rw [hwalk, fold_eq]
  have hall : ∀ m rest, walk m rest = m.events ++ rest := by
    intro m
    induction m using Node.induct with
    | step m ih =>
      intro rest
      have hnil : m.events = walk m [] := rfl
      rw [hnil, hstep m rest, hstep m [], hchildren _ ih, hchildren _ ih]
      simp
  have hnil : n.events = walk n [] := rfl
  rw [hnil, hstep n [], hchildren _ fun c _ => hall c]

end Node

/-- The node that an event enters. -/
def Event.entered? : Event → Option Node
  | .enter n => some n
  | .leave _ => none

/-- The node that an event leaves. -/
def Event.left? : Event → Option Node
  | .enter _ => none
  | .leave n => some n

/-- Every node entered is left again, and what is entered in between is left before it. -/
inductive WellNested : List Event → Prop
  | nil : WellNested []
  | node (n : Node) {inside after : List Event} (hi : WellNested inside) (ha : WellNested after) :
      WellNested (.enter n :: (inside ++ .leave n :: after))

lemma WellNested.append {a b : List Event} (ha : WellNested a) (hb : WellNested b) :
    WellNested (a ++ b) := by
  induction ha with
  | nil => exact hb
  | node n hi _ _ ih =>
    have h := WellNested.node n hi ih
    simpa using h

lemma WellNested.flatMap {f : Node → List Event} {cs : List Node}
    (h : ∀ c ∈ cs, WellNested (f c)) : WellNested (cs.flatMap f) := by
  induction cs with
  | nil => exact .nil
  | cons c r ih =>
    rw [List.flatMap_cons]
    exact (h c List.mem_cons_self).append (ih fun d hd => h d (List.mem_cons_of_mem _ hd))

lemma wellNested_events (n : Node) : WellNested n.events := by
  induction n using Node.induct with
  | step n ih =>
    rw [Node.events_eq]
    exact .node n (.flatMap ih) .nil

/-- The nodes are entered in document order, each once. -/
lemma entered_events (n : Node) : n.events.filterMap Event.entered? = n.nodes := by
  induction n using Node.induct with
  | step n ih =>
    have hleave : [Event.leave n].filterMap Event.entered? = [] := rfl
    rw [Node.events_eq, Node.nodes_eq, List.filterMap_cons_some (by rfl), List.filterMap_append,
      List.filterMap_flatMap, hleave, List.append_nil, List.flatMap_congr ih]

lemma WellNested.length_left {es : List Event} (h : WellNested es) :
    (es.filterMap Event.left?).length = (es.filterMap Event.entered?).length := by
  induction h with
  | nil => rfl
  | node n _ _ ihi iha =>
    simp only [List.filterMap_cons, List.filterMap_append, Event.left?, Event.entered?,
      List.length_append, List.length_cons]
    omega

end Syntax

/-! ### State machines -/

namespace Collect

variable {σ : Type}

/-- Walks in a row are run one after the other. -/
lemma Collector.foldl_flatMap_events (c : Collector σ) (cs : List Node) (s : σ) :
    (cs.flatMap Node.events).foldl c.step s = cs.foldl c.run s := by
  rw [List.foldl_flatMap]
  rfl

lemma Collector.run_eq (c : Collector σ) (s : σ) (n : Node) :
    c.run s n = c.leave n (n.children.foldl c.run (c.enter n s)) := by
  rw [Collector.run, Node.events_eq, List.foldl_cons, List.foldl_append,
    Collector.foldl_flatMap_events]
  rfl

/-- A collector that does nothing on leaving goes over the nodes in document order. -/
lemma Collector.run_of_leave (c : Collector σ) (h : ∀ n s, c.leave n s = s) (s : σ) (n : Node) :
    c.run s n = n.nodes.foldl (fun s n => c.enter n s) s := by
  induction n using Node.induct generalizing s with
  | step n ih =>
    have hchildren : ∀ (cs : List Node), (∀ d ∈ cs, d ∈ n.children) → ∀ s,
        cs.foldl c.run s = (cs.flatMap Node.nodes).foldl (fun s n => c.enter n s) s := by
      intro cs
      induction cs with
      | nil => exact fun _ _ => rfl
      | cons d r ihr =>
        intro hcs s
        rw [List.foldl_cons, ih d (hcs d List.mem_cons_self), List.flatMap_cons,
          List.foldl_append, ihr fun e he => hcs e (List.mem_cons_of_mem _ he)]
    rw [Collector.run_eq, h, Node.nodes_eq, List.foldl_cons, hchildren _ fun _ hd => hd]

/-- A mark that entering or leaving certain nodes sets, and nothing takes away, is set after a walk
if it was before or the tree has such a node. -/
lemma Collector.run_mark (c : Collector σ) (mark : σ → Prop) {opens closes : Node → Prop}
    (henter : ∀ n s, mark (c.enter n s) ↔ mark s ∨ opens n)
    (hleave : ∀ n s, mark (c.leave n s) ↔ mark s ∨ closes n) (s : σ) (n : Node) :
    mark (c.run s n) ↔ mark s ∨ ∃ m ∈ n.nodes, opens m ∨ closes m := by
  induction n using Node.induct generalizing s with
  | step n ih =>
    have hchildren : ∀ (cs : List Node), (∀ d ∈ cs, d ∈ n.children) → ∀ s,
        mark (cs.foldl c.run s) ↔ mark s ∨ ∃ m ∈ cs.flatMap Node.nodes, opens m ∨ closes m := by
      intro cs
      induction cs with
      | nil => simp
      | cons d r ihr =>
        intro hcs s
        rw [List.foldl_cons, ihr fun e he => hcs e (List.mem_cons_of_mem _ he),
          ih d (hcs d List.mem_cons_self)]
        simp only [List.flatMap_cons, List.mem_append, or_and_right, exists_or, or_assoc]
    rw [Collector.run_eq, hleave, hchildren _ fun _ hd => hd, henter, Node.nodes_eq,
      List.exists_mem_cons_iff]
    simp only [or_assoc, or_comm, or_left_comm]

/-- A set of names that is filled when nodes are entered has the names of the nodes of the tree. -/
lemma Collector.contains_names_run (c : Collector σ) (names : σ → NameSet)
    {name? : Node → Option String}
    (henter : ∀ n s, names (c.enter n s) = (name? n).toList.foldl NameSet.add (names s))
    (hleave : ∀ n s, names (c.leave n s) = names s) {s : σ} (hstart : names s = NameMap.empty)
    (root : Node) (x : String) :
    (names (c.run s root)).contains x = true ↔ ∃ n ∈ root.nodes, name? n = some x := by
  have hadd : ∀ n s, (names (c.enter n s)).contains x = true ↔
      (names s).contains x = true ∨ name? n = some x := by
    intro n s
    rw [henter, NameSet.contains_foldl_add, Option.mem_toList, or_comm]
  have hkeep : ∀ n s, (names (c.leave n s)).contains x = true ↔
      (names s).contains x = true ∨ False := by
    intro n s
    rw [hleave, or_false]
  have hrun := c.run_mark (fun s => (names s).contains x = true) hadd hkeep s root
  simpa [hstart] using hrun

/-- A count that goes up when certain nodes are entered grows by their number. -/
lemma Collector.run_count (c : Collector σ) (count : σ → Nat) {counted : Node → Bool}
    (henter : ∀ n s, count (c.enter n s) = count s + if counted n then 1 else 0)
    (hleave : ∀ n s, count (c.leave n s) = count s) (s : σ) (n : Node) :
    count (c.run s n) = count s + n.nodes.countP counted := by
  induction n using Node.induct generalizing s with
  | step n ih =>
    have hchildren : ∀ (cs : List Node), (∀ d ∈ cs, d ∈ n.children) → ∀ s,
        count (cs.foldl c.run s) = count s + (cs.flatMap Node.nodes).countP counted := by
      intro cs
      induction cs with
      | nil => exact fun _ _ => rfl
      | cons d r ihr =>
        intro hcs s
        rw [List.foldl_cons, ihr fun e he => hcs e (List.mem_cons_of_mem _ he),
          ih d (hcs d List.mem_cons_self), List.flatMap_cons, List.countP_append, Nat.add_assoc]
    rw [Collector.run_eq, hleave, hchildren _ fun _ hd => hd, henter, Node.nodes_eq,
      List.countP_cons]
    omega

/-- A collector at work, after a whole walk. -/
def Watcher.run (w : Watcher) (root : Node) : Watcher :=
  { w with state := w.collector.run w.state root }

/-- Collectors that share a walk run as if each were alone. -/
lemma Watch.traverse_eq (watch : Watch) (root : Node) :
    watch.traverse root = watch.map (·.run root) := by
  have key : ∀ (es : List Event) (watch : Watch),
      es.foldl (fun watch e => watch.map (·.step e)) watch =
        watch.map fun w => { w with state := es.foldl w.collector.step w.state } := by
    intro es
    induction es with
    | nil => intro watch; simp
    | cons e r ih =>
      intro watch
      rw [List.foldl_cons, ih, List.map_map]
      rfl
  exact key root.events watch

/-- The collectors are told that a node is entered, walk over its children in order, and are told
that it is left. -/
lemma Watch.traverse_children (watch : Watch) (n : Node) :
    watch.traverse n = (n.children.foldl Watch.traverse (watch.map (·.step (.enter n)))).map
      (·.step (.leave n)) := by
  rw [Watch.traverse, Node.events_eq, List.foldl_cons, List.foldl_append, List.foldl_flatMap]
  rfl

/-! ### The standard collectors -/

/-- A state for each of the standard collectors. -/
structure States where
  complexity : Complexity
  controlFlow : ControlFlow
  callables : Callables
  free : Variables
  references : References

namespace States

def start : States :=
  ⟨Complexity.start, ControlFlow.start, Callables.start, Variables.start, References.start⟩

variable (path : String) (settings : Settings) (parents : Option Parents)

/-- The standard collectors at work, from any states. -/
def watch (st : States) : Watch :=
  [⟨Complexity.collector settings.complexity.weights, st.complexity⟩,
    ⟨ControlFlow.collector settings.complexConditionArity, st.controlFlow⟩,
    ⟨Callables.collector, st.callables⟩, ⟨Variables.collector, st.free⟩,
    ⟨References.collector path parents, st.references⟩]

/-- The states that a list of events leads to. -/
def through (st : States) (es : List Event) : States where
  complexity := es.foldl (Complexity.collector settings.complexity.weights).step st.complexity
  controlFlow := es.foldl (ControlFlow.collector settings.complexConditionArity).step st.controlFlow
  callables := es.foldl Callables.collector.step st.callables
  free := es.foldl Variables.collector.step st.free
  references := es.foldl (References.collector path parents).step st.references

lemma standard_eq : standard path settings parents = start.watch path settings parents := rfl

lemma traverse_watch (st : States) (root : Node) :
    (st.watch path settings parents).traverse root =
      (st.through path settings parents root.events).watch path settings parents := by
  rw [Watch.traverse_eq]
  rfl

/-- Of one name the metric of the last collector stays. -/
lemma get?_metrics_watch (st : States) (key : String) :
    (st.watch path settings parents).metrics.get? key =
      ((References.metrics path parents st.references).get? key).or
        ((st.free.metrics.get? key).or ((st.callables.metrics.get? key).or
          ((st.controlFlow.metrics.get? key).or
            ((st.complexity.metrics settings.complexity.weights).get? key)))) := by
  simp [Watch.metrics, watch, Watcher.metrics, Complexity.collector, ControlFlow.collector,
    Callables.collector, Variables.collector, References.collector]

end States

end Collect

end TemplateMetrics
