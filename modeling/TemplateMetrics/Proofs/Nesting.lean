import Mathlib.Order.Bounds.Basic
import TemplateMetrics.Proofs.Balance
import TemplateMetrics.Proofs.Counting
import TemplateMetrics.Proofs.Places
import TemplateMetrics.Proofs.SharedWalk

/-!
How deep the constructs of a tree nest.

Two collectors follow the depth of the walk and keep the largest they have seen, each for kinds of
nodes of its own. In the end they hold the largest number of such nodes on the way to any place
(`Tracks.isGreatest_run`), since a walk leads every depth back to where it was. With the counts, the
loops below other levels and the operands of conditions this gives every metric of structure
(`nesting_measured`).
-/

namespace TemplateMetrics

open Syntax

/-! ### Ways with nodes of certain kinds -/

/-- The numbers of nodes of some kinds on the ways to the places of a tree. -/
def Syntax.Node.depths (kinds : List String) (root : Node) : Set Nat :=
  {k | ∃ p n, root.at? p = some n ∧ k = (root.trail p).countP fun a => kinds.contains a.kind}

/-- The name of a block. -/
def Syntax.Node.blockName? : Node → Option String
  | .block name _ => some name
  | _ => none

/-- The name of a macro that is defined. -/
def Syntax.Node.macroName? : Node → Option String
  | .macroTag name _ _ _ => some name
  | _ => none

/-- An operand of a condition: what stands behind `and` and `or` only and is neither itself. -/
def Syntax.Node.Operand (test : Node) (p : Place) : Prop :=
  (∃ n, test.at? p = some n ∧ n.kind ≠ "logical") ∧
    ∀ q a, Encloses q p → test.at? q = some a → a.kind = "logical"

namespace Collect

variable {σ : Type} {c : Collector σ} {depth deepest : σ → Nat} {opens : Node → Bool}

/-- What a collector does that follows the depth of some nodes and keeps the largest. -/
structure Tracks (c : Collector σ) (depth deepest : σ → Nat) (opens : Node → Bool) : Prop where
  enter : ∀ n s, depth (c.enter n s) = depth s + if opens n then 1 else 0
  leave : ∀ n s, depth (c.leave n s) = depth s - if opens n then 1 else 0
  deepen : ∀ n s, deepest (c.enter n s) =
    if opens n then max (deepest s) (depth s + 1) else deepest s
  keep : ∀ n s, deepest (c.leave n s) = deepest s

namespace Tracks

lemma depth_run (h : Tracks c depth deepest opens) (s : σ) (n : Node) :
    depth (c.run s n) = depth s :=
  (balanced_of_depth h.enter h.leave).run n trivial

/-- The depth kept after a walk is the least that bounds the depth kept before it and the depth of
every place. -/
lemma deepest_run_le (h : Tracks c depth deepest opens) {s : σ} (hs : depth s ≤ deepest s)
    (n : Node) (k : Nat) : deepest (c.run s n) ≤ k ↔ deepest s ≤ k ∧
      ∀ p m, n.at? p = some m → depth s + (n.trail p).countP opens ≤ k := by
  induction n using Node.induct generalizing s k with
  | step n ih =>
    have hchildren : ∀ cs : List Node, (∀ d ∈ cs, d ∈ n.children) → ∀ t, depth t ≤ deepest t →
        (deepest (cs.foldl c.run t) ≤ k ↔ deepest t ≤ k ∧ ∀ d ∈ cs, ∀ p m, d.at? p = some m →
          depth t + (d.trail p).countP opens ≤ k) := by
      intro cs
      induction cs with
      | nil => simp
      | cons d r ihr =>
        intro hcs t ht
        have hd := hcs d List.mem_cons_self
        have hmono : deepest t ≤ deepest (c.run t d) := ((ih d hd ht _).1 (Nat.le_refl _)).1
        have hnext : depth (c.run t d) ≤ deepest (c.run t d) := by
          rw [h.depth_run]
          exact Nat.le_trans ht hmono
        rw [List.foldl_cons, ihr (fun e he => hcs e (List.mem_cons_of_mem _ he)) _ hnext,
          h.depth_run, ih d hd ht, List.forall_mem_cons, and_assoc]
    have henter := h.enter n s
    have hdeepen := h.deepen n s
    have hinside : depth (c.enter n s) ≤ deepest (c.enter n s) := by
      rw [henter, hdeepen]
      split <;> omega
    -- the depth kept on entering the node bounds the depth of the node itself
    have hself : deepest (c.enter n s) ≤ k ↔ deepest s ≤ k ∧ depth (c.enter n s) ≤ k := by
      rw [henter, hdeepen]
      split <;> omega
    rw [Collector.run_eq, h.keep, hchildren _ (fun _ hd => hd) _ hinside, hself, and_assoc]
    refine and_congr_right fun _ => ?_
    have hcount : ∀ l, depth s + (n :: l).countP opens = depth (c.enter n s) + l.countP opens := by
      intro l
      rw [henter, List.countP_cons]
      omega
    constructor
    · rintro ⟨hn, hbelow⟩ p m hm
      cases p with
      | nil => exact (hcount []).trans_le hn
      | cons i p =>
        obtain ⟨d, hd, hm⟩ := Node.at?_cons_eq_some.1 hm
        rw [Node.trail_cons hd, hcount]
        exact hbelow d (List.mem_of_getElem? hd) p m hm
    · intro hall
      refine ⟨(hcount []).symm.trans_le (hall [] n rfl), fun d hd p m hm => ?_⟩
      obtain ⟨i, hi⟩ := List.mem_iff_getElem?.1 hd
      have hbelow := hall (i :: p) m ((Node.at?_cons hi p).trans hm)
      rwa [Node.trail_cons hi, hcount] at hbelow

/-- From the start, the depth kept after a walk is the largest depth of a place. -/
lemma isGreatest_run {kinds : List String}
    (h : Tracks c depth deepest fun a => kinds.contains a.kind) {s : σ} (hdepth : depth s = 0)
    (hdeepest : deepest s = 0) (n : Node) : IsGreatest (n.depths kinds) (deepest (c.run s n)) := by
  have hs : depth s ≤ deepest s := by omega
  have hbound := fun k => h.deepest_run_le hs n k
  simp only [hdepth, hdeepest, Nat.zero_le, true_and, Nat.zero_add] at hbound
  have hupper := (hbound _).1 (Nat.le_refl _)
  refine ⟨?_, ?_⟩
  · -- otherwise one less would be a bound too
    by_contra hnot
    have hless : ∀ p m, n.at? p = some m → (n.trail p).countP (fun a => kinds.contains a.kind) ≤
        deepest (c.run s n) - 1 := by
      intro p m hm
      have hle := hupper p m hm
      have hne : (n.trail p).countP (fun a => kinds.contains a.kind) ≠ deepest (c.run s n) :=
        fun he => hnot ⟨p, m, hm, he.symm⟩
      omega
    have hle := (hbound _).2 hless
    have hzero : deepest (c.run s n) = 0 := by omega
    refine hnot ⟨[], n, rfl, ?_⟩
    have hroot := hupper [] n rfl
    omega
  · rintro k ⟨p, m, hm, rfl⟩
    exact hupper p m hm

end Tracks

/-! ### Complexity -/

namespace Complexity

variable (w : ComplexityWeights)

def nestingKinds : List String := ["if", "for", "block", "macro"]

lemma isNesting_eq (n : Node) : isNesting n = nestingKinds.contains n.kind := by
  cases n <;> rfl

lemma tracks : Tracks (collector w) Complexity.depth Complexity.maxDepth
    fun a => nestingKinds.contains a.kind where
  enter n s := by
    rw [depth_enter, isNesting_eq]
  leave n s := by
    rw [depth_leave, isNesting_eq]
  deepen n s := by
    cases n <;> rfl
  keep n s := by
    cases n <;> rfl

lemma counts_run (root : Node) :
    ((collector w).run start root).conditions = root.nodes.countP (·.kind == "if") ∧
      ((collector w).run start root).loops = root.nodes.countP (·.kind == "for") ∧
      ((collector w).run start root).ternaries = root.nodes.countP (·.kind == "conditional") ∧
      ((collector w).run start root).logicalOperators = root.nodes.countP (·.kind == "logical") ∧
      ((collector w).run start root).tests = root.nodes.countP (·.kind == "test_expr") := by
  have hrun : ∀ (count : Complexity → Nat) (kind : String), count start = 0 →
      (∀ n s, count (enter n s) = count s + if n.kind == kind then 1 else 0) →
      (∀ n s, count (leave n s) = count s) →
      count ((collector w).run start root) = root.nodes.countP (·.kind == kind) := by
    intro count kind hstart henter hleave
    have h := (collector w).run_count count henter hleave start root
    rwa [hstart, Nat.zero_add] at h
  refine ⟨hrun conditions _ rfl ?_ ?_, hrun loops _ rfl ?_ ?_, hrun ternaries _ rfl ?_ ?_,
    hrun logicalOperators _ rfl ?_ ?_, hrun tests _ rfl ?_ ?_⟩ <;>
  · intro n s
    cases n <;> rfl

end Complexity

/-! ### Control flow -/

namespace ControlFlow

variable (arity : Nat) {x : String}

def levelKinds : List String := ["if", "for"]

lemma isLevel_eq (n : Node) : isLevel n = levelKinds.contains n.kind := by
  cases n <;> rfl

lemma tracks : Tracks (collector arity) ControlFlow.depth ControlFlow.maxDepth
    fun a => levelKinds.contains a.kind where
  enter n s := by
    rw [depth_enter, isLevel_eq]
  leave n s := by
    rw [depth_leave, isLevel_eq]
  deepen n s := by
    cases n <;> rfl
  keep n s := by
    cases n <;> rfl

lemma hasNestedLoops_enter (n : Node) (s : ControlFlow) :
    (enter arity n s).hasNestedLoops = true ↔
      s.hasNestedLoops = true ∨ n.kind = "for" ∧ 0 < s.depth := by
  cases n <;> simp [enter, nest, Node.kind]

lemma hasNestedLoops_leave (n : Node) (s : ControlFlow) :
    (leave n s).hasNestedLoops = s.hasNestedLoops := by
  cases n <;> rfl

/-- After a walk some loop is nested if one was before, or some loop of the tree stands below a
level, open before or of the tree. -/
lemma hasNestedLoops_run (s : ControlFlow) (n : Node) :
    ((collector arity).run s n).hasNestedLoops = true ↔ s.hasNestedLoops = true ∨
      ∃ p f, n.at? p = some f ∧ f.kind = "for" ∧ (0 < s.depth ∨
        ∃ q a, Encloses q p ∧ n.at? q = some a ∧ a.kind ∈ levelKinds) := by
  induction n using Node.induct generalizing s with
  | step n ih =>
    -- the depth is the same before each of the children
    have hchildren : ∀ cs : List Node, (∀ d ∈ cs, d ∈ n.children) → ∀ t : ControlFlow,
        ((cs.foldl (collector arity).run t).hasNestedLoops = true ↔ t.hasNestedLoops = true ∨
          ∃ d ∈ cs, ∃ p f, d.at? p = some f ∧ f.kind = "for" ∧ (0 < t.depth ∨
            ∃ q a, Encloses q p ∧ d.at? q = some a ∧ a.kind ∈ levelKinds)) := by
      intro cs
      induction cs with
      | nil => simp
      | cons d r ihr =>
        intro hcs t
        rw [List.foldl_cons, ihr (fun e he => hcs e (List.mem_cons_of_mem _ he)),
          (tracks arity).depth_run, ih d (hcs d List.mem_cons_self), List.exists_mem_cons_iff,
          or_assoc]
    have hdepth : 0 < (enter arity n s).depth ↔ 0 < s.depth ∨ n.kind ∈ levelKinds := by
      have henter := (tracks arity).enter n s
      change (enter arity n s).depth = _ at henter
      rw [henter, List.contains_eq_mem]
      by_cases hn : n.kind ∈ levelKinds <;> simp [hn]
    rw [Collector.run_eq]
    change (leave n (n.children.foldl (collector arity).run (enter arity n s))).hasNestedLoops =
      true ↔ _
    rw [hasNestedLoops_leave, hchildren _ fun _ hd => hd, hasNestedLoops_enter, hdepth, or_assoc]
    rw [Node.exists_at?_iff]
    refine or_congr_right (or_congr ?_ ?_)
    · -- the node itself is the loop
      simp only [not_encloses_nil, false_and, exists_false, or_false]
    · -- the loop stands below a child, and so below the node too
      have habove : ∀ {i d p}, n.children[i]? = some d →
          ((0 < s.depth ∨ ∃ q a, Encloses q (i :: p) ∧ n.at? q = some a ∧ a.kind ∈ levelKinds) ↔
            (0 < s.depth ∨ n.kind ∈ levelKinds) ∨
              ∃ q a, Encloses q p ∧ d.at? q = some a ∧ a.kind ∈ levelKinds) := by
        intro i d p hd
        rw [Node.exists_encloses_cons hd, or_assoc]
      constructor
      · rintro ⟨d, hd, p, f, hf, hfor, hlevel⟩
        obtain ⟨i, hi⟩ := List.mem_iff_getElem?.1 hd
        exact ⟨i, d, hi, p, f, hf, hfor, (habove hi).2 hlevel⟩
      · rintro ⟨i, d, hd, p, f, hf, hfor, hlevel⟩
        exact ⟨d, List.mem_of_getElem? hd, p, f, hf, hfor, (habove hd).1 hlevel⟩

lemma hasComplexConditions_run (root : Node) :
    ((collector arity).run start root).hasComplexConditions = true ↔
      ∃ test body orElse, .ifTag test body orElse ∈ root.nodes ∧ arity < test.conditionArity := by
  have henter : ∀ n s, ((collector arity).enter n s).hasComplexConditions = true ↔
      s.hasComplexConditions = true ∨
        ∃ test body orElse, n = .ifTag test body orElse ∧ arity < test.conditionArity := by
    intro n s
    change (enter arity n s).hasComplexConditions = true ↔ _
    cases n <;> simp [enter, nest]
  have hleave : ∀ n s, ((collector arity).leave n s).hasComplexConditions = true ↔
      s.hasComplexConditions = true ∨ False := by
    intro n s
    change (leave n s).hasComplexConditions = true ↔ _
    cases n <;> simp [leave]
  have hrun := (collector arity).run_mark (fun s => s.hasComplexConditions = true) henter hleave
    start root
  rw [hrun]
  simp only [start, Bool.false_eq_true, false_or, or_false]
  constructor
  · rintro ⟨n, hn, test, body, orElse, rfl, harity⟩
    exact ⟨test, body, orElse, hn, harity⟩
  · rintro ⟨test, body, orElse, hn, harity⟩
    exact ⟨_, hn, test, body, orElse, rfl, harity⟩

lemma size_blockNames (root : Node) : ((collector arity).run start root).blockNames.size =
    {x | ∃ n ∈ root.nodes, n.blockName? = some x}.ncard := by
  refine NameMap.size_eq_ncard fun x =>
    ((collector arity).contains_names_run blockNames ?_ ?_ rfl root x).symm
  all_goals
    intro n s
    cases n <;> rfl

lemma size_macroNames (root : Node) : ((collector arity).run start root).macroNames.size =
    {x | ∃ n ∈ root.nodes, n.macroName? = some x}.ncard := by
  refine NameMap.size_eq_ncard fun x =>
    ((collector arity).contains_names_run macroNames ?_ ?_ rfl root x).symm
  all_goals
    intro n s
    cases n <;> rfl

end ControlFlow

/-! ### Operands of a condition -/

lemma finite_operands (n : Node) : {p | n.Operand p}.Finite := by
  refine (List.finite_toSet n.places).subset fun p hp => ?_
  obtain ⟨⟨m, hm, -⟩, -⟩ := hp
  exact Node.mem_places.2 ⟨m, hm⟩

/-- What joins no operands is its own and only operand. -/
lemma operand_iff_of_ne {n : Node} (hn : n.kind ≠ "logical") {p : Place} :
    n.Operand p ↔ p = [] := by
  cases p with
  | nil => exact iff_of_true ⟨⟨n, rfl, hn⟩, fun q a hq => absurd hq not_encloses_nil⟩ rfl
  | cons i p =>
    refine iff_of_false (fun h => hn ?_) (List.cons_ne_nil i p)
    exact h.2 [] n encloses_nil_cons rfl

/-- The operands of `and` and `or` are those of both sides. -/
lemma operand_logical_cons {op : LogicalOp} {left right c : Node} {i : Nat} {p : Place}
    (hc : (Node.logical op left right).children[i]? = some c) :
    (Node.logical op left right).Operand (i :: p) ↔ c.Operand p := by
  simp only [Node.Operand, Node.at?_cons hc]
  refine and_congr_right fun _ => ?_
  rw [Node.forall_encloses_cons hc]
  exact and_iff_right rfl

lemma operands_logical (op : LogicalOp) (left right : Node) :
    {p | (Node.logical op left right).Operand p} =
      (List.cons 0) '' {p | left.Operand p} ∪ (List.cons 1) '' {p | right.Operand p} := by
  ext p
  rcases p with _ | ⟨_ | _ | i, p⟩
  · simp [Node.Operand, Node.at?, Node.kind]
  · have hc : (Node.logical op left right).children[0]? = some left := rfl
    simp [operand_logical_cons hc]
  · have hc : (Node.logical op left right).children[1]? = some right := rfl
    simp [operand_logical_cons hc]
  · simp [Node.Operand, Node.at?, Node.children]

lemma conditionArity_eq (n : Node) : n.conditionArity = {p | n.Operand p}.ncard := by
  have hone : ∀ m : Node, m.kind ≠ "logical" → {p | m.Operand p}.ncard = 1 := by
    intro m hm
    have hset : {p | m.Operand p} = {[]} := Set.ext fun p => operand_iff_of_ne hm
    rw [hset, Set.ncard_singleton]
  induction n using Node.induct with
  | step n ih =>
    cases n with
    | logical op left right =>
      have hleft := ih left (by simp [Node.children])
      have hright := ih right (by simp [Node.children])
      -- the operands of the two sides stand at different places
      have hdisjoint : Disjoint (List.cons 0 '' {p | left.Operand p})
          (List.cons 1 '' {p | right.Operand p}) := by
        rw [Set.disjoint_left]
        rintro _ ⟨p, -, rfl⟩ ⟨q, -, hq⟩
        cases hq
      rw [Node.conditionArity, hleft, hright, operands_logical, Set.ncard_union_eq hdisjoint
        ((finite_operands left).image _) ((finite_operands right).image _),
        Set.ncard_image_of_injective _ List.cons_injective,
        Set.ncard_image_of_injective _ List.cons_injective]
    | _ => exact (hone _ (by simp [Node.kind])).symm

/-! ### The metrics -/

/-- What a standard collector finds alone is found by all of them together. -/
lemma get?_standard {path : String} {settings : Settings} {parents : Option Parents} {root : Node}
    {w : Watcher} (hw : w ∈ standard path settings parents) {key : String} {value : Json}
    (h : (w.run root).metrics.get? key = some value) :
    ((standard path settings parents).traverse root).metrics.get? key = some value := by
  have hapart : ((standard path settings parents).traverse root).Apart := by
    rw [States.standard_eq, States.traverse_watch]
    exact States.apart_watch ..
  refine hapart.get?_eq_some_iff.2 ⟨w.run root, ?_, h⟩
  rw [Watch.traverse_eq]
  exact List.mem_map_of_mem hw

lemma Complexity.get?_metrics (w : ComplexityWeights) {s : Complexity} (h : s.applicable = true) :
    (s.metrics w).get? "conditions" = some (.nat s.conditions) ∧
      (s.metrics w).get? "loops" = some (.nat s.loops) ∧
      (s.metrics w).get? "ternaries" = some (.nat s.ternaries) ∧
      (s.metrics w).get? "logical_operators" = some (.nat s.logicalOperators) ∧
      (s.metrics w).get? "tests" = some (.nat s.tests) ∧
      (s.metrics w).get? "max_depth" = some (.nat s.maxDepth) := by
  rw [metrics, if_pos h]
  refine ⟨?_, ?_, ?_, ?_, ?_, ?_⟩ <;> exact NameMap.get?_ofList_of_mem (by simp) (by simp)

lemma ControlFlow.get?_metrics (s : ControlFlow) :
    s.metrics.get? "max_control_depth" = some (.nat s.maxDepth) ∧
      s.metrics.get? "has_nested_loops" = some (.bool s.hasNestedLoops) ∧
      s.metrics.get? "has_complex_conditions" = some (.bool s.hasComplexConditions) ∧
      s.metrics.get? "unique_blocks" = some (.nat s.blockNames.size) ∧
      s.metrics.get? "unique_macros" = some (.nat s.macroNames.size) := by
  rw [metrics]
  refine ⟨?_, ?_, ?_, ?_, ?_⟩ <;> exact NameMap.get?_ofList_of_mem (by simp) (by simp)

/-- **The depth-tracking collectors measure the structure of a tree.** The metrics of complexity are
there exactly if the tree has a node of a kind that counts. Counts are numbers of nodes of a kind,
depths the largest numbers of nodes of some kinds on the way to a place; a loop is nested if it has
an ancestor among the conditionals and loops, and a condition is complex if it has more operands
than `complexConditionArity`. -/
theorem nesting_measured (path : String) (settings : Settings) (parents : Option Parents)
    (root : Node) :
    let m := ((standard path settings parents).traverse root).metrics
    let counts := ∃ n ∈ root.nodes,
      n.kind ∈ ["if", "for", "block", "macro", "conditional", "logical", "test_expr"]
    (∀ key ∈ ["complexity_score", "conditions", "loops", "ternaries", "logical_operators", "tests",
      "max_depth"], m.contains key = true ↔ counts) ∧
    (counts → m.get? "conditions" = some (.nat (root.nodes.countP (·.kind == "if"))) ∧
      m.get? "loops" = some (.nat (root.nodes.countP (·.kind == "for"))) ∧
      m.get? "ternaries" = some (.nat (root.nodes.countP (·.kind == "conditional"))) ∧
      m.get? "logical_operators" = some (.nat (root.nodes.countP (·.kind == "logical"))) ∧
      m.get? "tests" = some (.nat (root.nodes.countP (·.kind == "test_expr"))) ∧
      ∃ d, IsGreatest (root.depths ["if", "for", "block", "macro"]) d ∧
        m.get? "max_depth" = some (.nat d)) ∧
    (∃ d, IsGreatest (root.depths ["if", "for"]) d ∧
      m.get? "max_control_depth" = some (.nat d)) ∧
    (∃ nested : Bool, m.get? "has_nested_loops" = some (.bool nested) ∧
      (nested = true ↔ ∃ p f, root.at? p = some f ∧ f.kind = "for" ∧
        ∃ q a, Encloses q p ∧ root.at? q = some a ∧ a.kind ∈ ["if", "for"])) ∧
    (∃ complex : Bool, m.get? "has_complex_conditions" = some (.bool complex) ∧
      (complex = true ↔ ∃ test body orElse, .ifTag test body orElse ∈ root.nodes ∧
        settings.complexConditionArity < {p | test.Operand p}.ncard)) ∧
    m.get? "unique_blocks" = some (.nat {x | ∃ n ∈ root.nodes, n.blockName? = some x}.ncard) ∧
    m.get? "unique_macros" = some (.nat {x | ∃ n ∈ root.nodes, n.macroName? = some x}.ncard) := by
  intro m counts
  -- each metric comes from the collector of its own
  set s := (Complexity.collector settings.complexity.weights).run .start root with hs
  set t := (ControlFlow.collector settings.complexConditionArity).run .start root with ht
  have hcomplexity : ∀ {key value}, (s.metrics settings.complexity.weights).get? key = some value →
      m.get? key = some value :=
    get?_standard (w := ⟨Complexity.collector settings.complexity.weights, .start⟩)
      List.mem_cons_self
  have hcontrol : ∀ {key value}, t.metrics.get? key = some value → m.get? key = some value :=
    get?_standard (w := ⟨ControlFlow.collector settings.complexConditionArity, .start⟩)
      (List.mem_cons_of_mem _ List.mem_cons_self)
  obtain ⟨hdepth, hloops, hconditions, hblocks, hmacros⟩ := t.get?_metrics
  refine ⟨fun key hkey => ?_, fun hcounts => ?_, ⟨_, ?_, hcontrol hdepth⟩,
    ⟨_, hcontrol hloops, ?_⟩, ⟨_, hcontrol hconditions, ?_⟩, ?_, ?_⟩
  · have htree : key ∉ treeNames := by
      revert key
      decide
    rw [contains_standard]
    exact (or_iff_right htree).trans (and_iff_left hkey)
  · have happlicable : s.applicable = true :=
      (Complexity.applicable_run settings.complexity.weights root).2 hcounts
    obtain ⟨hif, hfor, hconditional, hlogical, htest, hmax⟩ :=
      Complexity.get?_metrics settings.complexity.weights happlicable
    obtain ⟨hif', hfor', hconditional', hlogical', htest'⟩ :=
      Complexity.counts_run settings.complexity.weights root
    rw [hcomplexity hif, hcomplexity hfor, hcomplexity hconditional, hcomplexity hlogical,
      hcomplexity htest, hif', hfor', hconditional', hlogical', htest']
    refine ⟨rfl, rfl, rfl, rfl, rfl, _, ?_, hcomplexity hmax⟩
    exact (Complexity.tracks settings.complexity.weights).isGreatest_run rfl rfl root
  · exact (ControlFlow.tracks settings.complexConditionArity).isGreatest_run rfl rfl root
  · rw [ControlFlow.hasNestedLoops_run]
    simp [ControlFlow.start, ControlFlow.levelKinds]
  · rw [ControlFlow.hasComplexConditions_run]
    simp only [conditionArity_eq]
  · rw [hcontrol hblocks, ControlFlow.size_blockNames]
  · rw [hcontrol hmacros, ControlFlow.size_macroNames]

end Collect

end TemplateMetrics
