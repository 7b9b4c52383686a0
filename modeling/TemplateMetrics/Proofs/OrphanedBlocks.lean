import TemplateMetrics.Analysis.Blocks
import TemplateMetrics.Proofs.Ancestry
import TemplateMetrics.Proofs.EdgeCounts
import TemplateMetrics.Proofs.Nesting
import TemplateMetrics.Proofs.ParentViews

/-!
Blocks that can never take effect.

The report on blocks joins three views of a batch: the blocks that the metrics of each template
list, the chain of parents in the graph, and the blocks that a template renders itself. What the
metrics list are the blocks of the tree (`Collect.References.contains_providedBlocks_run`), so the
table of provided blocks has the trees of the batch (`Blocks.contains_providedBy`,
`Blocks.exists_get?_providedBy`). An orphaned block is then a statement about trees and parents
alone. The usages turn the table round: each block is listed with the templates that have it, and
no definition is lost or counted twice (`Blocks.sum_definitions`).
-/

namespace TemplateMetrics

open Syntax

/-! ### Blocks of a tree -/

namespace Syntax.Node

/-- The tree defines the block. -/
def Provides (root : Node) (b : String) : Prop := ∃ body, .block b body ∈ root.nodes

/-- The tree renders the block by a call that names it by a literal. -/
def Renders (root : Node) (b : String) : Prop :=
  ∃ args, .functionCall "block" (.literal (.str b) :: args) ∈ root.nodes

/-- The block that a node renders. -/
def renderedName? : Node → Option String
  | .functionCall "block" (first :: _) => first.strLiteral?
  | _ => none

lemma provides_iff {root : Node} {b : String} :
    root.Provides b ↔ ∃ n ∈ root.nodes, n.blockName? = some b := by
  constructor
  · rintro ⟨body, hn⟩
    exact ⟨_, hn, rfl⟩
  · rintro ⟨n, hn, hb⟩
    cases n with
    | block name body =>
      obtain rfl := Option.some.inj hb
      exact ⟨body, hn⟩
    | _ => cases hb

lemma renders_iff {root : Node} {b : String} :
    root.Renders b ↔ ∃ n ∈ root.nodes, n.renderedName? = some b := by
  constructor
  · rintro ⟨args, hn⟩
    exact ⟨_, hn, rfl⟩
  · rintro ⟨n, hn, hb⟩
    unfold renderedName? at hb
    split at hb
    · rw [strLiteral?_eq_some] at hb
      subst hb
      exact ⟨_, hn⟩
    · cases hb

end Syntax.Node

namespace Collect.References

lemma providedBlocks_enter (source : String) (n : Node) (s : References) :
    (enter source n s).providedBlocks =
      n.blockName?.toList.foldl NameSet.add s.providedBlocks := by
  have hblocks : (enter source n s).providedBlocks = (blocksOf n s).providedBlocks := by
    unfold enter
    dsimp only
    split <;> rfl
  rw [hblocks]
  cases n with
  | functionCall name args =>
    unfold blocksOf
    split
    · contradiction
    · split <;> rfl
    · rfl
  | _ => rfl

lemma usedBlocks_enter (source : String) (n : Node) (s : References) :
    (enter source n s).usedBlocks = n.renderedName?.toList.foldl NameSet.add s.usedBlocks := by
  have hblocks : (enter source n s).usedBlocks = (blocksOf n s).usedBlocks := by
    unfold enter
    dsimp only
    split <;> rfl
  rw [hblocks]
  unfold blocksOf Node.renderedName?
  split
  · rfl
  · rename_i first rest
    cases hfirst : first.strLiteral? <;> simp [hfirst]
  · split
    · rename_i _ hcall
      exact absurd rfl (hcall _ _)
    · rfl

variable (path : String) (parents : Option Parents) (root : Node) (b : String)

/-- After a walk the provided blocks are those that the tree defines. -/
lemma contains_providedBlocks_run :
    ((collector path parents).run start root).providedBlocks.contains b = true ↔
      root.Provides b := by
  rw [Node.provides_iff]
  exact (collector path parents).contains_names_run providedBlocks (providedBlocks_enter path)
    (fun _ _ => rfl) rfl root b

lemma contains_usedBlocks_run :
    ((collector path parents).run start root).usedBlocks.contains b = true ↔ root.Renders b := by
  rw [Node.renders_iff]
  exact (collector path parents).contains_names_run usedBlocks (usedBlocks_enter path)
    (fun _ _ => rfl) rfl root b

end Collect.References

/-! ### Templates of a batch -/

lemma Metrics.strings_eq {m : Metrics} {key : String} {texts : List String}
    (h : m.get? key = some (.strs texts)) : m.strings key = texts := by
  rw [strings, list, h, Json.strs]
  simp [List.filterMap_map, Function.comp_def, Json.str?]

namespace Batch

variable {a : Analyzer} {inputs : List Input} {input : Input} {path : String} {root : Node}

/-- The trees of the templates that could be analyzed, in their order. -/
def trees (a : Analyzer) (inputs : List Input) : List Node :=
  inputs.filterMap fun input => (a.tree input).toOption

/-- A template was analyzed under the path, and this is its tree. -/
def TreeAt (a : Analyzer) (inputs : List Input) (path : String) (root : Node) : Prop :=
  ∃ input ∈ inputs, a.tree input = .ok root ∧ ∃ result, a.analyze input = .ok result ∧
    result.path = path

lemma treeAt_iff : TreeAt a inputs path root ↔
    ∃ input ∈ inputs, a.tree input = .ok root ∧ (resultOf a inputs input).path = path := by
  have hpath : ∀ input, a.tree input = .ok root →
      ((∃ result, a.analyze input = .ok result ∧ result.path = path) ↔
        (resultOf a inputs input).path = path) := by
    intro input htree
    obtain ⟨source, hresult⟩ := Analyzer.analyze_of_tree htree
    rw [path_resultOf, Analyzer.analyzeOrFallback_of_ok hresult, hresult]
    simp
  constructor
  · rintro ⟨input, hi, htree, hresult⟩
    exact ⟨input, hi, htree, (hpath input htree).1 hresult⟩
  · rintro ⟨input, hi, htree, hresult⟩
    exact ⟨input, hi, htree, (hpath input htree).2 hresult⟩

lemma TreeAt.unique (h : (analyze a inputs).Distinct) {root' : Node}
    (ht : TreeAt a inputs path root) (ht' : TreeAt a inputs path root') : root = root' := by
  obtain ⟨input, hi, htree, hpath⟩ := treeAt_iff.1 ht
  obtain ⟨input', hi', htree', hpath'⟩ := treeAt_iff.1 ht'
  rw [path_resultOf] at hpath hpath'
  obtain rfl : input = input' :=
    List.inj_on_of_nodup_map (distinct_iff.1 h) hi hi' (hpath.trans hpath'.symm)
  exact Except.ok.inj (htree.symm.trans htree')

lemma isSuccess_iff (a : Analyzer) (inputs : List Input) (input : Input) :
    (!(resultOf a inputs input).isFailure) = true ↔ ∃ root, a.tree input = .ok root := by
  rw [Bool.not_eq_true', ← Bool.not_eq_true, isFailure_resultOf]
  cases htree : a.tree input with
  | error f => simp [Analyzer.analyze_of_tree_error htree]
  | ok root =>
    obtain ⟨source, hresult⟩ := Analyzer.analyze_of_tree htree
    simp [hresult]

lemma mem_successful {r : Result} : r ∈ (analyze a inputs).successful ↔
    ∃ input ∈ inputs, (∃ root, a.tree input = .ok root) ∧ resultOf a inputs input = r := by
  rw [successful, results_eq, List.mem_filter, List.mem_map]
  constructor
  · rintro ⟨⟨input, hi, rfl⟩, hsuccess⟩
    exact ⟨input, hi, (isSuccess_iff a inputs input).1 hsuccess, rfl⟩
  · rintro ⟨input, hi, htree, rfl⟩
    exact ⟨⟨input, hi, rfl⟩, (isSuccess_iff a inputs input).2 htree⟩

lemma mem_successful_paths :
    path ∈ (analyze a inputs).successful.map (·.path) ↔ ∃ root, TreeAt a inputs path root := by
  simp only [List.mem_map, mem_successful, treeAt_iff]
  constructor
  · rintro ⟨_, ⟨input, hi, ⟨root, htree⟩, rfl⟩, hpath⟩
    exact ⟨root, input, hi, htree, hpath⟩
  · rintro ⟨root, input, hi, htree, hpath⟩
    exact ⟨_, ⟨input, hi, ⟨root, htree⟩, rfl⟩, hpath⟩

lemma nodup_successful_paths (h : (analyze a inputs).Distinct) :
    ((analyze a inputs).successful.map (·.path)).Nodup :=
  h.sublist (List.filter_sublist.map _)

/-- The metrics of a template in a batch tell the blocks of its tree and its first parent. -/
lemma blocks_resultOf (inputs : List Input) (htree : a.tree input = .ok root) :
    (∀ b, b ∈ (resultOf a inputs input).metrics.strings "provided_blocks" ↔ root.Provides b) ∧
    (∀ b, b ∈ (resultOf a inputs input).metrics.strings "used_blocks" ↔ root.Renders b) ∧
    (resultOf a inputs input).metrics.string "extends" = root.firstParent?.getD "" := by
  obtain ⟨source, hresult⟩ := Analyzer.analyze_of_tree htree
  set s := (Collect.References.collector (Path.normalize input.path) none).run .start root with hs
  -- metrics of the references that nothing later in the analysis replaces
  have hmetric : ∀ {key : String} {texts : List String}, key ∉ sharedNames → key ≠ "references" →
      (∀ m, (Analyzer.derived a.settings (Path.normalize input.path) source m).get? key = none) →
      (Collect.References.metrics (Path.normalize input.path) none s).get? key =
        some (.strs texts) →
      (resultOf a inputs input).metrics.strings key = texts := by
    intro key texts hkey hreferences hderived hown
    refine Metrics.strings_eq ?_
    rw [get?_resultOf a inputs input hkey hreferences, Analyzer.analyzeOrFallback_of_ok hresult]
    dsimp only
    exact Analyzer.get?_collect_of_references hown hderived
  have hprovided : (resultOf a inputs input).metrics.strings "provided_blocks" =
      s.providedBlocks.toList :=
    hmetric (by decide) (by decide) (fun m => by simp [Analyzer.derived, NameMap.ofList])
      (by simp [Collect.References.metrics, NameMap.ofList])
  have hused : (resultOf a inputs input).metrics.strings "used_blocks" = s.usedBlocks.toList :=
    hmetric (by decide) (by decide) (fun m => by simp [Analyzer.derived, NameMap.ofList])
      (by simp [Collect.References.metrics, NameMap.ofList])
  have hextends : (resultOf a inputs input).metrics.get? "extends" =
      some (.str (root.firstParent?.getD "")) := by
    obtain ⟨own, hown, -, hextends, -⟩ := Analyzer.parent_of_analyze htree
    rw [get?_resultOf a inputs input (by decide) (by decide),
      Analyzer.analyzeOrFallback_of_ok hown, hextends]
  refine ⟨fun b => ?_, fun b => ?_, ?_⟩
  · rw [hprovided, NameSet.toList, NameMap.mem_keys, hs,
      Collect.References.contains_providedBlocks_run]
  · rw [hused, NameSet.toList, NameMap.mem_keys, hs, Collect.References.contains_usedBlocks_run]
  · rw [Metrics.string, Metrics.stringD, hextends]

end Batch

namespace Blocks

/-! ### Usages -/

/-- The second parts of pairs, in order, under the first part. -/
def grouped (pairs : List (String × String)) : NameMap (List String) :=
  pairs.foldl (fun m p => m.alter p.1 fun old => old.getD [] ++ [p.2]) NameMap.empty

lemma get?_grouped (pairs : List (String × String)) (k : String) :
    (grouped pairs).get? k = if k ∈ pairs.map (·.1) then
      some ((pairs.filter (·.1 = k)).map (·.2)) else none := by
  induction pairs using List.reverseRecOn with
  | nil => rfl
  | append_singleton pairs p ih =>
    have hstep : grouped (pairs ++ [p]) =
        (grouped pairs).alter p.1 fun old => old.getD [] ++ [p.2] := List.foldl_append ..
    rw [hstep, NameMap.get?_alter]
    by_cases hk : k = p.1
    · subst hk
      rw [if_pos rfl, if_pos (by simp), ih]
      by_cases hmem : p.1 ∈ pairs.map (·.1)
      · rw [if_pos hmem]
        simp
      · -- the first pair of a name starts its group
        have hnone : pairs.filter (·.1 = p.1) = [] := by
          refine List.filter_eq_nil_iff.2 fun q hq hpath => hmem ?_
          exact List.mem_map.2 ⟨q, hq, of_decide_eq_true hpath⟩
        rw [if_neg hmem, List.filter_append, hnone]
        simp
    · have hmem : k ∈ (pairs ++ [p]).map (·.1) ↔ k ∈ pairs.map (·.1) := by
        simp only [List.map_append, List.mem_append, List.map_cons, List.map_nil,
          List.mem_singleton, or_iff_left hk]
      rw [if_neg hk, ih, if_congr hmem rfl rfl, List.filter_append]
      simp [Ne.symm hk]

/-- The blocks of all templates, each with its template. -/
def definedPairs (provided : Provided) : List (String × String) :=
  provided.entries.flatMap fun e => e.2.toList.map fun b => (b, e.1)

lemma usagesOf_eq (provided : Provided) :
    usagesOf provided = (grouped (definedPairs provided)).entries.map fun e => ⟨e.1, e.2⟩ := by
  rw [usagesOf, grouped, definedPairs, List.foldl_flatMap]
  simp only [List.foldl_map]

/-- A template is listed with a block once, if it provides it. -/
lemma filter_definedPairs (provided : Provided) (b : String) :
    ((definedPairs provided).filter (·.1 = b)).map (·.2) =
      (provided.entries.filter fun e => e.2.contains b).map (·.1) := by
  have hentry : ∀ e : String × NameSet,
      ((e.2.toList.map fun b => (b, e.1)).filter (·.1 = b)).map (·.2) =
        if e.2.contains b then [e.1] else [] := by
    intro e
    have hnodup : e.2.toList.Nodup := NameMap.nodup_keys e.2
    have hmem : b ∈ e.2.toList ↔ e.2.contains b = true := NameMap.mem_keys
    -- a set has each name once
    have hown : e.2.toList.filter (· = b) = if e.2.contains b then [b] else [] := by
      rw [List.filter_eq, hnodup.count]
      by_cases hb : e.2.contains b = true <;> simp [hmem, hb]
    calc ((e.2.toList.map fun b => (b, e.1)).filter (·.1 = b)).map (·.2)
        = (e.2.toList.filter (· = b)).map fun _ => e.1 := by
          rw [List.filter_map, List.map_map]
          rfl
      _ = if e.2.contains b then [e.1] else [] := by
          rw [hown]
          split <;> rfl
  rw [definedPairs]
  induction provided.entries with
  | nil => rfl
  | cons e r ih =>
    rw [List.flatMap_cons, List.filter_append, List.map_append, ih, hentry, List.filter_cons]
    by_cases hb : e.2.contains b = true <;> simp [hb]

/-- A usage has the templates that provide its block, in the order of the table. -/
lemma templates_of_mem {provided : Provided} {u : BlockUsage} (hu : u ∈ usagesOf provided) :
    u.templates = (provided.entries.filter fun e => e.2.contains u.name).map (·.1) := by
  rw [usagesOf_eq] at hu
  obtain ⟨⟨name, templates⟩, he, rfl⟩ := List.mem_map.1 hu
  rw [NameMap.mem_entries, get?_grouped] at he
  split at he
  · rw [← filter_definedPairs]
    exact (Option.some.inj he).symm
  · cases he

lemma pairwise_templates {provided : Provided} {u : BlockUsage} (hu : u ∈ usagesOf provided) :
    u.templates.Pairwise (· < ·) := by
  rw [templates_of_mem hu]
  exact (NameMap.pairwise_keys provided).sublist (List.filter_sublist.map _)

lemma mem_templates {provided : Provided} {u : BlockUsage} (hu : u ∈ usagesOf provided)
    {t : String} :
    t ∈ u.templates ↔ (provided.getD t NameMap.empty).contains u.name = true := by
  rw [templates_of_mem hu, NameMap.getD]
  simp only [List.mem_map, List.mem_filter]
  constructor
  · rintro ⟨⟨t, s⟩, ⟨he, hb⟩, rfl⟩
    rw [NameMap.mem_entries.1 he]
    exact hb
  · intro hb
    cases hs : provided.get? t with
    | none =>
      rw [hs] at hb
      cases hb
    | some s =>
      rw [hs] at hb
      exact ⟨(t, s), ⟨NameMap.mem_entries.2 hs, hb⟩, rfl⟩

/-- Each block of each template is one definition. -/
lemma sum_definitions (provided : Provided) :
    ((usagesOf provided).map (·.definitions)).sum = (provided.values.map NameMap.size).sum := by
  -- each group has as many members as there are pairs of its name
  have hlength : ∀ e ∈ (grouped (definedPairs provided)).entries,
      e.2.length = (definedPairs provided).countP fun p => p.1 = e.1 := by
    rintro ⟨k, templates⟩ he
    rw [NameMap.mem_entries, get?_grouped] at he
    split at he
    · obtain rfl := Option.some.inj he
      rw [List.length_map, List.countP_eq_length_filter]
    · cases he
  have hkeys : ∀ p ∈ definedPairs provided, p.1 ∈ (grouped (definedPairs provided)).keys := by
    intro p hp
    rw [NameMap.mem_keys, NameMap.contains_eq_isSome, get?_grouped, if_pos (List.mem_map_of_mem hp)]
    rfl
  have hsum := sum_countP_eq_length (fun p : String × String => p.1)
    (grouped (definedPairs provided)).nodup_keys hkeys
  calc ((usagesOf provided).map (·.definitions)).sum
      = ((grouped (definedPairs provided)).entries.map fun e => e.2.length).sum := by
        rw [usagesOf_eq, List.map_map]
        rfl
    _ = ((grouped (definedPairs provided)).keys.map fun k =>
          (definedPairs provided).countP fun p => p.1 = k).sum := by
        rw [List.map_congr_left hlength, NameMap.keys, List.map_map]
        rfl
    _ = (definedPairs provided).length := hsum
    _ = (provided.values.map NameMap.size).sum := by
        rw [definedPairs, List.length_flatMap, NameMap.values, List.map_map]
        simp [Function.comp_def, NameSet.toList, NameMap.keys, NameMap.size]

/-! ### The table of provided blocks -/

variable {a : Analyzer} {inputs : List Input} {path : String} {root : Node}

open Batch (TreeAt trees)

lemma contains_providedBy :
    (providedBy (.analyze a inputs)).contains path = true ↔ ∃ root, TreeAt a inputs path root := by
  rw [providedBy, NameMap.contains_ofList, List.map_map, ← Batch.mem_successful_paths]
  rfl

lemma nodup_providedBy (h : (Batch.analyze a inputs).Distinct) :
    (((Batch.analyze a inputs).successful.map fun r =>
      (r.path, NameSet.ofNames (r.metrics.strings "provided_blocks"))).map (·.1)).Nodup := by
  rw [List.map_map]
  exact Batch.nodup_successful_paths h

lemma exists_get?_providedBy (h : (Batch.analyze a inputs).Distinct)
    (ht : TreeAt a inputs path root) :
    ∃ s, (providedBy (.analyze a inputs)).get? path = some s ∧
      ∀ b, s.contains b = true ↔ root.Provides b := by
  obtain ⟨input, hi, htree, rfl⟩ := Batch.treeAt_iff.1 ht
  have hmem : Batch.resultOf a inputs input ∈ (Batch.analyze a inputs).successful :=
    Batch.mem_successful.2 ⟨input, hi, ⟨root, htree⟩, rfl⟩
  refine ⟨_, NameMap.get?_ofList_of_mem (nodup_providedBy h) (List.mem_map_of_mem hmem),
    fun b => ?_⟩
  rw [NameSet.contains_ofNames]
  exact (Batch.blocks_resultOf inputs htree).1 b

lemma contains_getD_providedBy (h : (Batch.analyze a inputs).Distinct) {b : String} :
    ((providedBy (.analyze a inputs)).getD path NameMap.empty).contains b = true ↔
      ∃ root, TreeAt a inputs path root ∧ root.Provides b := by
  constructor
  · intro hb
    -- a block that is provided stands in some entry
    have hpath : (providedBy (.analyze a inputs)).contains path = true := by
      cases hs : (providedBy (.analyze a inputs)).get? path with
      | none =>
        rw [NameMap.getD, hs] at hb
        cases hb
      | some s => rw [NameMap.contains_eq_isSome, hs, Option.isSome_some]
    obtain ⟨root, ht⟩ := contains_providedBy.1 hpath
    obtain ⟨s, hs, hblocks⟩ := exists_get?_providedBy h ht
    rw [NameMap.getD, hs] at hb
    exact ⟨root, ht, (hblocks b).1 hb⟩
  · rintro ⟨root, ht, hb⟩
    obtain ⟨s, hs, hblocks⟩ := exists_get?_providedBy h ht
    rw [NameMap.getD, hs]
    exact (hblocks b).2 hb

/-- The sizes in the table are the numbers of blocks of the trees. -/
lemma sum_providedBy (h : (Batch.analyze a inputs).Distinct) :
    ((providedBy (.analyze a inputs)).values.map NameMap.size).sum =
      ((trees a inputs).map fun root => {b | root.Provides b}.ncard).sum := by
  have hperm := NameMap.entries_ofList_perm (nodup_providedBy h)
  have hsizes : (Batch.analyze a inputs).successful.map
      (fun r => (NameSet.ofNames (r.metrics.strings "provided_blocks")).size) =
        (trees a inputs).map fun root => {b | root.Provides b}.ncard := by
    rw [Batch.successful, Batch.results_eq, trees, ← List.filterMap_eq_filter, List.filterMap_map,
      List.map_filterMap, List.map_filterMap]
    refine List.filterMap_congr fun input _ => ?_
    have hsuccess := Batch.isSuccess_iff a inputs input
    rw [Function.comp_apply, Option.guard]
    cases htree : a.tree input with
    | error f =>
      rw [if_neg (by simp [hsuccess, htree])]
      rfl
    | ok root =>
      have hsize : (NameSet.ofNames ((Batch.resultOf a inputs input).metrics.strings
          "provided_blocks")).size = {b | root.Provides b}.ncard := by
        refine NameMap.size_eq_ncard fun b => ?_
        rw [NameSet.contains_ofNames]
        exact ((Batch.blocks_resultOf inputs htree).1 b).symm
      rw [if_pos (hsuccess.2 ⟨root, htree⟩)]
      exact congrArg some hsize
  rw [NameMap.values, List.map_map, providedBy, (hperm.map _).sum_eq, List.map_map, ← hsizes]
  rfl

/-! ### Orphaned blocks -/

lemma mem_orphanedOf {provided : Provided} {parents : Parents} {r : Result} {o : OrphanedBlock} :
    o ∈ orphanedOf provided parents r ↔ r.metrics.string "extends" ≠ "" ∧ o.template = r.path ∧
      (provided.getD r.path NameMap.empty).contains o.block = true ∧
      o.ancestors = (parents.ancestors r.path).filter provided.contains ∧ o.ancestors ≠ [] ∧
      (∀ q ∈ o.ancestors, ¬ (provided.getD q NameMap.empty).contains o.block = true) ∧
      o.block ∉ r.metrics.strings "used_blocks" := by
  unfold orphanedOf
  by_cases hextends : r.metrics.string "extends" = ""
  · simp [hextends]
  · rw [if_neg (by simpa using hextends)]
    dsimp only
    by_cases hancestors : (parents.ancestors r.path).filter provided.contains = []
    · -- without analyzed ancestors nothing is reported
      rw [if_pos (List.isEmpty_iff.2 hancestors), hancestors]
      refine iff_of_false List.not_mem_nil ?_
      rintro ⟨-, -, -, hnil, hne, -⟩
      exact hne hnil
    · have hblock : ∀ block,
          block ∈ ((provided.getD r.path NameMap.empty).toList.filter fun block =>
            !(((parents.ancestors r.path).filter provided.contains).any fun q =>
              (provided.getD q NameMap.empty).contains block) &&
            !(r.metrics.strings "used_blocks").contains block) ↔
          (provided.getD r.path NameMap.empty).contains block = true ∧
          (∀ q ∈ (parents.ancestors r.path).filter provided.contains,
            ¬ (provided.getD q NameMap.empty).contains block = true) ∧
          block ∉ r.metrics.strings "used_blocks" := by
        intro block
        rw [List.mem_filter, NameSet.toList, NameMap.mem_keys]
        simp only [Bool.and_eq_true, Bool.not_eq_true', List.any_eq_false, List.contains_eq_mem,
          decide_eq_false_iff_not]
      rw [if_neg (mt List.isEmpty_iff.1 hancestors), List.mem_map]
      constructor
      · rintro ⟨block, hmem, rfl⟩
        obtain ⟨hown, hinherited, hused⟩ := (hblock block).1 hmem
        exact ⟨hextends, rfl, hown, rfl, hancestors, hinherited, hused⟩
      · rintro ⟨-, htemplate, hown, hchain, -, hinherited, hused⟩
        refine ⟨o.block, (hblock o.block).2 ⟨hown, hchain ▸ hinherited, hused⟩, ?_⟩
        obtain ⟨template, block, ancestors⟩ := o
        obtain rfl : template = r.path := htemplate
        obtain rfl : ancestors = _ := hchain
        rfl

lemma nodup_orphanedOf (provided : Provided) (parents : Parents) (r : Result) :
    ((orphanedOf provided parents r).map fun o => (o.template, o.block)).Nodup := by
  unfold orphanedOf
  dsimp only
  split
  · exact List.nodup_nil
  · split
    · exact List.nodup_nil
    · rw [List.map_map]
      have hown : (provided.getD r.path NameMap.empty).toList.Nodup := NameMap.nodup_keys _
      exact (hown.filter _).map fun _ _ h => (Prod.mk.inj h).2

lemma nodup_orphaned (h : (Batch.analyze a inputs).Distinct) :
    ((ofBatch (.analyze a inputs)).orphaned.map fun o => (o.template, o.block)).Nodup := by
  have hpaths := List.pairwise_map.1 (Batch.nodup_successful_paths h)
  rw [ofBatch]
  dsimp only
  rw [List.map_flatMap]
  refine List.nodup_flatMap.2 ⟨fun r _ => nodup_orphanedOf _ _ r, hpaths.imp ?_⟩
  intro r r' hne e he he'
  obtain ⟨o, ho, rfl⟩ := List.mem_map.1 he
  obtain ⟨o', ho', hsame⟩ := List.mem_map.1 he'
  obtain ⟨-, htemplate, -⟩ := mem_orphanedOf.1 ho
  obtain ⟨-, htemplate', -⟩ := mem_orphanedOf.1 ho'
  exact hne (htemplate.symm.trans ((Prod.mk.inj hsame).1.symm.trans htemplate'))

lemma filter_providedBy (l : List String) :
    l.filter (providedBy (.analyze a inputs)).contains =
      l.filter fun q => q ∈ (Batch.analyze a inputs).successful.map (·.path) := by
  refine List.filter_congr fun q _ => ?_
  rw [Bool.eq_iff_iff, contains_providedBy, decide_eq_true_eq, Batch.mem_successful_paths]

lemma mem_orphaned (h : (Batch.analyze a inputs).Distinct) {o : OrphanedBlock} :
    o ∈ (ofBatch (.analyze a inputs)).orphaned ↔
      ∃ root x, TreeAt a inputs o.template root ∧ root.FirstParent x ∧
        x ≠ "" ∧ root.Provides o.block ∧
        o.ancestors = ((Parents.ofGraph (Batch.analyze a inputs).graph).ancestors
          o.template).filter (fun q => q ∈ (Batch.analyze a inputs).successful.map (·.path)) ∧
        o.ancestors ≠ [] ∧
        (∀ q ∈ o.ancestors, ∀ above, TreeAt a inputs q above → ¬ above.Provides o.block) ∧
        ¬ root.Renders o.block := by
  have hinherited : ∀ q, ¬ ((providedBy (.analyze a inputs)).getD q NameMap.empty).contains
      o.block = true ↔ ∀ above, TreeAt a inputs q above → ¬ above.Provides o.block := by
    intro q
    rw [contains_getD_providedBy h, not_exists]
    simp only [not_and]
  rw [ofBatch]
  dsimp only
  rw [List.mem_flatMap]
  constructor
  · rintro ⟨r, hr, ho⟩
    obtain ⟨input, hi, ⟨root, htree⟩, rfl⟩ := Batch.mem_successful.1 hr
    obtain ⟨hextends, htemplate, hown, hchain, hne, hnone, hused⟩ := mem_orphanedOf.1 ho
    obtain ⟨-, hrenders, hparent⟩ := Batch.blocks_resultOf inputs htree
    have ht : TreeAt a inputs o.template root :=
      Batch.treeAt_iff.2 ⟨input, hi, htree, htemplate.symm⟩
    -- the path of the template leads back to the same tree
    rw [← htemplate, contains_getD_providedBy h] at hown
    obtain ⟨root', ht', hblock⟩ := hown
    obtain rfl := ht.unique h ht'
    rw [← htemplate, filter_providedBy] at hchain
    rw [hparent] at hextends
    cases hx : root.firstParent? with
    | none => exact absurd (by rw [hx]; rfl) hextends
    | some x =>
      rw [hx] at hextends
      exact ⟨root, x, ht, Node.firstParent?_eq_some_iff.1 hx, hextends, hblock, hchain, hne,
        fun q hq => (hinherited q).1 (hnone q hq), mt (hrenders o.block).2 hused⟩
  · rintro ⟨root, x, ht, hx, hx', hblock, hchain, hne, hnone, hused⟩
    obtain ⟨input, hi, htree, hpath⟩ := Batch.treeAt_iff.1 ht
    obtain ⟨-, hrenders, hparent⟩ := Batch.blocks_resultOf inputs htree
    refine ⟨_, Batch.mem_successful.2 ⟨input, hi, ⟨root, htree⟩, rfl⟩, mem_orphanedOf.2 ?_⟩
    rw [hparent, hpath, Node.firstParent?_eq_some_iff.2 hx, filter_providedBy]
    exact ⟨hx', rfl, (contains_getD_providedBy h).2 ⟨root, ht, hblock⟩, hchain, hne,
      fun q hq => (hinherited q).2 (hnone q hq), mt (hrenders o.block).1 hused⟩

/-- **Orphaned blocks are exactly the blocks that cannot take effect.** Where results have different
paths, a block of a template is reported, once, if the first literal that the template extends is
not empty, some of its ancestors were analyzed and none of these defines the block, and the template
does not render the block itself. With it stand the analyzed ancestors, the nearest first. The
definitions of all blocks are as many as the trees have different blocks, and a block is listed with
the templates that define it, in ascending order. -/
theorem orphaned_iff_unreachable (h : (Batch.analyze a inputs).Distinct) :
    let report := ofBatch (.analyze a inputs)
    let parents := Parents.ofGraph (Batch.analyze a inputs).graph
    (∀ o, o ∈ report.orphaned ↔ ∃ root x, TreeAt a inputs o.template root ∧ root.FirstParent x ∧
      x ≠ "" ∧ root.Provides o.block ∧
      o.ancestors = (parents.ancestors o.template).filter
        (fun q => q ∈ (Batch.analyze a inputs).successful.map (·.path)) ∧ o.ancestors ≠ [] ∧
      (∀ q ∈ o.ancestors, ∀ above, TreeAt a inputs q above → ¬ above.Provides o.block) ∧
      ¬ root.Renders o.block) ∧
    (report.orphaned.map fun o => (o.template, o.block)).Nodup ∧
    (report.blocks.map (·.definitions)).sum = report.totalBlocks ∧
    report.totalBlocks = ((trees a inputs).map fun root => {b | root.Provides b}.ncard).sum ∧
    ∀ u ∈ report.blocks, u.templates.Pairwise (· < ·) ∧
      ∀ t, t ∈ u.templates ↔ ∃ root, TreeAt a inputs t root ∧ root.Provides u.name := by
  intro report parents
  have htotal : report.totalBlocks =
      ((providedBy (.analyze a inputs)).values.map NameMap.size).sum :=
    List.sum_eq_foldl_nat.symm
  refine ⟨fun o => mem_orphaned h, nodup_orphaned h, ?_, ?_,
    fun u hu => ⟨pairwise_templates hu, fun t => ?_⟩⟩
  · rw [htotal]
    exact sum_definitions _
  · rw [htotal]
    exact sum_providedBy h
  · rw [mem_templates hu]
    exact contains_getD_providedBy h

/-- A page with two blocks that its parent lacks, one of which it renders itself. -/
def pageWithParent : List Input :=
  [.ofContent "base.twig" "\x7b% block body %\x7d\x7b% endblock %\x7d",
    .ofContent "page.twig" ("\x7b% extends './base.twig' %\x7d\x7b% block aside %\x7d" ++
      "\x7b% endblock %\x7d\x7b% block extra %\x7d\x7b\x7b block('aside') \x7d\x7d" ++
      "\x7b% endblock %\x7d")]

/-- What a tree says of its parent and of its blocks. -/
def namesOf (root : Node) : Option String × List String × List String :=
  (root.firstParent?, root.nodes.filterMap Node.blockName?, root.nodes.filterMap Node.renderedName?)

theorem orphaned_iff_unreachable_page :
    let b := Batch.analyze (.ofSettings .default) pageWithParent
    b.Distinct ∧ ⟨"page.twig", "extra", ["base.twig"]⟩ ∈ (ofBatch b).orphaned ∧
      (∀ ancestors, ⟨"page.twig", "aside", ancestors⟩ ∉ (ofBatch b).orphaned) ∧
      ((ofBatch b).blocks.map (·.definitions)).sum = (ofBatch b).totalBlocks := by
  intro b
  have hpath : ∀ input ∈ pageWithParent,
      ((Analyzer.ofSettings .default).analyzeOrFallback input).1.path = input.path := by
    have hnormal : ∀ input ∈ pageWithParent, Path.normalize input.path = input.path := by decide
    intro input hi
    exact (Analyzer.path_analyzeOrFallback_iff _ input).2 (.inr (hnormal input hi))
  have hdistinct : b.Distinct := by
    rw [Batch.distinct_iff, List.map_congr_left hpath]
    decide
  obtain ⟨hexact, -, hsum, -⟩ := orphaned_iff_unreachable hdistinct
  have hread : ∀ input ∈ pageWithParent, ∀ names,
      ((Analyzer.ofSettings .default).tree input).toOption.map namesOf = some names →
      ∃ root, TreeAt (.ofSettings .default) pageWithParent input.path root ∧
        (Parents.ofGraph b.graph).get? input.path = names.1.map Path.normalizeTarget ∧
        root.firstParent? = names.1 ∧ (∀ name, root.Provides name ↔ name ∈ names.2.1) ∧
        ∀ name, root.Renders name ↔ name ∈ names.2.2 := by
    intro input hi names hnames
    cases htree : (Analyzer.ofSettings .default).tree input with
    | error f =>
      rw [htree] at hnames
      cases hnames
    | ok root =>
      rw [htree] at hnames
      obtain rfl := Option.some.inj hnames
      have hparent := Batch.get?_parents hdistinct hi htree
      rw [hpath input hi] at hparent
      refine ⟨root, Batch.treeAt_iff.2 ⟨input, hi, htree, ?_⟩, hparent, rfl, fun name => ?_,
        fun name => ?_⟩
      · rw [Batch.path_resultOf, hpath input hi]
      · rw [Node.provides_iff, ← List.mem_filterMap]
        rfl
      · rw [Node.renders_iff, ← List.mem_filterMap]
        rfl
  obtain ⟨base, ht, hnone, -, hbody, -⟩ := hread pageWithParent[0] (List.getElem_mem _)
    (none, ["body"], []) (by decide +kernel)
  obtain ⟨page, ht', hsome, hfirst, hblocks, hrendered⟩ :=
    hread pageWithParent[1] (List.getElem_mem _)
      (some "./base.twig", ["aside", "extra"], ["aside"]) (by decide +kernel)
  have hancestors : (Parents.ofGraph b.graph).ancestors "page.twig" = ["base.twig"] :=
    Parents.ancestors_of_parent hsome (by decide) hnone
  have hanalyzed : "base.twig" ∈ b.successful.map (·.path) :=
    Batch.mem_successful_paths.2 ⟨base, ht⟩
  refine ⟨hdistinct, (hexact _).2 ?_, fun ancestors haside => ?_, hsum⟩
  · refine ⟨page, _, ht', Node.firstParent?_eq_some_iff.1 hfirst, by decide,
      (hblocks _).2 (by decide), ?_, by simp, ?_, fun h => absurd ((hrendered _).1 h) (by decide)⟩
    · dsimp only
      rw [hancestors]
      refine (List.filter_eq_self.2 fun q hq => ?_).symm
      rw [List.mem_singleton.1 hq]
      exact decide_eq_true hanalyzed
    · intro q hq above habove
      rw [List.mem_singleton] at hq
      subst hq
      rw [habove.unique hdistinct ht, hbody]
      decide
  · obtain ⟨root, -, hroot, -, -, -, -, -, -, hnot⟩ := (hexact _).1 haside
    rw [hroot.unique hdistinct ht'] at hnot
    exact hnot ((hrendered "aside").2 (by decide))

end Blocks

end TemplateMetrics
