import Mathlib.Data.List.Chain
import Mathlib.Data.List.Perm.Subperm
import Mathlib.Logic.Relation
import TemplateMetrics.Graph.Ancestry
import TemplateMetrics.Proofs.Counting

/-!
Chains of parents come to an end.

A walk up the parents keeps the paths it has come through (`Climb`). It goes on only to a path that
is new, and each path it leaves has an entry in the table, so the entries bound its steps whether or
not parents run in a circle. Where it stops, the paths it came through are closed under parents, and
so they are all that can be reached.
-/

namespace TemplateMetrics.Parents

variable {p : Parents} {path current : String} {climb seen : List String}

/-- `b` is the parent of `a`. -/
def IsParent (p : Parents) (a b : String) : Prop := p.get? a = some b

/-- Paths that a walk from `path` has come through, the last one first. -/
inductive Climb (p : Parents) (path : String) : List String → Prop
  | start : Climb p path [path]
  | step {current parent : String} {seen : List String} (h : Climb p path (current :: seen))
      (hparent : p.IsParent current parent) (hnew : parent ∉ current :: seen) :
      Climb p path (parent :: current :: seen)

/-- The last path of a walk has no parent that the walk could go on to. -/
def Stops (p : Parents) (climb : List String) : Prop :=
  ∀ top ∈ climb.head?, ∀ parent, p.IsParent top parent → parent ∈ climb

namespace Climb

lemma nodup (h : Climb p path climb) : climb.Nodup := by
  induction h with
  | start => exact List.nodup_singleton path
  | step _ _ hnew ih => exact List.nodup_cons.2 ⟨hnew, ih⟩

lemma isChain (h : Climb p path climb) : climb.reverse.IsChain p.IsParent := by
  rw [List.isChain_reverse]
  induction h with
  | start => exact List.isChain_singleton path
  | step _ hparent _ ih => exact List.isChain_cons_cons.2 ⟨hparent, ih⟩

lemma mem_start (h : Climb p path climb) : path ∈ climb := by
  induction h with
  | start => exact List.mem_singleton_self path
  | step _ _ _ ih => exact List.mem_cons_of_mem _ ih

/-- Whatever the walk has left has a parent, and the walk has come through that parent. -/
lemma exists_parent (h : Climb p path climb) :
    ∀ x ∈ climb.tail, ∃ parent ∈ climb, p.IsParent x parent := by
  induction h with
  | start => simp
  | step _ hparent _ ih =>
    refine List.forall_mem_cons.2 ⟨⟨_, List.mem_cons_self, hparent⟩, fun x hx => ?_⟩
    obtain ⟨parent, hmem, hx⟩ := ih x hx
    exact ⟨parent, List.mem_cons_of_mem _ hmem, hx⟩

/-- A walk leaves each entry of the table at most once. -/
lemma length_tail_le (h : Climb p path climb) : climb.tail.length ≤ p.size := by
  have hkeys : climb.tail ⊆ p.keys := by
    intro x hx
    obtain ⟨parent, -, hparent⟩ := h.exists_parent x hx
    rw [NameMap.mem_keys, NameMap.contains_eq_isSome, hparent]
    rfl
  have hle := (List.subperm_of_subset h.nodup.tail hkeys).length_le
  rwa [NameMap.keys, List.length_map] at hle

lemma reaches (h : Climb p path climb) :
    ∀ x ∈ climb, Relation.ReflTransGen p.IsParent path x := by
  induction h with
  | start => simp [Relation.ReflTransGen.refl]
  | step _ hparent _ ih =>
    exact List.forall_mem_cons.2 ⟨(ih _ List.mem_cons_self).tail hparent, ih⟩

/-- A walk that has stopped has come through all that can be reached. -/
lemma mem_iff_reaches (h : Climb p path climb) (hstops : p.Stops climb) (x : String) :
    x ∈ climb ↔ Relation.ReflTransGen p.IsParent path x := by
  refine ⟨h.reaches x, fun hx => ?_⟩
  induction hx with
  | refl => exact h.mem_start
  | @tail y z _ hparent hy =>
    obtain ⟨top, left, rfl⟩ := List.exists_cons_of_ne_nil (List.ne_nil_of_mem hy)
    rcases List.mem_cons.1 hy with rfl | hleft
    · exact hstops y rfl z hparent
    · obtain ⟨parent, hmem, hparent'⟩ := h.exists_parent y hleft
      obtain rfl := Option.some.inj (hparent.symm.trans hparent')
      exact hmem

end Climb

/-! ### The walk -/

/-- With enough steps left for the entries that the walk has not left, it goes on until it stops. -/
lemma climb_chain {steps : Nat} {visited : NameSet} (h : Climb p path (current :: seen))
    (hvisited : ∀ x, visited.contains x = true ↔ x ∈ current :: seen)
    (hsteps : p.size < steps + seen.length) :
    Climb p path ((p.chain steps visited current).reverse ++ current :: seen) ∧
      p.Stops ((p.chain steps visited current).reverse ++ current :: seen) := by
  induction steps generalizing current seen visited with
  | zero =>
    -- the walk would have left more entries than the table has
    have hle : seen.length ≤ p.size := h.length_tail_le
    omega
  | succ steps ih =>
    unfold chain
    split
    · -- the walk ends at a path without a parent
      rename_i hnone
      refine ⟨h, ?_⟩
      rintro _ ⟨rfl⟩ parent hparent
      rw [IsParent, hnone] at hparent
      cases hparent
    · rename_i parent hparent
      split
      · -- the walk ends where it has come through the parent
        rename_i hseen
        refine ⟨h, ?_⟩
        rintro _ ⟨rfl⟩ parent' hparent'
        obtain rfl := Option.some.inj (hparent.symm.trans hparent')
        exact (hvisited parent).1 hseen
      · -- one more entry is left
        rename_i hnew
        have hclimb : Climb p path (parent :: current :: seen) :=
          h.step hparent (mt (hvisited parent).2 hnew)
        have hvisited' : ∀ x, (visited.add parent).contains x = true ↔
            x ∈ parent :: current :: seen := by
          intro x
          rw [NameSet.contains_add_iff, hvisited, List.mem_cons (a := x) (b := parent)]
        rw [List.reverse_cons, List.append_assoc, List.singleton_append]
        exact ih hclimb hvisited' (by simp only [List.length_cons]; omega)

/-- A walk that is shorter than its steps has stopped by itself: more steps change nothing. -/
lemma chain_of_length_lt {n m : Nat} {visited : NameSet}
    (h : (p.chain n visited current).length < n) (hnm : n ≤ m) :
    p.chain m visited current = p.chain n visited current := by
  induction n generalizing m visited current with
  | zero => exact absurd h (Nat.not_lt_zero _)
  | succ n ih =>
    obtain ⟨m, rfl⟩ : ∃ k, m = k + 1 := ⟨m - 1, by omega⟩
    unfold chain at h ⊢
    split at h
    · rfl
    · rename_i parent hparent
      split at h
      · rename_i hseen
        rw [if_pos hseen, if_pos hseen]
      · rename_i hnew
        rw [if_neg hnew, if_neg hnew, ih (Nat.lt_of_succ_lt_succ h) (Nat.le_of_succ_le_succ hnm)]

lemma climb_ancestors (p : Parents) (path : String) :
    Climb p path (path :: p.ancestors path).reverse ∧
      p.Stops (path :: p.ancestors path).reverse := by
  rw [List.reverse_cons]
  exact climb_chain .start (by simp) (by simp)

lemma ancestors_of_parent {parent : String} (h : p.IsParent path parent) (hne : parent ≠ path)
    (htop : p.get? parent = none) : p.ancestors path = [parent] := by
  have hnew : (NameSet.ofNames [path]).contains parent = false := by
    rw [← Bool.not_eq_true, NameSet.contains_ofNames, List.mem_singleton]
    exact hne
  have hrest : ∀ steps visited, p.chain steps visited parent = [] := by
    intro steps visited
    cases steps <;> simp [chain, htop]
  rw [ancestors, chain, h]
  simp [hnew, hrest]

lemma length_ancestors_le (p : Parents) (path : String) : (p.ancestors path).length ≤ p.size := by
  have hle := (climb_ancestors p path).1.length_tail_le
  rwa [List.length_tail, List.length_reverse, List.length_cons, Nat.add_sub_cancel] at hle

/-- **A walk up the parents stops, and counts what can be reached.** No table keeps it going: more
steps than the table has entries change nothing. It comes through no path twice, and each path it
comes to is the parent of the one before. The last has no parent, or one that the walk has come
through. So the ancestors, and the path itself, are all that can be reached by following parents,
and there are no more ancestors than entries. -/
theorem ancestors_exhaust (p : Parents) (path : String) :
    (∀ steps, p.size < steps →
      p.chain steps (NameSet.ofNames [path]) path = p.ancestors path) ∧
    (path :: p.ancestors path).Nodup ∧
    (path :: p.ancestors path).IsChain p.IsParent ∧
    (∀ top ∈ (path :: p.ancestors path).getLast?, ∀ parent, p.IsParent top parent →
      parent ∈ path :: p.ancestors path) ∧
    p.depth path + 1 = {q | Relation.ReflTransGen p.IsParent path q}.ncard ∧
    p.depth path + 1 ≤ p.size + 1 := by
  obtain ⟨hclimb, hstops⟩ := climb_ancestors p path
  have hlength := length_ancestors_le p path
  refine ⟨fun steps hsteps => ?_, ?_, ?_, ?_, ?_, ?_⟩
  · exact chain_of_length_lt (Nat.lt_succ_of_le hlength) hsteps
  · exact List.nodup_reverse.1 hclimb.nodup
  · simpa using hclimb.isChain
  · intro top htop parent hparent
    rw [← List.head?_reverse] at htop
    exact List.mem_reverse.1 (hstops top htop parent hparent)
  · -- a walk that has stopped has come through all that can be reached
    have hreached : ∀ q, q ∈ {q | Relation.ReflTransGen p.IsParent path q} ↔
        q ∈ (path :: p.ancestors path).reverse := fun q => (hclimb.mem_iff_reaches hstops q).symm
    rw [ncard_eq_length hclimb.nodup hreached, List.length_reverse, List.length_cons, depth]
  · exact Nat.succ_le_succ hlength

/-- A tail that leads into a circle: the walk comes through all four paths and stops. -/
example : ancestors (NameMap.ofList [("a", "b"), ("b", "c"), ("c", "d"), ("d", "b")]) "a" =
    ["b", "c", "d"] := by decide +kernel

end TemplateMetrics.Parents
