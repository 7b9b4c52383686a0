import Mathlib.Data.List.Dedup
import Mathlib.Data.Set.Card
import TemplateMetrics.Proofs.NameMap

/-!
Counting: sets by lists without repetitions, and names by maps.

A map of counts is filled one name at a time. In the end it holds each name of the list with the
number of times it stands there, and no other name (`Counts.get?_ofNames`).
-/

namespace TemplateMetrics

/-- The items of a set, listed without repetitions, are as many as the list is long. -/
lemma ncard_eq_length {α : Type*} {S : Set α} {l : List α} (hnodup : l.Nodup)
    (h : ∀ x, x ∈ S ↔ x ∈ l) : S.ncard = l.length := by
  classical
  have hS : S = (l.toFinset : Set α) := by
    ext x
    rw [h, Finset.mem_coe, List.mem_toFinset]
  rw [hS, Set.ncard_coe_finset, List.toFinset_card_of_nodup hnodup]

/-- The places of an item in a list are as many as the list has it. -/
lemma ncard_eq_count {α : Type} [DecidableEq α] {S : Set Nat} {l : List α} {a : α}
    (h : ∀ k, k ∈ S ↔ l[k]? = some a) : S.ncard = l.count a := by
  rw [← List.length_idxsOf (s := 0)]
  refine ncard_eq_length List.nodup_idxsOf fun k => ?_
  rw [h, List.mem_idxsOf_iff_exists_getElem_pos, List.getElem?_eq_some_iff]
  simp

/-- A map is as large as the set of its names. -/
lemma NameMap.size_eq_ncard {α : Type} {m : NameMap α} {S : Set String}
    (h : ∀ x, x ∈ S ↔ m.contains x = true) : m.size = S.ncard := by
  rw [ncard_eq_length m.nodup_keys fun x => (h x).trans NameMap.mem_keys.symm, keys,
    List.length_map, size]

namespace Counts

lemma getD_add (c : Counts) (name : String) (n : Nat) (k : String) :
    (c.add name n).getD k 0 = c.getD k 0 + if k = name then n else 0 := by
  by_cases h : k = name
  · subst h
    simp [add, NameMap.getD]
  · simp [add, NameMap.getD, h]

lemma getD_bump (c : Counts) (name k : String) :
    (c.bump name).getD k 0 = c.getD k 0 + if k = name then 1 else 0 :=
  c.getD_add name 1 k

/-- Adding keeps the names that were there and brings its own, even with an amount of zero. -/
lemma contains_foldl_add {α : Type} (name : α → String) (amount : α → Nat) (l : List α) (c : Counts)
    (k : String) :
    (l.foldl (fun c x => c.add (name x) (amount x)) c).contains k = true ↔
      k ∈ l.map name ∨ c.contains k = true := by
  induction l generalizing c with
  | nil => simp
  | cons x r ih =>
    rw [List.foldl_cons, ih, add, NameMap.alter, NameMap.contains_insert, Bool.or_eq_true,
      decide_eq_true_eq, List.map_cons, List.mem_cons, or_left_comm, or_assoc]

/-- Counting the items of a list adds to each name the number of its items. -/
lemma getD_foldl_bump {α : Type} (name : α → String) (l : List α) (c : Counts) (k : String) :
    (l.foldl (fun c x => c.bump (name x)) c).getD k 0 =
      c.getD k 0 + l.countP fun x => name x = k := by
  induction l generalizing c with
  | nil => rfl
  | cons x r ih =>
    rw [List.foldl_cons, ih, getD_bump, List.countP_cons]
    by_cases h : k = name x
    · simp [h]
      omega
    · simp [h, Ne.symm h]

/-- Counting the items of a list leaves the names that were there, and adds those of the items. -/
lemma contains_foldl_bump {α : Type} (name : α → String) (l : List α) (c : Counts) (k : String) :
    (l.foldl (fun c x => c.bump (name x)) c).contains k = true ↔
      k ∈ l.map name ∨ c.contains k = true :=
  contains_foldl_add name (fun _ => 1) l c k

lemma get?_ofNames (names : List String) (k : String) :
    (ofNames names).get? k = if k ∈ names then some (names.count k) else none := by
  have hcontains := contains_foldl_bump id names NameMap.empty k
  have hvalue := getD_foldl_bump id names NameMap.empty k
  have hcount : names.countP (fun x => id x = k) = names.count k := by
    rw [List.count]
    exact List.countP_congr fun x _ => by simp
  rw [hcount] at hvalue
  simp only [id_eq, List.map_id_fun, NameMap.contains_empty, Bool.false_eq_true,
    or_false] at hcontains
  change (ofNames names).contains k = true ↔ k ∈ names at hcontains
  change (ofNames names).getD k 0 = 0 + names.count k at hvalue
  rw [NameMap.contains_eq_isSome] at hcontains
  rw [NameMap.getD, Nat.zero_add] at hvalue
  -- no entry reads like a count of zero, so whether there is one is settled apart
  cases hget : (ofNames names).get? k with
  | none =>
    rw [hget] at hcontains
    rw [if_neg fun h => absurd (hcontains.2 h) (by simp)]
  | some n =>
    rw [hget] at hcontains hvalue
    rw [if_pos (hcontains.1 rfl), ← hvalue]
    rfl

/-- The counts of a list are listed for each of its different names. -/
lemma entries_ofNames_perm (names : List String) :
    (ofNames names).entries.Perm (names.dedup.map fun k => (k, names.count k)) := by
  have hnodup : (ofNames names).entries.Nodup := (NameMap.nodup_keys _).of_map
  refine (List.perm_ext_iff_of_nodup hnodup
    (names.nodup_dedup.map fun _ _ h => (Prod.mk.inj h).1)).2 ?_
  rintro ⟨k, n⟩
  rw [NameMap.mem_entries, get?_ofNames]
  simp only [List.mem_map, List.mem_dedup, Prod.mk.injEq]
  constructor
  · intro h
    split at h
    · rename_i hk
      exact ⟨k, hk, rfl, Option.some.inj h⟩
    · cases h
  · rintro ⟨_, hk, rfl, rfl⟩
    rw [if_pos hk]

end Counts

end TemplateMetrics
