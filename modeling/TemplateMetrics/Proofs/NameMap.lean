import Mathlib.Data.List.Nodup
import Mathlib.Tactic.Common
import TemplateMetrics.Json.Basic

/-!
What the operations on maps do to lookups. With `NameMap.ext_get?` the lookups decide everything,
so no later proof looks at entry lists.
-/

namespace TemplateMetrics

/-! ### Entry lists -/

namespace Entries

variable {α β : Type}

lemma find?_eq_some_iff {l : List (String × α)} (h : Ascending l) {k : String} {v : α} :
    find? k l = some v ↔ (k, v) ∈ l := by
  induction l with
  | nil => simp [find?]
  | cons hd tl ih =>
    obtain ⟨k', v'⟩ := hd
    obtain ⟨hlt, htl⟩ := List.pairwise_cons.1 h
    by_cases hk : k = k'
    · subst hk
      -- the tail has only larger names
      have hnot : (k, v) ∉ tl := fun hm => String.lt_irrefl k (hlt _ hm)
      simp [find?, hnot, eq_comm]
    · simp [find?, hk, ih htl]

lemma find?_eq_none_iff {l : List (String × α)} {k : String} :
    find? k l = none ↔ k ∉ l.map (·.1) := by
  induction l with
  | nil => simp [find?]
  | cons hd tl ih =>
    obtain ⟨k', v'⟩ := hd
    by_cases hk : k = k' <;> simp [find?, hk, ih]

lemma lookup_eq_find? (k : String) (l : List (String × α)) : l.lookup k = find? k l := by
  induction l with
  | nil => rfl
  | cons hd tl ih =>
    obtain ⟨k', v⟩ := hd
    by_cases hk : k = k'
    · simp [find?, hk]
    · have hb : (k == k') = false := by simp [hk]
      simp [List.lookup_cons, find?, hk, hb, ih]

lemma find?_map (f : String → α → β) (k : String) (l : List (String × α)) :
    find? k (l.map fun p => (p.1, f p.1 p.2)) = (find? k l).map (f k) := by
  induction l with
  | nil => rfl
  | cons hd tl ih =>
    obtain ⟨k', v⟩ := hd
    by_cases hk : k = k'
    · subst hk
      simp [find?]
    · simp [find?, hk, ih]

end Entries

/-! ### Maps -/

namespace NameMap

variable {α β : Type}

lemma mem_entries {m : NameMap α} {k : String} {v : α} :
    (k, v) ∈ m.entries ↔ m.get? k = some v :=
  (Entries.find?_eq_some_iff m.ascending).symm

lemma contains_eq_isSome (m : NameMap α) (k : String) : m.contains k = (m.get? k).isSome := rfl

@[simp] lemma contains_empty (k : String) : (empty : NameMap α).contains k = false := rfl

@[simp] lemma contains_insert (m : NameMap α) (k k' : String) (v : α) :
    (m.insert k v).contains k' = (decide (k' = k) || m.contains k') := by
  by_cases h : k' = k <;> simp [contains, h]

@[simp] lemma mem_keys {m : NameMap α} {k : String} : k ∈ m.keys ↔ m.contains k = true := by
  have h := Entries.find?_eq_none_iff (l := m.entries) (k := k)
  rw [contains_eq_isSome, Option.isSome_iff_ne_none]
  exact ⟨fun hk hn => h.1 hn hk, fun hn => by_contra fun hk => hn (h.2 hk)⟩

@[simp] lemma get?_alter (m : NameMap α) (k k' : String) (f : Option α → α) :
    (m.alter k f).get? k' = if k' = k then some (f (m.get? k)) else m.get? k' :=
  get?_insert ..

@[simp] lemma get?_map (f : String → α → β) (m : NameMap α) (k : String) :
    (m.map f).get? k = (m.get? k).map (f k) :=
  Entries.find?_map ..

lemma lookup_entries (m : NameMap α) (k : String) : m.entries.lookup k = m.get? k :=
  Entries.lookup_eq_find? ..

lemma get?_foldl_insert {l : List (String × α)} (h : Entries.Ascending l) (m : NameMap α)
    (k : String) :
    (l.foldl (fun m p => m.insert p.1 p.2) m).get? k = (Entries.find? k l).or (m.get? k) := by
  induction l generalizing m with
  | nil => simp [Entries.find?]
  | cons hd tl ih =>
    obtain ⟨k', v⟩ := hd
    obtain ⟨hlt, htl⟩ := List.pairwise_cons.1 h
    rw [List.foldl_cons, ih htl, get?_insert]
    by_cases hk : k = k'
    · subst hk
      simp [Entries.find?, Entries.find?_eq_none_of_lt hlt]
    · simp [Entries.find?, hk]

/-- The second map wins. -/
@[simp] lemma get?_union (a b : NameMap α) (k : String) :
    (a.union b).get? k = (b.get? k).or (a.get? k) :=
  get?_foldl_insert b.ascending a k

/-- The first map wins. -/
@[simp] lemma get?_unionKeeping (a b : NameMap α) (k : String) :
    (a.unionKeeping b).get? k = (a.get? k).or (b.get? k) := by
  -- the fold starts with the first map and leaves alone what is in it
  have key : ∀ (l : List (String × α)) (m : NameMap α),
      (l.foldl (fun m p => if m.contains p.1 then m else m.insert p.1 p.2) m).get? k =
        (m.get? k).or (Entries.find? k l) := by
    intro l
    induction l with
    | nil => simp [Entries.find?]
    | cons hd tl ih =>
      intro m
      obtain ⟨k', v⟩ := hd
      rw [List.foldl_cons, ih]
      by_cases hc : m.contains k' = true
      · by_cases hk : k = k'
        · subst hk
          obtain ⟨x, hx⟩ := Option.isSome_iff_exists.1 hc
          simp [hc, hx]
        · simp [hc, Entries.find?, hk]
      · by_cases hk : k = k'
        · subst hk
          have hn : m.get? k = none := by simpa [contains] using hc
          simp [hc, hn, Entries.find?]
        · simp [hc, hk, Entries.find?]
  exact key b.entries a

/-- A map has the names of the pairs it is made of. -/
lemma get?_ofList_eq_none {l : List (String × α)} {k : String} :
    (ofList l).get? k = none ↔ k ∉ l.map (·.1) := by
  have key : ∀ (l : List (String × α)) (m : NameMap α),
      (l.foldl (fun m p => m.insert p.1 p.2) m).get? k = none ↔
        k ∉ l.map (·.1) ∧ m.get? k = none := by
    intro l
    induction l with
    | nil => simp
    | cons p r ih =>
      intro m
      rw [List.foldl_cons, ih, get?_insert]
      by_cases hk : k = p.1 <;> simp [hk]
  exact (key l empty).trans (and_iff_left rfl)

lemma contains_ofList {l : List (String × α)} {k : String} :
    (ofList l).contains k = true ↔ k ∈ l.map (·.1) := by
  rw [contains_eq_isSome, Option.isSome_iff_ne_none, Ne, get?_ofList_eq_none, not_not]

/-- What a map holds is one of the pairs it is made of. -/
lemma mem_of_get?_ofList {l : List (String × α)} {k : String} {v : α}
    (h : (ofList l).get? k = some v) : (k, v) ∈ l := by
  have key : ∀ (l : List (String × α)) (m : NameMap α),
      (l.foldl (fun m p => m.insert p.1 p.2) m).get? k = some v →
        (k, v) ∈ l ∨ m.get? k = some v := by
    intro l
    induction l with
    | nil => exact fun m hm => .inr hm
    | cons p r ih =>
      intro m hm
      rcases ih _ hm with hr | hp
      · exact .inl (List.mem_cons_of_mem _ hr)
      · rw [get?_insert] at hp
        split at hp
        · rename_i hk
          obtain rfl := Option.some.inj hp
          exact .inl (hk ▸ List.mem_cons_self)
        · exact .inr hp
  exact (key l empty h).resolve_right (by simp)

/-- A map made of pairs with different names holds each of them. -/
lemma get?_ofList_of_mem {l : List (String × α)} (hnodup : (l.map (·.1)).Nodup) {k : String} {v : α}
    (h : (k, v) ∈ l) : (ofList l).get? k = some v := by
  have hcontains : (ofList l).contains k = true :=
    contains_ofList.2 (List.mem_map.2 ⟨(k, v), h, rfl⟩)
  obtain ⟨w, hw⟩ := Option.isSome_iff_exists.1 hcontains
  have hsame : (k, w) = (k, v) :=
    List.inj_on_of_nodup_map hnodup (mem_of_get?_ofList hw) h rfl
  rw [hw, (Prod.mk.inj hsame).2]

lemma contains_union {a b : NameMap α} {k : String} :
    (a.union b).contains k = true ↔ a.contains k = true ∨ b.contains k = true := by
  simp [contains_eq_isSome, or_comm]

lemma contains_unionKeeping {a b : NameMap α} {k : String} :
    (a.unionKeeping b).contains k = true ↔ a.contains k = true ∨ b.contains k = true := by
  simp [contains_eq_isSome]

lemma contains_map {f : String → α → β} {m : NameMap α} {k : String} :
    (m.map f).contains k = m.contains k := by
  simp [contains_eq_isSome]

/-- A map that tables a function has its values at the names of the table. -/
lemma get?_ofList_map (f : String → α) (l : List String) (k : String) :
    (ofList (l.map fun n => (n, f n))).get? k = if k ∈ l then some (f k) else none := by
  have key : ∀ (l : List String) (m : NameMap α),
      ((l.map fun n => (n, f n)).foldl (fun m p => m.insert p.1 p.2) m).get? k =
        if k ∈ l then some (f k) else m.get? k := by
    intro l
    induction l with
    | nil => simp
    | cons n r ih =>
      intro m
      rw [List.map_cons, List.foldl_cons, ih, get?_insert]
      by_cases hr : k ∈ r
      · simp [hr]
      · by_cases hk : k = n <;> simp [hr, hk]
  exact key l empty

lemma pairwise_keys (m : NameMap α) : m.keys.Pairwise (· < ·) := List.pairwise_map.2 m.ascending

lemma nodup_keys (m : NameMap α) : m.keys.Nodup := m.pairwise_keys.imp fun h => String.ne_of_lt h

/-- A map made of pairs with different names lists these pairs. -/
lemma entries_ofList_perm {l : List (String × α)} (hnodup : (l.map (·.1)).Nodup) :
    (ofList l).entries.Perm l := by
  refine (List.perm_ext_iff_of_nodup (nodup_keys _).of_map hnodup.of_map).2 ?_
  rintro ⟨k, v⟩
  rw [mem_entries]
  exact ⟨mem_of_get?_ofList, get?_ofList_of_mem hnodup⟩

lemma ofList_entries (m : NameMap α) : ofList m.entries = m :=
  ext_get? fun k => by
    have h := get?_foldl_insert m.ascending empty k
    rw [get?_empty, Option.or_none] at h
    exact h

end NameMap

/-! ### Name sets -/

namespace NameSet

@[simp] lemma contains_add (s : NameSet) (a b : String) :
    (s.add a).contains b = (decide (b = a) || s.contains b) :=
  NameMap.contains_insert ..

lemma contains_add_iff {s : NameSet} {a b : String} :
    (s.add a).contains b = true ↔ b = a ∨ s.contains b = true := by
  rw [contains_add, Bool.or_eq_true, decide_eq_true_eq]

lemma contains_foldl_add (names : List String) (s : NameSet) (a : String) :
    (names.foldl add s).contains a = true ↔ a ∈ names ∨ s.contains a = true := by
  induction names generalizing s with
  | nil => simp
  | cons b r ih =>
    rw [List.foldl_cons, ih, contains_add_iff, List.mem_cons]
    exact or_left_comm.trans (or_assoc.symm)

@[simp] lemma contains_ofNames (names : List String) (a : String) :
    (ofNames names).contains a = true ↔ a ∈ names := by
  simp [ofNames, contains_foldl_add]

@[simp] lemma mem_toList_ofNames {names : List String} {a : String} :
    a ∈ (ofNames names).toList ↔ a ∈ names := by
  simp [toList]

end NameSet

/-! ### Objects -/

namespace Json

@[simp] lemma field?_ofFields (fields : List (String × Json)) (name : String) :
    (ofFields fields).field? name = (NameMap.ofList fields).get? name :=
  NameMap.lookup_entries ..

end Json

end TemplateMetrics
