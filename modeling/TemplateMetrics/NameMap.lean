/-!
Maps keyed by name.

Every map of this library goes from names to values, and every listing of one is by ascending
name. `NameMap` keeps its entries in that order and carries the proof, so two maps with the same
lookups are the same map (`NameMap.ext_get?`).
-/

namespace TemplateMetrics

/-! ### Entry lists -/

namespace Entries

variable {α β : Type}

def Ascending (l : List (String × α)) : Prop := l.Pairwise (fun a b => a.1 < b.1)

def insert (k : String) (v : α) : List (String × α) → List (String × α)
  | [] => [(k, v)]
  | (k', v') :: r =>
    if k < k' then (k, v) :: (k', v') :: r
    else if k = k' then (k, v) :: r
    else (k', v') :: insert k v r

def find? (k : String) : List (String × α) → Option α
  | [] => none
  | (k', v) :: r => if k = k' then some v else find? k r

theorem lt_of_not_lt_of_ne {a b : String} (h : ¬ a < b) (hne : a ≠ b) : b < a := by
  rcases String.le_total a b with hab | hba
  · exact absurd (String.le_antisymm hab (String.not_lt.1 h)) hne
  · exact String.not_le.1 fun hab => hne (String.le_antisymm hab hba)

theorem mem_insert {k : String} {v : α} {a : String × α} {l : List (String × α)}
    (h : a ∈ insert k v l) : a = (k, v) ∨ a ∈ l := by
  induction l with
  | nil => simpa [insert] using h
  | cons hd tl ih =>
    obtain ⟨k', v'⟩ := hd
    rw [insert] at h
    split at h
    · simpa using h
    · split at h <;> grind

theorem ascending_insert (k : String) (v : α) {l : List (String × α)} (h : Ascending l) :
    Ascending (insert k v l) := by
  induction l with
  | nil => exact List.pairwise_singleton ..
  | cons hd tl ih =>
    obtain ⟨k', v'⟩ := hd
    have h' := List.pairwise_cons.1 h
    rw [insert]
    split
    · rename_i hlt
      refine List.pairwise_cons.2 ⟨fun a ha => ?_, h⟩
      rcases List.mem_cons.1 ha with rfl | ha
      · exact hlt
      · exact String.lt_trans hlt (h'.1 a ha)
    · rename_i hlt
      split
      · rename_i heq
        subst heq
        exact List.pairwise_cons.2 ⟨h'.1, h'.2⟩
      · rename_i hne
        refine List.pairwise_cons.2 ⟨fun a ha => ?_, ih h'.2⟩
        rcases mem_insert ha with rfl | ha
        · exact lt_of_not_lt_of_ne hlt hne
        · exact h'.1 a ha

theorem ascending_map (f : String → α → β) {l : List (String × α)} (h : Ascending l) :
    Ascending (l.map fun p => (p.1, f p.1 p.2)) :=
  List.pairwise_map.2 h

@[simp] theorem find?_insert (k k' : String) (v : α) (l : List (String × α)) :
    find? k' (insert k v l) = if k' = k then some v else find? k' l := by
  induction l with
  | nil => simp [insert, find?]
  | cons hd tl ih =>
    obtain ⟨k₁, v₁⟩ := hd
    rw [insert]
    split
    · simp [find?]
    · split
      · rename_i heq
        subst heq
        by_cases hk : k' = k <;> simp [find?, hk]
      · rename_i hne
        by_cases hk : k' = k₁
        · subst hk
          simp [find?, Ne.symm hne]
        · simp [find?, hk, ih]

theorem find?_eq_none_of_lt {k : String} {l : List (String × α)}
    (h : ∀ a ∈ l, k < a.1) : find? k l = none := by
  induction l with
  | nil => rfl
  | cons hd tl ih =>
    obtain ⟨k', v⟩ := hd
    have hlt : k < k' := h (k', v) (List.mem_cons_self ..)
    have hne : k ≠ k' := fun e => String.lt_irrefl k' (e ▸ hlt)
    simp [find?, hne, ih fun a ha => h a (List.mem_cons_of_mem _ ha)]

/-- Ascending lists with the same lookups are equal. -/
theorem eq_of_find?_eq {l₁ l₂ : List (String × α)} (h₁ : Ascending l₁) (h₂ : Ascending l₂)
    (h : ∀ k, find? k l₁ = find? k l₂) : l₁ = l₂ := by
  induction l₁ generalizing l₂ with
  | nil =>
    cases l₂ with
    | nil => rfl
    | cons hd tl => have := h hd.1; simp [find?] at this
  | cons hd₁ tl₁ ih =>
    obtain ⟨k₁, v₁⟩ := hd₁
    cases l₂ with
    | nil => have := h k₁; simp [find?] at this
    | cons hd₂ tl₂ =>
      obtain ⟨k₂, v₂⟩ := hd₂
      have p₁ := List.pairwise_cons.1 h₁
      have p₂ := List.pairwise_cons.1 h₂
      -- the smaller head could not be found on the other side
      have hk : k₁ = k₂ := by
        refine Decidable.byContradiction fun hne => ?_
        by_cases hlt : k₁ < k₂
        · have hn : find? k₁ ((k₂, v₂) :: tl₂) = none := by
            refine find?_eq_none_of_lt fun a ha => ?_
            rcases List.mem_cons.1 ha with rfl | ha
            · exact hlt
            · exact String.lt_trans hlt (p₂.1 a ha)
          have := h k₁
          rw [hn] at this
          simp [find?] at this
        · have hlt' := lt_of_not_lt_of_ne hlt hne
          have hn : find? k₂ ((k₁, v₁) :: tl₁) = none := by
            refine find?_eq_none_of_lt fun a ha => ?_
            rcases List.mem_cons.1 ha with rfl | ha
            · exact hlt'
            · exact String.lt_trans hlt' (p₁.1 a ha)
          have := h k₂
          rw [hn] at this
          simp [find?] at this
      subst hk
      have hv : v₁ = v₂ := by have := h k₁; simpa [find?] using this
      subst hv
      congr 1
      refine ih p₁.2 p₂.2 fun k => ?_
      by_cases hk : k = k₁
      · subst hk
        rw [find?_eq_none_of_lt p₁.1, find?_eq_none_of_lt p₂.1]
      · have := h k
        simpa [find?, hk] using this

end Entries

/-! ### The map type -/

/-- A map from names to values, listed by strictly ascending name. -/
structure NameMap (α : Type) where
  entries : List (String × α)
  ascending : Entries.Ascending entries

namespace NameMap

variable {α β : Type}

instance [DecidableEq α] : DecidableEq (NameMap α) := fun a b =>
  decidable_of_iff (a.entries = b.entries) (by cases a; cases b; simp)

def empty : NameMap α := ⟨[], List.Pairwise.nil⟩

instance : Inhabited (NameMap α) := ⟨empty⟩

def insert (m : NameMap α) (k : String) (v : α) : NameMap α :=
  ⟨Entries.insert k v m.entries, Entries.ascending_insert k v m.ascending⟩

def get? (m : NameMap α) (k : String) : Option α := Entries.find? k m.entries

def getD (m : NameMap α) (k : String) (d : α) : α := (m.get? k).getD d

def contains (m : NameMap α) (k : String) : Bool := (m.get? k).isSome

def size (m : NameMap α) : Nat := m.entries.length

def isEmpty (m : NameMap α) : Bool := m.entries.isEmpty

def keys (m : NameMap α) : List String := m.entries.map (·.1)

def values (m : NameMap α) : List α := m.entries.map (·.2)

/-- Insert every pair in turn; of two pairs with one name the later one stays. -/
def ofList (l : List (String × α)) : NameMap α := l.foldl (fun m p => m.insert p.1 p.2) empty

/-- Both maps together; where both have a name, `b` wins. -/
def union (a b : NameMap α) : NameMap α := b.entries.foldl (fun m p => m.insert p.1 p.2) a

/-- Both maps together; where both have a name, `a` wins. -/
def unionKeeping (a b : NameMap α) : NameMap α :=
  b.entries.foldl (fun m p => if m.contains p.1 then m else m.insert p.1 p.2) a

def alter (m : NameMap α) (k : String) (f : Option α → α) : NameMap α := m.insert k (f (m.get? k))

def map (f : String → α → β) (m : NameMap α) : NameMap β :=
  ⟨m.entries.map fun p => (p.1, f p.1 p.2), Entries.ascending_map f m.ascending⟩

@[simp] theorem get?_empty (k : String) : (empty : NameMap α).get? k = none := rfl

@[simp] theorem get?_insert (m : NameMap α) (k k' : String) (v : α) :
    (m.insert k v).get? k' = if k' = k then some v else m.get? k' :=
  Entries.find?_insert ..

theorem ext_get? {a b : NameMap α} (h : ∀ k, a.get? k = b.get? k) : a = b := by
  cases a with | mk ea ha =>
  cases b with | mk eb hb =>
  have : ea = eb := Entries.eq_of_find?_eq ha hb h
  subst this
  rfl

end NameMap

/-! ### Counts -/

abbrev Counts := NameMap Nat

namespace Counts

def add (c : Counts) (name : String) (n : Nat) : Counts :=
  c.alter name fun old => old.getD 0 + n

def bump (c : Counts) (name : String) : Counts := c.add name 1

def ofNames (names : List String) : Counts := names.foldl bump NameMap.empty

def total (c : Counts) : Nat := c.values.foldl (· + ·) 0

/-- Names counted at least once. -/
def distinct (c : Counts) : Nat := c.values.countP (0 < ·)

/-- Each name with the sum of its counts over all the maps. -/
def merge (maps : List Counts) : Counts :=
  maps.foldl (fun acc c => c.entries.foldl (fun acc p => acc.add p.1 p.2) acc) NameMap.empty

end Counts

/-! ### Name sets -/

/-- A set of names, listed by strictly ascending name. -/
abbrev NameSet := NameMap Unit

namespace NameSet

def add (s : NameSet) (name : String) : NameSet := s.insert name ()

def ofNames (names : List String) : NameSet := names.foldl add NameMap.empty

def toList (s : NameSet) : List String := s.keys

end NameSet

end TemplateMetrics
