import TemplateMetrics.Json.Overlay
import TemplateMetrics.Proofs.NameMap

/-!
Documents laid over one another.

The documents that are read have their tables in the order of the names (`Json.Tidy`). A name of
such a table laid over another one is looked up in the upper table first, and what it finds there
lies over what the lower table has (`lookup_overlayFields`).
-/

namespace TemplateMetrics

/-- The names of a table ascend, and so do those of the tables in it. -/
inductive Json.Tidy : Json → Prop
  | table {fields : List (String × Json)} (ascending : Entries.Ascending fields)
      (values : ∀ e ∈ fields, e.2.Tidy) : Tidy (.obj fields)
  | plain {j : Json} (h : ∀ fields, j ≠ .obj fields) : Tidy j

namespace Json.Tidy

variable {fields : List (String × Json)} {k : String} {j : Json}

lemma empty : Tidy (.obj []) := .table .nil (by simp)

lemma ascending (h : Tidy (.obj fields)) : Entries.Ascending fields := by
  cases h with
  | table ascending values => exact ascending
  | plain h => exact absurd rfl (h fields)

lemma lookup (h : Tidy (.obj fields)) (hk : fields.lookup k = some j) : j.Tidy := by
  cases h with
  | table ascending values =>
    rw [Entries.lookup_eq_find?, Entries.find?_eq_some_iff ascending] at hk
    exact values _ hk
  | plain h => exact absurd rfl (h fields)

end Json.Tidy

/-! ### Lookups -/

variable {below fields : List (String × Json)} {k : String} {j : Json}

lemma lookup_eq_none_iff : fields.lookup k = none ↔ k ∉ fields.map (·.1) := by
  rw [Entries.lookup_eq_find?, Entries.find?_eq_none_iff]

lemma lookup_insert (k k' : String) (j : Json) :
    (Entries.insert k j below).lookup k' = if k' = k then some j else below.lookup k' := by
  rw [Entries.lookup_eq_find?, Entries.lookup_eq_find?, Entries.find?_insert]

lemma Json.overlay_of_plain {base : Json} (h : ∀ fields, base ≠ .obj fields) (j : Json) :
    base.overlay j = j := by
  cases j with
  | obj fields =>
    cases base with
    | obj below => exact absurd rfl (h below)
    | null | bool | int | float | str | arr => rfl
  | null | bool | int | float | str | arr => rfl

lemma Json.overlay_ofFields_empty (fields : List (String × Json)) :
    (Json.ofFields fields).overlay (.obj []) = .ofFields fields := rfl

lemma ascending_overlayFields (h : Entries.Ascending below) (fields : List (String × Json)) :
    Entries.Ascending (overlayFields below fields) := by
  induction fields generalizing below with
  | nil => exact h
  | cons e r ih => exact ih (Entries.ascending_insert _ _ h)

/-- What a name has in a table over another one. -/
lemma lookup_overlayFields (below : List (String × Json)) (h : Entries.Ascending fields)
    (k : String) :
    (overlayFields below fields).lookup k = match fields.lookup k with
      | some j => some ((below.lookup k).elim j (·.overlay j))
      | none => below.lookup k := by
  induction fields generalizing below with
  | nil => rfl
  | cons e r ih =>
    obtain ⟨k', j⟩ := e
    obtain ⟨hlt, hr⟩ := List.pairwise_cons.1 h
    rw [overlayFields, ih _ hr, lookup_insert, List.lookup_cons]
    by_cases hk : k = k'
    · subst hk
      -- the names above are larger, so this one comes but once
      have hnone : r.lookup k = none := by
        rw [Entries.lookup_eq_find?, Entries.find?_eq_none_of_lt hlt]
      rw [hnone, if_pos rfl, beq_self_eq_true]
      cases below.lookup k <;> rfl
    · rw [if_neg hk, beq_eq_false_iff_ne.2 hk]

lemma lookup_overlayFields_of_some (h : Entries.Ascending fields) {b : Json}
    (hb : below.lookup k = some b) (hj : fields.lookup k = some j) :
    (overlayFields below fields).lookup k = some (b.overlay j) := by
  rw [lookup_overlayFields below h, hj, hb]
  rfl

lemma lookup_overlayFields_of_none (h : Entries.Ascending fields) (hj : fields.lookup k = none) :
    (overlayFields below fields).lookup k = below.lookup k := by
  rw [lookup_overlayFields below h, hj]

/-- A table keeps its names below another one. -/
lemma mem_overlayFields (h : Entries.Ascending fields) (hk : k ∈ below.map (·.1)) :
    k ∈ (overlayFields below fields).map (·.1) := by
  by_contra hnot
  rw [← lookup_eq_none_iff, lookup_overlayFields below h] at hnot
  cases hj : fields.lookup k with
  | none =>
    rw [hj] at hnot
    exact lookup_eq_none_iff.1 hnot hk
  | some j =>
    rw [hj] at hnot
    cases hnot

/-- A table that has all names of one below it hides it, if nothing below is a table itself. -/
lemma overlayFields_of_covers (hbelow : Entries.Ascending below) (h : Entries.Ascending fields)
    (hplain : ∀ e ∈ below, ∀ inner, e.2 ≠ .obj inner)
    (hcovers : ∀ k ∈ below.map (·.1), k ∈ fields.map (·.1)) :
    overlayFields below fields = fields := by
  refine Entries.eq_of_find?_eq (ascending_overlayFields hbelow fields) h fun k => ?_
  rw [← Entries.lookup_eq_find?, ← Entries.lookup_eq_find?, lookup_overlayFields below h]
  cases hj : fields.lookup k with
  | none =>
    rw [lookup_eq_none_iff] at hj ⊢
    exact fun hk => hj (hcovers k hk)
  | some j =>
    cases hb : below.lookup k with
    | none => rfl
    | some b =>
      rw [Entries.lookup_eq_find?, Entries.find?_eq_some_iff hbelow] at hb
      exact congrArg some (Json.overlay_of_plain (hplain _ hb) j)

end TemplateMetrics
