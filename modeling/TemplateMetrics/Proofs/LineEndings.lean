import TemplateMetrics.Proofs.Overlay
import TemplateMetrics.Toml.Table

/-!
Documents that are the same but for line endings.

`Json.Like` relates them, and `Toml.LikeEntries` the tables of such documents while they are read.
Every way to change a table keeps tables alike, and alike tables make documents that are alike
(`Toml.LikeEntries.toFields`).
-/

namespace TemplateMetrics

/-! ### Two computations side by side -/

section Both

variable {α α' β β' : Type}

lemma both_of_bind {x : Option α} {x' : Option α'} {f : α → Option β} {f' : α' → Option β'} {b : β}
    {b' : β'} (h : x.bind f = some b) (h' : x'.bind f' = some b') :
    ∃ a a', x = some a ∧ x' = some a' ∧ f a = some b ∧ f' a' = some b' := by
  obtain ⟨a, ha, hb⟩ := Option.bind_eq_some_iff.1 h
  obtain ⟨a', ha', hb'⟩ := Option.bind_eq_some_iff.1 h'
  exact ⟨a, a', ha, ha', hb, hb'⟩

/-- The same when both begin with the same step. -/
lemma both_of_bind_same {x : Option α} {f : α → Option β} {f' : α → Option β'} {b : β} {b' : β'}
    (h : x.bind f = some b) (h' : x.bind f' = some b') :
    ∃ a, x = some a ∧ f a = some b ∧ f' a = some b' := by
  obtain ⟨a, ha, hb⟩ := Option.bind_eq_some_iff.1 h
  rw [ha] at h'
  exact ⟨a, ha, hb, h'⟩

end Both

/-! ### Documents -/

/-- Texts with the same lines; in the first one a line ending may have lost its carriage return. -/
inductive SameLines : List Char → List Char → Prop
  | nil : SameLines [] []
  | char (c : Char) {l l' : List Char} (h : SameLines l l') : SameLines (c :: l) (c :: l')
  | newline {l l' : List Char} (h : SameLines l l') : SameLines ('\n' :: l) ('\r' :: '\n' :: l')

lemma SameLines.refl (l : List Char) : SameLines l l := by
  induction l with
  | nil => exact .nil
  | cons c r ih => exact .char c ih

lemma SameLines.append {l l' r r' : List Char} (h : SameLines l l') (hr : SameLines r r') :
    SameLines (l ++ r) (l' ++ r') := by
  induction h with
  | nil => exact hr
  | char c _ ih => exact .char c ih
  | newline _ ih => exact .newline ih

namespace Json

mutual

/-- Documents that are the same but for the line endings of their texts. The names of their tables
ascend. -/
inductive Like : Json → Json → Prop
  | null : Like .null .null
  | bool (b : Bool) : Like (.bool b) (.bool b)
  | int (n : Int) : Like (.int n) (.int n)
  | float (x : Float) : Like (.float x) (.float x)
  | str {s s' : String} (h : SameLines s.toList s'.toList) : Like (.str s) (.str s')
  | arr {items items' : List Json} (h : LikeItems items items') : Like (.arr items) (.arr items')
  | obj {fields fields' : List (String × Json)} (ascending : Entries.Ascending fields)
      (h : LikeFields fields fields') : Like (.obj fields) (.obj fields')

inductive LikeItems : List Json → List Json → Prop
  | nil : LikeItems [] []
  | cons {j j' : Json} {r r' : List Json} (h : Like j j') (hr : LikeItems r r') :
      LikeItems (j :: r) (j' :: r')

inductive LikeFields : List (String × Json) → List (String × Json) → Prop
  | nil : LikeFields [] []
  | cons (k : String) {j j' : Json} {r r' : List (String × Json)} (h : Like j j')
      (hr : LikeFields r r') : LikeFields ((k, j) :: r) ((k, j') :: r')

end

lemma LikeItems.append {l l' r r' : List Json} (h : LikeItems l l') (hr : LikeItems r r') :
    LikeItems (l ++ r) (l' ++ r') := by
  induction l generalizing l' with
  | nil => cases h with | nil => exact hr
  | cons j l ih =>
    cases h with
    | cons h hl => exact .cons h (ih hl)

lemma LikeItems.reverse {l l' : List Json} (h : LikeItems l l') :
    LikeItems l.reverse l'.reverse := by
  induction l generalizing l' with
  | nil => cases h with | nil => exact .nil
  | cons j l ih =>
    cases h with
    | cons h hl =>
      rw [List.reverse_cons, List.reverse_cons]
      exact (ih hl).append (.cons h .nil)

lemma LikeFields.names {fields fields' : List (String × Json)} (h : LikeFields fields fields') :
    fields.map (·.1) = fields'.map (·.1) := by
  induction fields generalizing fields' with
  | nil => cases h with | nil => rfl
  | cons e r ih =>
    cases h with
    | cons k h hr => rw [List.map_cons, List.map_cons, ih hr]

lemma LikeFields.lookup {fields fields' : List (String × Json)} (h : LikeFields fields fields')
    {k : String} {j : Json} (hj : fields.lookup k = some j) :
    ∃ j', fields'.lookup k = some j' ∧ j.Like j' := by
  induction fields generalizing fields' with
  | nil => cases hj
  | cons e r ih =>
    cases h with
    | cons k' h hr =>
      rw [List.lookup_cons] at hj ⊢
      split at hj
      · obtain rfl := Option.some.inj hj
        exact ⟨_, rfl, h⟩
      · exact ih hr hj

lemma Like.names {fields fields' : List (String × Json)} (h : Like (.obj fields) (.obj fields')) :
    fields.map (·.1) = fields'.map (·.1) := by
  cases h with
  | obj ascending h => exact h.names

/-- Tables that are alike have tables under the same names, and these are alike. -/
lemma Like.table {fields fields' inner : List (String × Json)}
    (h : Like (.obj fields) (.obj fields')) {k : String}
    (hk : fields.lookup k = some (.obj inner)) :
    ∃ inner', fields'.lookup k = some (.obj inner') ∧ Like (.obj inner) (.obj inner') := by
  cases h with
  | obj ascending h =>
    obtain ⟨j', hj', hlike⟩ := h.lookup hk
    cases hlike with
    | obj ascending h => exact ⟨_, hj', .obj ascending h⟩

lemma LikeFields.insert {fields fields' : List (String × Json)} (h : LikeFields fields fields')
    (k : String) {j j' : Json} (hj : j.Like j') :
    LikeFields (Entries.insert k j fields) (Entries.insert k j' fields') := by
  induction fields generalizing fields' with
  | nil =>
    cases h with
    | nil => exact .cons k hj .nil
  | cons e r ih =>
    cases h with
    | cons k' h hr =>
      rw [Entries.insert, Entries.insert]
      split
      · exact .cons k hj (.cons k' h hr)
      · split
        · exact .cons k hj hr
        · exact .cons k' h (ih hr)

lemma Like.ofFields {fields fields' : List (String × Json)} (h : LikeFields fields fields') :
    Like (.ofFields fields) (.ofFields fields') := by
  refine .obj (NameMap.ascending _) ?_
  have key : ∀ {l l' : List (String × Json)} {m m' : NameMap Json}, LikeFields l l' →
      LikeFields m.entries m'.entries →
      LikeFields (l.foldl (fun m p => m.insert p.1 p.2) m).entries
        (l'.foldl (fun m p => m.insert p.1 p.2) m').entries := by
    intro l
    induction l with
    | nil =>
      intro l' m m' hl hm
      cases hl with
      | nil => exact hm
    | cons e r ih =>
      intro l' m m' hl hm
      cases hl with
      | cons k hj hr =>
        rw [List.foldl_cons, List.foldl_cons]
        exact ih hr (hm.insert k hj)
  exact key h .nil

mutual

lemma Like.tidy {j j' : Json} (h : j.Like j') : j.Tidy := by
  cases h with
  | obj ascending h => exact .table ascending h.tidy
  | null | bool | int | float | str | arr => exact .plain (by simp)

lemma LikeFields.tidy {fields fields' : List (String × Json)} (h : LikeFields fields fields') :
    ∀ e ∈ fields, e.2.Tidy := by
  cases h with
  | nil => simp
  | cons k h hr => exact List.forall_mem_cons.2 ⟨h.tidy, hr.tidy⟩

end

end Json

namespace Toml

/-! ### Tables -/

mutual

inductive LikeItem : Item → Item → Prop
  | value {j j' : Json} (h : j.Like j') : LikeItem (.value j) (.value j')
  | table (implicit dotted : Bool) {es es' : List (String × Item)} (h : LikeEntries es es') :
      LikeItem (.table implicit dotted es) (.table implicit dotted es')
  | tables {l l' : List (List (String × Item))} (h : LikeElements l l') :
      LikeItem (.tables l) (.tables l')

/-- Tables while they are read, the same but for line endings. -/
inductive LikeEntries : List (String × Item) → List (String × Item) → Prop
  | nil : LikeEntries [] []
  | cons (k : String) {item item' : Item} {r r' : List (String × Item)} (h : LikeItem item item')
      (hr : LikeEntries r r') : LikeEntries ((k, item) :: r) ((k, item') :: r')

inductive LikeElements : List (List (String × Item)) → List (List (String × Item)) → Prop
  | nil : LikeElements [] []
  | cons {es es' : List (String × Item)} {r r' : List (List (String × Item))}
      (h : LikeEntries es es') (hr : LikeElements r r') : LikeElements (es :: r) (es' :: r')

end

mutual

lemma LikeItem.toJson {item item' : Item} (h : LikeItem item item') :
    item.toJson.Like item'.toJson := by
  cases h with
  | value h => exact h
  | table implicit dotted h => exact .ofFields h.toFields
  | tables h => exact .arr h.toItems.reverse

lemma LikeEntries.toFields {es es' : List (String × Item)} (h : LikeEntries es es') :
    Json.LikeFields (entriesToFields es) (entriesToFields es') := by
  cases h with
  | nil => exact .nil
  | cons k h hr => exact .cons k h.toJson hr.toFields

lemma LikeElements.toItems {l l' : List (List (String × Item))} (h : LikeElements l l') :
    Json.LikeItems (elementsToJson l) (elementsToJson l') := by
  cases h with
  | nil => exact .nil
  | cons h hr => exact .cons (.ofFields h.toFields) hr.toItems

end

namespace LikeEntries

variable {es es' : Entries}

lemma lookup (h : LikeEntries es es') (k : String) :
    Option.Rel LikeItem (es.lookup k) (es'.lookup k) := by
  induction es generalizing es' with
  | nil => cases h with | nil => exact .none
  | cons e r ih =>
    cases h with
    | cons k' h hr =>
      rw [List.lookup_cons, List.lookup_cons]
      split
      · exact .some h
      · exact ih hr

lemma put (h : LikeEntries es es') (k : String) {item item' : Item} (hitem : LikeItem item item') :
    LikeEntries (Entries.put k item es) (Entries.put k item' es') := by
  induction es generalizing es' with
  | nil => cases h with | nil => exact .cons k hitem .nil
  | cons e r ih =>
    cases h with
    | cons k' h hr =>
      rw [Entries.put, Entries.put]
      split
      · exact .cons k hitem hr
      · exact .cons k' h (ih hr)

/-- What is done at the end of a path keeps tables alike if it keeps the table there alike. -/
lemma descend {dotted : Bool} {f f' : Bool → Entries → Option Entries}
    (hf : ∀ isDotted {es es' r r' : Entries}, LikeEntries es es' → f isDotted es = some r →
      f' isDotted es' = some r' → LikeEntries r r')
    {path : List String} {isDotted : Bool} {r r' : Entries} (hes : LikeEntries es es')
    (h : Entries.descend dotted f path isDotted es = some r)
    (h' : Entries.descend dotted f' path isDotted es' = some r') : LikeEntries r r' := by
  induction path generalizing isDotted es es' r r' with
  | nil => exact hf isDotted hes h h'
  | cons k ks ih =>
    rw [Entries.descend] at h h'
    have hrel := hes.lookup k
    generalize es.lookup k = x at h hrel
    generalize es'.lookup k = x' at h' hrel
    cases hrel with
    | none =>
      -- a table that was not there is made on the way
      obtain ⟨sub, sub', hsub, hsub', hr, hr'⟩ := both_of_bind h h'
      obtain rfl := Option.some.inj hr
      obtain rfl := Option.some.inj hr'
      exact hes.put k (.table true dotted (ih .nil hsub hsub'))
    | some hitem =>
      cases hitem with
      | value => cases h
      | tables hl =>
        cases hl with
        | nil => cases h
        | cons hlast hearlier =>
          -- a path through a list of tables goes on in the last of them
          obtain ⟨sub, sub', hsub, hsub', hr, hr'⟩ := both_of_bind h h'
          obtain rfl := Option.some.inj hr
          obtain rfl := Option.some.inj hr'
          exact hes.put k (.tables (.cons (ih hlast hsub hsub') hearlier))
      | table implicit isDotted hbelow =>
        -- a table that is closed to the path is refused in both documents
        dsimp only at h h'
        split at h
        · cases h
        · rename_i hopen
          rw [if_neg hopen] at h'
          obtain ⟨sub, sub', hsub, hsub', hr, hr'⟩ := both_of_bind h h'
          obtain rfl := Option.some.inj hr
          obtain rfl := Option.some.inj hr'
          exact hes.put k (.table implicit isDotted (ih hbelow hsub hsub'))

lemma addValue {path : List String} {key : String} {j j' : Json} {r r' : Entries}
    (hes : LikeEntries es es') (hj : j.Like j') (h : Entries.addValue path key j es = some r)
    (h' : Entries.addValue path key j' es' = some r') : LikeEntries r r' := by
  refine hes.descend (fun isDotted es es' r r' hes h h' => ?_) h h'
  split at h
  · cases h
  · rename_i hopen
    rw [if_neg hopen] at h'
    split at h
    · cases h
    · split at h'
      · cases h'
      · obtain rfl := Option.some.inj h
        obtain rfl := Option.some.inj h'
        exact hes.put key (.value hj)

lemma openTable {path : List String} {key : String} {r r' : Entries} (hes : LikeEntries es es')
    (h : Entries.openTable path key es = some r) (h' : Entries.openTable path key es' = some r') :
    LikeEntries r r' := by
  refine hes.descend (fun isDotted es es' r r' hes h h' => ?_) h h'
  have hrel := hes.lookup key
  generalize es.lookup key = x at h hrel
  generalize es'.lookup key = x' at h' hrel
  cases hrel with
  | none =>
    obtain rfl := Option.some.inj h
    obtain rfl := Option.some.inj h'
    exact hes.put key (.table false false .nil)
  | some hitem =>
    cases hitem with
    | value => cases h
    | tables => cases h
    | table implicit dotted hsub =>
      -- only a table that a longer path has made can be opened
      cases implicit with
      | false => cases h
      | true =>
        cases dotted with
        | true => cases h
        | false =>
          obtain rfl := Option.some.inj h
          obtain rfl := Option.some.inj h'
          exact hes.put key (.table false false hsub)

lemma openElement {path : List String} {key : String} {r r' : Entries} (hes : LikeEntries es es')
    (h : Entries.openElement path key es = some r)
    (h' : Entries.openElement path key es' = some r') : LikeEntries r r' := by
  refine hes.descend (fun isDotted es es' r r' hes h h' => ?_) h h'
  have hrel := hes.lookup key
  generalize es.lookup key = x at h hrel
  generalize es'.lookup key = x' at h' hrel
  cases hrel with
  | none =>
    obtain rfl := Option.some.inj h
    obtain rfl := Option.some.inj h'
    exact hes.put key (.tables (.cons .nil .nil))
  | some hitem =>
    cases hitem with
    | value => cases h
    | table => cases h
    | tables hl =>
      obtain rfl := Option.some.inj h
      obtain rfl := Option.some.inj h'
      exact hes.put key (.tables (.cons .nil hl))

end LikeEntries

end Toml

end TemplateMetrics
