import TemplateMetrics.Proofs.Overlay
import TemplateMetrics.Settings.Layers

/-!
Decoders of settings and the defaults below a document.

A document over the defaults is decoded more strictly than a whole one (`stricter_ofJson?`), as it
is merged from layers. For most decoders the defaults below make no difference (`Absorbs`): a
structure whose fields are no tables takes a field that is missing from its defaults, and these are
what the document below it has.
-/

namespace TemplateMetrics.Settings

open Decode

/-! ### Merged documents are read more strictly -/

/-- What the first option has the second has too. -/
def Refines {α : Type} (x y : Option α) : Prop := ∀ a, x = some a → y = some a

section Refines

variable {α β : Type}

lemma Refines.refl (x : Option α) : Refines x x := fun _ h => h

lemma Refines.bind {x y : Option α} {f g : α → Option β} (h : Refines x y)
    (hf : ∀ a, Refines (f a) (g a)) : Refines (x.bind f) (y.bind g) := by
  intro b hb
  obtain ⟨a, ha, hb⟩ := Option.bind_eq_some_iff.1 hb
  exact Option.bind_eq_some_iff.2 ⟨a, h a ha, hf a b hb⟩

lemma refines_mapM {f g : α → Option β} (h : ∀ a, Refines (f a) (g a)) (l : List α) :
    Refines (l.mapM f) (l.mapM g) := by
  induction l with
  | nil => exact .refl _
  | cons a r ih =>
    rw [List.mapM_cons, List.mapM_cons]
    exact (h a).bind fun _ => ih.bind fun _ => .refl _

/-- Every document that the first decoder takes means the same to the second. -/
def Stricter (d e : Decoder α) : Prop := ∀ j, Refines (d j) (e j)

variable {d e : Decoder α}

lemma Stricter.field (h : Stricter d e) (fields : Nat → String → Option Json) (i : Nat)
    (name : String) (default : α) :
    Refines (field fields i name d default) (field fields i name e default) := by
  unfold Decode.field
  split
  · exact .refl _
  · exact h _

lemma Stricter.required (h : Stricter d e) (fields : Nat → String → Option Json) (i : Nat)
    (name : String) : Refines (required fields i name d) (required fields i name e) :=
  (Refines.refl _).bind h

lemma Stricter.list (h : Stricter d e) : Stricter (list d) (list e) := by
  intro j
  cases j with
  | arr items => exact refines_mapM h items
  | null | bool | int | float | str | obj => exact .refl _

lemma Stricter.nameMap (h : Stricter d e) : Stricter (nameMap d) (nameMap e) := by
  intro j
  cases j with
  | obj fields =>
    refine Refines.bind (refines_mapM (fun x => ?_) fields) fun _ => .refl _
    rw [Option.map_eq_bind, Option.map_eq_bind]
    exact (h x.2).bind fun _ => .refl _
  | null | bool | int | float | str | arr => exact .refl _

end Refines

lemma stricter_word {α : Type} (ofWord? : String → Option α) :
    Stricter (word .layers ofWord?) (word .whole ofWord?) := by
  intro j a h
  unfold word at h
  split at h
  · exact h
  · cases h
  · cases h
  · cases h

lemma stricter_security : Stricter (Decode.security .layers) (Decode.security .whole) := by
  intro j
  have hrisks := (stricter_word risk?).nameMap
  exact (Refines.refl _).bind fun fields =>
    (hrisks.field fields _ _ _).bind fun _ => (hrisks.field fields _ _ _).bind fun _ => .refl _

lemma stricter_rule : Stricter (rule .layers) (rule .whole) := by
  intro j
  refine (Refines.refl _).bind fun fields => (Refines.refl _).bind fun _ => ?_
  exact ((stricter_word direction?).required fields _ _).bind fun _ => .refl _

lemma stricter_table : Stricter (table .layers) (table .whole) := by
  intro j
  refine (Refines.refl _).bind fun fields => ?_
  exact (stricter_rule.list.field fields _ _ _).bind fun _ => .refl _

lemma stricter_scoring : Stricter (Decode.scoring .layers) (Decode.scoring .whole) := by
  intro j
  refine (Refines.refl _).bind fun fields => ?_
  iterate 3 refine (Refines.refl _).bind fun _ => ?_
  iterate 5 refine (stricter_table.field fields _ _ _).bind fun _ => ?_
  exact .refl _

/-- What merged settings say they also say as a whole document. -/
lemma stricter_ofJson? : Stricter (ofJson? .layers) (ofJson? .whole) := by
  intro j
  refine (Refines.refl _).bind fun fields => ?_
  iterate 6 refine (Refines.refl _).bind fun _ => ?_
  refine (stricter_security.field fields _ _ _).bind fun _ => ?_
  iterate 2 refine (Refines.refl _).bind fun _ => ?_
  exact (stricter_scoring.field fields _ _ _).bind fun _ => .refl _

/-! ### Documents over the defaults -/

/-- Access to the fields of a table by name. -/
def named (fields : List (String × Json)) : Nat → String → Option Json :=
  fun _ name => fields.lookup name

/-- A decoder that takes no table. -/
class Plain {α : Type} (d : Decoder α) : Prop where
  table (fields : List (String × Json)) : d (.obj fields) = none

instance : Plain float := ⟨fun _ => rfl⟩
instance : Plain natural := ⟨fun _ => rfl⟩
instance : Plain ratingLimits := ⟨fun _ => rfl⟩
instance {α : Type} (d : Decoder α) : Plain (list d) := ⟨fun _ => rfl⟩
instance {α : Type} (d : Decoder α) [Plain d] : Plain (optional d) :=
  ⟨fun fields => congrArg (Option.map some) (Plain.table (d := d) fields)⟩

/-- It makes no difference to a decoder whether a document lies over a base. -/
def Absorbs {α : Type} (base : Json) (d : Decoder α) : Prop :=
  ∀ j, j.Tidy → d (base.overlay j) = d j

section Overlay

variable {α β : Type} {below fields : List (String × Json)} {b : Json} {i : Nat} {name : String}
  {d : Decoder α} {default : α}

lemma absorbs_of_plain (d : Decoder α) [Plain d] (base : Json) : Absorbs base d := by
  intro j _
  cases j with
  | obj fields =>
    cases base with
    | obj below => exact (Plain.table (d := d) _).trans (Plain.table (d := d) _).symm
    | null | bool | int | float | str | arr => rfl
  | null | bool | int | float | str | arr => rfl

/-- A structure absorbs its base if its fields do. -/
lemma absorbs_of_fields {build : (Nat → String → Option Json) → Option α}
    (h : ∀ fields, Json.Tidy (.obj fields) →
      build (named (overlayFields below fields)) = build (named fields)) :
    Absorbs (.obj below) fun j => (fieldsOf j).bind build := by
  intro j hj
  cases j with
  | obj fields => exact h fields hj
  | null | bool | int | float | str | arr => rfl

/-- A field over its base: where it is missing the base has its default, and where it is given the
base is absorbed. -/
lemma field_overlay (hb : below.lookup name = some b) (hfields : Entries.Ascending fields)
    (hmissing : fields.lookup name = none → d b = some default)
    (hgiven : ∀ j, fields.lookup name = some j → d (b.overlay j) = d j) :
    field (named (overlayFields below fields)) i name d default =
      field (named fields) i name d default := by
  unfold field named
  cases hj : fields.lookup name with
  | none =>
    rw [lookup_overlayFields_of_none hfields hj, hb]
    exact hmissing hj
  | some j =>
    rw [lookup_overlayFields_of_some hfields hb hj]
    exact hgiven j hj

lemma bind_field_overlay {k k' : α → Option β} (hb : below.lookup name = some b)
    (hfields : Entries.Ascending fields)
    (hmissing : fields.lookup name = none → d b = some default)
    (hgiven : ∀ j, fields.lookup name = some j → d (b.overlay j) = d j) (hk : ∀ a, k a = k' a) :
    (field (named (overlayFields below fields)) i name d default).bind k =
      (field (named fields) i name d default).bind k' := by
  rw [field_overlay hb hfields hmissing hgiven, funext hk]

/-- A base that is absorbed means what nothing means. -/
lemma Absorbs.base {inner : List (String × Json)} (h : Absorbs (.obj inner) d) :
    d (.obj inner) = d (.obj []) :=
  h (.obj []) .empty

lemma bind_absorbed {inner : List (String × Json)} {k k' : α → Option β}
    (habsorbs : Absorbs (.obj inner) d) (hb : below.lookup name = some (.obj inner))
    (hfields : Json.Tidy (.obj fields)) (hempty : d (.obj []) = some default)
    (hk : ∀ a, k a = k' a) :
    (field (named (overlayFields below fields)) i name d default).bind k =
      (field (named fields) i name d default).bind k' :=
  bind_field_overlay hb hfields.ascending (fun _ => habsorbs.base.trans hempty)
    (fun j hj => habsorbs j (hfields.lookup hj)) hk

lemma bind_plain [Plain d] {k k' : α → Option β} (hb : below.lookup name = some b)
    (hfields : Json.Tidy (.obj fields)) (hbase : d b = some default) (hk : ∀ a, k a = k' a) :
    (field (named (overlayFields below fields)) i name d default).bind k =
      (field (named fields) i name d default).bind k' :=
  bind_field_overlay hb hfields.ascending (fun _ => hbase)
    (fun j hj => absorbs_of_plain d b j (hfields.lookup hj)) hk

end Overlay

lemma absorbs_complexityWeights :
    Absorbs ComplexityWeights.default.toJson complexityWeights := by
  refine absorbs_of_fields fun fields h => ?_
  iterate 6 refine bind_plain rfl h rfl fun _ => ?_
  rfl

lemma absorbs_classification :
    Absorbs ClassificationSettings.default.toJson Decode.classification := by
  refine absorbs_of_fields fun fields h => ?_
  iterate 15 refine bind_plain rfl h rfl fun _ => ?_
  rfl

lemma absorbs_complexity : Absorbs ComplexitySettings.default.toJson Decode.complexity := by
  refine absorbs_of_fields fun fields h => ?_
  refine bind_absorbed absorbs_complexityWeights rfl h rfl fun _ => ?_
  exact bind_plain rfl h rfl fun _ => rfl

lemma absorbs_size : Absorbs SizeSettings.default.toJson Decode.size := by
  refine absorbs_of_fields fun fields h => ?_
  iterate 2 refine bind_plain rfl h rfl fun _ => ?_
  rfl

lemma absorbs_coupling : Absorbs CouplingSettings.default.toJson Decode.coupling := by
  refine absorbs_of_fields fun fields h => ?_
  iterate 4 refine bind_plain rfl h rfl fun _ => ?_
  rfl

lemma absorbs_weights : Absorbs Score.Weights.default.toJson weights := by
  refine absorbs_of_fields fun fields h => ?_
  iterate 5 refine bind_plain rfl h rfl fun _ => ?_
  rfl

lemma absorbs_bands : Absorbs Score.Bands.default.toJson bands := by
  refine absorbs_of_fields fun fields h => ?_
  iterate 4 refine bind_plain rfl h rfl fun _ => ?_
  rfl

lemma absorbs_single {name : String} {n : Nat} (hn : n < Nat.pow 2 64) :
    Absorbs (.ofFields [(name, .nat n)]) (single name n) := by
  refine absorbs_of_fields fun fields h => ?_
  have hbase : natural (.nat n) = some n := by simp [natural, Json.nat, Json.nat?, hn]
  have hb : (NameMap.ofList [(name, Json.nat n)]).entries.lookup name = some (.nat n) := by
    rw [NameMap.lookup_entries, NameMap.ofList]
    simp
  exact field_overlay hb h.ascending (fun _ => hbase) fun j hj =>
    absorbs_of_plain natural _ j (h.lookup hj)

end TemplateMetrics.Settings
