import TemplateMetrics.Proofs.DefaultLayer
import TemplateMetrics.Proofs.TomlEditions

/-!
A file over the defaults against the same text as a whole document.

Both mean the settings that the text gives, with the defaults for what it leaves out. They differ
inside two kinds of tables: in a whole document a map of risky calls and the table of a dimension
replace the default, while a file is merged into the default key by key. So the loaders agree on a
text exactly if it leaves nothing out of such a table (`loaders_agree_iff`).
-/

namespace TemplateMetrics.Settings

open Decode

/-! ### Documents that state the defaults again -/

/-- The maps of risky calls, by the names of their tables. -/
def riskMaps : List (String × (SecuritySettings → NameMap Risk)) :=
  [("filters", (·.filters)), ("functions", (·.functions))]

/-- The tables of the dimensions, by their names. -/
def dimensions : List (String × (ScoringSettings → Score.Table Float)) :=
  [("style", (·.style)), ("complexity", (·.complexity)), ("architecture", (·.architecture)),
    ("callables", (·.callables)), ("maintainability", (·.maintainability))]

/-- The names of a table. -/
def names? : Json → Option (List String)
  | .obj fields => some (fields.map (·.1))
  | _ => none

/-- The names of a table in a section of a document. -/
def namesAt (d : Json) (part name : String) : Option (List String) :=
  ((d.field? part).bind (·.field? name)).bind names?

/-- A document that leaves out nothing of a default map or table it gives: a table of risky calls
names all calls that are risky by default, and the table of a dimension has rules. -/
structure Restates (d : Json) : Prop where
  risks : ∀ e ∈ riskMaps, ∀ names ∈ namesAt d "security" e.1,
    ∀ name ∈ (e.2 SecuritySettings.default).keys, name ∈ names
  rules : ∀ e ∈ dimensions, ∀ names ∈ namesAt d "scoring" e.1, "rules" ∈ names

instance (d : Json) : Decidable (Restates d) :=
  decidable_of_iff ((∀ e ∈ riskMaps, ∀ names ∈ namesAt d "security" e.1,
      ∀ name ∈ (e.2 SecuritySettings.default).keys, name ∈ names) ∧
    ∀ e ∈ dimensions, ∀ names ∈ namesAt d "scoring" e.1, "rules" ∈ names)
    ⟨fun h => ⟨h.1, h.2⟩, fun h => ⟨h.risks, h.rules⟩⟩

lemma field?_eq_some_iff {j v : Json} {k : String} :
    j.field? k = some v ↔ ∃ fields, j = .obj fields ∧ fields.lookup k = some v := by
  cases j <;> simp [Json.field?, Json.fields]

lemma names?_eq_some_iff {j : Json} {names : List String} :
    names? j = some names ↔ ∃ fields, j = .obj fields ∧ fields.map (·.1) = names := by
  cases j <;> simp [names?]

lemma namesAt_eq_some_iff {d : Json} {part name : String} {names : List String} :
    namesAt d part name = some names ↔ ∃ fields below inner, d = .obj fields ∧
      fields.lookup part = some (.obj below) ∧ below.lookup name = some (.obj inner) ∧
        inner.map (·.1) = names := by
  simp only [namesAt, Option.bind_eq_some_iff, field?_eq_some_iff, names?_eq_some_iff]
  constructor
  · rintro ⟨_, ⟨_, ⟨fields, rfl, hpart⟩, below, rfl, hname⟩, inner, rfl, rfl⟩
    exact ⟨fields, below, inner, rfl, hpart, hname, rfl⟩
  · rintro ⟨fields, below, inner, rfl, hpart, hname, rfl⟩
    exact ⟨_, ⟨_, ⟨fields, rfl, hpart⟩, below, rfl, hname⟩, inner, rfl, rfl⟩

/-! ### Where the loaders agree -/

lemma overlay_risks {m : NameMap Risk} {j : Json} (hj : j.Tidy)
    (hcovers : ∀ fields, j = .obj fields → ∀ name ∈ m.keys, name ∈ fields.map (·.1)) :
    (Json.ofMap (m.map fun _ r => .str r.text)).overlay j = j := by
  cases j with
  | obj fields =>
    refine congrArg Json.obj (overlayFields_of_covers (NameMap.ascending _) hj.ascending ?_ ?_)
    · intro e he inner heq
      obtain ⟨p, -, rfl⟩ := List.mem_map.1 he
      cases heq
    · intro name hname
      refine hcovers fields rfl name ?_
      rw [NameMap.mem_keys, ← NameMap.contains_map, ← NameMap.mem_keys]
      exact hname
  | null | bool | int | float | str | arr => rfl

lemma field?_risks (s : SecuritySettings) : ∀ e ∈ riskMaps,
    s.toJson.field? e.1 = some (.ofMap ((e.2 s).map fun _ r => .str r.text)) := by
  simp [riskMaps, SecuritySettings.toJson, NameMap.ofList]

lemma security_overlay {fields : List (String × Json)} (h : Json.Tidy (.obj fields))
    (hcovers : ∀ e ∈ riskMaps, ∀ inner, fields.lookup e.1 = some (.obj inner) →
      ∀ name ∈ (e.2 SecuritySettings.default).keys, name ∈ inner.map (·.1)) :
    Decode.security .whole (SecuritySettings.default.toJson.overlay (.obj fields)) =
      Decode.security .whole (.obj fields) := by
  have hgiven : ∀ e ∈ riskMaps, ∀ j, fields.lookup e.1 = some j →
      (Json.ofMap ((e.2 SecuritySettings.default).map fun _ r => .str r.text)).overlay j = j := by
    intro e he j hj
    refine overlay_risks (h.lookup hj) ?_
    rintro inner rfl
    exact hcovers e he inner hj
  refine bind_field_overlay rfl h.ascending (fun _ => rfl) (fun j hj => ?_) fun _ => ?_
  · rw [hgiven ("filters", (·.filters)) (by simp [riskMaps]) j hj]
  refine bind_field_overlay rfl h.ascending (fun _ => rfl) (fun j hj => ?_) fun _ => rfl
  · rw [hgiven ("functions", (·.functions)) (by simp [riskMaps]) j hj]

/-- The default risks, written out, mean themselves. -/
lemma security_default :
    Decode.security .whole SecuritySettings.default.toJson = some SecuritySettings.default := by
  have h := security_overlay Json.Tidy.empty (by simp)
  rw [SecuritySettings.toJson, Json.overlay_ofFields_empty] at h
  exact h

lemma field?_rules (t : Score.Table Float) :
    t.toJson.field? "rules" = some (.arr (t.rules.map Score.Rule.toJson)) := by
  rw [Score.Table.toJson, Json.field?_ofFields]
  simp [NameMap.ofList]

lemma field?_bands (t : Score.Table Float) : t.toJson.field? "bands" = some t.bands.toJson := by
  rw [Score.Table.toJson, Json.field?_ofFields]
  simp [NameMap.ofList]

lemma table_overlay {t : Score.Table Float} (hbands : t.bands = Score.Bands.default) {j : Json}
    (hj : j.Tidy) (hrules : ∀ fields, j = .obj fields → "rules" ∈ fields.map (·.1)) :
    table .whole (t.toJson.overlay j) = table .whole j := by
  cases j with
  | obj fields =>
    refine bind_field_overlay (field?_rules t) hj.ascending (fun hnone => ?_) (fun j hj' => ?_)
      fun _ => ?_
    · exact absurd (hrules fields rfl) (lookup_eq_none_iff.1 hnone)
    · exact absorbs_of_plain (list (rule .whole)) _ j (hj.lookup hj')
    · have hbase : t.toJson.field? "bands" = some Score.Bands.default.toJson := by
        rw [field?_bands, hbands]
      exact bind_absorbed absorbs_bands hbase hj rfl fun _ => rfl
  | null | bool | int | float | str | arr => rfl

lemma field?_dimensions (s : ScoringSettings) : ∀ e ∈ dimensions,
    s.toJson.field? e.1 = some (e.2 s).toJson := by
  simp [dimensions, ScoringSettings.toJson, NameMap.ofList]

lemma scoring_overlay {fields : List (String × Json)} (h : Json.Tidy (.obj fields))
    (hrules : ∀ e ∈ dimensions, ∀ inner, fields.lookup e.1 = some (.obj inner) →
      "rules" ∈ inner.map (·.1)) :
    Decode.scoring .whole (ScoringSettings.default.toJson.overlay (.obj fields)) =
      Decode.scoring .whole (.obj fields) := by
  have hgiven : ∀ e ∈ dimensions, ∀ j, fields.lookup e.1 = some j →
      table .whole ((e.2 ScoringSettings.default).toJson.overlay j) = table .whole j := by
    intro e he j hj
    -- the default bands are those of all tables, so a table may leave out its own
    have hbands : ∀ e ∈ dimensions, (e.2 ScoringSettings.default).bands = Score.Bands.default := by
      simp only [dimensions, List.forall_mem_cons]
      exact ⟨rfl, rfl, rfl, rfl, rfl, by simp⟩
    refine table_overlay (hbands e he) (h.lookup hj) ?_
    rintro inner rfl
    exact hrules e he inner hj
  refine bind_plain rfl h rfl fun _ => ?_
  refine bind_absorbed absorbs_weights rfl h rfl fun _ => ?_
  refine bind_absorbed absorbs_bands rfl h rfl fun _ => ?_
  refine bind_field_overlay rfl h.ascending (fun _ => rfl)
    (hgiven ("style", (·.style)) (by simp [dimensions])) fun _ => ?_
  refine bind_field_overlay rfl h.ascending (fun _ => rfl)
    (hgiven ("complexity", (·.complexity)) (by simp [dimensions])) fun _ => ?_
  refine bind_field_overlay rfl h.ascending (fun _ => rfl)
    (hgiven ("architecture", (·.architecture)) (by simp [dimensions])) fun _ => ?_
  refine bind_field_overlay rfl h.ascending (fun _ => rfl)
    (hgiven ("callables", (·.callables)) (by simp [dimensions])) fun _ => ?_
  refine bind_field_overlay rfl h.ascending (fun _ => rfl)
    (hgiven ("maintainability", (·.maintainability)) (by simp [dimensions])) fun _ => ?_
  rfl

lemma scoring_default :
    Decode.scoring .whole ScoringSettings.default.toJson = some ScoringSettings.default := by
  have h := scoring_overlay Json.Tidy.empty (by simp)
  rw [ScoringSettings.toJson, Json.overlay_ofFields_empty] at h
  exact h

/-- A document that states the defaults again means the same with the defaults below it. -/
lemma ofJson?_overlay {d : Json} (hd : d.Tidy) (h : Restates d) :
    ofJson? .whole (Settings.default.toJson.overlay d) = ofJson? .whole d := by
  cases d with
  | obj fields =>
    refine bind_plain rfl hd rfl fun _ => ?_
    refine bind_plain rfl hd rfl fun _ => ?_
    refine bind_absorbed absorbs_complexity rfl hd rfl fun _ => ?_
    refine bind_absorbed (absorbs_single (by decide)) rfl hd rfl fun _ => ?_
    refine bind_absorbed (absorbs_single (by decide)) rfl hd rfl fun _ => ?_
    refine bind_absorbed absorbs_size rfl hd rfl fun _ => ?_
    -- risks, and rules below, are the two that the defaults below a document can change
    refine bind_field_overlay rfl hd.ascending (fun _ => security_default) (fun j hj => ?_)
      fun _ => ?_
    · cases j with
      | obj below =>
        refine security_overlay (hd.lookup hj) fun e he inner hinner => ?_
        exact h.risks e he _ (namesAt_eq_some_iff.2 ⟨_, _, _, rfl, hj, hinner, rfl⟩)
      | null | bool | int | float | str | arr => rfl
    refine bind_absorbed absorbs_classification rfl hd rfl fun _ => ?_
    refine bind_absorbed absorbs_coupling rfl hd rfl fun _ => ?_
    refine bind_field_overlay rfl hd.ascending (fun _ => scoring_default) (fun j hj => ?_)
      fun _ => rfl
    cases j with
    | obj below =>
      refine scoring_overlay (hd.lookup hj) fun e he inner hinner => ?_
      exact h.rules e he _ (namesAt_eq_some_iff.2 ⟨_, _, _, rfl, hj, hinner, rfl⟩)
    | null | bool | int | float | str | arr => rfl
  | null | bool | int | float | str | arr => rfl

/-! ### Where the loaders differ -/

lemma field_of_lookup {α : Type} {fields : List (String × Json)} {i : Nat} {name : String}
    {d : Decoder α} {default : α} {j : Json} (hj : fields.lookup name = some j) :
    field (named fields) i name d default = d j := by
  unfold field named
  rw [hj]

lemma field_of_lookup_none {α : Type} {fields : List (String × Json)} {i : Nat} {name : String}
    {d : Decoder α} {default : α} (h : fields.lookup name = none) :
    field (named fields) i name d default = some default := by
  unfold field named
  rw [h]

lemma eq_nil_of_mapM {α β : Type} {f : α → Option β} {l : List α} (h : l.mapM f = some []) :
    l = [] := by
  cases l with
  | nil => rfl
  | cons a r =>
    rw [List.mapM_cons] at h
    obtain ⟨x, -, h⟩ := Option.bind_eq_some_iff.1 h
    obtain ⟨xs, -, h⟩ := Option.bind_eq_some_iff.1 h
    cases h

lemma rules_default_ne_nil :
    ∀ e ∈ dimensions, (e.2 ScoringSettings.default).rules ≠ [] := by
  simp only [dimensions, List.forall_mem_cons]
  exact ⟨List.cons_ne_nil _ _, List.cons_ne_nil _ _, List.cons_ne_nil _ _, List.cons_ne_nil _ _,
    List.cons_ne_nil _ _, by simp⟩

lemma ofJson?_parts {fields : List (String × Json)} {s : Settings}
    (h : ofJson? .whole (.obj fields) = some s) :
    field (named fields) 6 "security" (Decode.security .whole) SecuritySettings.default =
        some s.security ∧
      field (named fields) 9 "scoring" (Decode.scoring .whole) ScoringSettings.default =
        some s.scoring := by
  unfold ofJson? at h
  simp only [fieldsOf, Option.bind_eq_bind, Option.bind_some, Option.bind_eq_some_iff,
    Option.pure_def, Option.some.injEq] at h
  obtain ⟨_, -, _, -, _, -, _, -, _, -, _, -, security, hsecurity, _, -, _, -, scoring, hscoring,
    rfl⟩ := h
  exact ⟨hsecurity, hscoring⟩

lemma security_parts {fields : List (String × Json)} {s : SecuritySettings}
    (h : Decode.security .whole (.obj fields) = some s) :
    ∀ e ∈ riskMaps, ∃ i, field (named fields) i e.1 (nameMap (word .whole risk?))
      (e.2 SecuritySettings.default) = some (e.2 s) := by
  unfold Decode.security at h
  simp only [fieldsOf, Option.bind_eq_bind, Option.bind_some, Option.bind_eq_some_iff,
    Option.pure_def, Option.some.injEq] at h
  obtain ⟨filters, hfilters, functions, hfunctions, rfl⟩ := h
  simp only [riskMaps, List.forall_mem_cons]
  exact ⟨⟨0, hfilters⟩, ⟨1, hfunctions⟩, by simp⟩

lemma scoring_parts {fields : List (String × Json)} {s : ScoringSettings}
    (h : Decode.scoring .whole (.obj fields) = some s) :
    ∀ e ∈ dimensions, ∃ i, field (named fields) i e.1 (table .whole)
      (e.2 ScoringSettings.default) = some (e.2 s) := by
  unfold Decode.scoring at h
  simp only [fieldsOf, Option.bind_eq_bind, Option.bind_some, Option.bind_eq_some_iff,
    Option.pure_def, Option.some.injEq] at h
  obtain ⟨_, -, _, -, _, -, style, hstyle, complexity, hcomplexity, architecture, harchitecture,
    callables, hcallables, maintainability, hmaintainability, rfl⟩ := h
  simp only [dimensions, List.forall_mem_cons]
  exact ⟨⟨3, hstyle⟩, ⟨4, hcomplexity⟩, ⟨5, harchitecture⟩, ⟨6, hcallables⟩,
    ⟨7, hmaintainability⟩, by simp⟩

/-- A map has the names of the table it is decoded from. -/
lemma contains_nameMap {α : Type} {d : Decoder α} {fields : List (String × Json)} {m : NameMap α}
    (h : nameMap d (.obj fields) = some m) (k : String) :
    m.contains k = true ↔ k ∈ fields.map (·.1) := by
  have hkeys : ∀ {l : List (String × Json)} {entries : List (String × α)},
      l.mapM (fun e => (d e.2).map fun a => (e.1, a)) = some entries →
        entries.map (·.1) = l.map (·.1) := by
    intro l
    induction l with
    | nil =>
      intro entries hentries
      cases hentries
      rfl
    | cons e r ih =>
      intro entries hentries
      rw [List.mapM_cons] at hentries
      obtain ⟨x, hx, hentries⟩ := Option.bind_eq_some_iff.1 hentries
      obtain ⟨xs, hxs, hentries⟩ := Option.bind_eq_some_iff.1 hentries
      cases hentries
      obtain ⟨a, -, rfl⟩ := Option.map_eq_some_iff.1 hx
      rw [List.map_cons, List.map_cons, ih hxs]
  obtain ⟨entries, hentries, hm⟩ := Option.bind_eq_some_iff.1 h
  obtain rfl := Option.some.inj hm
  rw [NameMap.contains_ofList, hkeys hentries]

lemma rules_table {fields : List (String × Json)} {t : Score.Table Float}
    (h : table .whole (.obj fields) = some t) :
    field (named fields) 0 "rules" (list (rule .whole)) [] = some t.rules := by
  unfold table at h
  simp only [fieldsOf, Option.bind_eq_bind, Option.bind_some, Option.bind_eq_some_iff,
    Option.pure_def, Option.some.injEq] at h
  obtain ⟨rules, hrules, _, -, rfl⟩ := h
  exact hrules

section Same

variable {fields fields' : List (String × Json)} {s : Settings}

/-- A table that is given under a name, in a merged table and in a whole one that is like it. -/
lemma given_both {α : Type} {below inner : List (String × Json)} {name : String} {b : Json}
    {d : Decoder α} {default a : α} {i i' : Nat} (hlike : Json.Like (.obj fields) (.obj fields'))
    (hb : below.lookup name = some b) (hinner : fields.lookup name = some (.obj inner))
    (h : field (named (overlayFields below fields)) i name d default = some a)
    (h' : field (named fields') i' name d default = some a) :
    ∃ inner', Json.Like (.obj inner) (.obj inner') ∧ d (b.overlay (.obj inner)) = some a ∧
      d (.obj inner') = some a := by
  obtain ⟨inner', hinner', hlike'⟩ := hlike.table hinner
  rw [field_of_lookup (lookup_overlayFields_of_some hlike.tidy.ascending hb hinner)] at h
  rw [field_of_lookup hinner'] at h'
  exact ⟨inner', hlike', h, h'⟩

/-- The default calls are risky in merged settings, and in a whole document only if it says so. -/
lemma risks_of_same (hlike : Json.Like (.obj fields) (.obj fields'))
    (h : ofJson? .whole (Settings.default.toJson.overlay (.obj fields)) = some s)
    (h' : ofJson? .whole (.obj fields') = some s) :
    ∀ e ∈ riskMaps, ∀ names ∈ namesAt (.obj fields) "security" e.1,
      ∀ name ∈ (e.2 SecuritySettings.default).keys, name ∈ names := by
  intro e he names hnames name hname
  obtain ⟨_, below, inner, heq, hbelow, hinner, rfl⟩ := namesAt_eq_some_iff.1 hnames
  cases heq
  obtain ⟨below', hlike, hmerged, hwhole⟩ :=
    given_both hlike rfl hbelow (ofJson?_parts h).1 (ofJson?_parts h').1
  obtain ⟨i, hmerged⟩ := security_parts hmerged e he
  obtain ⟨i', hwhole⟩ := security_parts hwhole e he
  obtain ⟨inner', hlike, hmerged, hwhole⟩ :=
    given_both hlike (field?_risks SecuritySettings.default e he) hinner hmerged hwhole
  -- the default call is still there in the merged map
  have hrisky : (e.2 s.security).contains name = true := by
    refine (contains_nameMap hmerged name).2 (mem_overlayFields hlike.tidy.ascending ?_)
    rw [NameMap.mem_keys, ← NameMap.contains_map, ← NameMap.mem_keys] at hname
    exact hname
  rw [hlike.names]
  exact (contains_nameMap hwhole name).1 hrisky

/-- Merged settings have the default rules of a table without rules, and a whole document none. -/
lemma rules_of_same (hlike : Json.Like (.obj fields) (.obj fields'))
    (h : ofJson? .whole (Settings.default.toJson.overlay (.obj fields)) = some s)
    (h' : ofJson? .whole (.obj fields') = some s) :
    ∀ e ∈ dimensions, ∀ names ∈ namesAt (.obj fields) "scoring" e.1, "rules" ∈ names := by
  intro e he names hnames
  obtain ⟨_, below, inner, heq, hbelow, hinner, rfl⟩ := namesAt_eq_some_iff.1 hnames
  cases heq
  obtain ⟨below', hlike, hmerged, hwhole⟩ :=
    given_both hlike rfl hbelow (ofJson?_parts h).2 (ofJson?_parts h').2
  obtain ⟨i, hmerged⟩ := scoring_parts hmerged e he
  obtain ⟨i', hwhole⟩ := scoring_parts hwhole e he
  obtain ⟨inner', hlike, hmerged, hwhole⟩ :=
    given_both hlike (field?_dimensions ScoringSettings.default e he) hinner hmerged hwhole
  by_contra hnot
  -- without rules of its own the merged table has the default ones, the whole one has none
  have hrules := (field_of_lookup ((lookup_overlayFields_of_none hlike.tidy.ascending
    (lookup_eq_none_iff.2 hnot)).trans (field?_rules _))).symm.trans (rules_table hmerged)
  rw [hlike.names] at hnot
  have hnone := (field_of_lookup_none (lookup_eq_none_iff.2 hnot)).symm.trans (rules_table hwhole)
  rw [← Option.some.inj hnone] at hrules
  exact rules_default_ne_nil e he (by simpa using eq_nil_of_mapM hrules)

/-- Merged settings are those of the whole document exactly if it states the defaults again and its
two readings mean the same. -/
lemma ofJson?_overlay_iff (hlike : Json.Like (.obj fields) (.obj fields'))
    (h : ofJson? .whole (Settings.default.toJson.overlay (.obj fields)) = some s) :
    ofJson? .whole (.obj fields') = some s ↔
      Restates (.obj fields) ∧ ofJson? .whole (.obj fields) = ofJson? .whole (.obj fields') := by
  constructor
  · intro h'
    have hrestates : Restates (.obj fields) := ⟨risks_of_same hlike h h', rules_of_same hlike h h'⟩
    refine ⟨hrestates, ?_⟩
    rw [h', ← ofJson?_overlay hlike.tidy hrestates, h]
  · rintro ⟨hrestates, hsame⟩
    rw [← hsame, ← ofJson?_overlay hlike.tidy hrestates, h]

end Same

/-- Without variables of this program the environment has nothing to say. -/
lemma document_eq {environment : Environment}
    (h : ∀ e ∈ environment, Environment.path? e.1 = none) : environment.document = .obj [] := by
  unfold Environment.document
  induction environment with
  | nil => rfl
  | cons e r ih =>
    obtain ⟨he, hr⟩ := List.forall_mem_cons.1 h
    rw [List.foldl_cons, he]
    exact ih hr

/-- One file over the defaults, without variables of this program. -/
lemma ofLayers?_singleton {text : String} {environment : Environment}
    (hnone : ∀ e ∈ environment, Environment.path? e.1 = none) {s : Settings}
    (h : ofLayers? [text] environment = some s) :
    ∃ d, Toml.parse? .v10 text = some d ∧
      ofJson? .whole ((Settings.default.toJson.overlay d).overlay (.obj [])) = some s := by
  unfold ofLayers? at h
  rw [List.mapM_cons, List.mapM_nil, document_eq hnone] at h
  obtain ⟨files, hfiles, h⟩ := Option.bind_eq_some_iff.1 h
  obtain ⟨d, hd, hfiles⟩ := Option.bind_eq_some_iff.1 hfiles
  cases hfiles
  exact ⟨d, hd, stricter_ofJson? _ _ h⟩

/-- **The two loaders agree on a text exactly if it leaves out nothing of a default map or table**,
and if the line endings that the editions of the format spell differently do not matter to the
settings. One loader reads the text as a file over the defaults, the other as a whole document. -/
theorem loaders_agree_iff {text : String} {environment : Environment} {s s' : Settings}
    (hnone : ∀ e ∈ environment, Environment.path? e.1 = none)
    (h : ofLayers? [text] environment = some s) (h' : ofToml? text = some s') :
    ∃ d d', Toml.parse? .v10 text = some d ∧ Toml.parse? .v11 text = some d' ∧ d.Like d' ∧
      (s = s' ↔ Restates d ∧ ofJson? .whole d = ofJson? .whole d') := by
  obtain ⟨d, hd, hmerged⟩ := ofLayers?_singleton hnone h
  obtain ⟨d', hd', hwhole⟩ := Option.bind_eq_some_iff.1 h'
  obtain ⟨fields, fields', rfl, rfl, hlike⟩ := Toml.parse?_agree hd hd'
  refine ⟨_, _, hd, hd', hlike, ?_⟩
  rw [← ofJson?_overlay_iff hlike hmerged, hwhole, Option.some.injEq, eq_comm]

/-- A document with a risky filter of its own. -/
def ownFilter : String := "[security.filters]\nnl2br = \"low\"\n"

def homeOnly : Environment := [("HOME", "/home/twig")]

/-- Over the defaults it adds a filter to the risky ones, and on its own it replaces them. -/
theorem loaders_agree_iff_ownFilter : ∃ s s', ofLayers? [ownFilter] homeOnly = some s ∧
    ofToml? ownFilter = some s' ∧ s ≠ s' := by
  have hlayers : (ofLayers? [ownFilter] homeOnly).isSome = true := by decide +kernel
  have hwhole : (ofToml? ownFilter).isSome = true := by decide +kernel
  have hfilters : (Toml.parse? .v10 ownFilter).any (fun d => decide (Restates d)) = false := by
    decide +kernel
  obtain ⟨s, hs⟩ := Option.isSome_iff_exists.1 hlayers
  obtain ⟨s', hs'⟩ := Option.isSome_iff_exists.1 hwhole
  obtain ⟨d, d', hd, -, -, hiff⟩ := loaders_agree_iff (by decide +kernel) hs hs'
  rw [hd, Option.any_some, decide_eq_false_iff_not] at hfilters
  exact ⟨s, s', hs, hs', fun heq => hfilters (hiff.1 heq).1⟩

end TemplateMetrics.Settings
