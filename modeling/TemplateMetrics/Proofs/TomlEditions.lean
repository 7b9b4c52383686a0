import TemplateMetrics.Proofs.LineEndings
import TemplateMetrics.Proofs.TomlWords

/-!
Documents in the two editions of TOML.

Where both editions take a text they read the same document, but that the first one spells all line
endings in a string alike (`Toml.parse?_agree`). Readers that take numbers of steps and a depth are
compared for all of them, as the editions allow different depths.
-/

namespace TemplateMetrics.Toml

/-! ### Strings and keys -/

lemma escape?_agree {cs : List Char} {x x' : Char × List Char} (h : escape? .v10 cs = some x)
    (h' : escape? .v11 cs = some x') : x = x' := by
  unfold escape? at h h'
  split at h
  · cases h
  · split at h
    all_goals first
      | exact Option.some.inj (h.symm.trans h')
      | cases h

lemma basicLine_agree {n n' : Nat} {done cs : List Char} {x x' : String × List Char}
    (h : basicLine .v10 n done cs = some x) (h' : basicLine .v11 n' done cs = some x') :
    x = x' := by
  induction n generalizing n' done cs with
  | zero => cases h
  | succ n ih =>
    cases n' with
    | zero => cases h'
    | succ n' =>
      cases cs with
      | nil => cases h
      | cons c r =>
        rw [basicLine] at h h'
        split at h
        · -- the quote that ends the text
          rename_i hc
          rw [if_pos hc] at h'
          exact Option.some.inj (h.symm.trans h')
        · rename_i hquote
          rw [if_neg hquote] at h'
          split at h
          · -- an escape, which both editions know here
            rename_i hc
            rw [if_pos hc] at h'
            obtain ⟨e, e', he, he', hline, hline'⟩ := both_of_bind h h'
            obtain rfl := escape?_agree he he'
            exact ih hline hline'
          · rename_i hslash
            rw [if_neg hslash] at h'
            split at h
            · -- a plain character
              rename_i hc
              rw [if_pos hc] at h'
              exact ih h h'
            · cases h

lemma newlineText_sameLines (c : Char) :
    SameLines (newlineText .v10 c).reverse (newlineText .v11 c).reverse := by
  unfold newlineText
  by_cases hc : c = '\r'
  · rw [if_neg (by simp), if_pos ⟨hc, rfl⟩]
    exact .newline .nil
  · rw [if_neg (by simp), if_neg fun h => hc h.1]
    exact .refl _

/-- The texts so far, last character first, stay texts with the same lines. -/
lemma severalLines_agree {quote : Char} {n n' : Nat} {done done' cs r r' : List Char}
    {s s' : String} (hdone : SameLines done.reverse done'.reverse)
    (h : severalLines .v10 quote n done cs = some (s, r))
    (h' : severalLines .v11 quote n' done' cs = some (s', r')) :
    SameLines s.toList s'.toList ∧ r = r' := by
  induction n generalizing n' done done' cs with
  | zero => cases h
  | succ n ih =>
    cases n' with
    | zero => cases h'
    | succ n' =>
      cases cs with
      | nil => cases h
      | cons c t =>
        -- a character that both editions take keeps the texts alike
        have hchar : ∀ c, SameLines (c :: done).reverse (c :: done').reverse := by
          intro c
          rw [List.reverse_cons, List.reverse_cons]
          exact hdone.append (.refl [c])
        rw [severalLines] at h h'
        cases hclosing : closing? quote (c :: t) with
        | some e =>
          simp only [hclosing, Option.some.injEq, Prod.mk.injEq] at h h'
          obtain ⟨rfl, rfl⟩ := h
          obtain ⟨rfl, rfl⟩ := h'
          rw [String.toList_ofList, String.toList_ofList, List.reverse_append, List.reverse_append]
          exact ⟨hdone.append (.refl _), rfl⟩
        | none =>
          simp only [hclosing] at h h'
          cases hnewline : skipNewline? (c :: t) with
          -- a line ending, kept as it is in one edition only
          | some rest =>
            simp only [hnewline] at h h'
            refine ih ?_ h h'
            rw [List.reverse_append, List.reverse_append]
            exact hdone.append (newlineText_sameLines c)
          | none =>
            simp only [hnewline] at h h'
            split at h
            · -- a backslash continues the line or escapes a character
              rename_i hslash
              rw [if_pos hslash] at h'
              cases hcontinued : continuation? t with
              | some rest =>
                simp only [hcontinued] at h h'
                exact ih hdone h h'
              | none =>
                simp only [hcontinued] at h h'
                obtain ⟨e, e', he, he', hrest, hrest'⟩ := both_of_bind h h'
                obtain rfl := escape?_agree he he'
                exact ih (hchar _) hrest hrest'
            · rename_i hslash
              rw [if_neg hslash] at h'
              split at h
              · rename_i hplain
                rw [if_pos hplain] at h'
                exact ih (hchar _) h h'
              · cases h

lemma string?_agree {cs r r' : List Char} {s s' : String} (h : string? .v10 cs = some (s, r))
    (h' : string? .v11 cs = some (s', r')) : SameLines s.toList s'.toList ∧ r = r' := by
  have hsame : (s, r) = (s', r') → SameLines s.toList s'.toList ∧ r = r' := by
    intro hx
    obtain ⟨rfl, rfl⟩ := Prod.mk.inj hx
    exact ⟨.refl _, rfl⟩
  have hnil : SameLines ([] : List Char).reverse ([] : List Char).reverse := .nil
  unfold string? at h
  split at h
  · -- texts of several lines, in quotes of either kind
    exact severalLines_agree hnil h h'
  · exact severalLines_agree hnil h h'
  · -- texts of one line
    rename_i hseveral
    rw [string?] at h'
    · exact hsame (basicLine_agree h h')
    · exact hseveral
  · rename_i hseveral
    rw [string?] at h'
    · exact hsame (Option.some.inj (h.symm.trans h'))
    · exact hseveral
  · cases h

lemma simpleKey?_agree {cs : List Char} {x x' : String × List Char}
    (h : simpleKey? .v10 cs = some x) (h' : simpleKey? .v11 cs = some x') : x = x' := by
  unfold simpleKey? at h h'
  split at h
  · exact basicLine_agree h h'
  · exact Option.some.inj (h.symm.trans h')
  · rename_i hquote hliteral
    split at h'
    · exact absurd rfl (hquote _)
    · exact absurd rfl (hliteral _)
    · exact Option.some.inj (h.symm.trans h')

lemma keysWithin?_agree {room room' : Nat} {cs : List Char} {x x' : List String × List Char}
    (h : keysWithin? .v10 room cs = some x) (h' : keysWithin? .v11 room' cs = some x') :
    x = x' := by
  induction room generalizing room' cs x x' with
  | zero => cases h
  | succ room ih =>
    cases room' with
    | zero => cases h'
    | succ room' =>
      rw [keysWithin?] at h h'
      obtain ⟨key, key', hkey, hkey', hrest, hrest'⟩ := both_of_bind h h'
      obtain rfl := simpleKey?_agree hkey hkey'
      dsimp only at hrest hrest'
      split at hrest
      · -- a point, and the path goes on
        rename_i r hr
        simp only [hr] at hrest'
        obtain ⟨keys, keys', hkeys, hkeys', hx, hx'⟩ := both_of_bind hrest hrest'
        obtain rfl := ih hkeys hkeys'
        exact Option.some.inj (hx.symm.trans hx')
      · rename_i hpoint
        split at hrest'
        · rename_i hr
          exact absurd hr (hpoint _)
        · exact Option.some.inj (hrest.symm.trans hrest')

/-- A path of keys, where both editions read one, and what follows it. -/
lemma keyPath?_agree {cs t t' : List Char} {keys keys' path path' : List String}
    {key key' : String} (h : keyPath? .v10 cs = some (keys, t))
    (h' : keyPath? .v11 cs = some (keys', t')) (hlast : splitLast keys = some (path, key))
    (hlast' : splitLast keys' = some (path', key')) :
    keys = keys' ∧ t = t' ∧ path = path' ∧ key = key' := by
  obtain ⟨rfl, rfl⟩ := Prod.mk.inj (keysWithin?_agree h h')
  obtain ⟨rfl, rfl⟩ := Prod.mk.inj (Option.some.inj (hlast.symm.trans hlast'))
  exact ⟨rfl, rfl, rfl, rfl⟩

/-! ### Gaps in inline tables -/

/-- The text goes on with a line ending or a comment. -/
def EndsLine (cs : List Char) : Prop := ∃ c r, cs = c :: r ∧ c ∈ ['\n', '\r', '#']

lemma EndsLine.absurd {c : Char} {r : List Char} (h : EndsLine (c :: r))
    (hc : c ∉ ['\n', '\r', '#']) : False := by
  obtain ⟨c', r', heq, hc'⟩ := h
  obtain ⟨rfl, -⟩ := List.cons.inj heq
  exact hc hc'

lemma skipBlankLines_eq_or (cs : List Char) :
    skipBlankLines cs = skipBlanks cs ∨ EndsLine (skipBlanks cs) := by
  fun_induction skipBlankLines cs with
  | case1 r ih => exact .inr ⟨'\r', '\n' :: r, rfl, by simp⟩
  | case2 c r hcr hc ih =>
    cases hblank : isTomlBlank c with
    | true =>
      -- a blank is skipped by both
      have hskip : skipBlanks (c :: r) = skipBlanks r := List.dropWhile_cons_of_pos hblank
      rw [hskip]
      exact ih
    | false =>
      obtain rfl : c = '\n' := by simpa [hblank] using hc
      exact .inr ⟨'\n', r, rfl, by simp⟩
  | case3 c r hcr hc =>
    have hskip : skipBlanks (c :: r) = c :: r := List.dropWhile_cons_of_neg (by simp_all)
    exact .inl hskip.symm
  | case4 => exact .inl rfl

/-- A gap that the first edition stays within leaves both editions at the same place. -/
lemma skipInline?_agree {cs r r' : List Char} (h : skipInline? .v10 cs = some r)
    (h' : skipInline? .v11 cs = some r') : r = r' ∨ EndsLine r := by
  obtain rfl : skipBlanks cs = r := Option.some.inj h
  rw [skipInline?, if_pos rfl, skipGaps?] at h'
  rcases skipBlankLines_eq_or cs with hsame | hends
  · rw [hsame] at h'
    split at h'
    · rename_i t ht
      exact .inr ⟨'#', t, ht, by simp⟩
    · exact .inl (Option.some.inj h')
  · exact .inr hends

lemma skipInline?_agree_cons {cs t r' : List Char} {c : Char}
    (h : skipInline? .v10 cs = some (c :: t)) (hc : c ∉ ['\n', '\r', '#'])
    (h' : skipInline? .v11 cs = some r') : c :: t = r' :=
  (skipInline?_agree h h').resolve_right fun hends => hends.absurd hc

lemma EndsLine.keyPath?_eq_none {cs : List Char} (h : EndsLine cs) (edition : Edition) :
    keyPath? edition cs = none := by
  obtain ⟨c, r, rfl, hc⟩ := h
  have hplain : ∀ c ∈ ['\n', '\r', '#'], isTomlBlank c = false ∧ isBareKeyPart c = false ∧
      c ≠ '"' ∧ c ≠ '\'' :=
    List.forall_mem_cons.2 ⟨by decide, List.forall_mem_cons.2
      ⟨by decide, List.forall_mem_singleton.2 (by decide)⟩⟩
  obtain ⟨hblank, hbare, hquote, hliteral⟩ := hplain c hc
  have hskip : skipBlanks (c :: r) = c :: r := List.dropWhile_cons_of_neg (by simp [hblank])
  have hkey : simpleKey? edition (c :: r) = none := by
    rw [simpleKey?]
    · simp [hbare]
    · intro t ht
      exact hquote (List.cons.inj ht).1
    · intro t ht
      exact hliteral (List.cons.inj ht).1
  rw [keyPath?]
  cases edition.depth with
  | zero => rfl
  | succ room => rw [keysWithin?, hskip, hkey, Option.bind_eq_bind, Option.bind_none]

lemma EndsLine.pairs?_eq_none {cs : List Char} (h : EndsLine cs) (edition : Edition)
    (n room : Nat) (es : Entries) : pairs? edition n room es cs = none := by
  cases n with
  | zero => rfl
  | succ n => rw [pairs?, h.keyPath?_eq_none, Option.bind_eq_bind, Option.bind_none]

/-! ### Values -/

/-- A value that starts with neither a quote nor a bracket is a word. -/
lemma value?_of_word {edition : Edition} {cs : List Char}
    (hcs : ∀ c t, cs = c :: t → c ∉ ['"', '\'', '[', '\x7b']) (n room : Nat) :
    value? edition (n + 1) room cs =
      (word? edition (takeWord cs).1).map fun j => (j, (takeWord cs).2) := by
  rw [value?]
  all_goals
    intros
    exact hcs _ _ ‹cs = _› (by simp)

lemma EndsLine.value?_eq_none {cs : List Char} (h : EndsLine cs) (edition : Edition)
    (n room : Nat) : value? edition n room cs = none := by
  obtain ⟨c, r, rfl, hc⟩ := h
  have hplain : ∀ c ∈ ['\n', '\r', '#'], isWordPart c = false ∧ c ∉ ['"', '\'', '[', '\x7b'] :=
    List.forall_mem_cons.2 ⟨by decide, List.forall_mem_cons.2
      ⟨by decide, List.forall_mem_singleton.2 (by decide)⟩⟩
  obtain ⟨hpart, hopen⟩ := hplain c hc
  cases n with
  | zero => rfl
  | succ n =>
    -- a line ends before any word
    have hword : (takeWord (c :: r)).1 = [] := by
      rw [takeWord, List.takeWhile_cons_of_neg (by simp [hpart])]
      rfl
    have hnone : word? edition [] = none := by cases edition <;> decide +kernel
    rw [value?_of_word, hword, hnone, Option.map_none]
    · intro c' t ht
      obtain ⟨rfl, -⟩ := List.cons.inj ht
      exact hopen

/-- Both editions read alike with `n` steps of the first one. -/
structure Agree (n : Nat) : Prop where
  value {n' room room' : Nat} {cs r r' : List Char} {j j' : Json}
    (h : value? .v10 n room cs = some (j, r)) (h' : value? .v11 n' room' cs = some (j', r')) :
    j.Like j' ∧ r = r'
  items {n' room room' : Nat} {cs r r' : List Char} {l l' : List Json}
    (h : items? .v10 n room cs = some (l, r)) (h' : items? .v11 n' room' cs = some (l', r')) :
    Json.LikeItems l l' ∧ r = r'
  pairs {n' room room' : Nat} {cs r r' : List Char} {es es' out out' : Entries}
    (hes : LikeEntries es es') (h : pairs? .v10 n room es cs = some (out, r))
    (h' : pairs? .v11 n' room' es' cs = some (out', r')) : LikeEntries out out' ∧ r = r'

lemma Agree.items_succ {n : Nat} (ih : Agree n) {n' room room' : Nat} {cs r r' : List Char}
    {l l' : List Json} (h : items? .v10 (n + 1) room cs = some (l, r))
    (h' : items? .v11 (n' + 1) room' cs = some (l', r')) : Json.LikeItems l l' ∧ r = r' := by
  rw [items?] at h h'
  obtain ⟨start, -, h, h'⟩ := both_of_bind_same h h'
  split at h
  · cases h
    cases h'
    exact ⟨.nil, rfl⟩
  · rename_i hclose
    split at h'
    · exact absurd rfl (hclose _)
    · -- an item, and then the next one or the end
      obtain ⟨⟨j, t⟩, hj, h⟩ := Option.bind_eq_some_iff.1 h
      obtain ⟨⟨j', t'⟩, hj', h'⟩ := Option.bind_eq_some_iff.1 h'
      obtain ⟨hlike, rfl⟩ := ih.value hj hj'
      obtain ⟨next, -, h, h'⟩ := both_of_bind_same h h'
      split at h
      · obtain ⟨⟨l, t⟩, hl, h⟩ := Option.bind_eq_some_iff.1 h
        obtain ⟨⟨l', t'⟩, hl', h'⟩ := Option.bind_eq_some_iff.1 h'
        obtain ⟨hitems, rfl⟩ := ih.items hl hl'
        cases h
        cases h'
        exact ⟨.cons hlike hitems, rfl⟩
      · cases h
        cases h'
        exact ⟨.cons hlike .nil, rfl⟩
      · cases h

lemma Agree.pairs_succ {n : Nat} (ih : Agree n) {n' room room' : Nat} {cs r r' : List Char}
    {es es' out out' : Entries} (hes : LikeEntries es es')
    (h : pairs? .v10 (n + 1) room es cs = some (out, r))
    (h' : pairs? .v11 (n' + 1) room' es' cs = some (out', r')) :
    LikeEntries out out' ∧ r = r' := by
  rw [pairs?] at h h'
  obtain ⟨⟨keys, t⟩, ⟨keys', t'⟩, hkeys, hkeys', h, h'⟩ := both_of_bind h h'
  obtain ⟨⟨path, key⟩, ⟨path', key'⟩, hpath, hpath', h, h'⟩ := both_of_bind h h'
  obtain ⟨rfl, rfl, rfl, rfl⟩ := keyPath?_agree hkeys hkeys' hpath hpath'
  obtain ⟨sign, sign', hsign, hsign', h, h'⟩ := both_of_bind h h'
  split at h
  swap
  · cases h
  obtain rfl := skipInline?_agree_cons hsign (by simp) hsign'
  obtain ⟨start, start', hstart, hstart', h, h'⟩ := both_of_bind h h'
  obtain ⟨⟨j, u⟩, ⟨j', u'⟩, hj, hj', h, h'⟩ := both_of_bind h h'
  obtain rfl := (skipInline?_agree hstart hstart').resolve_right fun hends => by
    cases (hends.value?_eq_none ..).symm.trans hj
  obtain ⟨hlike, rfl⟩ := ih.value hj hj'
  obtain ⟨added, added', hadded, hadded', h, h'⟩ := both_of_bind h h'
  have hentries := hes.addValue hlike hadded hadded'
  obtain ⟨next, next', hnext, hnext', h, h'⟩ := both_of_bind h h'
  split at h
  · -- a comma, and another pair behind it
    obtain rfl := skipInline?_agree_cons hnext (by simp) hnext'
    obtain ⟨more, more', hmore, hmore', h, h'⟩ := both_of_bind h h'
    split at h
    · cases h
    · rename_i hclose
      obtain rfl := (skipInline?_agree hmore hmore').resolve_right fun hends => by
        cases (hends.pairs?_eq_none ..).symm.trans h
      split at h'
      · exact absurd rfl (hclose _)
      · exact ih.pairs hentries h h'
  · obtain rfl := skipInline?_agree_cons hnext (by simp) hnext'
    cases h
    cases h'
    exact ⟨hentries, rfl⟩
  · cases h

lemma like_of_integer? {edition : Edition} {cs : List Char} {j : Json}
    (h : integer? edition cs = some j) : j.Like j := by
  have hfit : ∀ {n : Int}, fit? edition n = some j → j.Like j := by
    intro n hn
    unfold fit? at hn
    split at hn
    split at hn
    · obtain rfl := Option.some.inj hn
      exact .int n
    · cases hn
  unfold integer? at h
  split at h
  all_goals
    obtain ⟨ds, -, hds⟩ := Option.bind_eq_some_iff.1 h
    exact hfit hds

lemma like_of_float? {edition : Edition} {cs : List Char} {j : Json}
    (h : float? edition cs = some j) : j.Like j := by
  unfold float? at h
  dsimp only at h
  split at h
  · obtain rfl := Option.some.inj h
    exact .float _
  · obtain rfl := Option.some.inj h
    exact .float _
  · split at h
    · split at h
      · obtain rfl := Option.some.inj h
        exact .float _
      · cases h
    · cases h

/-- Words have no line endings to differ in. -/
lemma like_of_word? {edition : Edition} {cs : List Char} {j : Json}
    (h : word? edition cs = some j) : j.Like j := by
  unfold word? at h
  split at h
  · obtain rfl := Option.some.inj h
    exact .bool true
  · obtain rfl := Option.some.inj h
    exact .bool false
  · split at h
    · obtain rfl := Option.some.inj h
      exact like_of_integer? ‹_›
    · split at h
      · obtain rfl := Option.some.inj h
        exact like_of_float? ‹_›
      · split at h
        · obtain rfl := Option.some.inj h
          exact .obj (List.pairwise_singleton ..) (.cons _ (.str (.refl _)) .nil)
        · cases h

lemma Agree.word {cs r r' : List Char} {j j' : Json}
    (h : (word? .v10 (takeWord cs).1).map (fun j => (j, (takeWord cs).2)) = some (j, r))
    (h' : (word? .v11 (takeWord cs).1).map (fun j => (j, (takeWord cs).2)) = some (j', r')) :
    j.Like j' ∧ r = r' := by
  obtain ⟨w, hw, heq⟩ := Option.map_eq_some_iff.1 h
  obtain ⟨w', hw', heq'⟩ := Option.map_eq_some_iff.1 h'
  obtain rfl := word?_agree hw hw'
  cases heq
  cases heq'
  exact ⟨like_of_word? hw, rfl⟩

lemma Agree.text {cs r r' : List Char} {j j' : Json}
    (h : (string? .v10 cs).map (fun x => (Json.str x.1, x.2)) = some (j, r))
    (h' : (string? .v11 cs).map (fun x => (Json.str x.1, x.2)) = some (j', r')) :
    j.Like j' ∧ r = r' := by
  obtain ⟨⟨s, t⟩, hs, heq⟩ := Option.map_eq_some_iff.1 h
  obtain ⟨⟨s', t'⟩, hs', heq'⟩ := Option.map_eq_some_iff.1 h'
  obtain ⟨hlines, rfl⟩ := string?_agree hs hs'
  cases heq
  cases heq'
  exact ⟨.str hlines, rfl⟩

lemma Agree.array {n : Nat} (ih : Agree n) {n' room room' : Nat} {cs r r' : List Char}
    {j j' : Json} (h : value? .v10 (n + 1) room ('[' :: cs) = some (j, r))
    (h' : value? .v11 (n' + 1) room' ('[' :: cs) = some (j', r')) : j.Like j' ∧ r = r' := by
  cases room with
  | zero => cases h
  | succ room =>
    cases room' with
    | zero => cases h'
    | succ room' =>
      rw [value?] at h h'
      obtain ⟨⟨l, u⟩, hl, heq⟩ := Option.map_eq_some_iff.1 h
      obtain ⟨⟨l', u'⟩, hl', heq'⟩ := Option.map_eq_some_iff.1 h'
      obtain ⟨hitems, rfl⟩ := ih.items hl hl'
      cases heq
      cases heq'
      exact ⟨.arr hitems, rfl⟩

lemma Agree.inlineTable {n : Nat} (ih : Agree n) {n' room room' : Nat} {cs r r' : List Char}
    {j j' : Json} (h : value? .v10 (n + 1) room ('\x7b' :: cs) = some (j, r))
    (h' : value? .v11 (n' + 1) room' ('\x7b' :: cs) = some (j', r')) : j.Like j' ∧ r = r' := by
  cases room with
  | zero => cases h
  | succ room =>
    cases room' with
    | zero => cases h'
    | succ room' =>
      rw [value?] at h h'
      obtain ⟨start, start', hstart, hstart', h, h'⟩ := both_of_bind h h'
      split at h
      · obtain rfl := skipInline?_agree_cons hstart (by simp) hstart'
        cases h
        cases h'
        exact ⟨.obj List.Pairwise.nil .nil, rfl⟩
      · -- only the later edition allows a line ending before the first pair
        rename_i hclose
        obtain ⟨⟨es, u⟩, hes, heq⟩ := Option.bind_eq_some_iff.1 h
        obtain rfl := (skipInline?_agree hstart hstart').resolve_right fun hends => by
          cases (hends.pairs?_eq_none ..).symm.trans hes
        split at h'
        · exact absurd rfl (hclose _)
        · obtain ⟨⟨es', u'⟩, hes', heq'⟩ := Option.bind_eq_some_iff.1 h'
          obtain ⟨hentries, rfl⟩ := ih.pairs .nil hes hes'
          cases heq
          cases heq'
          exact ⟨.ofFields hentries.toFields, rfl⟩

lemma Agree.value_succ {n : Nat} (ih : Agree n) {n' room room' : Nat} {cs r r' : List Char}
    {j j' : Json} (h : value? .v10 (n + 1) room cs = some (j, r))
    (h' : value? .v11 (n' + 1) room' cs = some (j', r')) : j.Like j' ∧ r = r' := by
  -- the first character says what kind of value it is
  by_cases hopen : ∀ c t, cs = c :: t → c ∉ ['"', '\'', '[', '\x7b']
  · rw [value?_of_word hopen] at h h'
    exact Agree.word h h'
  · push Not at hopen
    obtain ⟨c, t, rfl, hc⟩ := hopen
    simp only [List.mem_cons, List.not_mem_nil, or_false] at hc
    rcases hc with rfl | rfl | rfl | rfl
    · rw [value?] at h h'
      exact Agree.text h h'
    · rw [value?] at h h'
      exact Agree.text h h'
    · exact ih.array h h'
    · exact ih.inlineTable h h'

/-- Values, items and pairs that both editions read, by induction on the steps of the first. -/
lemma agree (n : Nat) : Agree n := by
  induction n with
  | zero => exact ⟨fun h => (nomatch h), fun h => (nomatch h), fun _ h => (nomatch h)⟩
  | succ n ih =>
    constructor
    · intro n'
      cases n' with
      | zero => exact fun _ h' => nomatch h'
      | succ n' => exact ih.value_succ
    · intro n'
      cases n' with
      | zero => exact fun _ h' => nomatch h'
      | succ n' => exact ih.items_succ
    · intro n'
      cases n' with
      | zero => exact fun _ _ h' => nomatch h'
      | succ n' => exact ih.pairs_succ

/-! ### Lines -/

lemma line?_agree {at' next next' : List String} {es es' out out' : Entries} {cs r r' : List Char}
    (hes : LikeEntries es es') (h : line? .v10 at' es cs = some (next, out, r))
    (h' : line? .v11 at' es' cs = some (next', out', r')) :
    next = next' ∧ LikeEntries out out' ∧ r = r' := by
  unfold line? at h
  split at h
  · -- a new element of a list of tables
    rw [line?] at h'
    obtain ⟨⟨keys, t⟩, ⟨keys', t'⟩, hkeys, hkeys', h, h'⟩ := both_of_bind h h'
    obtain ⟨⟨path, key⟩, ⟨path', key'⟩, hpath, hpath', h, h'⟩ := both_of_bind h h'
    obtain ⟨rfl, rfl, rfl, rfl⟩ := keyPath?_agree hkeys hkeys' hpath hpath'
    dsimp only at h h'
    split at h
    · obtain ⟨new, hnew, h⟩ := Option.bind_eq_some_iff.1 h
      obtain ⟨new', hnew', h'⟩ := Option.bind_eq_some_iff.1 h'
      obtain ⟨rest, -, h, h'⟩ := both_of_bind_same h h'
      cases h
      cases h'
      exact ⟨rfl, hes.openElement hnew hnew', rfl⟩
    · cases h
  · -- a table
    rename_i hdouble
    rw [line?] at h'
    swap
    · exact hdouble
    obtain ⟨⟨keys, t⟩, ⟨keys', t'⟩, hkeys, hkeys', h, h'⟩ := both_of_bind h h'
    obtain ⟨⟨path, key⟩, ⟨path', key'⟩, hpath, hpath', h, h'⟩ := both_of_bind h h'
    obtain ⟨rfl, rfl, rfl, rfl⟩ := keyPath?_agree hkeys hkeys' hpath hpath'
    dsimp only at h h'
    split at h
    · obtain ⟨new, hnew, h⟩ := Option.bind_eq_some_iff.1 h
      obtain ⟨new', hnew', h'⟩ := Option.bind_eq_some_iff.1 h'
      obtain ⟨rest, -, h, h'⟩ := both_of_bind_same h h'
      cases h
      cases h'
      exact ⟨rfl, hes.openTable hnew hnew', rfl⟩
    · cases h
  · -- a key with its value
    rename_i hdouble hsingle
    rw [line?] at h'
    swap
    · exact hdouble
    swap
    · exact hsingle
    obtain ⟨⟨keys, t⟩, ⟨keys', t'⟩, hkeys, hkeys', h, h'⟩ := both_of_bind h h'
    obtain ⟨⟨path, key⟩, ⟨path', key'⟩, hpath, hpath', h, h'⟩ := both_of_bind h h'
    obtain ⟨rfl, rfl, rfl, rfl⟩ := keyPath?_agree hkeys hkeys' hpath hpath'
    dsimp only at h h'
    split at h
    · obtain ⟨⟨j, u⟩, hj, h⟩ := Option.bind_eq_some_iff.1 h
      obtain ⟨⟨j', u'⟩, hj', h'⟩ := Option.bind_eq_some_iff.1 h'
      obtain ⟨hlike, rfl⟩ := (agree _).value hj hj'
      obtain ⟨new, new', hnew, hnew', h, h'⟩ := both_of_bind h h'
      obtain ⟨rest, -, h, h'⟩ := both_of_bind_same h h'
      cases h
      cases h'
      exact ⟨rfl, hes.descend (fun _ _ _ _ _ hes => hes.addValue hlike) hnew hnew', rfl⟩
    · cases h

lemma lines?_agree {n n' : Nat} {at' : List String} {es es' out out' : Entries} {cs : List Char}
    (hes : LikeEntries es es') (h : lines? .v10 n at' es cs = some out)
    (h' : lines? .v11 n' at' es' cs = some out') : LikeEntries out out' := by
  induction n generalizing n' at' es es' cs with
  | zero => cases h
  | succ n ih =>
    cases n' with
    | zero => cases h'
    | succ n' =>
      rw [lines?] at h h'
      obtain ⟨start, -, h, h'⟩ := both_of_bind_same h h'
      split at h
      · cases h
        cases h'
        exact hes
      · rename_i hmore
        split at h'
        · exact absurd rfl hmore
        · obtain ⟨⟨next, new, rest⟩, hline, h⟩ := Option.bind_eq_some_iff.1 h
          obtain ⟨⟨next', new', rest'⟩, hline', h'⟩ := Option.bind_eq_some_iff.1 h'
          obtain ⟨rfl, hnew, rfl⟩ := line?_agree hes hline hline'
          exact ih hnew h h'

/-- A text that both editions take is the same document in both, up to the line endings of its
strings. -/
lemma parse?_agree {s : String} {d d' : Json} (h : parse? .v10 s = some d)
    (h' : parse? .v11 s = some d') :
    ∃ fields fields', d = .obj fields ∧ d' = .obj fields' ∧ d.Like d' := by
  unfold parse? at h h'
  obtain ⟨es, es', hes, hes', hd, hd'⟩ := both_of_bind h h'
  obtain rfl := Option.some.inj hd
  obtain rfl := Option.some.inj hd'
  exact ⟨_, _, rfl, rfl, .ofFields (lines?_agree .nil hes hes').toFields⟩

end TemplateMetrics.Toml
