import TemplateMetrics.Proofs.Height
import TemplateMetrics.Proofs.Ladder
import TemplateMetrics.Proofs.Lexing

/-!
Filters at the head of a tag, of any number.

A template may apply as many filters as it likes, and each makes its tree a level taller. So the
bound on nesting and on expressions bounds a tree exactly as far as such chains are short.
-/

namespace TemplateMetrics.Syntax

/-- More filters than the one without a target. -/
def moreFilters : Nat → List Lexeme
  | 0 => []
  | k + 1 => .mark .pipe :: .word "f" :: moreFilters k

/-- A template that applies `k + 1` filters to nothing. -/
def applied (k : Nat) : String :=
  "\x7b% apply f" ++ String.ofList (spell .double (moreFilters k)) ++ " %\x7d\x7b% endapply %\x7d"

/-- The filters behind a first chain. -/
def filtered (chain : Node) : Nat → Node
  | 0 => chain
  | k + 1 => filtered (.filterCall "f" (some chain) []) k

/-! ### Scanning -/

/-- What follows the name of a filter ends it. -/
lemma head_moreFilters (k : Nat) (rest : List Char) :
    ∀ c ∈ (spell .double (moreFilters k) ++ ' ' :: rest).head?, Text.isNamePart c = false := by
  intro c hc
  cases k <;> obtain rfl := Option.some.inj hc <;> decide

lemma scans_moreFilters (k : Nat) (rest : List Char) :
    Scans .tag 0 (spell .double (moreFilters k) ++ ' ' :: rest) (tokensOf (moreFilters k)) 0
      (' ' :: rest) := by
  induction k with
  | zero => exact scans_nil
  | succ k ih =>
    have hpipe : ∀ cs, Scans .tag 0 ('|' :: cs) [.punct .pipe] 0 cs := fun cs =>
      scans_mark (p := .pipe) rfl (fun _ _ => rfl) fun _ =>
        closing?_eq_none (by decide) fun h => absurd rfl h
    exact (hpipe _).trans ((scans_word (s := "f") (by decide) (head_moreFilters k rest)).trans ih)

/-- The text of the opening tag, behind its delimiter. -/
def appliedText (k : Nat) (rest : List Char) : List Char :=
  "apply".toList ++ ' ' :: ("f".toList ++ (spell .double (moreFilters k) ++
    ' ' :: (Delimiter.tag.close ++ rest)))

/-- The text of the closing tag, behind its delimiter. -/
def endText : List Char := "endapply".toList ++ ' ' :: (Delimiter.tag.close ++ [])

lemma scans_applied (k : Nat) (rest : List Char) :
    Scans .tag 0 (' ' :: appliedText k rest)
      (.name "apply" :: .name "f" :: tokensOf (moreFilters k)) 0 (Delimiter.tag.close ++ rest) := by
  have hspace : ∀ cs, Scans .tag 0 (' ' :: cs) [] 0 cs := fun cs => scans_blank rfl
  have hfilters := (scans_word (s := "f") (by decide) (head_moreFilters k _)).trans
    ((scans_moreFilters k _).trans (hspace (Delimiter.tag.close ++ rest)))
  rw [List.append_nil] at hfilters
  have happly := scans_tagWord (s := "apply") (by decide) ("f".toList ++
    (spell .double (moreFilters k) ++ ' ' :: (Delimiter.tag.close ++ rest)))
  exact (hspace _).trans (happly.trans ((hspace _).trans hfilters))

lemma scans_endText :
    Scans .tag 0 (' ' :: endText) [.name "endapply"] 0 (Delimiter.tag.close ++ []) := by
  have hspace : ∀ cs, Scans .tag 0 (' ' :: cs) [] 0 cs := fun cs => scans_blank rfl
  have hword := scans_tagWord (s := "endapply") (by decide) (Delimiter.tag.close ++ [])
  exact (hspace _).trans (hword.trans (hspace _))

lemma toList_applied (k : Nat) : (applied k).toList =
    Opener.tag.text ++ ' ' :: appliedText k (Opener.tag.text ++ ' ' :: endText) := by
  have hmore : (String.ofList (spell .double (moreFilters k))).toList =
      spell .double (moreFilters k) := String.toList_ofList
  have happly : "\x7b% apply f".toList =
      Opener.tag.text ++ ' ' :: ("apply".toList ++ ' ' :: "f".toList) := by
    decide
  have hend : " %\x7d\x7b% endapply %\x7d".toList =
      ' ' :: (Delimiter.tag.close ++ (Opener.tag.text ++ ' ' :: endText)) := by
    decide
  rw [applied, String.toList_append, String.toList_append, hmore, happly, hend]
  simp only [appliedText, List.append_assoc, List.cons_append]

lemma tokenize_applied (k : Nat) : ∃ ts stop, tokenize (applied k) = .ok ts ∧
    Fronts (.tagStart :: .name "apply" :: .name "f" :: (tokensOf (moreFilters k) ++
      [.tagEnd, .tagStart, .name "endapply", .tagEnd])) ts [⟨.eof, stop⟩] := by
  obtain ⟨steps, hsteps⟩ : ∃ n, (applied k).toList.length = n + 1 := by
    rw [toList_applied]
    exact ⟨_, rfl⟩
  obtain ⟨tag, p, htag, hscan⟩ :=
    (scans_applied k (Opener.tag.text ++ ' ' :: endText)).tag (by simp) (steps + 1) Position.first
  obtain ⟨tag', p', htag', hscan'⟩ := scans_endText.tag (by simp) steps p
  refine ⟨tag ++ (tag' ++ [⟨.eof, p'⟩]), p', ?_, ?_⟩
  · rw [tokenize, hsteps, toList_applied]
    exact hscan _ (hscan' _ (scan_nil steps p'))
  · have hfronts := fronts_map (tag ++ tag') [⟨.eof, p'⟩]
    rw [List.map_append, htag, htag', List.append_assoc] at hfronts
    simpa using hfronts

/-! ### Reading -/

section Reading

variable {ts rest : Tokens} {k : Nat} {inner : Inner} {chain : Node}

lemma peek_moreFilters (hts : Fronts (tokensOf (moreFilters k)) ts rest)
    (hrest : peek rest = .tagEnd) : peek ts ≠ .punct .openParen := by
  cases k with
  | zero =>
    obtain ⟨⟩ := hts
    simp [hrest]
  | succ k =>
    obtain _ | ⟨p, hts⟩ := hts
    simp [peek]

lemma filterSegment_name {target : Option Node} {p : Position}
    (hts : Fronts (tokensOf (moreFilters k)) ts rest) (hrest : peek rest = .tagEnd) :
    filterSegment inner target (⟨.name "f", p⟩ :: ts) = .ok (.filterCall "f" target [], ts) := by
  have hargs : optionalArgs inner ts = .ok (none, ts) := by
    simp [optionalArgs, isPunct, peek_moreFilters hts hrest]
  simp only [filterSegment, expectName, bind, Except.bind, hargs]
  rfl

/-- Each filter takes the chain before it as its target. -/
lemma filterChain_moreFilters (hts : Fronts (tokensOf (moreFilters k)) ts rest)
    (hrest : peek rest = .tagEnd) :
    filterChain inner chain ts = .ok (filtered chain k, rest) := by
  suffices hrounds : ∀ {n}, ts.length < n →
      rounds (filterRound inner) n chain ts = .ok (filtered chain k, rest) from
    hrounds (Nat.lt_succ_self _)
  induction k generalizing chain ts with
  | zero =>
    obtain ⟨⟩ := hts
    intro n hn
    obtain ⟨n, rfl⟩ : ∃ m, n = m + 1 := ⟨n - 1, by omega⟩
    -- the tag ends here
    have hpipe : eatPunct? .pipe rest = none := eatPunct?_of_ne (by simp [hrest])
    simp only [rounds, filterRound, hpipe, filtered]
  | succ k ih =>
    obtain _ | ⟨p, _ | ⟨q, hts⟩⟩ := hts
    rename_i r
    intro n hn
    obtain ⟨n, rfl⟩ : ∃ m, n = m + 1 := ⟨n - 1, by omega⟩
    have hpipe : eatPunct? .pipe (⟨.punct .pipe, p⟩ :: ⟨.name "f", q⟩ :: r) =
        some (⟨.name "f", q⟩ :: r) := rfl
    simp only [List.length_cons] at hn
    have hmore : rounds (filterRound inner) n (.filterCall "f" (some chain) []) r =
        .ok (filtered (.filterCall "f" (some chain) []) k, rest) := ih hts (by omega)
    rw [rounds]
    generalize rounds (filterRound inner) n = next at hmore
    simp only [filterRound, hpipe, filterSegment_name hts hrest, bind, Except.bind, filtered]
    exact hmore

lemma leadingFilters_applied {p : Position} (hts : Fronts (tokensOf (moreFilters k)) ts rest)
    (hrest : peek rest = .tagEnd) :
    leadingFilters inner "apply" (⟨.name "f", p⟩ :: ts) =
      .ok (some (filtered (.filterCall "f" none []) k), rest) := by
  have htag : takesFilters "apply" = true := rfl
  simp only [leadingFilters, htag, peek, filterSegment_name hts hrest, bind, Except.bind,
    filterChain_moreFilters hts hrest]
  rfl

lemma closedBody_endapply {ctx : Context} {scope : Scope}
    (hts : Fronts [.tagStart, .name "endapply", .tagEnd] ts rest) :
    closedBody ctx "endapply" true scope ts = .ok ([], scope, rest) := by
  obtain _ | ⟨p, _ | ⟨q, _ | ⟨s, ⟨⟩⟩⟩⟩ := hts
  have hends : ["endapply"].contains "endapply" = true := rfl
  simp only [closedBody, readBody, loop, rounds, bodyRound, bodyItem, expectName, bind, Except.bind,
    hends, if_true, pure, Except.pure, skipAnyName, expectTagEnd, peek, List.tail_cons]

lemma readContainer_applied {ctx : Context} {scope : Scope}
    (hts : Fronts (.name "f" :: (tokensOf (moreFilters k) ++
      [.tagEnd, .tagStart, .name "endapply", .tagEnd])) ts rest) :
    readContainer ctx "apply" scope ts =
      .ok (.container "apply" [filtered (.filterCall "f" none []) k] [], scope, rest) := by
  obtain _ | ⟨p, hts⟩ := hts
  obtain ⟨middle, hmore, hmiddle⟩ := hts.split
  obtain _ | ⟨q, hend⟩ := hmiddle
  rename_i r
  have hpaired : pairedTags.contains "apply" = true := rfl
  have hname : "end" ++ "apply" = "endapply" := rfl
  have hbody : closedBody ctx "endapply" true scope r = .ok ([], scope, rest) :=
    closedBody_endapply hend
  simp only [readContainer, leadingFilters_applied hmore rfl, bind, Except.bind, tagArgs, loop,
    rounds, tagArgsRound, peek, expectTagEnd, if_true, List.tail_cons, hpaired, hname, hbody]
  rfl

end Reading

/-- The tree of a template that applies `k + 1` filters to nothing. -/
def appliedTree (k : Nat) : Node :=
  .template [.container "apply" [filtered (.filterCall "f" none []) k] []]

lemma parse_applied (k : Nat) : parse (applied k) = .ok (appliedTree k) := by
  obtain ⟨ts, stop, htokens, hts⟩ := tokenize_applied k
  obtain _ | ⟨p, _ | ⟨q, hts⟩⟩ := hts
  rename_i r
  have hstray : isStray "apply" = false := by decide +kernel
  have htag : (context maxNesting).tag "apply" .start r =
      .ok (.container "apply" [filtered (.filterCall "f" none []) k] [], .start, [⟨.eof, stop⟩]) :=
    readContainer_applied hts
  rw [parse, htokens]
  exact readTemplate_of_item (bodyItem_tag rfl hstray htag)

/-! ### Heights -/

lemma height_filtered (chain : Node) (k : Nat) : (filtered chain k).height = chain.height + k := by
  induction k generalizing chain with
  | zero => rfl
  | succ k ih =>
    have hone : (Node.filterCall "f" (some chain) []).height = 1 + chain.height := by
      simp [Node.height_eq (.filterCall "f" (some chain) []), Node.children]
    rw [filtered, ih, hone]
    omega

/-- Every filter makes the tree a level taller. -/
lemma height_appliedTree (k : Nat) : (appliedTree k).height = k + 3 := by
  have hfirst : (Node.filterCall "f" none []).height = 1 := rfl
  rw [appliedTree, Node.height_eq]
  simp only [Node.children, List.map_cons, List.map_nil, List.foldl_cons, List.foldl_nil]
  rw [Node.height_eq]
  simp only [Node.children, List.append_nil, List.map_cons, List.map_nil, List.foldl_cons,
    List.foldl_nil, height_filtered, hfirst]
  omega

/-- **The height of a tree**: a template keeps the bound exactly when every chain of filters at the
head of a tag in it keeps the bound, and chains of fewer than sixteen filters always do. -/
theorem parse_height_le_iff {source : String} {t : Node} (h : parse source = .ok t) :
    (t.height ≤ maxNesting + maxHeight + 16 ↔
      ∀ level chain, Leads t level chain → level + chain.height ≤ maxNesting + maxHeight + 16) ∧
    ((∀ level chain k, Leads t level chain → FilterChain k chain → k < 16) →
      t.height ≤ maxNesting + maxHeight + 16) := by
  have hfits := fits_parse h
  refine ⟨⟨fun hle level chain hleads => Nat.le_trans hleads.le_height hle, fun hshort => ?_⟩,
    fun hfew => ?_⟩
  · -- at most one chain is too tall, and then it makes the whole height
    rcases hfits with hle | ⟨level, chain, k, hleads, -, -, -, heq⟩
    · omega
    · rw [heq]
      exact hshort level chain hleads
  · -- a chain of fewer than sixteen filters is not too tall
    rcases hfits with hle | ⟨level, chain, k, hleads, hchain, hlevel, hk, heq⟩
    · omega
    · have := hfew level chain k hleads hchain
      omega

/-- Four hundred filters are too many. -/
theorem parse_height_le_iff_applied :
    parse (applied 399) = .ok (appliedTree 399) ∧ (appliedTree 399).height = 402 ∧
      ¬∀ level chain, Leads (appliedTree 399) level chain →
        level + chain.height ≤ maxNesting + maxHeight + 16 := by
  refine ⟨parse_applied 399, height_appliedTree 399, fun hshort => ?_⟩
  have hle := (parse_height_le_iff (parse_applied 399)).1.2 hshort
  rw [height_appliedTree] at hle
  exact absurd hle (by decide)

end TemplateMetrics.Syntax
