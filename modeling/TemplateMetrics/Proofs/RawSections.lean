import TemplateMetrics.Proofs.Boundaries

/-!
Raw sections, whose text is taken as it stands.

The end of a section is the first end tag behind its opening tag. An end tag never reaches into
another, so the one that is written behind a text without end tags is found where it stands, and
what comes before it is the text.
-/

namespace TemplateMetrics.Syntax

/-- A raw section and nothing else. -/
def rawSection (word text : String) : String :=
  "\x7b% " ++ word ++ " %\x7d" ++ text ++ "\x7b% end" ++ word ++ " %\x7d"

/-! ### End tags -/

lemma RawEnd.ne_nil {tag : List Char} (h : RawEnd tag) : tag ≠ [] := by
  obtain ⟨r, rfl⟩ := h.head
  exact List.cons_ne_nil _ _

/-- A text has no end of a raw section if and only if no end tag stands in it. -/
lemma splitRaw?_eq_none_iff {cs : List Char} :
    splitRaw? cs = none ↔ ∀ tag, RawEnd tag → ¬ tag <:+: cs := by
  induction cs with
  | nil =>
    refine ⟨fun _ tag htag hinfix => htag.ne_nil (List.infix_nil.1 hinfix), fun _ => rfl⟩
  | cons c r ih =>
    have hhere : rawEnd? (c :: r) = none ↔ ∀ tag, RawEnd tag → ¬ tag <+: c :: r := by
      constructor
      · rintro hnone tag htag ⟨rest, hrest⟩
        rw [rawEnd?_eq_some_iff.2 ⟨htag, hrest.symm⟩] at hnone
        cases hnone
      · intro h
        refine Option.eq_none_iff_forall_ne_some.2 ?_
        rintro ⟨tag, rest⟩ hsome
        obtain ⟨htag, hrest⟩ := rawEnd?_eq_some_iff.1 hsome
        exact h tag htag ⟨rest, hrest.symm⟩
    have hsplit : splitRaw? (c :: r) = none ↔ rawEnd? (c :: r) = none ∧ splitRaw? r = none := by
      rw [splitRaw?]
      cases rawEnd? (c :: r) <;> simp
    simp only [hsplit, hhere, ih, List.infix_cons_iff, not_or]
    exact forall₂_and.symm

/-- A text without end tags is all that stands before the end tag behind it. -/
lemma splitRaw?_append_rawEnd {body endTag : List Char} (hend : RawEnd endTag)
    (h : ∀ tag, RawEnd tag → ¬ tag <:+: body) (rest : List Char) :
    splitRaw? (body ++ (endTag ++ rest)) = some (body, endTag, rest) := by
  obtain ⟨e, rfl⟩ := hend.head
  induction body with
  | nil => rw [List.nil_append, List.cons_append, splitRaw?, ← List.cons_append,
      rawEnd?_eq_some_iff.2 ⟨hend, rfl⟩]
  | cons c r ih =>
    -- an end tag that starts in the text would end there, since the tag behind it has its own brace
    have hnone : rawEnd? (c :: (r ++ ('{' :: e ++ rest))) = none := by
      refine Option.eq_none_iff_forall_ne_some.2 ?_
      rintro ⟨tag, rest'⟩ hsome
      obtain ⟨htag, heq⟩ := rawEnd?_eq_some_iff.1 hsome
      have hlength : tag.length ≤ (c :: r).length := htag.length_le heq
      obtain ⟨r', hr'⟩ := exists_of_append_eq (a := c :: r) heq hlength
      exact h tag htag ⟨[], r', by rw [hr', List.nil_append]⟩
    have hrest := ih fun tag htag hinfix => h tag htag (List.infix_cons hinfix)
    rw [List.cons_append, splitRaw?, hnone, hrest]
    rfl

/-! ### The section -/

/-- Where nothing is trimmed, a run is a token unless it is empty. -/
lemma textToken_keep (p : Position) (text : String) :
    textToken .keep .keep p text.toList = if text = "" then [] else [⟨.text text, p⟩] := by
  have hkeep : ∀ cs : List Char, cs.dropWhile Trim.keep.removes = cs := by
    intro cs
    cases cs <;> rfl
  simp only [textToken, hkeep, Text.dropRight, List.reverse_reverse, List.isEmpty_iff,
    String.ofList_toList, String.toList_eq_nil_iff]

lemma scans_oneWord {word : String} (hword : isIdentifier word = true) (rest : List Char) :
    Scans .tag 0 (' ' :: (word.toList ++ ' ' :: (Delimiter.tag.close ++ rest))) [.name word] 0
      (Delimiter.tag.close ++ rest) :=
  (scans_blank rfl).trans ((scans_tagWord hword _).trans (scans_blank rfl))

lemma scan_rawSection {word : String} (hword : word ∈ rawWords) {body endTag : List Char}
    (hend : RawEnd endTag) (h : ∀ tag, RawEnd tag → ¬ tag <:+: body) (steps : Nat) (p : Position) :
    ∃ p' stop, scan (steps + 1) .keep p (Opener.tag.text ++ ' ' :: (word.toList ++
      ' ' :: (Delimiter.tag.close ++ (body ++ (endTag ++ []))))) =
        .ok (textToken .keep .keep p' body ++ [⟨.eof, stop⟩]) := by
  have hidentifier : isIdentifier word = true := by
    revert word
    decide
  obtain ⟨located, last, p', htoks, hscan⟩ := (scans_oneWord hidentifier (body ++ (endTag ++ [])))
    |>.delimited (p.after []) ((p.after []).after Opener.tag.text)
  -- a tag of one such word opens a section
  have hopens : opensRaw (⟨.tagStart, p.after []⟩ :: (located ++ [⟨.tagEnd, last⟩])) = true :=
    opensRaw_iff.2 ⟨word, hword, by simp [htoks]⟩
  refine ⟨p', p'.after (body ++ endTag), ?_⟩
  rw [scan_construct, scanConstruct, scanTag, hscan]
  simp only [bind, Except.bind, Delimiter.startToken, Delimiter.endToken, hopens, if_true,
    splitRaw?_append_rawEnd hend h, scan_nil]
  rfl

lemma rawEnd_endTag {word : String} (hword : word ∈ rawWords) :
    RawEnd ("\x7b% end".toList ++ (word.toList ++ " %\x7d".toList)) := by
  have hblank : ∀ c ∈ [' '], Text.isBlank c = true := by simp [Text.isBlank]
  rcases List.mem_pair.1 hword with rfl | rfl
  · exact .mk .none hblank (.inl rfl) hblank .none
  · exact .mk .none hblank (.inr rfl) hblank .none

lemma toList_rawSection (word text : String) : (rawSection word text).toList =
    Opener.tag.text ++ ' ' :: (word.toList ++ ' ' :: (Delimiter.tag.close ++ (text.toList ++
      ("\x7b% end".toList ++ (word.toList ++ " %\x7d".toList) ++ [])))) := by
  have hopen : "\x7b% ".toList = Opener.tag.text ++ [' '] := by decide
  have hclose : " %\x7d".toList = ' ' :: Delimiter.tag.close := by decide
  simp only [rawSection, String.toList_append, hopen, hclose, List.append_assoc, List.cons_append,
    List.nil_append, List.append_nil]

/-- **A raw section is transparent**: a text in which no end tag stands is the only token of its
section, and the only node of its tree, whatever delimiters, quotes and brackets it has. An empty
text leaves nothing. -/
theorem rawSection_transparent {word : String} (hword : word ∈ rawWords) {text : String}
    (h : ∀ tag, RawEnd tag → ¬ tag <:+: text.toList) :
    (∃ located, tokenize (rawSection word text) = .ok located ∧
      located.map (·.token) = (if text = "" then [] else [.text text]) ++ [.eof]) ∧
    parse (rawSection word text) = .ok (.template (if text = "" then [] else [.text text])) := by
  obtain ⟨p, stop, htokens⟩ := scan_rawSection hword (rawEnd_endTag hword) h
    (rawSection word text).toList.length .first
  rw [← toList_rawSection, textToken_keep] at htokens
  refine ⟨⟨_, htokens, ?_⟩, ?_⟩
  · split <;> rfl
  · rw [parse, tokenize, htokens]
    split <;> rfl

/-- Delimiters of every kind, an end tag cut short, and a quote and brackets that stay open. -/
def unbalanced : String :=
  "\x7b\x7b x|f('\n \x7b# \x7b%- endverbatim \x7d\x7d %\x7d\x7b% raw %\x7d\x7b%\x7b"

theorem rawSection_transparent_unbalanced :
    (∀ tag, RawEnd tag → ¬ tag <:+: unbalanced.toList) ∧
    (∃ located, tokenize (rawSection "raw" unbalanced) = .ok located ∧
      located.map (·.token) = [.text unbalanced, .eof]) ∧
    parse (rawSection "raw" unbalanced) = .ok (.template [.text unbalanced]) := by
  have h : ∀ tag, RawEnd tag → ¬ tag <:+: unbalanced.toList :=
    splitRaw?_eq_none_iff.1 (by decide +kernel)
  have hne : unbalanced ≠ "" := by decide
  have htransparent := @rawSection_transparent "raw" (by decide) unbalanced h
  rw [if_neg hne] at htransparent
  exact ⟨h, htransparent⟩

end TemplateMetrics.Syntax
