import TemplateMetrics.Proofs.Lexing
import TemplateMetrics.Proofs.Readers

/-!
The shape of the tokens of a source.

A source gives texts and constructs in any order, and the end after them (`Piece`). Within a
construct stand only the tokens of expressions, so its end is found by looking for the first token
of another kind. No piece is left of a tag that opens a raw section: the text of the section takes
its place.
-/

namespace TemplateMetrics.Syntax

/-! ### Pieces -/

/-- Tokens that stand within a construct. -/
def Token.isInner : Token → Bool
  | .name _ | .str _ | .number _ | .punct _ => true
  | _ => false

abbrev InnerToken := { t : Token // t.isInner = true }

/-- A run of text, or an output or a tag with what stands in it. -/
inductive Piece where
  | text (s : String)
  | construct (d : Delimiter) (inner : List InnerToken)

def Piece.tokens : Piece → List Token
  | .text s => [.text s]
  | .construct d inner => d.startToken :: (inner.map (·.1) ++ [d.endToken])

/-- The tags that open a raw section. -/
def rawWords : List String := ["verbatim", "raw"]

/-- Pieces that a scan leaves: no text and no name is empty, and no tag opens a raw section. -/
def Piece.Kept : Piece → Prop
  | .text s => s ≠ ""
  | .construct d inner => (∀ t ∈ inner, t.1 ≠ .name "") ∧
      ∀ word ∈ rawWords, d = .tag → inner.map (·.1) ≠ [.name word]

/-- Tokens that are those of kept pieces. -/
def Composed (ts : List Token) : Prop :=
  ∃ pieces : List Piece, (∀ p ∈ pieces, p.Kept) ∧ ts = pieces.flatMap Piece.tokens

lemma composed_nil : Composed [] := ⟨[], by simp, rfl⟩

lemma Composed.piece {p : Piece} (h : p.Kept) : Composed p.tokens :=
  ⟨[p], by simpa using h, by simp⟩

lemma Composed.append {a b : List Token} (ha : Composed a) (hb : Composed b) :
    Composed (a ++ b) := by
  obtain ⟨ps, hps, rfl⟩ := ha
  obtain ⟨qs, hqs, rfl⟩ := hb
  refine ⟨ps ++ qs, fun p hp => ?_, List.flatMap_append.symm⟩
  exact (List.mem_append.1 hp).elim (hps p) (hqs p)

/-! ### What the scan leaves -/

lemma composed_textToken (before after : Trim) (p : Position) (run : List Char) :
    Composed ((textToken before after p run).map (·.token)) := by
  unfold textToken
  dsimp only
  split
  · exact composed_nil
  · rename_i hkept
    refine Composed.piece (p := .text _) fun hempty => hkept ?_
    rw [List.isEmpty_iff]
    simpa using hempty

/-- A lexeme is a token of an expression, and a name has at least its first letter. -/
lemma isInner_readLexeme {cs read rest : List Char} {token : Token}
    (h : readLexeme cs = .ok (token, read, rest)) : token.isInner = true ∧ token ≠ .name "" := by
  unfold readLexeme at h
  split at h
  · cases h
  · rename_i c r
    split at h
    · -- a string
      split at h
      · obtain ⟨rfl, -⟩ := Prod.mk.inj (Except.ok.inj h)
        exact ⟨rfl, by simp⟩
      · cases h
    · split at h
      · -- a number
        obtain ⟨rfl, -⟩ := Prod.mk.inj (Except.ok.inj h)
        exact ⟨rfl, by simp⟩
      · split at h
        · -- a word, which has the character it starts with
          rename_i hstart
          obtain ⟨rfl, -⟩ := Prod.mk.inj (Except.ok.inj h)
          refine ⟨rfl, ?_⟩
          simp [isNamePart_of_isNameStart hstart]
        · -- a punctuation mark
          split at h
          · obtain ⟨rfl, -⟩ := Prod.mk.inj (Except.ok.inj h)
            exact ⟨rfl, by simp⟩
          · cases h

/-- The tokens of a construct, from behind its start. -/
def Closes (d : Delimiter) (ts : List Token) : Prop :=
  ∃ inner : List InnerToken, (∀ t ∈ inner, t.1 ≠ .name "") ∧ ts = inner.map (·.1) ++ [d.endToken]

lemma gives_scanExpression (d : Delimiter) (steps depth : Nat) (p : Position) (cs : List Char) :
    Gives (scanExpression d steps depth p cs) fun s => Closes d (s.tokens.map (·.token)) := by
  induction steps generalizing depth p cs with
  | zero => exact gives_error _
  | succ steps ih =>
    unfold scanExpression
    dsimp only
    split
    · exact gives_error _
    · split
      · exact gives_ok ⟨[], by simp, rfl⟩
      · split
        · exact gives_error _
        · rename_i token read rest hread
          obtain ⟨hinner, hname⟩ := isInner_readLexeme hread
          refine gives_bind (ih _ _ _) fun s hs => gives_pure ?_
          obtain ⟨inner, hnames, hs⟩ := hs
          refine ⟨⟨token, hinner⟩ :: inner, ?_, ?_⟩
          · simpa [hname] using hnames
          · simp [hs]

lemma gives_scanDelimited (d : Delimiter) (start p : Position) (cs : List Char) :
    Gives (scanDelimited d start p cs) fun s =>
      ∃ ts, Closes d ts ∧ s.tokens.map (·.token) = d.startToken :: ts :=
  gives_bind (gives_scanExpression d _ _ _ _) fun _ hs => gives_pure ⟨_, hs, rfl⟩

lemma opensRaw_iff {l : List Located} :
    opensRaw l = true ↔ ∃ word ∈ rawWords, l.map (·.token) = [.tagStart, .name word, .tagEnd] := by
  constructor
  · intro h
    unfold opensRaw at h
    split at h
    · rename_i s _ _
      exact ⟨s, by simpa [rawWords] using h, rfl⟩
    · cases h
  · rintro ⟨word, hword, hl⟩
    match l, hl with
    | [⟨_, _⟩, ⟨_, _⟩, ⟨_, _⟩], hl =>
      simp only [List.map_cons, List.map_nil, List.cons.injEq, and_true] at hl
      obtain ⟨rfl, rfl, rfl⟩ := hl
      simpa [opensRaw, rawWords] using hword

lemma gives_scanConstruct (opener : Opener) (start p : Position) (cs : List Char) :
    Gives (scanConstruct opener start p cs) fun s => Composed (s.tokens.map (·.token)) := by
  cases opener with
  | output =>
    intro s hs
    obtain ⟨_, ⟨inner, hnames, rfl⟩, htokens⟩ := gives_scanDelimited _ _ _ _ s hs
    rw [htokens]
    exact Composed.piece (p := .construct .output inner) ⟨hnames, by simp⟩
  | tag =>
    refine gives_bind (gives_scanDelimited _ _ _ _) fun s hs => ?_
    obtain ⟨_, ⟨inner, hnames, rfl⟩, htokens⟩ := hs
    split
    · split
      · exact gives_error _
      · exact gives_ok (composed_textToken ..)
    · rename_i hraw
      refine gives_pure ?_
      rw [htokens]
      -- a tag of this one word would have opened a raw section
      refine Composed.piece (p := .construct .tag inner) ⟨hnames, fun word hword _ hinner => ?_⟩
      exact hraw (opensRaw_iff.2 ⟨word, hword, by rw [htokens, hinner]; rfl⟩)
  | comment =>
    change Gives (scanComment p cs) _
    unfold scanComment
    split
    · exact gives_error _
    · exact gives_ok composed_nil

lemma gives_scan (steps : Nat) (trim : Trim) (p : Position) (cs : List Char) :
    Gives (scan steps trim p cs) fun l =>
      ∃ ts, Composed ts ∧ l.map (·.token) = ts ++ [.eof] := by
  induction steps generalizing trim p cs with
  | zero => exact gives_ok ⟨[], composed_nil, rfl⟩
  | succ steps ih =>
    unfold scan
    split
    · exact gives_ok ⟨_, composed_textToken .., List.map_append⟩
    · refine gives_bind (gives_scanConstruct _ _ _ _) fun s hs => ?_
      refine gives_bind (ih _ _ _) fun l hl => gives_pure ?_
      obtain ⟨ts, hts, hl⟩ := hl
      rw [List.map_append, List.map_append, hl, ← List.append_assoc]
      exact ⟨_, ((composed_textToken ..).append hs).append hts, rfl⟩

/-! ### What pieces are free of -/

lemma not_mem_inner {t : Token} (ht : t.isInner = false) (inner : List InnerToken) :
    t ∉ inner.map (·.1) := by
  intro hmem
  obtain ⟨u, -, rfl⟩ := List.mem_map.1 hmem
  rw [u.2] at ht
  cases ht

lemma not_mem_construct {d : Delimiter} {inner : List InnerToken} {t : Token}
    (hmark : t ∉ [.outputStart, .outputEnd, .tagStart, .tagEnd]) (hinner : t ∉ inner.map (·.1)) :
    t ∉ (Piece.construct d inner).tokens := by
  cases d <;> simp_all [Piece.tokens, Delimiter.startToken, Delimiter.endToken]

lemma Piece.Kept.not_mem {p : Piece} (h : p.Kept) :
    .eof ∉ p.tokens ∧ .text "" ∉ p.tokens ∧ .name "" ∉ p.tokens := by
  cases p with
  | text s => simpa [tokens, eq_comm, Kept] using h
  | construct d inner =>
    have hname : Token.name "" ∉ inner.map (·.1) := by
      intro hmem
      obtain ⟨u, hu, hu'⟩ := List.mem_map.1 hmem
      exact h.1 u hu hu'
    exact ⟨not_mem_construct (by simp) (not_mem_inner rfl inner),
      not_mem_construct (by simp) (not_mem_inner rfl inner), not_mem_construct (by simp) hname⟩

/-- A stretch that starts with `x` starts behind a part without `x`. -/
lemma infix_of_infix_append {x : Token} {pat a b : List Token} (hx : x ∉ a)
    (h : x :: pat <:+: a ++ b) : x :: pat <:+: b := by
  induction a with
  | nil => exact h
  | cons y a ih =>
    obtain ⟨hy, ha⟩ := List.ne_and_not_mem_of_not_mem_cons hx
    refine ih ha ?_
    rw [List.cons_append, List.infix_cons_iff, List.cons_prefix_cons] at h
    exact h.resolve_left fun hfront => hy hfront.1

/-- Only a tag of a single word starts with the tokens of one. -/
lemma eq_of_prefix_rawTag {word : String} {inner : List InnerToken} {rest : List Token}
    (h : [.name word, .tagEnd] <+: inner.map (·.1) ++ Token.tagEnd :: rest) :
    inner.map (·.1) = [.name word] := by
  match inner with
  | [] => simp at h
  | [t] => simpa [eq_comm] using h
  | t :: u :: inner =>
    have hu := u.2
    simp only [List.map_cons, List.cons_append, List.cons_prefix_cons] at h
    rw [← h.2.1] at hu
    cases hu

/-- No tag that opens a raw section stands within a piece or across pieces. -/
lemma not_infix_rawTag {word : String} (hword : word ∈ rawWords) {pieces : List Piece}
    (h : ∀ p ∈ pieces, p.Kept) :
    ¬ [.tagStart, .name word, .tagEnd] <:+: pieces.flatMap Piece.tokens ++ [.eof] := by
  induction pieces with
  | nil => simp [List.infix_cons_iff]
  | cons p ps ih =>
    intro hinfix
    refine ih (fun q hq => h q (List.mem_cons_of_mem _ hq)) ?_
    rw [List.flatMap_cons, List.append_assoc] at hinfix
    cases p with
    | text s => exact infix_of_infix_append (by simp [Piece.tokens]) hinfix
    | construct d inner =>
      -- no piece has the start of a tag but in front
      have hend : Token.tagStart ∉ inner.map (·.1) ++ [d.endToken] := by
        have hinner := not_mem_inner (t := .tagStart) rfl inner
        cases d <;> simpa [Delimiter.endToken] using hinner
      rw [Piece.tokens, List.cons_append, List.infix_cons_iff, List.cons_prefix_cons] at hinfix
      rcases hinfix with ⟨hstart, hfront⟩ | hinfix
      · -- the tag starts with this piece, so it is this piece
        cases d with
        | output => cases hstart
        | tag =>
          rw [List.append_assoc] at hfront
          exact absurd (eq_of_prefix_rawTag hfront) ((h _ List.mem_cons_self).2 word hword rfl)
      · exact infix_of_infix_append hend hinfix

/-- **The tokens of a source are well bracketed**: texts, outputs and tags with only tokens of
expressions in them, and the end after all of them. No text and no name is empty, and no tag that
opens a raw section is left. -/
theorem tokenize_wellBracketed {source : String} {located : List Located}
    (h : tokenize source = .ok located) :
    (∃ pieces : List Piece, located.map (·.token) = pieces.flatMap Piece.tokens ++ [.eof]) ∧
    .eof ∉ (located.map (·.token)).dropLast ∧
    .text "" ∉ located.map (·.token) ∧ .name "" ∉ located.map (·.token) ∧
    ∀ word ∈ ["verbatim", "raw"],
      ¬ [.tagStart, .name word, .tagEnd] <:+: located.map (·.token) := by
  obtain ⟨_, ⟨pieces, hkept, rfl⟩, htokens⟩ := gives_scan _ _ _ _ located h
  have hfree : ∀ t, (∀ p ∈ pieces, t ∉ p.tokens) → t ∉ pieces.flatMap Piece.tokens := by
    intro t ht hmem
    obtain ⟨p, hp, hmem⟩ := List.mem_flatMap.1 hmem
    exact ht p hp hmem
  have heof := hfree .eof fun p hp => (hkept p hp).not_mem.1
  have htext := hfree (.text "") fun p hp => (hkept p hp).not_mem.2.1
  have hname := hfree (.name "") fun p hp => (hkept p hp).not_mem.2.2
  rw [htokens]
  refine ⟨⟨pieces, rfl⟩, ?_, ?_, ?_, fun word hword => not_infix_rawTag hword hkept⟩
  · rwa [List.dropLast_concat]
  · simpa using htext
  · simpa using hname

/-- A raw section with delimiters in it between two texts, then a string that reads like a tag. -/
theorem tokenize_wellBracketed_rawSection :
    let source :=
      "a\x7b%- raw %\x7d\x7b\x7b x\x7b% endraw %\x7db\x7b\x7b '\x7b% raw %\x7d' \x7d\x7d"
    ∃ located, tokenize source = .ok located ∧
      located.map (·.token) = [.text "a", .text "\x7b\x7b x", .text "b", .outputStart,
        .str "\x7b% raw %\x7d", .outputEnd, .eof] ∧
      .eof ∉ (located.map (·.token)).dropLast ∧
      ¬ [.tagStart, .name "raw", .tagEnd] <:+: located.map (·.token) := by
  have h : tokenize
      "a\x7b%- raw %\x7d\x7b\x7b x\x7b% endraw %\x7db\x7b\x7b '\x7b% raw %\x7d' \x7d\x7d" =
      .ok [⟨.text "a", ⟨1, 0⟩⟩, ⟨.text "\x7b\x7b x", ⟨1, 11⟩⟩, ⟨.text "b", ⟨1, 27⟩⟩,
        ⟨.outputStart, ⟨1, 28⟩⟩, ⟨.str "\x7b% raw %\x7d", ⟨1, 31⟩⟩, ⟨.outputEnd, ⟨1, 43⟩⟩,
        ⟨.eof, ⟨1, 45⟩⟩] := by decide +kernel
  obtain ⟨-, heof, -, -, hraw⟩ := tokenize_wellBracketed h
  exact ⟨_, h, rfl, heof, hraw "raw" (by decide)⟩

end TemplateMetrics.Syntax
