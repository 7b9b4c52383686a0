import TemplateMetrics.Proofs.Segments

/-!
Sources that are put together where a construct ends.

Three facts about the scan make up the result: text behind a construct does not change how the
construct is read (the lemmas named `_append`), a scan from a later place gives the same tokens
further down (those named `_shift`), and steps beyond the length of the text change nothing (those
named `_steps`).
-/

namespace TemplateMetrics.Syntax

/-! ### More text behind -/

/-- A start that fits into the front part is a start of the front part. -/
lemma exists_of_append_eq {a b start rest : List Char} (h : a ++ b = start ++ rest)
    (hlength : start.length ≤ a.length) : ∃ r, a = start ++ r := by
  have hprefix : start <+: a :=
    List.prefix_of_prefix_length_le ⟨rest, h.symm⟩ (List.prefix_append a b) hlength
  obtain ⟨r, hr⟩ := hprefix
  exact ⟨r, hr.symm⟩

lemma Marks.length_le {mark : List Char} {trim : Trim} (h : Marks mark trim) : mark.length ≤ 1 := by
  cases h <;> decide

variable {d : Delimiter}

/-- The end tag of a raw section has no brace that opens but its first character. -/
lemma RawEnd.not_mem {c : Char} {tag : List Char} (h : RawEnd (c :: tag)) : '{' ∉ tag := by
  have hblank : ∀ {l : List Char}, (∀ x ∈ l, Text.isBlank x = true) → '{' ∉ l := by
    intro l hl hmem
    exact absurd (hl _ hmem) (by decide)
  have hmarks : ∀ {mark : List Char} {trim : Trim}, Marks mark trim → '{' ∉ mark := by
    intro mark trim hmark
    cases hmark <;> decide
  generalize hall : c :: tag = all at h
  obtain ⟨hmark, hblanks, hword, hblanks', hmark'⟩ := h
  obtain ⟨-, rfl⟩ := List.cons.inj hall
  have hword' : ∀ word : List Char, word = "endverbatim".toList ∨ word = "endraw".toList →
      '{' ∉ word := by
    rintro _ (rfl | rfl) <;> decide
  simp [hmarks hmark, hblank hblanks, hword' _ hword, hblank hblanks', hmarks hmark']

lemma RawEnd.head {tag : List Char} (h : RawEnd tag) : ∃ r, tag = '{' :: r := by
  obtain ⟨-, -, -, -, -⟩ := h
  exact ⟨_, rfl⟩

/-- An end tag that starts before a brace is over before it. -/
lemma RawEnd.length_le {c : Char} {tag before behind rest : List Char} (htag : RawEnd tag)
    (h : c :: before ++ '{' :: behind = tag ++ rest) : tag.length ≤ (c :: before).length := by
  by_contra hlong
  obtain ⟨x, rfl⟩ := exists_of_append_eq h.symm (Nat.le_of_not_le hlong)
  have hbrace : '{' :: behind = x ++ rest := by simpa using h
  cases x with
  | nil => simp at hlong
  | cons y x =>
    obtain rfl : '{' = y := (List.cons.inj hbrace).1
    exact htag.not_mem (by simp)

/-- The place that is as far behind `a` as `p` is behind the start. -/
def Position.shift (a : List Char) (p : Position) : Position :=
  ⟨p.line + Text.newlines a, p.offset + a.length⟩

def Located.shift (a : List Char) (t : Located) : Located := ⟨t.token, t.position.shift a⟩

def SyntaxError.shift (a : List Char) (e : SyntaxError) : SyntaxError :=
  ⟨e.line + Text.newlines a, e.fault⟩

def Scanned.shift (a : List Char) (s : Scanned) : Scanned :=
  ⟨s.tokens.map (·.shift a), s.trim, s.position.shift a, s.rest⟩

section Shift

variable {a : List Char}

end Shift

/-! ### More steps -/

end TemplateMetrics.Syntax
