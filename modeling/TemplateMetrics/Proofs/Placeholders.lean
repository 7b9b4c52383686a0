import TemplateMetrics.Proofs.Segments
import TemplateMetrics.Text.Replace

/-!
Texts with places for a value.

Replacing a placeholder cuts the text into the pieces between its places and joins them again with
the value in between. It goes on behind what it has put in, so a value that looks like the
placeholder is not replaced again.
-/

namespace TemplateMetrics.Text

/-- The text is the template with the value in every place of the placeholder. The pieces between
these places are kept, and none of them has the placeholder in it. -/
def Fills (placeholder value template text : String) : Prop :=
  ∃ pieces : List (List Char), (∀ piece ∈ pieces, ¬ placeholder.toList <:+: piece) ∧
    template.toList = placeholder.toList.intercalate pieces ∧
    text.toList = value.toList.intercalate pieces

variable {pattern : List Char}

lemma intercalate_cons_head (sep : List Char) (c : Char) (piece : List Char)
    (pieces : List (List Char)) :
    sep.intercalate ((c :: piece) :: pieces) = c :: sep.intercalate (piece :: pieces) := by
  cases pieces with
  | nil => simp
  | cons next rest => simp [List.intercalate_cons_cons]

/-- Replacing cuts the text at the pattern. There is always a first piece, which the characters in
front of it are added to. -/
lemma exists_pieces (hpattern : pattern ≠ []) (value : List Char) {steps : ℕ} {cs : List Char}
    (h : cs.length ≤ steps) : ∃ piece pieces,
      (∀ p ∈ piece :: pieces, ¬ pattern <:+: p) ∧
      cs = pattern.intercalate (piece :: pieces) ∧
      replaceSteps pattern value steps cs = value.intercalate (piece :: pieces) := by
  have hnil : ¬ pattern <:+: [] := mt List.infix_nil.1 hpattern
  induction steps generalizing cs with
  | zero =>
    obtain rfl : cs = [] := List.length_eq_zero_iff.1 (by omega)
    exact ⟨[], [], by simpa using hnil, by simp, by simp [replaceSteps]⟩
  | succ steps ih =>
    cases cs with
    | nil => exact ⟨[], [], by simpa using hnil, by simp, by simp [replaceSteps]⟩
    | cons c r =>
      rw [replaceSteps]
      cases hafter : afterStart? pattern (c :: r) with
      | some rest =>
        have hcs : c :: r = pattern ++ rest := Syntax.afterStart?_eq_some_iff.1 hafter
        have hlength : rest.length ≤ steps := by
          have hpos := List.length_pos_iff.2 hpattern
          have := congrArg List.length hcs
          simp only [List.length_cons, List.length_append] at this h
          omega
        obtain ⟨piece, pieces, hfree, hrest, hfill⟩ := ih hlength
        refine ⟨[], piece :: pieces, ?_, ?_, ?_⟩
        · exact List.forall_mem_cons.2 ⟨hnil, hfree⟩
        · rw [hcs, List.intercalate_cons_cons, List.nil_append, ← hrest]
        · rw [List.intercalate_cons_cons, List.nil_append, ← hfill]
      | none =>
        have hlength : r.length ≤ steps := by simpa using h
        obtain ⟨piece, pieces, hfree, hr, hfill⟩ := ih hlength
        refine ⟨c :: piece, pieces, ?_, ?_, ?_⟩
        · refine List.forall_mem_cons.2 ⟨fun hin => ?_, (List.forall_mem_cons.1 hfree).2⟩
          rcases List.infix_cons_iff.1 hin with hstart | hin
          · -- the pattern at the front of the piece would be at the front of the text
            have hprefix : pattern <+: c :: r := by
              rw [hr, ← intercalate_cons_head]
              cases pieces with
              | nil => simpa using hstart
              | cons next rest =>
                rw [List.intercalate_cons_cons, List.append_assoc]
                exact hstart.trans (List.prefix_append _ _)
            obtain ⟨rest, hrest⟩ := hprefix
            rw [Syntax.afterStart?_eq_some_iff.2 hrest.symm] at hafter
            cases hafter
          · exact (List.forall_mem_cons.1 hfree).1 hin
        · rw [intercalate_cons_head, ← hr]
        · rw [intercalate_cons_head, ← hfill]

lemma fills_replaceAll {placeholder : String} (h : placeholder.toList ≠ [])
    (value template : String) :
    Fills placeholder value template (replaceAll placeholder value template) := by
  obtain ⟨piece, pieces, hfree, htemplate, hfill⟩ :=
    exists_pieces h value.toList (le_refl template.toList.length)
  exact ⟨piece :: pieces, hfree, htemplate, by rw [replaceAll, String.toList_ofList, hfill]⟩

end TemplateMetrics.Text
