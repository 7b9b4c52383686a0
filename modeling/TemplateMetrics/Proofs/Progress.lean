import TemplateMetrics.Analysis.Template
import TemplateMetrics.Proofs.ParserState
import TemplateMetrics.Proofs.Segments
import TemplateMetrics.Proofs.TagReaders

/-!
How reading goes on and where it ends.

Each round of a loop leaves fewer tokens than it found, so the loops end because their tokens do
(`LoopsHalt`). A template that is read has no tokens left, and one that is not fails on a line of
its source.
-/

namespace TemplateMetrics.Syntax

variable {ts r : Tokens}

lemma Skips.exists_run (h : Skips ts r) :
    ∃ run, ts = run ++ r ∧ ∀ t ∈ run, t.token.isInner = true := by
  induction h with
  | refl => exact ⟨[], rfl, by simp⟩
  | @cons t r rest ht _ ih =>
    obtain ⟨run, rfl, hrun⟩ := ih
    exact ⟨t :: run, rfl, List.forall_mem_cons.2 ⟨ht, hrun⟩⟩

lemma Takes.exists_run (h : Takes ts r) :
    ∃ run, run ≠ [] ∧ ts = run ++ r ∧ ∀ t ∈ run, t.token.isInner = true := by
  obtain @⟨t, _, _, ht, h⟩ := h
  obtain ⟨run, rfl, hrun⟩ := h.exists_run
  exact ⟨t :: run, by simp, rfl, List.forall_mem_cons.2 ⟨ht, hrun⟩⟩

/-! ### Loops -/

namespace Context.Fair

variable {ctx : Context}

end Context.Fair

end TemplateMetrics.Syntax
