import TemplateMetrics.Proofs.Progress

/-!
Where the end of a template is reported.

The end stands where the last text starts, and not behind it: the line feeds of a text that no
construct follows are not counted (`Falls.exists_run`). A construct that is not closed is reported
on the line of the end, since no reader goes past it (`fails_parse_end`).
-/

namespace TemplateMetrics.Syntax

open Segment

/-! ### Messages -/

/-- Of two texts that a message starts with, one starts with the other. -/
lemma prefix_or_prefix_of_append {words lead rest : String}
    (h : words.toList <+: (lead ++ rest).toList) :
    words.toList <+: lead.toList ∨ lead.toList <+: words.toList := by
  rw [String.toList_append] at h
  exact List.prefix_or_prefix_of_prefix h (List.prefix_append _ _)

lemma eq_eof_of_describe {found : Token} {rest : String}
    (h : "unexpected end of template".toList <+:
      ("unexpected " ++ (found.describe ++ rest)).toList) : found = .eof := by
  have hwords : "unexpected end of template".toList =
      ("unexpected " ++ "end of template").toList := by decide
  rw [hwords, String.toList_append, String.toList_append, List.prefix_append_right_inj] at h
  cases found <;> simp only [Token.describe, String.append_assoc] at h
  case eof => rfl
  all_goals exact absurd (prefix_or_prefix_of_append h) (by decide)

/-- What a message says first tells whether the end is reported. -/
lemma isEnd_of_message {fault : Fault}
    (h : "unexpected end of template".toList <+: fault.message.toList) : fault.isEnd = true := by
  cases fault <;> dsimp only [Fault.message] at h
  case unexpectedEnd => rfl
  case unexpectedToken found =>
    rw [← String.append_empty (s := found.describe)] at h
    exact decide_eq_true (eq_eof_of_describe h)
  case unexpectedInExpression | unexpectedHashKey =>
    rw [String.append_assoc] at h
    exact decide_eq_true (eq_eof_of_describe h)
  case expectedName | expectedTagEnd | expectedMember =>
    exact absurd (prefix_or_prefix_of_append h) (by decide)
  case unexpectedCharacter | unexpectedTag =>
    rw [String.append_assoc] at h
    exact absurd (prefix_or_prefix_of_append h) (by decide)
  case expectedPunct =>
    rw [String.append_assoc, String.append_assoc] at h
    exact absurd (prefix_or_prefix_of_append h) (by decide)
  all_goals exact absurd h (by decide)

/-! ### The last token -/

/-- Behind the last construct stands a run of text, which may be empty. -/
lemma Falls.exists_run {trim : Trim} {segments : List Segment} (h : Falls trim segments) :
    ∃ front before run, segments = front ++ [ofRun before .keep run] := by
  induction h with
  | finish => exact ⟨[], _, _, rfl⟩
  | @construct trim before _ run segments r _ _ _ ih =>
    obtain ⟨front, last, text, rfl⟩ := ih
    exact ⟨ofRun trim before run :: (segments ++ front), last, text, by simp⟩

lemma newlines_eq_zero_iff {cs : List Char} : Text.newlines cs = 0 ↔ '\n' ∉ cs := by
  rw [Text.newlines, List.countP_eq_zero]
  refine ⟨fun h hmem => h _ hmem (decide_eq_true rfl), fun h c hc hnewline => h ?_⟩
  rwa [← of_decide_eq_true hnewline]

lemma endsAt_append {init : Tokens} {last : Located} (hlast : last.token = .eof)
    (hinit : ∀ t ∈ init, t.token ≠ .eof) : EndsAt last (init ++ [last]) := by
  induction init with
  | nil => exact .last hlast
  | cons t r ih =>
    obtain ⟨ht, hr⟩ := List.forall_mem_cons.1 hinit
    exact .cons ht (ih hr)

/-- Among the tokens of a source the last one, and no other, marks the end. -/
lemma eof_only_last {source : String} {init : Tokens} {last : Located}
    (h : tokenize source = .ok (init ++ [last])) :
    last.token = .eof ∧ ∀ t ∈ init, t.token ≠ .eof := by
  obtain ⟨_, ⟨pieces, hkept, rfl⟩, htokens⟩ := gives_scan _ _ _ _ _ h
  rw [List.map_append, List.map_singleton] at htokens
  obtain ⟨hinit, hlast⟩ := List.append_inj' htokens rfl
  -- a token before the last one is a token of a piece, and no piece has the end in it
  refine ⟨List.singleton_inj.1 hlast, fun t ht heof => ?_⟩
  have hmem : Token.eof ∈ init.map (·.token) := List.mem_map.2 ⟨t, ht, heof⟩
  rw [hinit] at hmem
  obtain ⟨p, hp, hmem⟩ := List.mem_flatMap.1 hmem
  exact (hkept p hp).not_mem.1 hmem

/-- A failure that reports the end stands on the line of the end. -/
lemma fails_parse_end {source : String} {located : Tokens} {last : Located}
    (h : tokenize source = .ok located) (hends : EndsAt last located) :
    Fails (parse source) fun e => e.fault.isEnd = true → e.line = last.line := by
  have hread := (fair_context maxNesting).fails_readBody [] Scope.start located
  unfold parse
  rw [h]
  refine fails_bind (fails_ok located) ?_
  rintro _ ⟨rfl⟩
  exact fails_bind (hread.mono fun e he hend => he.ended hend last hends) fun _ _ => fails_ok _

/-- **The end of a template stands where its last text starts.** A source consists of its constructs
with what is between them, and the text behind the last one. The end is the last token and no
other, and its line is short of the last line by as many lines as that text has: it is the last line
if and only if the text has no line feed. Whatever fails because the template has ended is reported
on the line of the end. -/
theorem end_line_exact {source : String} {located : List Located}
    (h : tokenize source = .ok located) :
    ∃ front trim run init last, Falls .keep (front ++ [ofRun trim .keep run]) ∧
      texts front ++ run = source.toList ∧ located = init ++ [last] ∧ last.token = .eof ∧
      (∀ t ∈ init, t.token ≠ .eof) ∧
      last.line + Text.newlines run = 1 + Text.newlines source.toList ∧
      (last.line = 1 + Text.newlines source.toList ↔ '\n' ∉ run) ∧
      ∀ path line detail,
        Analyzer.parseTemplate path source = .error (.parse path line detail) →
        "unexpected end of template".toList <+: detail.toList → line = last.line := by
  obtain ⟨segments, hfalls, hsource, rfl⟩ :=
    gives_falls _ .keep [] source.toList (Nat.lt_succ_self _) located h
  obtain ⟨front, trim, run, rfl⟩ := hfalls.exists_run
  -- the end is placed behind all segments but the last, which is the run
  rw [List.nil_append, List.dropLast_concat] at h ⊢
  obtain ⟨hlast, hinit⟩ := eof_only_last h
  have htext : texts front ++ run = source.toList := by
    rw [hsource, texts_append, texts_cons, texts_nil, List.append_nil]
    rfl
  have hlines : (Position.behind (texts front)).line + Text.newlines run =
      1 + Text.newlines source.toList := by
    rw [← htext, newlines_append]
    exact Nat.add_assoc _ _ _
  refine ⟨front, trim, run, _, _, hfalls, htext, rfl, hlast, hinit, hlines, ?_, ?_⟩
  · rw [← newlines_eq_zero_iff, ← hlines]
    exact Nat.left_eq_add
  · intro path line detail hparse hdetail
    unfold Analyzer.parseTemplate at hparse
    split at hparse
    · cases hparse
    · rename_i e he
      obtain ⟨-, rfl, rfl⟩ := Failure.parse.inj (Except.error.inj hparse)
      exact fails_parse_end h (endsAt_append hlast hinit) e he (isEnd_of_message hdetail)

/-- A tag on the second of three lines that is not closed. -/
def openTag : String := "line1\n\x7b% if a %\x7d\nno end"

/-- What is missing at the end of the third line is reported on the second. -/
theorem end_line_exact_openTag : ∃ located, tokenize openTag = .ok located ∧
    located.map (fun t => (t.token, t.line)) = [(.text "line1\n", 1), (.tagStart, 2),
      (.name "if", 2), (.name "a", 2), (.tagEnd, 2), (.text "\nno end", 2), (.eof, 2)] ∧
    Text.newlines openTag.toList = 2 ∧
    Analyzer.parseTemplate "broken.twig" openTag = .error (.parse "broken.twig" 2
      "unexpected end of template, expected 'elseif' or 'elif' or 'else' or 'endif'") ∧
    ∃ front trim run init last, Falls .keep (front ++ [ofRun trim .keep run]) ∧
      texts front ++ run = openTag.toList ∧ located = init ++ [last] ∧ last.token = .eof ∧
      (∀ t ∈ init, t.token ≠ .eof) ∧
      last.line + Text.newlines run = 1 + Text.newlines openTag.toList ∧
      (last.line = 1 + Text.newlines openTag.toList ↔ '\n' ∉ run) ∧
      ∀ path line detail,
        Analyzer.parseTemplate path openTag = .error (.parse path line detail) →
        "unexpected end of template".toList <+: detail.toList → line = last.line := by
  have htokens : tokenize openTag = .ok [⟨.text "line1\n", ⟨1, 0⟩⟩, ⟨.tagStart, ⟨2, 6⟩⟩,
      ⟨.name "if", ⟨2, 9⟩⟩, ⟨.name "a", ⟨2, 12⟩⟩, ⟨.tagEnd, ⟨2, 14⟩⟩, ⟨.text "\nno end", ⟨2, 16⟩⟩,
      ⟨.eof, ⟨2, 16⟩⟩] := by decide +kernel
  refine ⟨_, htokens, rfl, by decide +kernel, ?_, end_line_exact htokens⟩
  with_unfolding_all rfl

end TemplateMetrics.Syntax
