import Mathlib.Data.List.DropRight
import TemplateMetrics.Proofs.Counting
import TemplateMetrics.Proofs.Segments
import TemplateMetrics.Style.Lines

/-!
Line counts of a source text, against the text as a whole.

A survey goes from line to line and keeps only whether a comment is open. `Style.Scan` says what one
scan of an undivided text finds, and a scan may stop at every line end and go on behind it
(`Style.Scan.append`). `Text.LineAt` says where the lines of a text are without cutting it up. The
main statement `Style.line_counts` is that the counts of a survey are numbers of such lines.
-/

namespace TemplateMetrics

/-! ### Lines in place -/

namespace Text

open Syntax (newlines_append)

/-- The end of a line and what stands behind it: a line feed, which takes one carriage return with
it, or the end of the text. Behind the last line feed there is no line without text. -/
inductive LineEnd (line : List Char) : List Char → List Char → Prop
  | feed {after : List Char} (h : line.getLast? ≠ some '\r') : LineEnd line ['\n'] after
  | returned {after : List Char} : LineEnd line ['\r', '\n'] after
  | last (h : line ≠ []) : LineEnd line [] []

/-- Line `k` of a text, without its end, and all that stands before it. -/
structure LineAt (cs : List Char) (k : Nat) (before line : List Char) : Prop where
  starts : before = [] ∨ ∃ text, before = text ++ ['\n']
  number : newlines before = k
  inner : '\n' ∉ line
  ends : ∃ ending after, cs = before ++ (line ++ (ending ++ after)) ∧ LineEnd line ending after

section Pieces

variable {acc line ending after : List Char}

lemma pieces_append (h : '\n' ∉ line) :
    pieces acc (line ++ '\n' :: after) = (acc.reverse ++ (line ++ ['\n'])) :: pieces [] after := by
  induction line generalizing acc with
  | nil => simp [pieces]
  | cons c r ih =>
    obtain ⟨hc, hr⟩ : '\n' ≠ c ∧ '\n' ∉ r := by simpa using h
    simp [pieces, hc.symm, ih hr]

lemma pieces_of_not_mem (h : '\n' ∉ line) (hne : acc.reverse ++ line ≠ []) :
    pieces acc line = [acc.reverse ++ line] := by
  induction line generalizing acc with
  | nil =>
    have hacc : acc ≠ [] := by simpa using hne
    simp [pieces, hacc]
  | cons c r ih =>
    obtain ⟨hc, hr⟩ : '\n' ≠ c ∧ '\n' ∉ r := by simpa using h
    simp [pieces, hc.symm, ih hr]

lemma withoutEnd_feed (h : line.getLast? ≠ some '\r') : withoutEnd (line ++ ['\n']) = line := by
  rw [← List.head?_reverse] at h
  rw [withoutEnd, List.reverse_append]
  rcases hr : line.reverse with _ | ⟨c, r⟩
  · simp [List.reverse_eq_nil_iff.1 hr]
  · have hc : c ≠ '\r' := by simpa [hr] using h
    have hline : line = (c :: r).reverse := by rw [← hr, List.reverse_reverse]
    simp [hc, hline]

lemma withoutEnd_of_not_mem (h : '\n' ∉ line) : withoutEnd line = line := by
  rw [← List.mem_reverse] at h
  unfold withoutEnd
  split
  · simp_all
  · simp_all
  · rfl

lemma lines_append (h : '\n' ∉ line) (hend : LineEnd line ending after) :
    lines (line ++ (ending ++ after)) = line :: lines after := by
  cases hend with
  | feed hreturn =>
    have hpieces : pieces [] (line ++ (['\n'] ++ after)) = (line ++ ['\n']) :: pieces [] after :=
      pieces_append h
    rw [lines, hpieces, List.map_cons, withoutEnd_feed hreturn, lines]
  | returned =>
    -- the carriage return stands before the feed and is cut off with it
    have hmem : '\n' ∉ line ++ ['\r'] := by simpa using h
    have hsplit : line ++ (['\r', '\n'] ++ after) = line ++ ['\r'] ++ '\n' :: after := by simp
    have hpieces : pieces [] (line ++ ['\r'] ++ '\n' :: after) =
        (line ++ ['\r'] ++ ['\n']) :: pieces [] after := pieces_append hmem
    have hcut : withoutEnd (line ++ ['\r'] ++ ['\n']) = line := by simp [withoutEnd]
    rw [hsplit, lines, hpieces, List.map_cons, hcut, lines]
  | last hne =>
    have hpieces : pieces [] line = [line] := pieces_of_not_mem h hne
    simp [lines, hpieces, withoutEnd_of_not_mem h, pieces]

end Pieces

lemma exists_lineEnd {cs : List Char} (h : cs ≠ []) :
    ∃ line ending after, '\n' ∉ line ∧ LineEnd line ending after ∧
      cs = line ++ (ending ++ after) ∧ after.length < cs.length := by
  by_cases hmem : '\n' ∈ cs
  · obtain ⟨start, after, rfl, hstart⟩ := List.eq_append_cons_of_mem hmem
    by_cases hreturn : start.getLast? = some '\r'
    · obtain ⟨line, rfl⟩ := List.getLast?_eq_some_iff.1 hreturn
      refine ⟨line, _, after, fun h => hstart (List.mem_append_left _ h), .returned, by simp, ?_⟩
      simp only [List.length_append, List.length_cons]
      omega
    · refine ⟨start, _, after, hstart, .feed hreturn, rfl, ?_⟩
      simp only [List.length_append, List.length_cons]
      omega
  · exact ⟨cs, [], [], hmem, .last h, by simp, List.length_pos_of_ne_nil h⟩

/-- What holds of the empty text, and of a text if it holds behind its first line, holds of every
text. -/
lemma lines_induction {motive : List Char → Prop} (nil : motive [])
    (cons : ∀ {line ending after : List Char}, '\n' ∉ line → LineEnd line ending after →
      motive after → motive (line ++ (ending ++ after))) (cs : List Char) : motive cs := by
  induction hn : cs.length using Nat.strong_induction_on generalizing cs with
  | _ n ih =>
    by_cases h : cs = []
    · exact h ▸ nil
    · obtain ⟨line, ending, after, hline, hend, heq, hlength⟩ := exists_lineEnd h
      rw [heq]
      exact cons hline hend (ih after.length (hn ▸ hlength) after rfl)

lemma not_lineAt_nil {k : Nat} {before line : List Char} : ¬ LineAt [] k before line := by
  intro h
  obtain ⟨ending, after, heq, hend⟩ := h.ends
  have hparts : before = [] ∧ line = [] ∧ ending = [] ∧ after = [] := by simpa using heq.symm
  obtain ⟨-, rfl, rfl, -⟩ := hparts
  cases hend with
  | last hne => exact hne rfl

/-- An ending is a line feed with at most a carriage return before it, or nothing follows it. -/
lemma LineEnd.cases_feed {line ending after : List Char} (h : LineEnd line ending after) :
    (ending = [] ∧ after = []) ∨ ∃ start, ending = start ++ ['\n'] ∧ '\n' ∉ start := by
  cases h with
  | feed => exact .inr ⟨[], rfl, by simp⟩
  | returned => exact .inr ⟨['\r'], rfl, by simp⟩
  | last => exact .inl ⟨rfl, rfl⟩

lemma newlines_of_not_mem {cs : List Char} (h : '\n' ∉ cs) : newlines cs = 0 := by
  rw [newlines, List.countP_eq_zero]
  intro c hc
  have hne : c ≠ '\n' := fun heq => h (heq ▸ hc)
  simpa using hne

lemma newlines_append_feed {start rest : List Char} (h : '\n' ∉ start) :
    newlines (start ++ '\n' :: rest) = newlines rest + 1 := by
  rw [newlines_append, newlines_of_not_mem h, Nat.zero_add]
  simp [newlines]

/-- Of two line feeds in a text, the first one comes first. -/
lemma exists_of_feed {start after text rest : List Char} (hstart : '\n' ∉ start)
    (h : start ++ '\n' :: after = text ++ '\n' :: rest) :
    (text = start ∧ rest = after) ∨
      ∃ between, text = start ++ '\n' :: between ∧ after = between ++ '\n' :: rest := by
  rcases List.append_eq_append_iff.1 h with ⟨between, rfl, htail⟩ | ⟨between, rfl, htail⟩
  · rcases between with _ | ⟨c, between⟩
    · exact .inl ⟨List.append_nil _, ((List.cons.inj htail).2).symm⟩
    · obtain ⟨rfl, rfl⟩ := List.cons.inj htail
      exact .inr ⟨between, rfl, rfl⟩
  · rcases between with _ | ⟨c, between⟩
    · exact .inl ⟨(List.append_nil _).symm, (List.cons.inj htail).2⟩
    · obtain ⟨rfl, -⟩ := List.cons.inj htail
      simp at hstart

/-- The lines of a text are its first line and those of what stands behind that. -/
lemma lineAt_append_iff {first ending after : List Char} (hfirst : '\n' ∉ first)
    (hend : LineEnd first ending after) {k : Nat} {before line : List Char} :
    LineAt (first ++ (ending ++ after)) k before line ↔
      (k = 0 ∧ before = [] ∧ line = first) ∨
        ∃ n rest, k = n + 1 ∧ before = first ++ (ending ++ rest) ∧ LineAt after n rest line := by
  constructor
  · intro h
    obtain ⟨ending', after', heq, hend'⟩ := h.ends
    rcases h.starts with rfl | ⟨text, rfl⟩
    · -- both are first lines, and `lines` finds only one
      have hlines := congrArg lines heq
      rw [lines_append hfirst hend, List.nil_append, lines_append h.inner hend'] at hlines
      exact .inl ⟨h.number.symm, rfl, (List.cons.inj hlines).1.symm⟩
    rcases hend.cases_feed with ⟨rfl, rfl⟩ | ⟨start, rfl, hstart⟩
    · have hmem : '\n' ∈ text ++ ['\n'] ++ (line ++ (ending' ++ after')) := by simp
      rw [← heq, List.append_nil, List.append_nil] at hmem
      exact absurd hmem hfirst
    have hmem : '\n' ∉ first ++ start := by simp [hfirst, hstart]
    obtain ⟨rest, hstarts, hbefore, hafter⟩ : ∃ rest : List Char,
        (rest = [] ∨ ∃ text, rest = text ++ ['\n']) ∧
          text ++ ['\n'] = first ++ (start ++ ['\n'] ++ rest) ∧
          after = rest ++ (line ++ (ending' ++ after')) := by
      have hfeeds : (first ++ start) ++ '\n' :: after =
          text ++ '\n' :: (line ++ (ending' ++ after')) := by simpa using heq
      rcases exists_of_feed hmem hfeeds with ⟨rfl, rfl⟩ | ⟨between, rfl, rfl⟩
      · exact ⟨[], .inl rfl, by simp, rfl⟩
      · exact ⟨between ++ ['\n'], .inr ⟨between, rfl⟩, by simp, by simp⟩
    have hcount : newlines (text ++ ['\n']) = newlines rest + 1 := by
      rw [hbefore, ← newlines_append_feed hmem]
      simp
    exact .inr ⟨newlines rest, rest, h.number.symm.trans hcount, hbefore,
      hstarts, rfl, h.inner, ending', after', hafter, hend'⟩
  · intro h
    rcases h with ⟨rfl, rfl, rfl⟩ | ⟨n, rest, rfl, rfl, h⟩
    · exact ⟨.inl rfl, rfl, hfirst, ending, after, rfl, hend⟩
    rcases hend.cases_feed with ⟨rfl, rfl⟩ | ⟨start, rfl, hstart⟩
    · exact absurd h not_lineAt_nil
    obtain ⟨ending', after', rfl, hend'⟩ := h.ends
    have hmem : '\n' ∉ first ++ start := by simp [hfirst, hstart]
    refine ⟨.inr ?_, ?_, h.inner, ending', after', by simp, hend'⟩
    · rcases h.starts with rfl | ⟨text, rfl⟩
      · exact ⟨first ++ start, by simp⟩
      · exact ⟨first ++ start ++ '\n' :: text, by simp⟩
    · rw [← h.number, ← newlines_append_feed hmem]
      simp

lemma LineAt.unique {cs before before' line line' : List Char} {k : Nat}
    (h : LineAt cs k before line) (h' : LineAt cs k before' line') :
    before = before' ∧ line = line' := by
  induction cs using lines_induction generalizing k before before' with
  | nil => exact absurd h not_lineAt_nil
  | cons hfirst hend ih =>
    rcases (lineAt_append_iff hfirst hend).1 h with ⟨rfl, rfl, rfl⟩ | ⟨n, rest, rfl, rfl, hrest⟩
    · rcases (lineAt_append_iff hfirst hend).1 h' with ⟨-, rfl, rfl⟩ | ⟨n', _, hn, -⟩
      · exact ⟨rfl, rfl⟩
      · cases hn
    · rcases (lineAt_append_iff hfirst hend).1 h' with ⟨hn, -⟩ | ⟨n', rest', hn, rfl, hrest'⟩
      · cases hn
      · obtain rfl := Nat.succ.inj hn
        obtain ⟨rfl, rfl⟩ := ih hrest hrest'
        exact ⟨rfl, rfl⟩

lemma LineAt.exists_iff {cs before line : List Char} {k : Nat} (h : LineAt cs k before line)
    {P : List Char → List Char → Prop} :
    (∃ before line, LineAt cs k before line ∧ P before line) ↔ P before line := by
  constructor
  · intro ⟨before', line', h', hP⟩
    obtain ⟨rfl, rfl⟩ := h.unique h'
    exact hP
  · intro hP
    exact ⟨before, line, h, hP⟩

end Text

/-! ### One scan -/

namespace Style

open Syntax (Clear clear_splitAtFirst? afterStart?_eq_some_iff)

/-- What a scan looks for: the end of a comment if one is open, and the start of one otherwise. -/
def sought : Bool → List Char
  | true => ['#', '}']
  | false => ['{', '#']

/-- One scan of a text from left to right, from whether a comment is open before it to whether one
is open behind it. At the first delimiter it looks for it changes to the other state, and it goes on
behind that delimiter. -/
inductive Scan : Bool → List Char → Bool → Prop
  | rest {isOpen : Bool} {cs : List Char} (h : ¬ sought isOpen <:+: cs) : Scan isOpen cs isOpen
  | found {isOpen isOpen' : Bool} {before after : List Char}
      (first : Clear (· = sought isOpen) before (sought isOpen ++ after))
      (h : Scan (!isOpen) after isOpen') : Scan isOpen (before ++ (sought isOpen ++ after)) isOpen'

variable {isOpen isOpen' isOpen'' : Bool} {mark before rest cs x y : List Char} {c : Char}

lemma length_sought : (sought isOpen).length = 2 := by cases isOpen <;> rfl

lemma infix_append_append : mark <:+: before ++ (mark ++ rest) :=
  ⟨before, rest, List.append_assoc ..⟩

lemma not_infix_of_splitAtFirst?_eq_none (h : Text.splitAtFirst? mark cs = none) :
    ¬ mark <:+: cs := by
  have hstart : ∀ {l : List Char}, Text.afterStart? mark l = none → ¬ mark <+: l := by
    intro l hnone ⟨r, hr⟩
    rw [afterStart?_eq_some_iff.2 hr.symm] at hnone
    cases hnone
  fun_induction Text.splitAtFirst? mark cs with
  | case1 =>
    intro hinfix
    exact hstart (Option.map_eq_none_iff.1 h) (List.infix_nil.1 hinfix ▸ List.nil_prefix)
  | case2 => cases h
  | case3 c cs hnone ih =>
    intro hinfix
    rcases List.infix_cons_iff.1 hinfix with hhere | hlater
    · exact hstart hnone hhere
    · exact ih (Option.map_eq_none_iff.1 h) hlater

lemma scan_openSteps (steps : Nat) (h : cs.length ≤ steps) :
    Scan isOpen cs (openSteps steps isOpen cs) := by
  induction steps generalizing isOpen cs with
  | zero =>
    obtain rfl := List.length_eq_zero_iff.1 (Nat.le_zero.1 h)
    refine .rest fun hinfix => ?_
    have hlength := hinfix.length_le
    rw [length_sought] at hlength
    cases hlength
  | succ steps ih =>
    have hsought : (if isOpen then ['#', '}'] else ['{', '#']) = sought isOpen := by
      cases isOpen <;> rfl
    rw [openSteps, hsought]
    rcases hsplit : Text.splitAtFirst? (sought isOpen) cs with _ | ⟨before, rest⟩
    · exact .rest (not_infix_of_splitAtFirst?_eq_none hsplit)
    · obtain ⟨rfl, hclear⟩ := clear_splitAtFirst? hsplit
      refine .found hclear (ih ?_)
      simp only [List.length_append, length_sought] at h
      omega

/-- A text has one first place for a delimiter, so two scans of it agree. -/
lemma Scan.unique (h : Scan isOpen cs isOpen') (h' : Scan isOpen cs isOpen'') :
    isOpen' = isOpen'' := by
  induction h generalizing isOpen'' with
  | rest hnone =>
    cases h' with
    | rest => rfl
    | found => exact absurd infix_append_append hnone
  | @found isOpen _ before after hfirst _ ih =>
    generalize hcs : before ++ (sought isOpen ++ after) = cs at h'
    cases h' with
    | rest hnone => exact absurd (hcs ▸ infix_append_append) hnone
    | @found _ _ before' after' hfirst' h' =>
      -- each scan finds the delimiter no later than the other
      have hle := hfirst before' (sought isOpen) after' (by rw [hcs, List.append_assoc]) rfl
      have hge := hfirst' before (sought isOpen) after (by rw [← hcs, List.append_assoc]) rfl
      obtain ⟨-, htail⟩ := List.append_inj hcs (Nat.le_antisymm hle hge)
      rw [List.append_cancel_left htail] at ih
      exact ih h'

lemma scan_iff : Scan isOpen cs isOpen' ↔ openAfter isOpen cs = isOpen' := by
  have hscan : Scan isOpen cs (openAfter isOpen cs) := scan_openSteps _ le_rfl
  constructor
  · intro h
    exact hscan.unique h
  · intro h
    exact h ▸ hscan

/-! ### Scans and line ends -/

/-- A delimiter stands on one side of a character that it does not have. -/
lemma apart_of_not_mem (hc : c ∉ mark) (h : x ++ c :: y = before ++ mark ++ rest) :
    (∃ t, x = before ++ mark ++ t) ∨ ∃ t, before = x ++ c :: t ∧ y = t ++ mark ++ rest := by
  rcases List.append_eq_append_iff.1 h with ⟨t, hmark, htail⟩ | ⟨t, hx, -⟩
  · rcases t with _ | ⟨c', t⟩
    · exact .inl ⟨[], by rw [hmark, List.append_nil, List.append_nil]⟩
    obtain ⟨rfl, rfl⟩ := List.cons.inj htail
    rcases List.append_eq_append_iff.1 hmark with ⟨u, rfl, hu⟩ | ⟨u, rfl, hu⟩
    · exact absurd (hu ▸ List.mem_append_right u List.mem_cons_self) hc
    · rcases u with _ | ⟨c', u⟩
      · exact absurd ((List.nil_append mark ▸ hu) ▸ List.mem_cons_self) hc
      · obtain ⟨rfl, rfl⟩ := List.cons.inj hu
        exact .inr ⟨u, rfl, rfl⟩
  · exact .inl ⟨t, hx⟩

/-- More text at the end does not bring a delimiter forward. -/
lemma clear_append (h : Clear (· = mark) before (mark ++ rest)) :
    Clear (· = mark) before (mark ++ (rest ++ y)) := by
  intro before' mark' behind heq hmark
  subst hmark
  by_contra hlt
  have hshort : before' ++ mark' <+: before ++ mark' := by
    refine List.prefix_of_prefix_length_le ⟨behind, heq.symm⟩ ⟨rest ++ y, by simp⟩ ?_
    simp only [List.length_append]
    omega
  obtain ⟨t, ht⟩ := hshort
  refine hlt (h before' mark' (t ++ rest) ?_ rfl)
  rw [← List.append_assoc, ← ht, List.append_assoc]

lemma clear_cons (hc : c ∉ mark) (hx : ¬ mark <:+: x) (h : Clear (· = mark) before rest) :
    Clear (· = mark) (x ++ c :: before) rest := by
  intro before' mark' behind heq hmark
  subst hmark
  rw [List.append_assoc, List.cons_append] at heq
  rcases apart_of_not_mem hc heq with ⟨t, rfl⟩ | ⟨t, rfl, ht⟩
  · exact absurd ⟨before', t, rfl⟩ hx
  · have hle := h t mark' behind ht rfl
    simp only [List.length_append, List.length_cons]
    omega

/-- **A scan may stop at a character that no delimiter has and go on behind it.** -/
lemma Scan.append (hc : ∀ isOpen, c ∉ sought isOpen) (h : Scan isOpen x isOpen')
    (h' : Scan isOpen' y isOpen'') : Scan isOpen (x ++ c :: y) isOpen'' := by
  induction h with
  | @rest isOpen x hx =>
    -- `x` is passed over, so what comes first in `y` comes first in all
    cases h' with
    | rest hy =>
      refine .rest fun ⟨before, behind, heq⟩ => ?_
      rcases apart_of_not_mem (hc _) heq.symm with ⟨t, rfl⟩ | ⟨t, -, rfl⟩
      · exact hx ⟨before, t, rfl⟩
      · exact hy ⟨t, behind, rfl⟩
    | @found _ _ before after hfirst h' =>
      rw [← List.cons_append, ← List.append_assoc]
      exact .found (clear_cons (hc _) hx hfirst) h'
  | found hfirst _ ih =>
    rw [List.append_assoc, List.append_assoc]
    exact .found (clear_append hfirst) (ih h')

lemma openAfter_append {line ending after : List Char} (hend : Text.LineEnd line ending after)
    (hne : ending ≠ []) (cs : List Char) :
    openAfter isOpen (line ++ (ending ++ cs)) = openAfter (openAfter isOpen line) cs := by
  have hfeed : ∀ isOpen, '\n' ∉ sought isOpen := by decide
  have hreturn : ∀ isOpen, '\r' ∉ sought isOpen := by decide
  have hline : Scan isOpen line (openAfter isOpen line) := scan_iff.2 rfl
  have hcs : Scan (openAfter isOpen line) cs (openAfter (openAfter isOpen line) cs) :=
    scan_iff.2 rfl
  cases hend with
  | feed => exact scan_iff.1 (hline.append hfeed hcs)
  | returned =>
    -- between the two characters of the ending stands an empty text
    have hnil : Scan (openAfter isOpen line) [] (openAfter isOpen line) := scan_iff.2 rfl
    exact scan_iff.1 (hline.append hreturn (hnil.append hfeed hcs))
  | last => exact absurd rfl hne

/-! ### Kinds of lines -/

/-- Behind white space, the line starts with the start of a comment. -/
def StartsComment (line : List Char) : Prop :=
  ∃ blanks rest, (∀ c ∈ blanks, Text.isBlank c = true) ∧ line = blanks ++ (sought false ++ rest)

lemma trim_eq (line : List Char) :
    Text.trim line = (line.dropWhile Text.isBlank).rdropWhile Text.isBlank := rfl

lemma trim_eq_nil_iff {line : List Char} :
    Text.trim line = [] ↔ ∀ c ∈ line, Text.isBlank c = true := by
  rw [trim_eq, List.rdropWhile_eq_nil_iff]
  constructor
  · intro h c hc
    rw [← List.takeWhile_append_dropWhile (p := Text.isBlank) (l := line)] at hc
    rcases List.mem_append.1 hc with hc | hc
    · exact List.mem_takeWhile_imp hc
    · exact h c hc
  · intro h c hc
    exact h c ((List.dropWhile_suffix _).subset hc)

lemma rdropWhile_sought (rest : List Char) :
    (sought false ++ rest).rdropWhile Text.isBlank =
      sought false ++ rest.rdropWhile Text.isBlank := by
  induction rest using List.reverseRecOn with
  | nil => decide
  | append_singleton rest c ih =>
    by_cases hc : Text.isBlank c = true
    · rw [← List.append_assoc, List.rdropWhile_concat_pos _ _ _ hc, ih,
        List.rdropWhile_concat_pos _ _ _ hc]
    · rw [← List.append_assoc, List.rdropWhile_concat_neg _ _ _ hc,
        List.rdropWhile_concat_neg _ _ _ hc, List.append_assoc]

lemma startsWith_trim_iff {line : List Char} :
    Text.startsWith (sought false) (Text.trim line) = true ↔ StartsComment line := by
  rw [Text.startsWith, Option.isSome_iff_exists]
  constructor
  · intro ⟨r, hr⟩
    -- blanks behind the text do not reach over the delimiter
    obtain ⟨t, ht⟩ : Text.trim line <+: line.dropWhile Text.isBlank :=
      List.rdropWhile_prefix _ _
    rw [afterStart?_eq_some_iff.1 hr, List.append_assoc] at ht
    refine ⟨line.takeWhile Text.isBlank, r ++ t, fun c hc => List.mem_takeWhile_imp hc, ?_⟩
    rw [ht, List.takeWhile_append_dropWhile]
  · intro ⟨blanks, rest, hblanks, hline⟩
    have hdrop : line.dropWhile Text.isBlank = sought false ++ rest := by
      rw [hline, List.dropWhile_append_of_pos hblanks]
      rfl
    refine ⟨rest.rdropWhile Text.isBlank, afterStart?_eq_some_iff.2 ?_⟩
    rw [trim_eq, hdrop, rdropWhile_sought]

variable {line : List Char}

lemma ofLine_eq_comment_iff :
    LineKind.ofLine isOpen line = .comment ↔ isOpen = true ∨ StartsComment line := by
  rw [← startsWith_trim_iff, LineKind.ofLine]
  cases isOpen with
  | true => simp
  | false =>
    by_cases hempty : Text.trim line = []
    · simp [hempty, sought, Text.startsWith, Text.afterStart?]
    · by_cases hstart : Text.startsWith ['{', '#'] (Text.trim line) = true <;>
        simp [hempty, hstart, sought]

lemma ofLine_eq_blank_iff : LineKind.ofLine isOpen line = .blank ↔
    isOpen = false ∧ ∀ c ∈ line, Text.isBlank c = true := by
  rw [← trim_eq_nil_iff, LineKind.ofLine]
  cases isOpen with
  | true => simp
  | false =>
    by_cases hempty : Text.trim line = []
    · simp [hempty]
    · by_cases hstart : Text.startsWith ['{', '#'] (Text.trim line) = true <;>
        simp [hempty, hstart]

/-- What a line counts as depends on the line and on a scan of all that stands before it. -/
lemma getElem?_lineKinds (cs : List Char) (isOpen : Bool) (k : Nat) (kind : LineKind) :
    (lineKinds isOpen (Text.lines cs))[k]? = some kind ↔
      ∃ before line, Text.LineAt cs k before line ∧
        LineKind.ofLine (openAfter isOpen before) line = kind := by
  induction cs using Text.lines_induction generalizing isOpen k with
  | nil =>
    constructor
    · intro h
      cases h
    · intro ⟨_, _, hat, _⟩
      exact absurd hat Text.not_lineAt_nil
  | @cons first ending after hfirst hend ih =>
    -- a line that follows stands behind an ending, which no delimiter reaches over
    have hstep : ∀ {n : Nat} {rest line : List Char}, Text.LineAt after n rest line →
        openAfter isOpen (first ++ (ending ++ rest)) = openAfter (openAfter isOpen first) rest := by
      intro n rest line hat
      rcases hend.cases_feed with ⟨-, rfl⟩ | ⟨start, rfl, -⟩
      · exact absurd hat Text.not_lineAt_nil
      · exact openAfter_append hend (by simp) rest
    rw [Text.lines_append hfirst hend, lineKinds]
    cases k with
    | zero =>
      rw [List.getElem?_cons_zero, Option.some_inj]
      constructor
      · intro hkind
        exact ⟨[], first, (Text.lineAt_append_iff hfirst hend).2 (.inl ⟨rfl, rfl, rfl⟩), hkind⟩
      · intro ⟨before, line, hat, hkind⟩
        rcases (Text.lineAt_append_iff hfirst hend).1 hat with ⟨-, rfl, rfl⟩ | ⟨n, rest, hn, -⟩
        · exact hkind
        · cases hn
    | succ k =>
      rw [List.getElem?_cons_succ, ih]
      constructor
      · intro ⟨rest, line, hat, hkind⟩
        refine ⟨_, line,
          (Text.lineAt_append_iff hfirst hend).2 (.inr ⟨k, rest, rfl, rfl, hat⟩), ?_⟩
        rw [hstep hat, hkind]
      · intro ⟨before, line, hat, hkind⟩
        rcases (Text.lineAt_append_iff hfirst hend).1 hat with
          ⟨hk, -, -⟩ | ⟨n, rest, hn, rfl, hrest⟩
        · cases hk
        · obtain rfl := Nat.succ.inj hn
          exact ⟨rest, line, hrest, hstep hrest ▸ hkind⟩

/-! ### Counts -/

/-- The numbers of the lines of a text. -/
def lineNumbers (cs : List Char) : Set Nat := {k | ∃ before line, Text.LineAt cs k before line}

/-- The lines that start inside a comment or with one. -/
def commentLines (cs : List Char) : Set Nat :=
  {k | ∃ before line, Text.LineAt cs k before line ∧
    (Scan false before true ∨ StartsComment line)}

/-- The lines of white space alone that start outside comments. -/
def blankLines (cs : List Char) : Set Nat :=
  {k | ∃ before line, Text.LineAt cs k before line ∧
    Scan false before false ∧ ∀ c ∈ line, Text.isBlank c = true}

variable {k : Nat}

lemma mem_commentLines :
    k ∈ commentLines cs ↔ (lineKinds false (Text.lines cs))[k]? = some .comment := by
  simp only [getElem?_lineKinds, ofLine_eq_comment_iff, ← scan_iff]
  rfl

lemma mem_blankLines :
    k ∈ blankLines cs ↔ (lineKinds false (Text.lines cs))[k]? = some .blank := by
  simp only [getElem?_lineKinds, ofLine_eq_blank_iff, ← scan_iff]
  rfl

lemma mem_lineNumbers :
    k ∈ lineNumbers cs ↔ ∃ kind, (lineKinds false (Text.lines cs))[k]? = some kind := by
  constructor
  · intro ⟨before, line, hat⟩
    exact ⟨_, (getElem?_lineKinds ..).2 ⟨before, line, hat, rfl⟩⟩
  · intro ⟨kind, hkind⟩
    obtain ⟨before, line, hat, -⟩ := (getElem?_lineKinds ..).1 hkind
    exact ⟨before, line, hat⟩

lemma mem_codeLines : k ∈ lineNumbers cs \ (commentLines cs ∪ blankLines cs) ↔
    (lineKinds false (Text.lines cs))[k]? = some .code := by
  rw [Set.mem_sdiff, Set.mem_union, mem_lineNumbers, mem_commentLines, mem_blankLines]
  constructor
  · intro ⟨⟨kind, hkind⟩, hother⟩
    cases kind with
    | code => exact hkind
    | blank => exact absurd (.inr hkind) hother
    | comment => exact absurd (.inl hkind) hother
  · intro hkind
    simp [hkind]

lemma length_eq_sum_count (l : List LineKind) :
    l.length = l.count .code + l.count .blank + l.count .comment := by
  induction l with
  | nil => rfl
  | cons kind r ih =>
    rw [List.length_cons, ih]
    cases kind <;> simp <;> omega

/-- What is left of the lines without the blank ones and the comments is the lines of code. -/
lemma Survey.codeLines_eq (s : Survey) : s.codeLines = s.count .code := by
  have hsum : s.lineCount = s.count .code + s.count .blank + s.count .comment :=
    length_eq_sum_count s.kinds
  rw [Survey.codeLines, hsum, Nat.add_assoc, ← Nat.sub_add_eq, Nat.add_sub_cancel_right]

lemma sum_count_indented_le (l : List Indentation) :
    l.count .tabs + l.count .spaces + l.count .mixed ≤ l.length := by
  induction l with
  | nil => simp
  | cons indentation r ih =>
    rw [List.length_cons]
    cases indentation <;> simp <;> omega

lemma ncard_lineNumbers (cs : List Char) :
    (lineNumbers cs).ncard = (lineKinds false (Text.lines cs)).length := by
  rw [← List.length_range (n := (lineKinds false (Text.lines cs)).length)]
  refine ncard_eq_length List.nodup_range fun k => ?_
  rw [mem_lineNumbers, List.mem_range]
  constructor
  · intro ⟨kind, hkind⟩
    exact (List.getElem?_eq_some_iff.1 hkind).1
  · intro hlt
    exact ⟨_, List.getElem?_eq_getElem hlt⟩

lemma length_lineKinds (isOpen : Bool) (ls : List (List Char)) :
    (lineKinds isOpen ls).length = ls.length := by
  induction ls generalizing isOpen with
  | nil => rfl
  | cons line r ih => rw [lineKinds, List.length_cons, List.length_cons, ih]

lemma get?_metrics (limit : Nat) (source : String) :
    let m := metrics limit source
    let s := survey source
    m.get? "lines" = some (.nat s.lineCount) ∧
      m.get? "code_lines" = some (.nat s.codeLines) ∧
      m.get? "blank_lines" = some (.nat (s.count .blank)) ∧
      m.get? "comment_lines" = some (.nat (s.count .comment)) ∧
      m.get? "long_lines" = some (.nat (s.longLines limit)) ∧
      m.get? "trailing_whitespace_lines" = some (.nat s.trailing) ∧
      m.get? "tab_indented_lines" = some (.nat (s.indented .tabs)) ∧
      m.get? "space_indented_lines" = some (.nat (s.indented .spaces)) ∧
      m.get? "mixed_indentation_lines" = some (.nat (s.indented .mixed)) := by
  intro m s
  refine ⟨?_, ?_, ?_, ?_, ?_, ?_, ?_, ?_, ?_⟩ <;>
    exact NameMap.get?_ofList_of_mem (by simp) (by simp [s])

/-- **The line counts divide a source text and follow its comments.** A line counts as a comment if
a scan of all the text before it ends inside a comment or if the line starts with one. It counts as
blank if that scan ends outside comments and the line is white space, and as code if it is neither.
Each count is the number of such lines, and the three of them add up to the number of all lines.
Lines indented in one way or another are at most as many, and so are long lines and lines that end
in blanks. -/
theorem line_counts (limit : Nat) (source : String) :
    let m := metrics limit source
    let cs := source.toList
    let code := lineNumbers cs \ (commentLines cs ∪ blankLines cs)
    (∀ k before line, Text.LineAt cs k before line →
      (k ∈ commentLines cs ↔ Scan false before true ∨ StartsComment line) ∧
      (k ∈ blankLines cs ↔ Scan false before false ∧ ∀ c ∈ line, Text.isBlank c = true)) ∧
    (m.get? "lines" = some (.nat (lineNumbers cs).ncard) ∧
      m.get? "comment_lines" = some (.nat (commentLines cs).ncard) ∧
      m.get? "blank_lines" = some (.nat (blankLines cs).ncard) ∧
      m.get? "code_lines" = some (.nat code.ncard)) ∧
    (lineNumbers cs).ncard = code.ncard + (blankLines cs).ncard + (commentLines cs).ncard ∧
    ∃ tabs spaces mixed long trailing : Nat,
      (m.get? "tab_indented_lines" = some (.nat tabs) ∧
        m.get? "space_indented_lines" = some (.nat spaces) ∧
        m.get? "mixed_indentation_lines" = some (.nat mixed) ∧
        m.get? "long_lines" = some (.nat long) ∧
        m.get? "trailing_whitespace_lines" = some (.nat trailing)) ∧
      tabs + spaces + mixed ≤ (lineNumbers cs).ncard ∧ long ≤ (lineNumbers cs).ncard ∧
        trailing ≤ (lineNumbers cs).ncard := by
  intro m cs code
  have hall : (lineNumbers cs).ncard = (survey source).lineCount := ncard_lineNumbers cs
  have hcode : code.ncard = (survey source).codeLines := by
    rw [Survey.codeLines_eq]
    exact ncard_eq_count fun _ => mem_codeLines
  have hcomment : (commentLines cs).ncard = (survey source).count .comment :=
    ncard_eq_count fun _ => mem_commentLines
  have hblank : (blankLines cs).ncard = (survey source).count .blank :=
    ncard_eq_count fun _ => mem_blankLines
  have hlength : (survey source).lineCount = (Text.lines cs).length := length_lineKinds ..
  obtain ⟨hm, hmcode, hmblank, hmcomment, hmlong, hmtrailing, hmtabs, hmspaces, hmmixed⟩ :=
    get?_metrics limit source
  rw [hall, hcode, hcomment, hblank]
  refine ⟨fun k before line hat => ⟨hat.exists_iff, hat.exists_iff⟩,
    ⟨hm, hmcomment, hmblank, hmcode⟩, ?_, _, _, _, _, _,
    ⟨hmtabs, hmspaces, hmmixed, hmlong, hmtrailing⟩, ?_, ?_, ?_⟩
  · rw [Survey.codeLines_eq]
    exact length_eq_sum_count _
  · rw [hlength, ← List.length_map Indentation.ofLine]
    exact sum_count_indented_le _
  · rw [hlength, ← List.length_map Text.width]
    exact List.countP_le_length
  · rw [hlength]
    exact List.countP_le_length

/-- A line without text counts as a comment, not as blank, inside a comment of three lines. -/
theorem line_counts_inside :
    let cs := "\x7b#\r\n\n#\x7d".toList
    Text.LineAt cs 1 ['{', '#', '\r', '\n'] [] ∧ 1 ∈ commentLines cs ∧ 1 ∉ blankLines cs := by
  intro cs
  have hat : Text.LineAt cs 1 ['{', '#', '\r', '\n'] [] :=
    ⟨.inr ⟨['{', '#', '\r'], rfl⟩, rfl, List.not_mem_nil, ['\n'], ['#', '}'], rfl, .feed (by simp)⟩
  have hscan : Scan false ['{', '#', '\r', '\n'] true := scan_iff.2 (by decide)
  obtain ⟨hcomment, hblank⟩ := (line_counts 80 "\x7b#\r\n\n#\x7d").1 1 _ _ hat
  refine ⟨hat, hcomment.2 (.inl hscan), fun h => ?_⟩
  exact absurd ((hblank.1 h).1.unique hscan) (by decide)

end Style

end TemplateMetrics
