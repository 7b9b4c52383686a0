import TemplateMetrics.Proofs.References
import TemplateMetrics.Proofs.RoundTrip

/-!
Strings on their way from the source to a reference.

Between its quote marks a string stands with a backslash before every quote mark of that kind and
every backslash. The scan takes these backslashes off again, and nothing else in the string has a
meaning, not even the end of the construct. So any text at all can be the target of an include.
-/

namespace TemplateMetrics

open Syntax

namespace Syntax

/-- A string as it is written between quote marks. -/
def quoted (quote : Quote) (s : String) : String :=
  String.ofList (quote.mark :: (escape quote s.toList ++ [quote.mark]))

lemma toList_quoted (quote : Quote) (s : String) :
    (quoted quote s).toList = Lexeme.text quote (.quoted s) := String.toList_ofList

/-- The tokens of an output with one string. -/
lemma tokenize_quoted (quote : Quote) (s : String) :
    ∃ located, tokenize ("\x7b\x7b " ++ quoted quote s ++ " \x7d\x7d") = .ok located ∧
      located.map (·.token) = [.outputStart, .str s, .outputEnd, .eof] := by
  obtain ⟨start, located, last, stop, htoks, htokens⟩ :=
    tokenize_output (lexed_quoted s) rfl quote
  have hspell : spell quote [.quoted s] = Lexeme.text quote (.quoted s) := by
    rw [spell_cons, spell_nil, List.append_nil]
  rw [hspell] at htokens
  exact ⟨_, htokens, by simp [htoks, Lexeme.token?]⟩

/-! ### Includes -/

/-- A template that includes another and does nothing else. -/
def includeOf (quote : Quote) (target : String) : String :=
  "\x7b% include " ++ quoted quote target ++ " %\x7d"

lemma scans_include (quote : Quote) (target : String) (rest : List Char) :
    Scans .tag 0 (' ' :: ("include".toList ++ ' ' :: (Lexeme.text quote (.quoted target) ++
      ' ' :: (Delimiter.tag.close ++ rest)))) [.name "include", .str target] 0
      (Delimiter.tag.close ++ rest) := by
  have hspace : ∀ cs, Scans .tag 0 (' ' :: cs) [] 0 cs := fun cs => scans_blank rfl
  exact (hspace _).trans ((scans_tagWord (by decide) _).trans ((hspace _).trans
    ((scans_quoted quote target).trans (hspace _))))

lemma toList_includeOf (quote : Quote) (target : String) : (includeOf quote target).toList =
    Opener.tag.text ++ ' ' :: ("include".toList ++ ' ' :: (Lexeme.text quote (.quoted target) ++
      ' ' :: (Delimiter.tag.close ++ []))) := by
  have hopen : "\x7b% include ".toList = Opener.tag.text ++ ' ' :: ("include".toList ++ [' ']) := by
    decide
  have hclose : " %\x7d".toList = ' ' :: Delimiter.tag.close := by decide
  rw [includeOf, String.toList_append, String.toList_append, toList_quoted, hopen, hclose]
  simp only [List.append_assoc, List.cons_append, List.nil_append, List.append_nil]

lemma tokenize_includeOf (quote : Quote) (target : String) :
    ∃ ts stop, tokenize (includeOf quote target) = .ok ts ∧
      Fronts [.tagStart, .name "include", .str target, .tagEnd] ts [⟨.eof, stop⟩] := by
  obtain ⟨located, p, htoks, hscan⟩ := (scans_include quote target []).tag (by simp)
    (includeOf quote target).toList.length .first
  rw [← toList_includeOf] at hscan
  refine ⟨_, p, hscan _ (scan_nil _ p), ?_⟩
  have hfronts := fronts_map located [⟨.eof, p⟩]
  rwa [htoks] at hfronts

/-- The tree of a template that includes another. -/
def includeTree (target : String) : Node :=
  .template [.includeTag (.literal (.str target)) none ⟨true, false⟩]

lemma nodes_includeTree (target : String) : (includeTree target).nodes = [includeTree target,
    .includeTag (.literal (.str target)) none ⟨true, false⟩, .literal (.str target)] := by
  simp [includeTree, Node.nodes_eq, Node.children]

lemma readInclude_literal {room : Nat} {scope : Scope} {target : String} {p q : Position}
    (rest : Tokens) : readInclude (context (room + 1)) scope
      (⟨.str target, p⟩ :: ⟨.tagEnd, q⟩ :: rest) =
        .ok (.includeTag (.literal (.str target)) none ⟨true, false⟩, scope, rest) := by
  have hrung : rung scope (level scope room) true 10 (⟨.str target, p⟩ :: ⟨.tagEnd, q⟩ :: rest) =
      .ok (.literal (.str target), ⟨.tagEnd, q⟩ :: rest) :=
    rung_of_primary rfl (rank_peek (by decide)) (by simp [peek])
  have hexpr : (context (room + 1)).expr scope (⟨.str target, p⟩ :: ⟨.tagEnd, q⟩ :: rest) =
      .ok (.literal (.str target), ⟨.tagEnd, q⟩ :: rest) := by
    rw [Context.expr, context_inner]
    exact expr_of_rung (by simp [Node.height_eq, Node.children, maxHeight]) hrung
  rw [readInclude, includeHead]
  simp only [hexpr, bind, Except.bind]
  rfl

lemma parse_includeOf (quote : Quote) (target : String) :
    parse (includeOf quote target) = .ok (includeTree target) := by
  obtain ⟨ts, stop, htokens, hts⟩ := tokenize_includeOf quote target
  obtain _ | ⟨p, _ | ⟨q, _ | ⟨u, _ | ⟨v, ⟨⟩⟩⟩⟩⟩ := hts
  have hstray : isStray "include" = false := by decide +kernel
  have htag : (context maxNesting).tag "include" .start
      [⟨.str target, u⟩, ⟨.tagEnd, v⟩, ⟨.eof, stop⟩] =
        .ok (.includeTag (.literal (.str target)) none ⟨true, false⟩, .start, [⟨.eof, stop⟩]) :=
    readInclude_literal _
  rw [parse, htokens]
  exact readTemplate_of_item (bodyItem_tag rfl hstray htag)

end Syntax

/-- What an include without any clause says about itself. -/
def plainInclude : NameMap Json := Collect.References.includeMetadata none ⟨true, false⟩

/-- **A string means the text that was written into it**, whichever quote marks it stands in and
whatever it holds: it is the one token of its output, and an include with it records one reference
and no other, to just that text. -/
theorem quoted_text_recovered (quote : Quote) (s : String) :
    (∃ located, tokenize ("\x7b\x7b " ++ quoted quote s ++ " \x7d\x7d") = .ok located ∧
      located.map (·.token) = [.outputStart, .str s, .outputEnd, .eof]) ∧
    ∀ settings path parents, ∃ result,
      (Analyzer.ofSettings settings).analyzeSource path
        ("\x7b% include " ++ quoted quote s ++ " %\x7d") parents = .ok result ∧
      result.metrics.get? "dependencies" = some (.arr [.ofFields [("type", .str "includes"),
        ("template", .str s), ("metadata", .ofMap plainInclude)]]) ∧
      Reference.ofMetrics result.path result.metrics =
        [⟨result.path, s, .inclusion, plainInclude⟩] := by
  refine ⟨tokenize_quoted quote s, fun settings path parents => ?_⟩
  have hparse : Analyzer.parseTemplate (Path.normalize path) (includeOf quote s) =
      .ok (includeTree s) := by
    rw [Analyzer.parseTemplate, parse_includeOf]
  have hmetrics := Analyzer.get?_dependencies_collect settings (Path.normalize path)
    (includeOf quote s) (includeTree s) parents
  have hnodes : (includeTree s).nodes.filterMap
      (Collect.References.ofNode? (Path.normalize path)) =
        [⟨Path.normalize path, s, .inclusion, plainInclude⟩] := by
    rw [nodes_includeTree]
    rfl
  rw [hnodes] at hmetrics
  have hresult : (Analyzer.ofSettings settings).analyzeSource path (includeOf quote s) parents =
      .ok ⟨Path.normalize path, Analyzer.collect settings (Path.normalize path) (includeOf quote s)
        (includeTree s) parents⟩ := by
    simp only [Analyzer.analyzeSource, Analyzer.ofSettings, hparse]
    rfl
  refine ⟨_, hresult, ?_⟩
  dsimp only
  refine ⟨?_, Reference.ofMetrics_eq hmetrics (by simp)⟩
  rw [hmetrics]
  rfl

end TemplateMetrics
