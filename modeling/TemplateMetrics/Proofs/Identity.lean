import TemplateMetrics.Proofs.Accounting

/-!
The path that a template is known by.

An input takes the normal form of the path it is made for, and a template that could be analyzed
takes the normal form of that. Each time one leading `./` goes, so the second step changes nothing
unless the path starts with `./` twice (`Path.normalize_normalize_iff`). A template that failed
keeps the path of its input, whatever that is.
-/

namespace TemplateMetrics

/-! ### Normal forms -/

namespace Path

/-- The characters of a path, with `/` for every backslash. -/
def slashed (path : String) : List Char := path.toList.map fun c => if c = '\\' then '/' else c

/-- What is left without one leading `./`. -/
def withoutDot : List Char → List Char
  | '.' :: '/' :: r => r
  | cs => cs

/-- The path starts with `./` twice, where a backslash counts as a slash. -/
def RepeatsDot (path : String) : Prop := ['.', '/', '.', '/'] <+: slashed path

instance : DecidablePred RepeatsDot := fun path =>
  inferInstanceAs (Decidable (['.', '/', '.', '/'] <+: slashed path))

lemma withoutDot_of_ne {cs : List Char} (h : ∀ r, cs ≠ '.' :: '/' :: r) : withoutDot cs = cs := by
  unfold withoutDot
  split
  case h_1 r => exact absurd rfl (h r)
  case h_2 => rfl

lemma toList_normalize (path : String) : (normalize path).toList = withoutDot (slashed path) := by
  unfold normalize
  dsimp only
  split
  case h_1 r hdot =>
    rw [String.toList_ofList, slashed, hdot]
    rfl
  case h_2 hnot => rw [String.toList_ofList, slashed, withoutDot_of_ne hnot]

lemma withoutDot_subset (cs : List Char) : withoutDot cs ⊆ cs := by
  unfold withoutDot
  split
  · exact fun c hc => List.mem_cons_of_mem _ (List.mem_cons_of_mem _ hc)
  · exact fun c hc => hc

/-- A normal form has no backslash, so only its start can change. -/
lemma slashed_normalize (path : String) : slashed (normalize path) = withoutDot (slashed path) := by
  rw [slashed, toList_normalize]
  refine (List.map_congr_left fun c hc => ?_).trans (List.map_id _)
  obtain ⟨d, -, rfl⟩ := List.mem_map.1 (withoutDot_subset _ hc)
  by_cases hd : d = '\\' <;> simp [hd]

lemma withoutDot_eq_self_iff {cs : List Char} : withoutDot cs = cs ↔ ¬ ['.', '/'] <+: cs := by
  constructor
  · rintro hself ⟨r, rfl⟩
    have hlength : r.length = r.length + 2 := congrArg List.length hself
    omega
  · intro hnot
    exact withoutDot_of_ne fun r hr => hnot ⟨r, hr.symm⟩

lemma dot_withoutDot_iff {cs : List Char} :
    ['.', '/'] <+: withoutDot cs ↔ ['.', '/', '.', '/'] <+: cs := by
  by_cases hdot : ['.', '/'] <+: cs
  · obtain ⟨r, rfl⟩ := hdot
    have hrest : withoutDot (['.', '/'] ++ r) = r := rfl
    rw [hrest]
    exact (List.prefix_append_right_inj ['.', '/']).symm
  · -- what does not start with `./` once does not start with it twice
    have htwice : ¬ ['.', '/', '.', '/'] <+: cs := fun h =>
      hdot ((List.prefix_append ['.', '/'] ['.', '/']).trans h)
    rw [withoutDot_eq_self_iff.2 hdot]
    exact iff_of_false hdot htwice

/-- A second normalization changes exactly the paths that repeat the leading `./`. -/
lemma normalize_normalize_iff {path : String} :
    normalize (normalize path) = normalize path ↔ ¬ RepeatsDot path := by
  rw [← String.toList_inj, toList_normalize, slashed_normalize, toList_normalize,
    withoutDot_eq_self_iff, dot_withoutDot_iff]
  rfl

end Path

/-! ### Inputs and results -/

/-- An input that is made for a path: from a text, or from a file, whatever reading it gave. -/
inductive Input.MadeFor (path : String) : Input → Prop
  | content (content : String) : MadeFor path (ofContent path content)
  | file (source : Except Failure String) (unread) :
      MadeFor path ⟨Path.normalize path, source, unread⟩

lemma Input.MadeFor.path_eq {path : String} {input : Input} (h : input.MadeFor path) :
    input.path = Path.normalize path := by
  cases h <;> rfl

namespace Analyzer

variable {a : Analyzer} {input : Input}

lemma path_of_analyze {r : Result} (h : a.analyze input = .ok r) :
    r.path = Path.normalize input.path := by
  cases htree : a.tree input with
  | error f =>
    rw [analyze_of_tree_error htree] at h
    cases h
  | ok root =>
    obtain ⟨source, hresult⟩ := analyze_of_tree htree
    obtain rfl := Except.ok.inj (hresult.symm.trans h)
    rfl

/-- The result of an input has its path where the analysis fails, or where the path is normal. -/
lemma path_analyzeOrFallback_iff (a : Analyzer) (input : Input) :
    (a.analyzeOrFallback input).1.path = input.path ↔
      (∃ f, a.analyze input = .error f) ∨ Path.normalize input.path = input.path := by
  cases h : a.analyze input with
  | ok r => simp [analyzeOrFallback_of_ok h, path_of_analyze h]
  | error f => simp [analyzeOrFallback_of_error h, fallback]

lemma path_record (a : Analyzer) (input : Input) {e : ErrorRecord}
    (h : (a.analyzeOrFallback input).2 = some e) : e.path = input.path := by
  cases ha : a.analyze input with
  | ok r =>
    rw [analyzeOrFallback_of_ok ha] at h
    cases h
  | error f =>
    rw [analyzeOrFallback_of_error ha] at h
    cases h
    rfl

end Analyzer

namespace Batch

/-- The result at an index has the path of what its input alone results in. -/
lemma exists_result_at (a : Analyzer) {inputs : List Input} {i : Nat} {input : Input}
    (h : inputs[i]? = some input) : ∃ r, (analyze a inputs).results[i]? = some r ∧
      r.path = (a.analyzeOrFallback input).1.path := by
  have hpath := congrArg (·[i]?) (paths_results a inputs)
  simp only [List.getElem?_map, h, Option.map_some, Option.map_eq_some_iff] at hpath
  exact hpath

/-- **A template keeps the path of its input exactly where it failed or the path it was given does
not repeat the leading `./`.** Normalization is stable on exactly these paths. The record of a
failure always has the path of the input. -/
theorem result_path_eq_iff (a : Analyzer) {inputs : List Input} {i : Nat} {input : Input}
    {path : String} (hi : inputs[i]? = some input) (hmade : input.MadeFor path) :
    (Path.normalize (Path.normalize path) = Path.normalize path ↔ ¬ Path.RepeatsDot path) ∧
    (∃ r, (analyze a inputs).results[i]? = some r ∧
      (r.path = input.path ↔ (∃ f, a.analyze input = .error f) ∨ ¬ Path.RepeatsDot path)) ∧
    ∀ e, (a.analyzeOrFallback input).2 = some e → e.path = input.path := by
  obtain ⟨r, hr, hpath⟩ := exists_result_at a hi
  refine ⟨Path.normalize_normalize_iff, ⟨r, hr, ?_⟩, fun e he => a.path_record input he⟩
  rw [hpath, Analyzer.path_analyzeOrFallback_iff, hmade.path_eq, Path.normalize_normalize_iff]

theorem result_path_eq_iff_repeatedDot :
    let first := Input.ofContent "././a.twig" "a"
    let second := Input.ofContent ".\\./b.twig" "\x7b% if"
    let results := (analyze (.ofSettings .default) [first, second]).results
    (∃ r, results[0]? = some r ∧ r.path ≠ first.path) ∧
      ∃ r, results[1]? = some r ∧ r.path = second.path ∧ second.path = "./b.twig" := by
  intro first second results
  have hfirst : [first, second][0]? = some first := rfl
  have hsecond : [first, second][1]? = some second := rfl
  obtain ⟨-, ⟨r, hr, hchanged⟩, -⟩ :=
    result_path_eq_iff (.ofSettings .default) hfirst (.content "a")
  obtain ⟨-, ⟨s, hs, hkept⟩, -⟩ :=
    result_path_eq_iff (.ofSettings .default) hsecond (.content "\x7b% if")
  refine ⟨⟨r, hr, fun h => ?_⟩, s, hs, hkept.2 (.inl ?_), by decide +kernel⟩
  · rcases hchanged.1 h with hfails | hnot
    · exact absurd (Analyzer.fails_iff.1 hfails) (by decide +kernel)
    · exact hnot (by decide +kernel)
  · exact Analyzer.fails_iff.2 (by decide +kernel)

end Batch

end TemplateMetrics
