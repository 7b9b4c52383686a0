import TemplateMetrics.Analysis.Input
import TemplateMetrics.Analysis.Result
import TemplateMetrics.Collect.Standard
import TemplateMetrics.Style.Lines
import TemplateMetrics.Syntax.Statement

/-!
Analysis of one template: its tree is walked once, its text is surveyed, and a few metrics are
derived from both. A template that fails gets a result of zeros under the same names.
-/

namespace TemplateMetrics

/-- Settings, and how templates are read: from a path and a text. -/
structure Analyzer where
  settings : Settings
  parse : String → String → Except Failure Syntax.Node

namespace Analyzer

def parseTemplate (path source : String) : Except Failure Syntax.Node :=
  match Syntax.parse source with
  | .ok root => .ok root
  | .error e => .error (.parse path e.line e.fault.message)

def ofSettings (settings : Settings) : Analyzer := ⟨settings, parseTemplate⟩

def derived (settings : Settings) (path source : String) (m : Metrics) : Metrics :=
  let lines := m.number "lines"
  let codeLines := m.number "code_lines"
  let logic := m.number "ifs" + m.number "fors" + m.number "sets"
  let callables := m.number "total_function_calls" + m.number "total_filter_calls" +
    Float.ofNat (m.counts "macro_calls").total
  let share := fun (a b : Float) => Json.ofFloat (Scalar.roundTo 4 (Scalar.ratio a b))
  NameMap.ofList [("file", .str (Path.fileName path)), ("directory", .str (Path.directory path)),
    ("file_size", .nat source.utf8ByteSize), ("category", .str (Path.category path)),
    ("comment_ratio", share (m.number "comment_lines") lines),
    ("blank_line_ratio", share (m.number "blank_lines") lines),
    ("logic_ratio", share logic codeLines), ("callable_density", share callables codeLines),
    ("complexity_rating",
      .str (settings.complexity.ratingLimits.rate (m.number "complexity_score"))),
    ("size_rating", .str (settings.size.ratingLimits.rate lines))]

/-- All metrics of a template. Those of the tree take precedence over those of the text. -/
def collect (settings : Settings) (path source : String) (root : Syntax.Node)
    (parents : Option Parents) : Metrics :=
  let tree := ((Collect.standard path settings parents).traverse root).metrics
  let m := tree.unionKeeping (Style.metrics settings.maxLineLength source)
  m.union (derived settings path source m)

def analyzeSource (a : Analyzer) (path source : String) (parents : Option Parents) :
    Except Failure Result := do
  let path := Path.normalize path
  let root ← a.parse path source
  return ⟨path, collect a.settings path source root parents⟩

def analyze (a : Analyzer) (input : Input) : Except Failure Result := do
  let source ← input.source
  a.analyzeSource input.path source none

/-! ### Failed templates -/

def zeroed : Json → Json
  | .int _ | .float _ => .int 0
  | .bool _ => .bool false
  | j => j

/-- Zeros under all the names that every template has. -/
def fallback (a : Analyzer) (path : String) (failure : Failure) : Result :=
  let base := collect a.settings (Path.normalize path) "" (.template []) none
  let zeros := base.map fun _ => zeroed
  ⟨path, zeros.union (NameMap.ofList [("file", .str (Path.fileName path)),
    ("directory", .str (Path.directory path)), ("category", .str "error"),
    ("complexity_rating", .str "n/a"), ("size_rating", .str "n/a"),
    ("analysis_error", .str failure.text)])⟩

/-- The result of a template, and the record of its failure if it failed. -/
def analyzeOrFallback (a : Analyzer) (input : Input) : Result × Option ErrorRecord :=
  match a.analyze input with
  | .ok r => (r, none)
  | .error f => (a.fallback input.path f, some (.ofFailure input.path f))

end Analyzer

end TemplateMetrics
