import TemplateMetrics.Metrics
import TemplateMetrics.Scalar
import TemplateMetrics.Style.Naming
import TemplateMetrics.Text.Lines
import TemplateMetrics.Text.Width

/-!
Layout of the lines of a source text. It needs no tree, so a template that cannot be parsed has
these metrics too.
-/

namespace TemplateMetrics.Style

open Text

inductive Indentation where
  | none
  | tabs
  | spaces
  | mixed
deriving Repr, DecidableEq

/-- The indentation of a line. A line of blanks alone has none. -/
def Indentation.ofLine (line : List Char) : Indentation :=
  let leading := line.takeWhile isIndent
  if leading.length = line.length then .none
  else
    match leading.contains '\t', leading.contains ' ' with
    | false, false => .none
    | true, false => .tabs
    | false, true => .spaces
    | true, true => .mixed

/-! ### Comments -/

/-- Whether a comment is open behind a text, given whether one was open before it. Every delimiter
takes two characters, so `steps` beyond the length are never used. -/
def openSteps : Nat → Bool → List Char → Bool
  | 0, isOpen, _ => isOpen
  | steps + 1, isOpen, cs =>
    match splitAtFirst? (if isOpen then ['#', '\x7d'] else ['\x7b', '#']) cs with
    | some (_, r) => openSteps steps (!isOpen) r
    | none => isOpen

def openAfter (isOpen : Bool) (line : List Char) : Bool := openSteps line.length isOpen line

inductive LineKind where
  | code
  | blank
  | comment
deriving Repr, DecidableEq

/-- The kind of a line, given whether a comment is open at its start. -/
def LineKind.ofLine (isOpen : Bool) (line : List Char) : LineKind :=
  let text := trim line
  if isOpen then .comment
  else if text.isEmpty then .blank
  else if startsWith ['\x7b', '#'] text then .comment
  else .code

def lineKinds : Bool → List (List Char) → List LineKind
  | _, [] => []
  | isOpen, line :: r => .ofLine isOpen line :: lineKinds (openAfter isOpen line) r

/-! ### The survey -/

structure Survey where
  kinds : List LineKind
  widths : List Nat
  indentations : List Indentation
  trailing : Nat
  chars : Nat
  names : List String

def survey (source : String) : Survey :=
  let cs := source.toList
  let ls := lines cs
  { kinds := lineKinds false ls
    widths := ls.map width
    indentations := ls.map Indentation.ofLine
    trailing := ls.countP fun line => line.getLast?.any isIndent
    chars := cs.length
    names := declaredNames cs }

namespace Survey

def lineCount (s : Survey) : Nat := s.kinds.length

def count (s : Survey) (kind : LineKind) : Nat := s.kinds.count kind

/-- Lines that are neither blank nor comments. -/
def codeLines (s : Survey) : Nat := s.lineCount - s.count .blank - s.count .comment

def longLines (s : Survey) (limit : Nat) : Nat := s.widths.countP (limit < ·)

def indented (s : Survey) (i : Indentation) : Nat := s.indentations.count i

def meanWidth (s : Survey) : Float :=
  if s.widths.isEmpty then 0.0
  else Float.ofNat (s.widths.foldl (· + ·) 0) / Float.ofNat s.widths.length

/-- The indentation of the whole text: mixed if a line is, or if lines differ. -/
def indentationStyle (s : Survey) : String :=
  let tabs := 0 < s.indented .tabs
  let spaces := 0 < s.indented .spaces
  if 0 < s.indented .mixed ∨ tabs ∧ spaces then "mixed"
  else if tabs then "tabs"
  else if spaces then "spaces"
  else "none"

end Survey

/-- Style metrics of a source text; lines wider than `limit` are long. -/
def metrics (limit : Nat) (source : String) : Metrics :=
  let s := survey source
  let naming := Naming.ofNames s.names
  NameMap.ofList [("lines", .nat s.lineCount), ("code_lines", .nat s.codeLines),
    ("blank_lines", .nat (s.count .blank)), ("comment_lines", .nat (s.count .comment)),
    ("chars", .nat s.chars), ("avg_line_length", .ofFloat (Scalar.roundTo 2 s.meanWidth)),
    ("max_line_length", .nat (s.widths.foldl max 0)), ("long_lines", .nat (s.longLines limit)),
    ("trailing_whitespace_lines", .nat s.trailing),
    ("tab_indented_lines", .nat (s.indented .tabs)),
    ("space_indented_lines", .nat (s.indented .spaces)),
    ("mixed_indentation_lines", .nat (s.indented .mixed)),
    ("indentation_style", .str s.indentationStyle), ("declared_names", .strs s.names),
    ("naming_patterns", .ofCounts naming.counts),
    ("dominant_naming_pattern", .str naming.dominant),
    ("naming_consistency", .ofFloat (Scalar.roundTo 2 naming.consistency))]

end TemplateMetrics.Style
