import TemplateMetrics.Analysis.Batch
import TemplateMetrics.Analysis.Coupling
import TemplateMetrics.CommandLine.Options
import TemplateMetrics.Discovery.Walk
import TemplateMetrics.Score.Report
import TemplateMetrics.Settings.Layers

/-!
What a command prints, and how it ends.
-/

namespace TemplateMetrics

namespace Settings

/-- The first file at a path, looked for from a place and then from the directories around it. -/
def findFile? (base : FileTree.Place) (path : String) : Option FileTree.Place :=
  let starts := if path.toList.head? = some '/' then [base] else base.ancestors
  starts.findSome? fun start =>
    (start.follow path).filter fun p => !p.node.isDirectory

def ofTexts (texts : Option (List String)) (environment : Environment) :
    Except Failure Settings :=
  match texts.bind fun texts => ofLayers? texts environment with
  | some s => .ok s
  | none => .error (.config "invalid settings")

/-- Settings from one file, which must exist. -/
def ofFile (base : FileTree.Place) (environment : Environment) (path : String) :
    Except Failure Settings :=
  match base.follow path with
  | none => .error (.config ("config file not found: " ++ path))
  | some p => ofTexts (p.node.text?.map fun text => [text]) environment

def ofDirectory (base : FileTree.Place) (environment : Environment) (path : String) :
    Except Failure Settings :=
  let files := fileNames.filterMap fun name => findFile? base (path ++ "/" ++ name)
  ofTexts (files.mapM fun p => p.node.text?) environment

end Settings

namespace CommandLine

/-- What is around a run: where it takes place, and the variables of the environment. -/
structure Setting where
  base : FileTree.Place
  environment : Environment

structure Trouble where
  doing : Option String
  failure : Failure

def Trouble.text (t : Trouble) : String :=
  match t.doing with
  | some doing => doing ++ ": " ++ t.failure.text
  | none => t.failure.text

def during {α : Type} (doing : String) (result : Except Failure α) : Except Trouble α :=
  result.mapError fun f => ⟨some doing, f⟩

/-- How a run ends: its exit code, what it prints, and the line that tells about an error. -/
structure Outcome where
  code : Nat
  output : String
  error : Option String

def loadSettings (s : Setting) (o : Options) : Except Trouble Settings :=
  match o.config with
  | some path => during ("loading " ++ path) (Settings.ofFile s.base s.environment path)
  | none => during "loading configuration" (Settings.ofDirectory s.base s.environment o.path)

def analyzeFiles (s : Setting) (o : Options) (settings : Settings) : Except Trouble Batch := do
  let files ← during ("discovering templates in " ++ o.path)
    (FileSet.discover s.base o.path settings.extensions settings.exclude)
  return Batch.analyze (Analyzer.ofSettings settings) files.inputs

/-- The document of a command, and the failure that is told after it is printed. -/
def document (settings : Settings) (batch : Batch) : Command → Json × Except Failure Unit
  | .analyze => (batch.toJson, .ok ())
  | .graph =>
    (.ofFields [("graph", batch.graph.toJson),
      ("coupling", (Coupling.ofGraph settings.coupling batch.graph).toJson)], .ok ())
  | .report failUnder =>
    let report := Score.Report.ofBatch settings batch
    let least := match failUnder with
      | some x => some x
      | none => settings.scoring.failUnder
    (report.toJson, match least with
      | some x => report.check x
      | none => .ok ())

def errorLine (t : Trouble) : String := "Error: " ++ t.text

/-- Analyze the templates and print what the command asks for. -/
def execute (s : Setting) (o : Options) (command : Command) : Outcome :=
  let result := do
    let settings ← loadSettings s o
    let batch ← analyzeFiles s o settings
    return document settings batch command
  match result with
  | .error t => ⟨1, "", some (errorLine t)⟩
  | .ok (j, .ok ()) => ⟨0, o.format.write j, none⟩
  | .ok (j, .error f) => ⟨1, o.format.write j, some (errorLine ⟨none, f⟩)⟩

def versionLine : String := "stencil 0.3.0\n"

def helpText : String :=
  "Quality metrics for Twig/Jinja-style template sets

Usage: stencil [OPTIONS] <COMMAND>

Commands:
  analyze  Analyze every template and print the batch result
  graph    Print the dependency graph with coupling analysis
  report   Score all quality dimensions
  help     Print this message or the help of the given subcommand(s)

Options:
  -p, --path <PATH>      Directory of templates to analyze [default: .]
  -f, --format <FORMAT>  Output format [default: json] [possible values: json, compact]
  -c, --config <CONFIG>  Configuration file path
  -v, --verbose          Enable verbose output
  -j, --jobs <JOBS>      Number of parallel workers (default: number of CPUs)
  -h, --help             Print help
  -V, --version          Print version
"

def run (s : Setting) (args : List String) : Outcome :=
  match parse? args with
  | none => ⟨2, "", none⟩
  | some .help => ⟨0, helpText, none⟩
  | some .version => ⟨0, versionLine, none⟩
  | some (.run options command) => execute s options command

end CommandLine

end TemplateMetrics
