import TemplateMetrics.Analysis.Input
import TemplateMetrics.Discovery.Ignore
import TemplateMetrics.FileTree

/-!
The templates below a directory.

Hidden entries are skipped, and so is what the ignore files say, those of the directories around the
chosen one included.
-/

namespace TemplateMetrics

namespace Discovery

/-! ### Ignore files -/

/-- Kinds of ignore files, those that decide first before the others. -/
inductive Source where
  | general
  | repository
  | personal
deriving Repr, DecidableEq

def sources : List Source := [.general, .repository, .personal]

def Source.file : Source → String
  | .general => ".ignore"
  | .repository => ".gitignore"
  | .personal => ".git/info/exclude"

/-- A directory on the way to an entry: its rules, and the names that lead from it to the entry. -/
structure Level where
  rules : Source → List Ignore.Rule
  below : List String

def rulesIn (directory : FileTree) (source : Source) : List Ignore.Rule :=
  let file := (FileTree.names source.file).foldlM FileTree.child? directory
  ((file.bind FileTree.text?).map Ignore.rulesOf).getD []

/-- Enter a directory that is below all the levels. -/
def enter (directory : FileTree) (levels : List Level) : List Level :=
  ⟨rulesIn directory, []⟩ :: levels

/-- The levels of an entry of the innermost directory. -/
def descend (name : String) (levels : List Level) : List Level :=
  levels.map fun l => { l with below := l.below ++ [name] }

/-- What the ignore files say about the entry: kind by kind, and the innermost directory first. -/
def verdict? (levels : List Level) (isDirectory : Bool) : Option Ignore.Verdict :=
  sources.findSome? fun source => levels.findSome? fun l =>
    Ignore.verdict? (l.rules source) (String.intercalate "/" l.below) isDirectory

def isHidden (name : String) : Bool := name.toList.head? = some '.'

/-- Whether to leave out an entry. A hidden entry stays only when a rule keeps it. -/
def skips (levels : List Level) (name : String) (isDirectory : Bool) : Bool :=
  match verdict? levels isDirectory with
  | some .skip => true
  | some .keep => false
  | none => isHidden name

/-! ### The walk -/

/-- A file that was found: the names from the outermost directory to it, and its bytes. -/
structure Found where
  path : List String
  bytes : ByteArray

mutual

/-- The files at a node. Entries come in the order of their names, so that files come in the order
of their paths, compared name by name. -/
def walk (levels : List Level) (path : List String) : FileTree → List Found
  | .file bytes => [⟨path, bytes⟩]
  | .directory entries => walkEntries (enter (.directory entries) levels) path entries

def walkEntries (levels : List Level) (path : List String) :
    List (String × FileTree) → List Found
  | [] => []
  | (name, node) :: r =>
    let below := descend name levels
    (if skips below name node.isDirectory then [] else walk below (path ++ [name]) node) ++
      walkEntries levels path r

end

def levelsAround (p : FileTree.Place) : List Level :=
  let rec go (name : String) : List (String × FileTree) → List Level
    | [] => []
    | (outer, node) :: r => descend name (enter node (go outer r))
  go p.name p.around

end Discovery

open Discovery

structure FileSet where
  /-- The names from the outermost directory to the root. -/
  root : List String
  files : List Found

namespace FileSet

/-- How a file is called in results: by its path from the root on. -/
def identity (root : List String) (f : Found) : String :=
  Path.normalize (String.intercalate "/" ((root.isPrefixOf? f.path).getD f.path))

def nameOf (f : Found) : String := f.path.getLast?.getD ""

def endsWith (s ending : String) : Bool := Text.startsWith ending.toList.reverse s.toList.reverse

/-- The files below a root with one of the extensions that no pattern excludes. -/
def discover (base : FileTree.Place) (path : String) (extensions exclude : List String) :
    Except Failure FileSet :=
  match base.follow path with
  | none => .error (.notFound path)
  | some place =>
    match exclude.mapM (Glob.parse? .exclude) with
    | none => .error (.config "invalid exclude pattern")
    | some globs =>
      let root := place.path
      let files := walk (levelsAround place) root place.node
      .ok ⟨root, files.filter fun f =>
        extensions.any (endsWith (nameOf f)) && !globs.any fun g => g.accepts (identity root f)⟩

def identities (s : FileSet) : List String := s.files.map (identity s.root)

def inputs (s : FileSet) : List Input :=
  s.files.map fun f => Input.ofBytes (identity s.root f) f.bytes

def isBelowRoot (s : FileSet) : Bool := s.files.all fun f => s.root.isPrefixOf f.path

end FileSet

end TemplateMetrics
