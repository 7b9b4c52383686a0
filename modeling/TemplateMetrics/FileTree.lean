import TemplateMetrics.NameMap
import TemplateMetrics.Path

/-!
Directories and files as a value.
-/

namespace TemplateMetrics

/-- A file with its bytes, or a directory with its entries in ascending order of their names. -/
inductive FileTree where
  | file (bytes : ByteArray)
  | directory (entries : List (String × FileTree))

namespace FileTree

def empty : FileTree := .directory []

def isDirectory : FileTree → Bool
  | .directory _ => true
  | .file _ => false

def child? (t : FileTree) (name : String) : Option FileTree :=
  match t with
  | .directory entries => entries.lookup name
  | .file _ => none

def text? : FileTree → Option String
  | .file bytes => String.fromUTF8? bytes
  | .directory _ => none

/-- Put a tree at a place of what is there. Directories on the way are made where they are missing;
a directory that is put where one already is leaves it alone. -/
def putInto (node : FileTree) : List String → Option FileTree → FileTree
  | [], some t => if node.isDirectory && t.isDirectory then t else node
  | [], none => node
  | name :: r, t =>
    let entries := match t with
      | some (.directory entries) => entries
      | _ => []
    .directory (Entries.insert name (putInto node r (entries.lookup name)) entries)

def put (t : FileTree) (names : List String) (node : FileTree) : FileTree :=
  putInto node names (some t)

/-- The names on a path, without those that stand for nothing. -/
def names (path : String) : List String :=
  ((Path.segments path.toList).filter fun s => !Path.isVoid s).map String.ofList

/-- A tree from paths and texts; a path that ends in a slash is a directory. -/
def ofFiles (files : List (String × String)) : FileTree :=
  files.foldl (fun t (path, text) =>
    let node := if path.toList.getLast? = some '/' then empty else .file text.toUTF8
    t.put (names path) node) empty

/-! ### Places -/

/-- A node of a tree and the directories around it, from the inside to the outside, each with its
name. The outermost one has no name. -/
structure Place where
  name : String
  node : FileTree
  around : List (String × FileTree)

namespace Place

def root (t : FileTree) : Place := ⟨"", t, []⟩

def path (p : Place) : List String :=
  (((p.name, p.node) :: p.around).map (·.1)).dropLast.reverse

/-- The directory around the node; the outermost one is around itself. -/
def parent (p : Place) : Place :=
  match p.around with
  | [] => p
  | (name, node) :: around => ⟨name, node, around⟩

/-- One segment of a path further. A segment can only follow a directory. -/
def step (p : Place) (segment : String) : Option Place :=
  if !p.node.isDirectory then none
  else if segment = "" || segment = "." then some p
  else if segment = ".." then some p.parent
  else (p.node.child? segment).map fun node => ⟨segment, node, (p.name, p.node) :: p.around⟩

def outermost (p : Place) : Place :=
  match p.around.getLast? with
  | some (name, node) => ⟨name, node, []⟩
  | none => p

/-- Where a path leads to; one that starts with a slash starts at the outermost directory. -/
def follow (p : Place) (path : String) : Option Place :=
  let start := if path.toList.head? = some '/' then p.outermost else p
  ((Path.segments path.toList).map String.ofList).foldlM step start

/-- The place itself and all directories around it, from the inside to the outside. -/
def ancestors (p : Place) : List Place :=
  let rec go : List (String × FileTree) → List Place
    | [] => []
    | (name, node) :: around => ⟨name, node, around⟩ :: go around
  go ((p.name, p.node) :: p.around)

end Place

end FileTree

end TemplateMetrics
