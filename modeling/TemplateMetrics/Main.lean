import TemplateMetrics.CommandLine.Run

/-!
The program. It reads the files that a run can ask for, and prints the outcome.
-/

namespace TemplateMetrics.Main

def spell (names : List String) : String := "/" ++ String.intercalate "/" names

/-- A file, or a directory with all that is in it. Links are not followed. -/
partial def readNode (names : List String) : IO (Option FileTree) := do
  try
    let place ← IO.FS.realPath (spell names)
    if place.toString ≠ spell names then return none
    else if ← place.isDir then
      let entries ← (← place.readDir).toList.filterMapM fun entry => do
        return (← readNode (names ++ [entry.fileName])).map fun node => (entry.fileName, node)
      return some (.directory (NameMap.ofList entries).entries)
    else return some (.file (← IO.FS.readBinFile place))
  catch _ => return none

/-- The names on the way to a file or a directory, if it exists. -/
def namesTo? (path : String) : IO (Option (List String)) := do
  try return some (FileTree.names (← IO.FS.realPath path).toString)
  catch _ => return none

def under (directory path : String) : String :=
  if path.toList.head? = some '/' then path else directory ++ "/" ++ path

def around (names : List String) : List (List String) :=
  (List.range (names.length + 1)).map fun n => names.take n

def add (tree : FileTree) (path : String) : IO FileTree := do
  let some names ← namesTo? path | return tree
  let some node ← readNode names | return tree
  return tree.put names node

/-- The part of the file system that a run with these options can see. -/
def readTree (directory : List String) (options : CommandLine.Options) : IO FileTree := do
  let target := under (spell directory) options.path
  let mut tree ← add .empty target
  for outer in around ((← namesTo? target).getD []) do
    for source in Discovery.sources do
      tree ← add tree (under (spell outer) source.file)
  for outer in around directory do
    for name in Settings.fileNames do
      tree ← add tree (under (spell outer) (options.path ++ "/" ++ name))
  if let some path := options.config then
    tree ← add tree (under (spell directory) path)
  return tree

/-- The variables of the environment in the order of their names. -/
def readEnvironment : IO Environment := do
  try
    let bytes ← IO.FS.readBinFile "/proc/self/environ"
    let entries := ((String.fromUTF8? bytes).getD "").splitOn "\x00"
    let pairs := entries.filterMap fun v =>
      match v.splitOn "=" with
      | name :: value => some (name, String.intercalate "=" value)
      | [] => none
    return (NameMap.ofList pairs).entries
  catch _ => return []

def readSetting (args : List String) : IO CommandLine.Setting := do
  let directory := (← namesTo? ".").getD []
  let tree ← match CommandLine.parse? args with
    | some (.run options _) => readTree directory options
    | _ => pure .empty
  let root := FileTree.Place.root (tree.put directory .empty)
  return ⟨(root.follow (spell directory)).getD root, ← readEnvironment⟩

end TemplateMetrics.Main

def main (args : List String) : IO UInt32 := do
  let outcome := TemplateMetrics.CommandLine.run (← TemplateMetrics.Main.readSetting args) args
  IO.print outcome.output
  if let some line := outcome.error then IO.eprintln line
  if outcome.code = 2 then IO.eprintln "error: invalid arguments, try '--help'"
  return outcome.code.toUInt32
