import TemplateMetrics.Path
import TemplateMetrics.Reference

/-!
The graph of references between templates.

Its nodes are paths; a target that was never analyzed is a node too. All references are kept in the
order they were added, while degrees count each pair of source and target once.
-/

namespace TemplateMetrics

structure Graph where
  /-- Targets of every source, in order and with repetitions. -/
  adjacency : NameMap (List String)
  references : List Reference

namespace Graph

def empty : Graph := ⟨NameMap.empty, []⟩

def addNode (g : Graph) (path : String) : Graph :=
  { g with adjacency := g.adjacency.alter path fun old => old.getD [] }

def addReference (g : Graph) (r : Reference) : Graph where
  adjacency := g.adjacency.alter r.source fun old => old.getD [] ++ [Path.normalizeTarget r.target]
  references := g.references ++ [r]

/-- Whether a path was added, and is not only the target of others. -/
def isAnalyzed (g : Graph) (path : String) : Bool := g.adjacency.contains path

def nodes (g : Graph) : List String :=
  (NameSet.ofNames (g.adjacency.keys ++ g.adjacency.values.flatten)).toList

/-- Different targets of a source, in the order of their first reference. -/
def targets (g : Graph) (source : String) : List String :=
  ((g.adjacency.get? source).getD []).foldl
    (fun seen t => if seen.contains t then seen else seen ++ [t]) []

/-- Different targets of a source, ascending. -/
def successors (g : Graph) (source : String) : List String :=
  (NameSet.ofNames (g.adjacency.getD source [])).toList

/-- Different pairs of source and target, ascending. -/
def edges (g : Graph) : List (String × String) :=
  g.adjacency.entries.flatMap fun e => (NameSet.ofNames e.2).toList.map fun t => (e.1, t)

def edgeCount (g : Graph) : Nat := g.edges.length

def fanOut (g : Graph) (node : String) : Nat := (g.targets node).length

def fanIn (g : Graph) (node : String) : Nat :=
  g.adjacency.values.countP fun targets => targets.contains node

def fanIns (g : Graph) : Counts :=
  g.edges.foldl (fun c e => c.bump e.2) (NameMap.ofList (g.nodes.map fun n => (n, 0)))

/-- Share of outgoing edges among the edges of a node; zero for a node without any. -/
def instabilityOf (fanIn fanOut : Nat) : Float :=
  if fanIn + fanOut = 0 then 0.0 else Float.ofNat fanOut / Float.ofNat (fanIn + fanOut)

def instability (g : Graph) (node : String) : Float := instabilityOf (g.fanIn node) (g.fanOut node)

def meanInstability (g : Graph) : Float :=
  let fanIns := g.fanIns
  if fanIns.isEmpty then 0.0
  else
    (fanIns.entries.map fun e => instabilityOf e.2 (g.fanOut e.1)).foldl (· + ·) 0.0 /
      Float.ofNat fanIns.size

/-- Nodes without any edge, ascending. -/
def orphans (g : Graph) : List String :=
  (g.fanIns.entries.filter fun e => e.2 = 0 ∧ g.fanOut e.1 = 0).map (·.1)

end Graph

end TemplateMetrics
