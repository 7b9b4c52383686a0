import TemplateMetrics.Graph.Cycles
import TemplateMetrics.Json.Basic
import TemplateMetrics.Scalar
import TemplateMetrics.Settings.Basic

/-!
How the nodes of a graph depend on each other.
-/

namespace TemplateMetrics

/-- The degrees of one node. -/
structure NodeCoupling where
  path : String
  fanIn : Nat
  fanOut : Nat
  /-- Rounded to four places. -/
  instability : Float
  analyzed : Bool
deriving Repr

namespace NodeCoupling

def total (n : NodeCoupling) : Nat := n.fanIn + n.fanOut

/-- Nodes with more edges come first, others by ascending path. -/
def ranksBefore (a b : NodeCoupling) : Bool :=
  decide (b.total < a.total) || (decide (a.total = b.total) && decide (a.path ≤ b.path))

def toJson (n : NodeCoupling) : Json :=
  .ofFields [("path", .str n.path), ("fan_in", .nat n.fanIn), ("fan_out", .nat n.fanOut),
    ("instability", .ofFloat n.instability), ("analyzed", .bool n.analyzed)]

end NodeCoupling

structure CouplingSummary where
  totalNodes : Nat
  edgeCount : Nat
  totalFanIn : Nat
  totalFanOut : Nat
  meanFanIn : Float
  meanFanOut : Float
  maxFanIn : Nat
  maxFanOut : Nat
  meanInstability : Float
  stableCount : Nat
  balancedCount : Nat
  unstableCount : Nat
  highlyCoupledCount : Nat
  /-- Edges that lead back in a depth-first search, which is about the number of cycles. -/
  cycleCount : Nat
  orphanCount : Nat
deriving Repr

structure Coupling where
  nodes : List NodeCoupling
  /-- The nodes with the most edges. -/
  hotspots : List NodeCoupling
  highlyCoupled : List String
  cycles : List (List String)
  orphans : List String
  summary : CouplingSummary
deriving Repr

namespace Coupling

def nodesOf (g : Graph) : List NodeCoupling :=
  g.fanIns.entries.map fun e =>
    let fanOut := g.fanOut e.1
    { path := e.1
      fanIn := e.2
      fanOut := fanOut
      instability := Scalar.roundTo 4 (Graph.instabilityOf e.2 fanOut)
      analyzed := g.isAnalyzed e.1 }

/-- The first `k` of the nodes that have edges. -/
def hotspotsOf (k : Nat) (nodes : List NodeCoupling) : List NodeCoupling :=
  ((nodes.filter fun n => 0 < n.total).mergeSort NodeCoupling.ranksBefore).take k

def summarize (settings : CouplingSettings) (g : Graph) (nodes : List NodeCoupling)
    (highlyCoupled orphans : List String) : CouplingSummary :=
  let totalFanIn := (nodes.map (·.fanIn)).foldl (· + ·) 0
  let totalFanOut := (nodes.map (·.fanOut)).foldl (· + ·) 0
  let mean := fun (n : Nat) =>
    Scalar.roundTo 4 (Scalar.ratio (Float.ofNat n) (Float.ofNat nodes.length))
  let connected := nodes.filter fun n => 0 < n.total
  { totalNodes := nodes.length
    edgeCount := g.edgeCount
    totalFanIn := totalFanIn
    totalFanOut := totalFanOut
    meanFanIn := mean totalFanIn
    meanFanOut := mean totalFanOut
    maxFanIn := (nodes.map (·.fanIn)).foldl max 0
    maxFanOut := (nodes.map (·.fanOut)).foldl max 0
    meanInstability := Scalar.roundTo 4 g.meanInstability
    stableCount := connected.countP fun n => n.instability < settings.stableThreshold
    balancedCount := connected.countP fun n =>
      settings.stableThreshold ≤ n.instability ∧ n.instability ≤ settings.unstableThreshold
    unstableCount := connected.countP fun n => settings.unstableThreshold < n.instability
    highlyCoupledCount := highlyCoupled.length
    cycleCount := g.backEdgeCount
    orphanCount := orphans.length }

def ofGraph (settings : CouplingSettings) (g : Graph) : Coupling :=
  let nodes := nodesOf g
  let highlyCoupled := (nodes.filter fun n =>
    settings.highlyCoupledThreshold ≤ n.total).map (·.path)
  let orphans := g.orphans
  { nodes := nodes
    hotspots := hotspotsOf settings.hotspotCount nodes
    highlyCoupled := highlyCoupled
    cycles := g.cycleGroups
    orphans := orphans
    summary := summarize settings g nodes highlyCoupled orphans }

end Coupling

def CouplingSummary.toJson (s : CouplingSummary) : Json :=
  .ofFields [("total_nodes", .nat s.totalNodes), ("edge_count", .nat s.edgeCount),
    ("total_fan_in", .nat s.totalFanIn), ("total_fan_out", .nat s.totalFanOut),
    ("avg_fan_in", .ofFloat s.meanFanIn), ("avg_fan_out", .ofFloat s.meanFanOut),
    ("max_fan_in", .nat s.maxFanIn), ("max_fan_out", .nat s.maxFanOut),
    ("avg_instability", .ofFloat s.meanInstability), ("stable_count", .nat s.stableCount),
    ("balanced_count", .nat s.balancedCount), ("unstable_count", .nat s.unstableCount),
    ("highly_coupled_count", .nat s.highlyCoupledCount), ("cycle_count", .nat s.cycleCount),
    ("orphan_count", .nat s.orphanCount)]

def Coupling.toJson (c : Coupling) : Json :=
  .ofFields [("nodes", .arr (c.nodes.map NodeCoupling.toJson)),
    ("hotspots", .arr (c.hotspots.map NodeCoupling.toJson)),
    ("highly_coupled", .strs c.highlyCoupled), ("cycles", .arr (c.cycles.map Json.strs)),
    ("orphans", .strs c.orphans), ("summary", c.summary.toJson)]

end TemplateMetrics
