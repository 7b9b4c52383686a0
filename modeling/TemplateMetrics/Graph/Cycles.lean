import TemplateMetrics.Graph.Basic

/-!
Cycles of a graph, found in two ways: by the edges that lead back in a depth-first search, and as
the strongly connected components that have a cycle.
-/

namespace TemplateMetrics.Graph

/-! ### Depth-first search -/

structure Search where
  discovered : NameSet
  finished : NameSet
  /-- Edges to a node that was discovered and not finished. -/
  backEdges : Nat

def Search.start : Search := ⟨NameMap.empty, NameMap.empty, 0⟩

/-- Search on from a node. A chain of undiscovered nodes is no longer than their number, so with
`room` for all nodes the search is complete. -/
def visit (next : String → List String) : Nat → Search → String → Search
  | 0, s, _ => s
  | room + 1, s, u =>
    if s.discovered.contains u then s
    else
      let s := { s with discovered := s.discovered.add u }
      let s := (next u).foldl (fun s v =>
        if !s.discovered.contains v then visit next room s v
        else if !s.finished.contains v then { s with backEdges := s.backEdges + 1 }
        else s) s
      { s with finished := s.finished.add u }

/-- Edges that lead back in the search from every node in ascending order, where the targets of a
node are followed in descending order. -/
def backEdgeCount (g : Graph) : Nat :=
  let nodes := g.nodes
  let next := NameMap.ofList (nodes.map fun n => (n, (g.successors n).reverse))
  (nodes.foldl (visit (fun n => next.getD n []) nodes.length) Search.start).backEdges

/-! ### Strongly connected components -/

/-- Nodes that can be reached from those of a list, these included. Each edge puts one node on the
list, which bounds the number of steps. -/
def explore (next : String → List String) : Nat → List String → NameSet → NameSet
  | 0, _, seen => seen
  | _ + 1, [], seen => seen
  | steps + 1, u :: rest, seen =>
    if seen.contains u then explore next steps rest seen
    else explore next steps (next u ++ rest) (seen.add u)

def reachable (g : Graph) (node : String) : NameSet :=
  explore g.successors (2 * g.edgeCount + 1) (g.successors node) NameMap.empty

/-- The classes of nodes that can reach each other, where a node is in its own class in any case.
Each is listed where its least member stands. -/
def components (g : Graph) : List (List String) :=
  let nodes := g.nodes
  let reach := NameMap.ofList (nodes.map fun n => (n, g.reachable n))
  let reaches := fun u v => (reach.getD u NameMap.empty).contains v
  nodes.filterMap fun u =>
    let component := nodes.filter fun v => decide (u = v) || (reaches u v && reaches v u)
    if component.head? = some u then some component else none

/-- A component has a cycle if it has several members, or if its first has an edge to itself. -/
def isCyclic (g : Graph) (component : List String) : Bool :=
  decide (1 < component.length) || component.head?.any fun u => (g.successors u).contains u

def inOrder : List String → List String → Bool
  | [], _ => true
  | _ :: _, [] => false
  | a :: as, b :: bs => decide (a < b) || (decide (a = b) && inOrder as bs)

/-- The components that have a cycle, the members of each and all of them sorted. -/
def cycleGroups (g : Graph) : List (List String) :=
  ((g.components.filter g.isCyclic).map (·.mergeSort fun a b => decide (a ≤ b))).mergeSort inOrder

end TemplateMetrics.Graph
