import TemplateMetrics.Graph.Basic

/-!
Chains of parents. A template has at most one parent; following parents may run in a circle.
-/

namespace TemplateMetrics

abbrev Parents := NameMap String

namespace Parents

/-- The chain of parents on from `current`. Every step leaves a path that has a parent and was not
left before, so as many `steps` as the table has entries are enough. -/
def chain (p : Parents) : Nat → NameSet → String → List String
  | 0, _, _ => []
  | steps + 1, visited, current =>
    match p.get? current with
    | none => []
    | some parent =>
      if visited.contains parent then []
      else parent :: chain p steps (visited.add parent) parent

/-- Parents of a path, nearest first, up to one that has none or to a path that comes again. -/
def ancestors (p : Parents) (path : String) : List String :=
  p.chain (p.size + 1) (NameSet.ofNames [path]) path

def depth (p : Parents) (path : String) : Nat := (p.ancestors path).length

/-- The parents that a graph records; the first of several counts. -/
def ofGraph (g : Graph) : Parents :=
  g.references.foldl (fun p r =>
    if r.relation = .parent ∧ !p.contains r.source then
      p.insert r.source (Path.normalizeTarget r.target)
    else p) NameMap.empty

end Parents

end TemplateMetrics
