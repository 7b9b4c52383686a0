import TemplateMetrics.Metrics
import TemplateMetrics.Settings.Basic

/-!
The part a template plays among the others, and the risk in its coupling. In both cases the first
rule that applies decides.
-/

namespace TemplateMetrics

/-- What the rules look at. -/
structure Profile where
  referencedBy : Nat
  dependencyCount : Nat
  uniqueBlocks : Nat
  complexity : Float
  category : String
deriving Repr

namespace Profile

def ofMetrics (m : Metrics) : Profile where
  referencedBy := m.count "referenced_by"
  dependencyCount := m.count "dependency_count"
  uniqueBlocks := m.count "unique_blocks"
  complexity := m.number "complexity_score"
  category := m.stringD "category" "other"

def role (p : Profile) (c : ClassificationSettings) : String :=
  if c.coreComponentRefs ≤ p.referencedBy then "core_component"
  else if p.category = "layout" ∧ c.layoutMinBlocks ≤ p.uniqueBlocks then "layout"
  else if c.baseTemplateBlocks ≤ p.uniqueBlocks ∧ c.baseTemplateRefs ≤ p.referencedBy then
    "base_template"
  else if p.category = "component" ∧ c.reusableComponentRefs ≤ p.referencedBy then
    "reusable_component"
  else if c.orchestratorDependencies ≤ p.dependencyCount then "orchestrator"
  else if p.referencedBy = 0 ∧ p.dependencyCount = 0 then "isolated"
  else if p.referencedBy = 0 then "entry_point"
  else if c.complexLeafScore ≤ p.complexity then "complex_leaf"
  else "leaf"

def couplingRisk (p : Profile) (c : ClassificationSettings) : String :=
  if c.criticalRefs ≤ p.referencedBy ∧ c.criticalComplexity ≤ p.complexity then "critical"
  else if c.highRefs ≤ p.referencedBy ∨ c.highDependencies ≤ p.dependencyCount ∨
      c.highSharedRefs ≤ p.referencedBy ∧ c.highSharedDependencies ≤ p.dependencyCount then
    "high"
  else if c.mediumRefs ≤ p.referencedBy ∨ c.mediumDependencies ≤ p.dependencyCount then "medium"
  else "low"

end Profile

end TemplateMetrics
