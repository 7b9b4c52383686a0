import TemplateMetrics.Score.Tables

/-!
Settings of an analysis, one structure for each concern, and their defaults.
-/

namespace TemplateMetrics

/-- Weights of the terms of the complexity score. -/
structure ComplexityWeights where
  condition : Float
  loop : Float
  ternary : Float
  logicalOperator : Float
  test : Float
  depth : Float
deriving Repr

/-- Upper limits of the ratings A to D; above the last the rating is E. -/
structure RatingLimits where
  a : Float
  b : Float
  c : Float
  d : Float
deriving Repr

/-- The rating of a value: the first limit that it does not exceed. -/
def RatingLimits.rate (limits : RatingLimits) (value : Float) : String :=
  if value ≤ limits.a then "A"
  else if value ≤ limits.b then "B"
  else if value ≤ limits.c then "C"
  else if value ≤ limits.d then "D"
  else "E"

structure ComplexitySettings where
  weights : ComplexityWeights
  ratingLimits : RatingLimits
deriving Repr

structure SizeSettings where
  ratingLimits : RatingLimits
  /-- Templates with more lines are large. -/
  largeTemplateLines : Nat
deriving Repr

inductive Risk where
  | low
  | medium
  | high
deriving Repr, DecidableEq

def Risk.text : Risk → String
  | .low => "low"
  | .medium => "medium"
  | .high => "high"

def Risk.rank : Risk → Nat
  | .low => 0
  | .medium => 1
  | .high => 2

/-- Calls that are risky, by name. -/
structure SecuritySettings where
  filters : NameMap Risk
  functions : NameMap Risk

/-- Limits of the architectural roles and of the coupling risks. -/
structure ClassificationSettings where
  coreComponentRefs : Nat
  layoutMinBlocks : Nat
  baseTemplateBlocks : Nat
  baseTemplateRefs : Nat
  reusableComponentRefs : Nat
  orchestratorDependencies : Nat
  complexLeafScore : Float
  criticalRefs : Nat
  criticalComplexity : Float
  highRefs : Nat
  highDependencies : Nat
  highSharedRefs : Nat
  highSharedDependencies : Nat
  mediumRefs : Nat
  mediumDependencies : Nat
deriving Repr

structure CouplingSettings where
  /-- Fan-in and fan-out from which a node is highly coupled. -/
  highlyCoupledThreshold : Nat
  hotspotCount : Nat
  stableThreshold : Float
  unstableThreshold : Float
deriving Repr

structure ScoringSettings where
  /-- The least overall score that passes. -/
  failUnder : Option Float
  weights : Score.Weights Float
  overall : Score.Bands Float
  style : Score.Table Float
  complexity : Score.Table Float
  architecture : Score.Table Float
  callables : Score.Table Float
  maintainability : Score.Table Float
deriving Repr

structure Settings where
  /-- Ends of the names of template files. -/
  extensions : List String
  /-- Globs of files to leave out. -/
  exclude : List String
  complexity : ComplexitySettings
  /-- Operands that a test may join before it is complex. -/
  complexConditionArity : Nat
  /-- Columns above which a line is long. -/
  maxLineLength : Nat
  size : SizeSettings
  security : SecuritySettings
  classification : ClassificationSettings
  coupling : CouplingSettings
  scoring : ScoringSettings

/-! ### Defaults -/

def ComplexityWeights.default : ComplexityWeights := ⟨1.0, 2.0, 1.0, 1.0, 0.0, 2.0⟩

def ComplexitySettings.default : ComplexitySettings :=
  ⟨ComplexityWeights.default, ⟨5.0, 10.0, 20.0, 30.0⟩⟩

def SizeSettings.default : SizeSettings := ⟨⟨50.0, 100.0, 200.0, 400.0⟩, 300⟩

def SecuritySettings.default : SecuritySettings where
  filters := NameMap.ofList [("raw", .high), ("safe", .high), ("convert_encoding", .low),
    ("markdown_to_html", .medium)]
  functions := NameMap.ofList [("template_from_string", .high), ("constant", .medium),
    ("attribute", .medium), ("source", .medium), ("dump", .medium)]

def ClassificationSettings.default : ClassificationSettings where
  coreComponentRefs := 10
  layoutMinBlocks := 3
  baseTemplateBlocks := 5
  baseTemplateRefs := 2
  reusableComponentRefs := 1
  orchestratorDependencies := 5
  complexLeafScore := 20.0
  criticalRefs := 10
  criticalComplexity := 20.0
  highRefs := 10
  highDependencies := 8
  highSharedRefs := 5
  highSharedDependencies := 4
  mediumRefs := 3
  mediumDependencies := 4

def CouplingSettings.default : CouplingSettings := ⟨10, 10, 0.3, 0.7⟩

def ScoringSettings.default : ScoringSettings where
  failUnder := none
  weights := Score.Weights.default
  overall := Score.Bands.default
  style := Score.Table.style
  complexity := Score.Table.complexity
  architecture := Score.Table.architecture
  callables := Score.Table.callables
  maintainability := Score.Table.maintainability

def Settings.default : Settings where
  extensions := [".twig", ".jinja", ".jinja2", ".j2"]
  exclude := []
  complexity := ComplexitySettings.default
  complexConditionArity := 3
  maxLineLength := 120
  size := SizeSettings.default
  security := SecuritySettings.default
  classification := ClassificationSettings.default
  coupling := CouplingSettings.default
  scoring := ScoringSettings.default

end TemplateMetrics
