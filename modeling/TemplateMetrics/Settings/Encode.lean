import TemplateMetrics.Json.Basic
import TemplateMetrics.Settings.Basic

/-!
Settings as a complete document.
-/

namespace TemplateMetrics

def RatingLimits.toJson (l : RatingLimits) : Json :=
  .arr [.ofFloat l.a, .ofFloat l.b, .ofFloat l.c, .ofFloat l.d]

def ComplexityWeights.toJson (w : ComplexityWeights) : Json :=
  .ofFields [("condition", .ofFloat w.condition), ("loop", .ofFloat w.loop),
    ("ternary", .ofFloat w.ternary), ("logical_operator", .ofFloat w.logicalOperator),
    ("test", .ofFloat w.test), ("depth", .ofFloat w.depth)]

def ComplexitySettings.toJson (c : ComplexitySettings) : Json :=
  .ofFields [("weights", c.weights.toJson), ("rating_thresholds", c.ratingLimits.toJson)]

def SizeSettings.toJson (s : SizeSettings) : Json :=
  .ofFields [("rating_thresholds", s.ratingLimits.toJson),
    ("large_template_lines", .nat s.largeTemplateLines)]

def SecuritySettings.toJson (s : SecuritySettings) : Json :=
  let risks := fun (m : NameMap Risk) => Json.ofMap (m.map fun _ r => .str r.text)
  .ofFields [("filters", risks s.filters), ("functions", risks s.functions)]

def ClassificationSettings.toJson (c : ClassificationSettings) : Json :=
  .ofFields [("core_component_refs", .nat c.coreComponentRefs),
    ("layout_min_blocks", .nat c.layoutMinBlocks),
    ("base_template_blocks", .nat c.baseTemplateBlocks),
    ("base_template_refs", .nat c.baseTemplateRefs),
    ("reusable_component_refs", .nat c.reusableComponentRefs),
    ("orchestrator_dependencies", .nat c.orchestratorDependencies),
    ("complex_leaf_score", .ofFloat c.complexLeafScore), ("critical_refs", .nat c.criticalRefs),
    ("critical_complexity", .ofFloat c.criticalComplexity), ("high_refs", .nat c.highRefs),
    ("high_dependencies", .nat c.highDependencies), ("high_shared_refs", .nat c.highSharedRefs),
    ("high_shared_dependencies", .nat c.highSharedDependencies),
    ("medium_refs", .nat c.mediumRefs), ("medium_dependencies", .nat c.mediumDependencies)]

def CouplingSettings.toJson (c : CouplingSettings) : Json :=
  .ofFields [("highly_coupled_threshold", .nat c.highlyCoupledThreshold),
    ("hotspot_count", .nat c.hotspotCount), ("stable_threshold", .ofFloat c.stableThreshold),
    ("unstable_threshold", .ofFloat c.unstableThreshold)]

namespace Score

def Rule.toJson (r : Rule Float) : Json :=
  .ofFields [("driver", .str r.driver), ("direction", .str r.direction.text),
    ("threshold", .ofFloat r.threshold), ("per_unit", .ofFloat r.perUnit),
    ("max_penalty", .ofFloat r.maxPenalty), ("insight", .str r.insight)]

def Bands.toJson (b : Bands Float) : Json :=
  .ofFields [("a", .ofFloat b.a), ("b", .ofFloat b.b), ("c", .ofFloat b.c), ("d", .ofFloat b.d)]

def Table.toJson (t : Table Float) : Json :=
  .ofFields [("rules", .arr (t.rules.map Rule.toJson)), ("bands", t.bands.toJson)]

def Weights.toJson (w : Weights Float) : Json :=
  .ofFields [("style", .ofFloat w.style), ("complexity", .ofFloat w.complexity),
    ("architecture", .ofFloat w.architecture), ("callables", .ofFloat w.callables),
    ("maintainability", .ofFloat w.maintainability)]

end Score

def ScoringSettings.toJson (s : ScoringSettings) : Json :=
  .ofFields [("fail_under", .ofOption .ofFloat s.failUnder), ("weights", s.weights.toJson),
    ("overall", s.overall.toJson), ("style", s.style.toJson),
    ("complexity", s.complexity.toJson), ("architecture", s.architecture.toJson),
    ("callables", s.callables.toJson), ("maintainability", s.maintainability.toJson)]

def Settings.toJson (s : Settings) : Json :=
  .ofFields [("extensions", .strs s.extensions), ("exclude", .strs s.exclude),
    ("complexity", s.complexity.toJson),
    ("control_flow", .ofFields [("complex_condition_arity", .nat s.complexConditionArity)]),
    ("style", .ofFields [("max_line_length", .nat s.maxLineLength)]), ("size", s.size.toJson),
    ("security", s.security.toJson), ("classification", s.classification.toJson),
    ("coupling", s.coupling.toJson), ("scoring", s.scoring.toJson)]

end TemplateMetrics
