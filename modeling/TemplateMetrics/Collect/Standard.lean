import TemplateMetrics.Collect.Callables
import TemplateMetrics.Collect.Complexity
import TemplateMetrics.Collect.ControlFlow
import TemplateMetrics.Collect.References
import TemplateMetrics.Collect.Variables

/-!
The collectors that watch every template.
-/

namespace TemplateMetrics.Collect

/-- A collector by its name, at its start. -/
def watcher? (path : String) (settings : Settings) (parents : Option Parents) :
    String → Option Watcher
  | "complexity" =>
    some ⟨Complexity.collector settings.complexity.weights, Complexity.start⟩
  | "control_flow" =>
    some ⟨ControlFlow.collector settings.complexConditionArity, ControlFlow.start⟩
  | "callables" => some ⟨Callables.collector, Callables.start⟩
  | "variables" => some ⟨Variables.collector, Variables.start⟩
  | "relationships" => some ⟨References.collector path parents, References.start⟩
  | _ => none

/-- Names of the standard collectors, in their order. -/
def standardNames : List String :=
  ["complexity", "control_flow", "callables", "variables", "relationships"]

def standard (path : String) (settings : Settings) (parents : Option Parents) : Watch :=
  standardNames.filterMap (watcher? path settings parents)

end TemplateMetrics.Collect
