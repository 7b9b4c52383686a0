/-!
The analyses over a whole batch.
-/

namespace TemplateMetrics

/-- Names of the analyses and what they do. -/
def analyses : List (String × String) :=
  [("coupling", "Measure fan-in/fan-out, instability, cycles and orphans of the template graph"),
    ("blocks", "Track block definitions, overrides and orphaned blocks"),
    ("security", "Flag filters and functions that bypass escaping or expose internals"),
    ("style", "Check indentation, naming and line-length consistency"),
    ("score", "Score style, complexity, architecture, callable usage and maintainability")]

end TemplateMetrics
