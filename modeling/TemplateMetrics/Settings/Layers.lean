import TemplateMetrics.Settings.Document
import TemplateMetrics.Settings.Encode
import TemplateMetrics.Settings.Environment

/-!
Settings from several documents laid over one another.
-/

namespace TemplateMetrics

namespace Settings

/-- Names of the files that hold the settings of a directory, the later one over the earlier. -/
def fileNames : List String := ["stencil.toml", ".stencil/stencil.toml"]

/-- Settings from the defaults, the texts of files over them, and the environment over all. -/
def ofLayers? (texts : List String) (environment : Environment) : Option Settings := do
  let files ← texts.mapM (Toml.parse? .v10)
  let layers := files ++ [environment.document]
  ofJson? .layers (layers.foldl Json.overlay Settings.default.toJson)

end Settings

end TemplateMetrics
