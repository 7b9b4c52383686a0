import TemplateMetrics.Json.Basic

/-!
Documents laid over one another.
-/

namespace TemplateMetrics

mutual

/-- A document over another one: tables are merged key by key, and all else is replaced. -/
def Json.overlay (base : Json) : Json → Json
  | .obj fields =>
    match base with
    | .obj below => .obj (overlayFields below fields)
    | _ => .obj fields
  | j => j

def overlayFields (below : List (String × Json)) : List (String × Json) → List (String × Json)
  | [] => below
  | (key, j) :: r =>
    let merged := match below.lookup key with
      | some old => old.overlay j
      | none => j
    overlayFields (Entries.insert key merged below) r

end

end TemplateMetrics
