import TemplateMetrics.Text.Blank

/-!
Replacing one text by another.
-/

namespace TemplateMetrics.Text

/-- Replace `pattern` from left to right. Every step takes a character, so `steps` beyond the
length are never used. -/
def replaceSteps (pattern replacement : List Char) : Nat → List Char → List Char
  | 0, cs => cs
  | _ + 1, [] => []
  | steps + 1, c :: r =>
    match afterStart? pattern (c :: r) with
    | some rest => replacement ++ replaceSteps pattern replacement steps rest
    | none => c :: replaceSteps pattern replacement steps r

def replaceAll (pattern replacement s : String) : String :=
  String.ofList (replaceSteps pattern.toList replacement.toList s.toList.length s.toList)

end TemplateMetrics.Text
