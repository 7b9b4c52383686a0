/-!
Membership in an ascending list of closed ranges.
-/

namespace TemplateMetrics.Text

/-- Whether `n` lies in one of the ranges; a range above `n` ends the search. -/
def inRanges (n : Nat) : List (Nat × Nat) → Bool
  | [] => false
  | (lo, hi) :: r => if n < lo then false else decide (n ≤ hi) || inRanges n r

end TemplateMetrics.Text
