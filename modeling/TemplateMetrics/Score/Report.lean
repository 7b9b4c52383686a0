import TemplateMetrics.Decimal.Fixed
import TemplateMetrics.Score.Card

/-!
The report over all dimensions.
-/

namespace TemplateMetrics.Score

structure Report where
  templatesAnalyzed : Nat
  errorCount : Nat
  overallScore : Float
  grade : String
  cards : List Card

namespace Report

def ofBatch (s : Settings) (b : Batch) : Report :=
  let cards := Score.cards s b
  let score := overall s.scoring.weights (cards.map fun c => (c.name, c.graded.score))
  { templatesAnalyzed := b.results.length
    errorCount := b.errors.length
    overallScore := score
    grade := s.scoring.overall.grade score
    cards := cards }

/-- What is told after each card: how many there are by then, and of how many. -/
def progress (r : Report) : List (Nat × Nat) := progressOf r.cards.length

/-- A card by the name of its dimension. -/
def card? (r : Report) (name : String) : Option Card := r.cards.find? fun c => c.name = name

/-- Fails if the overall score is below the least that passes. -/
def check (r : Report) (least : Float) : Except Failure Unit :=
  if r.overallScore < least then
    .error (.threshold ("overall score " ++ Decimal.fixed 1 r.overallScore ++
      " is below the minimum of " ++ Decimal.fixed 1 least) r.overallScore)
  else .ok ()

def toJson (r : Report) : Json :=
  .ofFields [("templates_analyzed", .nat r.templatesAnalyzed),
    ("error_count", .nat r.errorCount), ("overall_score", .ofFloat r.overallScore),
    ("grade", .str r.grade), ("dimensions", .arr (r.cards.map Card.toJson))]

end Report

end TemplateMetrics.Score
