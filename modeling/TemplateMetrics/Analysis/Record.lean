import TemplateMetrics.Analysis.Result
import TemplateMetrics.Decimal.Fixed

/-!
Stored results: a result and the time that its analysis took.
-/

namespace TemplateMetrics

structure TimedResult where
  result : Result
  nanoseconds : Nat

namespace TimedResult

/-- The time in whole nanoseconds, a tie to the even one; negative times count as none. -/
def nanosecondsOf (seconds : Float) : Nat :=
  match Decimal.Reading.ofFloat seconds with
  | .finite false b =>
    let (num, den) := Decimal.Binary.fraction (4 * b.significand) b.exponent
    Decimal.nearestEven (num * Nat.pow 10 9) den
  | _ => 0

def seconds (t : TimedResult) : Float :=
  Float.ofNat (t.nanoseconds / Nat.pow 10 9) + Float.ofNat (t.nanoseconds % Nat.pow 10 9) / 1e9

def ofFields? (path metrics elapsed : Json) : Option TimedResult := do
  let path ← path.str?
  let seconds ← elapsed.number?
  match metrics with
  | .obj fields => return ⟨⟨path, NameMap.ofList fields⟩, nanosecondsOf seconds⟩
  | _ => none

/-- A stored result from a document: an object with all three fields, or a list of them. -/
def ofJson? : Json → Option TimedResult
  | .obj fields => do
    ofFields? (← fields.lookup "path") (← fields.lookup "metrics") (← fields.lookup "elapsed")
  | .arr [path, metrics, elapsed] => ofFields? path metrics elapsed
  | _ => none

def toJson (t : TimedResult) : Json :=
  .ofFields [("path", .str t.result.path), ("metrics", .ofMap t.result.metrics),
    ("elapsed", .ofFloat t.seconds)]

end TimedResult

end TemplateMetrics
