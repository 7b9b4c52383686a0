import TemplateMetrics.Json.Basic

/-!
Metrics of a template: values under names.

Reading a metric never fails. Where it is missing or of another kind the reader gets zero, an empty
text or an empty list, so that results of failed templates need no special care.
-/

namespace TemplateMetrics

abbrev Metrics := NameMap Json

namespace Metrics

/-- A number, with 1 and 0 for the truth values. -/
def number (m : Metrics) (key : String) : Float :=
  match m.get? key with
  | some (.int n) => Decimal.ofInt n
  | some (.float x) => if x.isFinite then x else 0.0
  | some (.bool b) => if b then 1.0 else 0.0
  | _ => 0.0

/-- The nearest whole number that is not negative and fits 64 bits. -/
def count (m : Metrics) (key : String) : Nat :=
  let x := m.number key
  if x ≤ 0.0 then 0 else x.round.toUInt64.toNat

def stringD (m : Metrics) (key default : String) : String :=
  match m.get? key with
  | some (.str s) => s
  | _ => default

def string (m : Metrics) (key : String) : String := m.stringD key ""

def flag (m : Metrics) (key : String) : Bool :=
  match m.get? key with
  | some (.bool b) => b
  | _ => false

def list (m : Metrics) (key : String) : List Json :=
  match m.get? key with
  | some (.arr items) => items
  | _ => []

def strings (m : Metrics) (key : String) : List String := (m.list key).filterMap Json.str?

def object? (m : Metrics) (key : String) : Option (List (String × Json)) :=
  match m.get? key with
  | some (.obj fields) => some fields
  | _ => none

/-- Counts by name; what is no count is zero. -/
def counts (m : Metrics) (key : String) : Counts :=
  NameMap.ofList (((m.object? key).getD []).map fun e => (e.1, e.2.nat?.getD 0))

end Metrics

end TemplateMetrics
