import TemplateMetrics.Collect.Collector
import TemplateMetrics.Scalar
import TemplateMetrics.Settings.Basic

/-!
Complexity of the logic in a template: decisions, loops and how deep they nest.

A template without any construct that counts gets no complexity metrics at all.
-/

namespace TemplateMetrics.Collect

open Syntax

structure Complexity where
  conditions : Nat
  loops : Nat
  ternaries : Nat
  logicalOperators : Nat
  tests : Nat
  depth : Nat
  maxDepth : Nat
  /-- Some construct that counts was seen. -/
  applicable : Bool
deriving Repr, DecidableEq

namespace Complexity

def start : Complexity := ⟨0, 0, 0, 0, 0, 0, 0, false⟩

/-- Constructs that nest. -/
def isNesting : Node → Bool
  | .ifTag .. | .forTag .. | .block .. | .macroTag .. => true
  | _ => false

/-- Constructs that count. -/
def isCounted : Node → Bool
  | .ifTag .. | .forTag .. | .conditional .. | .logical .. | .testExpr .. | .block ..
  | .macroTag .. => true
  | _ => false

/-- Add a construct to its count. -/
def tally (n : Node) (s : Complexity) : Complexity :=
  match n with
  | .ifTag .. => { s with conditions := s.conditions + 1 }
  | .forTag .. => { s with loops := s.loops + 1 }
  | .conditional .. => { s with ternaries := s.ternaries + 1 }
  | .logical .. => { s with logicalOperators := s.logicalOperators + 1 }
  | .testExpr .. => { s with tests := s.tests + 1 }
  | _ => s

def nest (s : Complexity) : Complexity :=
  { s with depth := s.depth + 1, maxDepth := max s.maxDepth (s.depth + 1) }

def enter (n : Node) (s : Complexity) : Complexity :=
  if isCounted n then
    let s := { tally n s with applicable := true }
    if isNesting n then s.nest else s
  else s

def leave (n : Node) (s : Complexity) : Complexity :=
  if isNesting n then { s with depth := s.depth - 1 } else s

/-- The sum of the counts and the largest depth, each with its weight. -/
def score (w : ComplexityWeights) (s : Complexity) : Float :=
  w.condition * Float.ofNat s.conditions + w.loop * Float.ofNat s.loops +
    w.ternary * Float.ofNat s.ternaries + w.logicalOperator * Float.ofNat s.logicalOperators +
    w.test * Float.ofNat s.tests + w.depth * Float.ofNat s.maxDepth

def metrics (w : ComplexityWeights) (s : Complexity) : Metrics :=
  if s.applicable then
    NameMap.ofList [("complexity_score", .ofFloat (Scalar.roundTo 2 (s.score w))),
      ("conditions", .nat s.conditions), ("loops", .nat s.loops), ("ternaries", .nat s.ternaries),
      ("logical_operators", .nat s.logicalOperators), ("tests", .nat s.tests),
      ("max_depth", .nat s.maxDepth)]
  else NameMap.empty

def collector (w : ComplexityWeights) : Collector Complexity where
  name := "complexity"
  enter := enter
  leave := leave
  metrics := metrics w
  openScopes := depth

end Complexity

end TemplateMetrics.Collect
