import TemplateMetrics.Collect.Collector

/-!
Calls in a template, by name: functions, filters, tests and macros, and the macros it defines.
-/

namespace TemplateMetrics.Collect

open Syntax

structure Callables where
  functions : Counts
  filters : Counts
  tests : Counts
  macroCalls : Counts
  macroDefinitions : Counts
deriving DecidableEq

namespace Callables

def start : Callables := ⟨NameMap.empty, NameMap.empty, NameMap.empty, NameMap.empty, NameMap.empty⟩

/-- The name a macro is counted under. -/
def macroName : Option String → String → String
  | some space, name => space ++ "." ++ name
  | none, name => name

def enter (n : Node) (s : Callables) : Callables :=
  match n with
  | .functionCall name _ => { s with functions := s.functions.bump name }
  | .filterCall name _ _ => { s with filters := s.filters.bump name }
  | .testExpr name _ _ _ => { s with tests := s.tests.bump name }
  | .macroCall space name _ => { s with macroCalls := s.macroCalls.bump (macroName space name) }
  | .macroTag name _ _ _ => { s with macroDefinitions := s.macroDefinitions.bump name }
  | _ => s

def metrics (s : Callables) : Metrics :=
  NameMap.ofList [("functions", .ofCounts s.functions), ("filters", .ofCounts s.filters),
    ("test_calls", .ofCounts s.tests), ("macro_calls", .ofCounts s.macroCalls),
    ("macro_definitions", .ofCounts s.macroDefinitions),
    ("total_function_calls", .nat s.functions.total),
    ("total_filter_calls", .nat s.filters.total), ("unique_functions", .nat s.functions.size),
    ("unique_filters", .nat s.filters.size)]

def collector : Collector Callables where
  name := "callables"
  enter := enter
  leave := fun _ s => s
  metrics := metrics
  openScopes := fun _ => 0

end Callables

end TemplateMetrics.Collect
