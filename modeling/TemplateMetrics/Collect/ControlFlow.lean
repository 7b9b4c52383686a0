import TemplateMetrics.Collect.Collector

/-!
Control tags of a template: how many, how deep, and the names of blocks and macros.

Only conditionals and loops open a level. A loop is nested when it stands inside another loop or a
conditional; a loop directly inside a block or macro is not.
-/

namespace TemplateMetrics.Collect

open Syntax

structure ControlFlow where
  ifs : Nat
  fors : Nat
  blocks : Nat
  macros : Nat
  sets : Nat
  blockNames : NameSet
  macroNames : NameSet
  depth : Nat
  maxDepth : Nat
  hasNestedLoops : Bool
  hasComplexConditions : Bool
deriving DecidableEq

namespace ControlFlow

def start : ControlFlow :=
  ⟨0, 0, 0, 0, 0, NameMap.empty, NameMap.empty, 0, 0, false, false⟩

def nest (s : ControlFlow) : ControlFlow :=
  { s with depth := s.depth + 1, maxDepth := max s.maxDepth (s.depth + 1) }

/-- Enter a node; a test that joins more than `arity` operands is complex. -/
def enter (arity : Nat) (n : Node) (s : ControlFlow) : ControlFlow :=
  match n with
  | .ifTag test _ _ =>
    let s := { s with ifs := s.ifs + 1 }.nest
    { s with hasComplexConditions := s.hasComplexConditions || arity < test.conditionArity }
  | .forTag .. =>
    let s := { s with fors := s.fors + 1 }.nest
    { s with hasNestedLoops := s.hasNestedLoops || 1 < s.depth }
  | .block name _ => { s with blocks := s.blocks + 1, blockNames := s.blockNames.add name }
  | .macroTag name _ _ _ => { s with macros := s.macros + 1, macroNames := s.macroNames.add name }
  | .setTag .. => { s with sets := s.sets + 1 }
  | _ => s

def leave (n : Node) (s : ControlFlow) : ControlFlow :=
  match n with
  | .ifTag .. | .forTag .. => { s with depth := s.depth - 1 }
  | _ => s

def metrics (s : ControlFlow) : Metrics :=
  NameMap.ofList [("ifs", .nat s.ifs), ("fors", .nat s.fors), ("blocks", .nat s.blocks),
    ("macros", .nat s.macros), ("sets", .nat s.sets), ("block_names", .strs s.blockNames.toList),
    ("macro_names", .strs s.macroNames.toList), ("unique_blocks", .nat s.blockNames.size),
    ("unique_macros", .nat s.macroNames.size), ("max_control_depth", .nat s.maxDepth),
    ("has_nested_loops", .bool s.hasNestedLoops),
    ("has_complex_conditions", .bool s.hasComplexConditions)]

def collector (arity : Nat) : Collector ControlFlow where
  name := "control_flow"
  enter := enter arity
  leave := leave
  metrics := metrics
  openScopes := depth

end ControlFlow

end TemplateMetrics.Collect
