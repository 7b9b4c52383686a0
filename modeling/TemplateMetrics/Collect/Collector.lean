import TemplateMetrics.Metrics
import TemplateMetrics.Syntax.Tree

/-!
Collectors watch one walk over a tree and turn what they saw into metrics.

A collector is a state machine over the events of the walk. Several of them share a walk without
seeing each other (`Watch.traverse`).
-/

namespace TemplateMetrics.Collect

open Syntax

/-- A state machine over the events of a walk. -/
structure Collector (σ : Type) where
  name : String
  enter : Node → σ → σ
  leave : Node → σ → σ
  metrics : σ → Metrics
  /-- Levels entered and not left. -/
  openScopes : σ → Nat

namespace Collector

variable {σ : Type}

def step (c : Collector σ) (s : σ) : Event → σ
  | .enter n => c.enter n s
  | .leave n => c.leave n s

def run (c : Collector σ) (s : σ) (root : Node) : σ := root.events.foldl c.step s

end Collector

structure Watcher where
  {State : Type}
  collector : Collector State
  state : State

def Watcher.step (w : Watcher) (e : Event) : Watcher :=
  { w with state := w.collector.step w.state e }

def Watcher.metrics (w : Watcher) : Metrics := w.collector.metrics w.state

/-- Collectors that share a walk, in the order in which they are told of it. -/
abbrev Watch := List Watcher

namespace Watch

def names (watch : Watch) : List String := watch.map (·.collector.name)

def traverse (watch : Watch) (root : Node) : Watch :=
  root.events.foldl (fun watch e => watch.map (·.step e)) watch

/-- The metrics of all collectors; of one name the last collector's stays. -/
def metrics (watch : Watch) : Metrics :=
  watch.foldl (fun m w => m.union w.metrics) NameMap.empty

/-- Levels that any collector has entered and not left. -/
def openScopes (watch : Watch) : Nat :=
  (watch.map fun w => w.collector.openScopes w.state).foldl (· + ·) 0

end Watch

end TemplateMetrics.Collect
