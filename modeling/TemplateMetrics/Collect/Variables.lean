import TemplateMetrics.Collect.Collector

/-!
Free variables of a template, resolved against the scopes around them.

A loop binds its targets and `loop`, a macro its parameters and `varargs`, and a block opens an
empty scope. An import binds its names in the scope it stands in when it is entered, a set its
targets when it is left, so that its value still sees the outer name.
-/

namespace TemplateMetrics.Collect

open Syntax

/-- Names that are always there and never count as variables. -/
def builtinNames : List String :=
  ["_self", "_context", "_charset", "_key", "app", "loop", "true", "false", "null", "none",
    "varargs"]

structure Variables where
  /-- Names bound, innermost scope first. -/
  scopes : List NameSet
  references : Counts
  defined : NameSet
deriving DecidableEq

namespace Variables

def start : Variables := ⟨[NameMap.empty], NameMap.empty, NameMap.empty⟩

def inScope (s : Variables) (name : String) : Bool := s.scopes.any fun frame => frame.contains name

def push (s : Variables) (names : List String) : Variables :=
  { s with scopes := NameSet.ofNames names :: s.scopes }

/-- Bind a name in the innermost scope. -/
def bind (s : Variables) (name : String) : Variables :=
  match s.scopes with
  | [] => s
  | frame :: outer => { s with scopes := frame.add name :: outer }

/-- Close the innermost scope; the outermost stays open. -/
def pop (s : Variables) : Variables :=
  match s.scopes with
  | _ :: frame :: outer => { s with scopes := frame :: outer }
  | _ => s

def enter (n : Node) (s : Variables) : Variables :=
  match n with
  | .nameRef name =>
    if builtinNames.contains name || s.inScope name then s
    else { s with references := s.references.bump name }
  | .forTag targets _ _ _ _ => s.push (targets ++ ["loop"])
  | .macroTag _ params _ _ => s.push (params ++ ["varargs"])
  | .block .. => s.push []
  | .importTag _ localName names =>
    (localName.toList ++ names.map fun n => n.2.getD n.1).foldl bind s
  | _ => s

def leave (n : Node) (s : Variables) : Variables :=
  match n with
  | .forTag .. | .macroTag .. | .block .. => s.pop
  | .setTag targets _ _ =>
    targets.foldl (fun s t => { s.bind t with defined := s.defined.add t }) s
  | _ => s

def metrics (s : Variables) : Metrics :=
  NameMap.ofList [("variables", .ofCounts s.references),
    ("unique_variables", .nat s.references.size),
    ("variable_references", .nat s.references.total), ("defined_variables", .nat s.defined.size)]

def collector : Collector Variables where
  name := "variables"
  enter := enter
  leave := leave
  metrics := metrics
  openScopes := fun s => s.scopes.length - 1

end Variables

end TemplateMetrics.Collect
