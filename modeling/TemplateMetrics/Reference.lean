import TemplateMetrics.Metrics

/-!
References from one template to another.
-/

namespace TemplateMetrics

inductive Relation where
  | parent
  | inclusion
  | inclusionCall
  | embedding
  | importing
deriving Repr, DecidableEq

namespace Relation

def all : List Relation := [.parent, .inclusion, .inclusionCall, .embedding, .importing]

def text : Relation → String
  | .parent => "extends"
  | .inclusion => "includes"
  | .inclusionCall => "includes_function"
  | .embedding => "embeds"
  | .importing => "imports"

def ofText? (s : String) : Option Relation := all.find? fun r => r.text = s

end Relation

/-- A reference whose target is written as a literal. The target is kept as written and need not be
a template that exists. -/
structure Reference where
  source : String
  target : String
  relation : Relation
  metadata : NameMap Json

namespace Reference

/-- The reference as a metric of its source. -/
def toJson (r : Reference) : Json :=
  .ofFields [("type", .str r.relation.text), ("template", .str r.target),
    ("metadata", .ofMap r.metadata)]

/-- A reference from a metric of `source`. Metadata of another kind counts as none. -/
def ofJson? (source : String) (j : Json) : Option Reference := do
  let type ← (← j.field? "type").str?
  let relation ← Relation.ofText? type
  let target ← (← j.field? "template").str?
  let metadata := match j.field? "metadata" with
    | some (.obj fields) => NameMap.ofList fields
    | _ => NameMap.empty
  return ⟨source, target, relation, metadata⟩

def ofMetrics (source : String) (m : Metrics) : List Reference :=
  (m.list "dependencies").filterMap (ofJson? source)

end Reference

end TemplateMetrics
