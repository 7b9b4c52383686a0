import TemplateMetrics.Collect.Collector
import TemplateMetrics.Graph.Ancestry
import TemplateMetrics.Reference
import TemplateMetrics.Statistics.Diversity

/-!
References of a template to others, and the blocks it provides and uses. Only targets written as
literals are recorded.
-/

namespace TemplateMetrics.Collect

open Syntax

structure References where
  /-- The first literal parent. -/
  parent : Option String
  /-- References in document order. -/
  references : List Reference
  providedBlocks : NameSet
  usedBlocks : NameSet

namespace References

def start : References := ⟨none, [], NameMap.empty, NameMap.empty⟩

def includeMetadata (passed : Option Node) (options : IncludeOptions) : NameMap Json :=
  NameMap.ofList [("with_context", .bool options.withContext),
    ("ignore_missing", .bool options.ignoreMissing), ("has_variables", .bool passed.isSome)]

def importMetadata (localName : Option String) (names : List (String × Option String)) :
    NameMap Json :=
  NameMap.ofList ((localName.toList.map fun a => ("alias", .str a)) ++
    if names.isEmpty then [] else [("names", .strs (names.map (·.1)))])

/-- The reference that a node makes from `source`, if its target is a literal. -/
def ofNode? (source : String) : Node → Option Reference
  | .extendsTag target =>
    target.strLiteral?.map fun t => ⟨source, t, .parent, NameMap.empty⟩
  | .includeTag target passed options =>
    target.strLiteral?.map fun t => ⟨source, t, .inclusion, includeMetadata passed options⟩
  | .embedTag target passed options _ =>
    target.strLiteral?.map fun t => ⟨source, t, .embedding, includeMetadata passed options⟩
  | .importTag target localName names =>
    target.strLiteral?.map fun t => ⟨source, t, .importing, importMetadata localName names⟩
  | .functionCall "include" (first :: _) =>
    first.strLiteral?.map fun t => ⟨source, t, .inclusionCall, NameMap.empty⟩
  | _ => none

/-- The block that a node names, provided or used. -/
def blocksOf (n : Node) (s : References) : References :=
  match n with
  | .block name _ => { s with providedBlocks := s.providedBlocks.add name }
  | .functionCall "block" (first :: _) =>
    match first.strLiteral? with
    | some b => { s with usedBlocks := s.usedBlocks.add b }
    | none => s
  | _ => s

def enter (source : String) (n : Node) (s : References) : References :=
  let s := blocksOf n s
  match ofNode? source n with
  | none => s
  | some r =>
    { s with
      references := s.references ++ [r]
      parent := if r.relation = .parent then s.parent <|> some r.target else s.parent }

def targets (s : References) (relations : List Relation) : Json :=
  .strs ((s.references.filter fun r => relations.contains r.relation).map (·.target))

/-- The most frequent targets of each relation that occurs. -/
def topReferences (s : References) : Json :=
  .ofFields (Relation.all.filterMap fun relation =>
    let counts := Counts.ofNames ((s.references.filter (·.relation = relation)).map (·.target))
    if counts.isEmpty then none
    else some (relation.text, .arr ((Statistics.top 5 counts).map fun (target, count) =>
      .ofFields [("template", .str target), ("count", .nat count)])))

/-- Number of ancestors. Without a table of parents only the own parent is known. -/
def inheritanceDepth (path : String) (parents : Option Parents) (s : References) : Nat :=
  match parents with
  | some p => p.depth path
  | none => if s.parent.isSome then 1 else 0

def metrics (path : String) (parents : Option Parents) (s : References) : Metrics :=
  NameMap.ofList [("extends", .str (s.parent.getD "")),
    ("dependencies", .arr (s.references.map Reference.toJson)),
    ("includes", s.targets [.inclusion, .inclusionCall]), ("embeds", s.targets [.embedding]),
    ("imports", s.targets [.importing]), ("dependency_count", .nat s.references.length),
    ("provided_blocks", .strs s.providedBlocks.toList),
    ("used_blocks", .strs s.usedBlocks.toList),
    ("inheritance_depth", .nat (s.inheritanceDepth path parents)),
    ("top_references", s.topReferences)]

def collector (path : String) (parents : Option Parents) : Collector References where
  name := "relationships"
  enter := enter path
  leave := fun _ s => s
  metrics := metrics path parents
  openScopes := fun _ => 0

end References

end TemplateMetrics.Collect
