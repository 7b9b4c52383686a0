import TemplateMetrics.Analysis.Batch

/-!
Blocks across templates: where they are defined, and which definitions can never take effect.
-/

namespace TemplateMetrics

/-- The templates that define a block. -/
structure BlockUsage where
  name : String
  templates : List String
deriving Repr

namespace BlockUsage

def definitions (b : BlockUsage) : Nat := b.templates.length

/-- Blocks with more definitions come first, others by ascending name. -/
def ranksBefore (a b : BlockUsage) : Bool :=
  decide (b.definitions < a.definitions) ||
    (decide (a.definitions = b.definitions) && decide (a.name ≤ b.name))

def toJson (b : BlockUsage) : Json :=
  .ofFields [("name", .str b.name), ("definitions", .nat b.definitions),
    ("templates", .strs b.templates)]

end BlockUsage

/-- A block of a template with a parent that no ancestor among the analyzed templates has, and that
the template does not render itself. -/
structure OrphanedBlock where
  template : String
  block : String
  /-- The analyzed ancestors, nearest first. -/
  ancestors : List String
deriving Repr

def OrphanedBlock.toJson (o : OrphanedBlock) : Json :=
  .ofFields [("template", .str o.template), ("block", .str o.block),
    ("ancestors", .strs o.ancestors)]

structure Blocks where
  /-- All blocks, by ascending name. -/
  blocks : List BlockUsage
  mostOverridden : List BlockUsage
  orphaned : List OrphanedBlock
  totalBlocks : Nat
  templatesWithBlocks : Nat
  meanPerTemplate : Float
deriving Repr

namespace Blocks

abbrev Provided := NameMap NameSet

def providedBy (b : Batch) : Provided :=
  NameMap.ofList (b.successful.map fun r =>
    (r.path, NameSet.ofNames (r.metrics.strings "provided_blocks")))

def usagesOf (provided : Provided) : List BlockUsage :=
  let byName := provided.entries.foldl (fun (m : NameMap (List String)) e =>
    e.2.toList.foldl (fun m block => m.alter block fun old => old.getD [] ++ [e.1]) m) NameMap.empty
  byName.entries.map fun e => ⟨e.1, e.2⟩

def orphanedOf (provided : Provided) (parents : Parents) (r : Result) : List OrphanedBlock :=
  if (r.metrics.string "extends").isEmpty then []
  else
    let analyzed := (parents.ancestors r.path).filter provided.contains
    if analyzed.isEmpty then []
    else
      let used := r.metrics.strings "used_blocks"
      let isInherited := fun block =>
        analyzed.any fun a => (provided.getD a NameMap.empty).contains block
      let own := (provided.getD r.path NameMap.empty).toList
      (own.filter fun block => !isInherited block && !used.contains block).map fun block =>
        ⟨r.path, block, analyzed⟩

def ofBatch (b : Batch) : Blocks :=
  let provided := providedBy b
  let blocks := usagesOf provided
  let total := (provided.values.map NameMap.size).foldl (· + ·) 0
  { blocks := blocks
    mostOverridden :=
      ((blocks.filter fun u => 1 < u.definitions).mergeSort BlockUsage.ranksBefore).take 5
    orphaned := b.successful.flatMap (orphanedOf provided (Parents.ofGraph b.graph))
    totalBlocks := total
    templatesWithBlocks := provided.values.countP fun s => !s.isEmpty
    meanPerTemplate :=
      Scalar.roundTo 4 (Scalar.ratio (Float.ofNat total) (Float.ofNat provided.size)) }

def toJson (b : Blocks) : Json :=
  .ofFields [("blocks", .arr (b.blocks.map BlockUsage.toJson)),
    ("most_overridden", .arr (b.mostOverridden.map BlockUsage.toJson)),
    ("orphaned_blocks", .arr (b.orphaned.map OrphanedBlock.toJson)),
    ("summary", .ofFields [("total_blocks", .nat b.totalBlocks),
      ("unique_block_names", .nat b.blocks.length),
      ("templates_with_blocks", .nat b.templatesWithBlocks),
      ("avg_blocks_per_template", .ofFloat b.meanPerTemplate),
      ("orphaned_count", .nat b.orphaned.length)])]

end Blocks

end TemplateMetrics
