import TemplateMetrics.Analysis.Batch
import TemplateMetrics.Analysis.Blocks
import TemplateMetrics.Analysis.Catalogue
import TemplateMetrics.Analysis.Coupling
import TemplateMetrics.Analysis.Input
import TemplateMetrics.Analysis.Layout
import TemplateMetrics.Analysis.Record
import TemplateMetrics.Analysis.Result
import TemplateMetrics.Analysis.Role
import TemplateMetrics.Analysis.Security
import TemplateMetrics.Analysis.Template
import TemplateMetrics.Collect.Callables
import TemplateMetrics.Collect.Collector
import TemplateMetrics.Collect.Complexity
import TemplateMetrics.Collect.ControlFlow
import TemplateMetrics.Collect.References
import TemplateMetrics.Collect.Standard
import TemplateMetrics.Collect.Variables
import TemplateMetrics.CommandLine.Options
import TemplateMetrics.CommandLine.Run
import TemplateMetrics.Decimal.Binary
import TemplateMetrics.Decimal.Fixed
import TemplateMetrics.Decimal.Layout
import TemplateMetrics.Decimal.Numeral
import TemplateMetrics.Decimal.Shortest
import TemplateMetrics.Discovery.Ignore
import TemplateMetrics.Discovery.Walk
import TemplateMetrics.Failure
import TemplateMetrics.FileTree
import TemplateMetrics.Glob.Basic
import TemplateMetrics.Glob.Reader
import TemplateMetrics.Graph.Ancestry
import TemplateMetrics.Graph.Basic
import TemplateMetrics.Graph.Cycles
import TemplateMetrics.Json.Basic
import TemplateMetrics.Json.Overlay
import TemplateMetrics.Json.Printer
import TemplateMetrics.Json.Reader
import TemplateMetrics.Main
import TemplateMetrics.Metrics
import TemplateMetrics.NameMap
import TemplateMetrics.Path
import TemplateMetrics.Proofs.Accounting
import TemplateMetrics.Proofs.BackEdges
import TemplateMetrics.Proofs.Balance
import TemplateMetrics.Proofs.CallKinds
import TemplateMetrics.Proofs.Counting
import TemplateMetrics.Proofs.CycleGroups
import TemplateMetrics.Proofs.Degrees
import TemplateMetrics.Proofs.EdgeCounts
import TemplateMetrics.Proofs.Expressions
import TemplateMetrics.Proofs.FilterChains
import TemplateMetrics.Proofs.FreeVariables
import TemplateMetrics.Proofs.Graph
import TemplateMetrics.Proofs.Height
import TemplateMetrics.Proofs.Identity
import TemplateMetrics.Proofs.Independence
import TemplateMetrics.Proofs.Ladder
import TemplateMetrics.Proofs.LexicalScope
import TemplateMetrics.Proofs.Lexing
import TemplateMetrics.Proofs.LineEndings
import TemplateMetrics.Proofs.Loaders
import TemplateMetrics.Proofs.NameMap
import TemplateMetrics.Proofs.Nesting
import TemplateMetrics.Proofs.Overlay
import TemplateMetrics.Proofs.Places
import TemplateMetrics.Proofs.Precedence
import TemplateMetrics.Proofs.Readers
import TemplateMetrics.Proofs.References
import TemplateMetrics.Proofs.Rendering
import TemplateMetrics.Proofs.RiskyCalls
import TemplateMetrics.Proofs.RoundTrip
import TemplateMetrics.Proofs.SharedWalk
import TemplateMetrics.Proofs.Standing
import TemplateMetrics.Proofs.TokenStream
import TemplateMetrics.Proofs.TomlEditions
import TemplateMetrics.Proofs.TomlWords
import TemplateMetrics.Proofs.Vocabulary
import TemplateMetrics.Proofs.Walk
import TemplateMetrics.Reference
import TemplateMetrics.Scalar
import TemplateMetrics.Score.Card
import TemplateMetrics.Score.Grade
import TemplateMetrics.Score.Report
import TemplateMetrics.Score.Tables
import TemplateMetrics.Settings.Basic
import TemplateMetrics.Settings.Decode
import TemplateMetrics.Settings.Document
import TemplateMetrics.Settings.Encode
import TemplateMetrics.Settings.Environment
import TemplateMetrics.Settings.Layers
import TemplateMetrics.Statistics.Diversity
import TemplateMetrics.Statistics.Sample
import TemplateMetrics.Style.Lines
import TemplateMetrics.Style.Naming
import TemplateMetrics.Syntax.Cursor
import TemplateMetrics.Syntax.Expression
import TemplateMetrics.Syntax.Fault
import TemplateMetrics.Syntax.Statement
import TemplateMetrics.Syntax.Token
import TemplateMetrics.Syntax.Tokenizer
import TemplateMetrics.Syntax.Tree
import TemplateMetrics.Text.Blank
import TemplateMetrics.Text.Letter
import TemplateMetrics.Text.LetterTable
import TemplateMetrics.Text.Lines
import TemplateMetrics.Text.Ranges
import TemplateMetrics.Text.Replace
import TemplateMetrics.Text.Width
import TemplateMetrics.Text.WidthTable
import TemplateMetrics.Toml.Document
import TemplateMetrics.Toml.Quoted
import TemplateMetrics.Toml.Scalar
import TemplateMetrics.Toml.Table
import TemplateMetrics.Proofs.Boundaries
import TemplateMetrics.Proofs.Failures
import TemplateMetrics.Proofs.Loops
import TemplateMetrics.Proofs.TagReaders
import TemplateMetrics.Proofs.ParserState
import TemplateMetrics.Proofs.Progress
import TemplateMetrics.Proofs.InlineIf
import TemplateMetrics.Proofs.Ancestry
import TemplateMetrics.Proofs.RawSections
import TemplateMetrics.Proofs.StringLiterals
import TemplateMetrics.Proofs.TemplateEnd
import TemplateMetrics.Proofs.QueryInvariance
import TemplateMetrics.Proofs.ParentViews
import TemplateMetrics.Proofs.OrphanedBlocks
import TemplateMetrics.Proofs.LineCounts
import TemplateMetrics.Proofs.ExactNumbers
import TemplateMetrics.Proofs.Placeholders
import TemplateMetrics.Proofs.Grading
import TemplateMetrics.Proofs.OverallScore
import TemplateMetrics.Proofs.Percentiles
import TemplateMetrics.Proofs.GiniIndex
import TemplateMetrics.Proofs.Rankings
