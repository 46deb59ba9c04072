import WorkflowForge.Assembly.Assembler
import WorkflowForge.Assembly.Build
import WorkflowForge.Assembly.Declaration
import WorkflowForge.Assembly.Handler
import WorkflowForge.Assembly.Registry
import WorkflowForge.Assembly.Render
import WorkflowForge.Assembly.Stamps
import WorkflowForge.CommandLine.Arguments
import WorkflowForge.CommandLine.Run
import WorkflowForge.CommandLine.Wording
import WorkflowForge.Data.Calendar
import WorkflowForge.Data.Checked
import WorkflowForge.Data.Datum
import WorkflowForge.Document.ActionPath
import WorkflowForge.Document.Binding
import WorkflowForge.Document.Scope
import WorkflowForge.Files.Disk
import WorkflowForge.Files.Path
import WorkflowForge.Files.SafePath
import WorkflowForge.Generation.Artifact
import WorkflowForge.Generation.Generator
import WorkflowForge.Generation.Report
import WorkflowForge.Issue
import WorkflowForge.Json.Printer
import WorkflowForge.Json.Reader
import WorkflowForge.Json.Value
import WorkflowForge.Log.Event
import WorkflowForge.Log.Format
import WorkflowForge.Main
import WorkflowForge.Migration.Check
import WorkflowForge.Migration.Load
import WorkflowForge.Migration.Model
import WorkflowForge.Number.Arithmetic
import WorkflowForge.Number.Decimal
import WorkflowForge.Number.Double
import WorkflowForge.Number.Numeral
import WorkflowForge.Proofs.Assembly.Appending
import WorkflowForge.Proofs.Assembly.Composition
import WorkflowForge.Proofs.Assembly.Contributions
import WorkflowForge.Proofs.Assembly.Course
import WorkflowForge.Proofs.Assembly.DeclarationOrder
import WorkflowForge.Proofs.Assembly.Elements
import WorkflowForge.Proofs.Assembly.Moves
import WorkflowForge.Proofs.Assembly.Operations
import WorkflowForge.Proofs.Assembly.Pairing
import WorkflowForge.Proofs.Assembly.Placement
import WorkflowForge.Proofs.Assembly.Record
import WorkflowForge.Proofs.Assembly.Rendering
import WorkflowForge.Proofs.Binding.Collections
import WorkflowForge.Proofs.Binding.Effect
import WorkflowForge.Proofs.Binding.Order
import WorkflowForge.Proofs.Files.Agreement
import WorkflowForge.Proofs.Files.Containment
import WorkflowForge.Proofs.Files.PathText
import WorkflowForge.Proofs.Files.Resolution
import WorkflowForge.Proofs.Files.Writing
import WorkflowForge.Proofs.Generation.Absence
import WorkflowForge.Proofs.Generation.Aggregation
import WorkflowForge.Proofs.Generation.Confinement
import WorkflowForge.Proofs.Generation.Faults
import WorkflowForge.Proofs.Generation.History
import WorkflowForge.Proofs.Generation.Independence
import WorkflowForge.Proofs.Generation.Lockstep
import WorkflowForge.Proofs.Generation.Steps
import WorkflowForge.Proofs.Generation.Trace
import WorkflowForge.Proofs.Generation.Turns
import WorkflowForge.Proofs.Json.Growth
import WorkflowForge.Proofs.Json.Places
import WorkflowForge.Settings.Environment
import WorkflowForge.Settings.Load
import WorkflowForge.Settings.Model
import WorkflowForge.Snippet.File
import WorkflowForge.Snippet.Key
import WorkflowForge.Snippet.Payload
import WorkflowForge.Template.Attribute
import WorkflowForge.Template.Block.Parser
import WorkflowForge.Template.Eval
import WorkflowForge.Template.Expr
import WorkflowForge.Template.Expr.Parser
import WorkflowForge.Template.Filter
import WorkflowForge.Template.Known
import WorkflowForge.Template.Operation
import WorkflowForge.Template.Render
import WorkflowForge.Template.Subject
import WorkflowForge.Template.Test
import WorkflowForge.Template.Token
import WorkflowForge.Template.Token.Lexer
import WorkflowForge.Template.Value
import WorkflowForge.Text.Blank
import WorkflowForge.Text.CaseTable
import WorkflowForge.Text.Casing
import WorkflowForge.Text.Hex
import WorkflowForge.Text.Identifier
import WorkflowForge.Text.Lines
import WorkflowForge.Text.Printable
import WorkflowForge.Text.Quoted
import WorkflowForge.Text.Ranges
import WorkflowForge.Text.Search
import WorkflowForge.Workflow.Check
import WorkflowForge.Workflow.Model
import WorkflowForge.Yaml.Load
import WorkflowForge.Yaml.Node
import WorkflowForge.Yaml.Node.Parser
import WorkflowForge.Yaml.Tag
import WorkflowForge.Yaml.Token
import WorkflowForge.Yaml.Token.Cursor
import WorkflowForge.Yaml.Token.Lexer
import WorkflowForge.Yaml.Token.Scalar
import WorkflowForge.Proofs.Generation.Numbering
import WorkflowForge.Proofs.Generation.Frame
import WorkflowForge.Proofs.Assembly.Unnumbered
import WorkflowForge.Proofs.Generation.Noninterference
import WorkflowForge.Proofs.Generation.Builds
import WorkflowForge.Proofs.Generation.SearchPaths
import WorkflowForge.Proofs.Assembly.Restamping
import WorkflowForge.Proofs.Generation.ReadOnly
import WorkflowForge.Proofs.Assembly.Collections
import WorkflowForge.Proofs.Assembly.Surfacing
import WorkflowForge.Proofs.Assembly.ChildCollection
import WorkflowForge.Proofs.Assembly.Switches
import WorkflowForge.Proofs.Assembly.BranchAtomicity
import WorkflowForge.Proofs.Assembly.Confinement
import WorkflowForge.Proofs.Assembly.DeclarationMerge
import WorkflowForge.Proofs.Assembly.SkippedContainers
import WorkflowForge.Proofs.Binding.Idempotence
import WorkflowForge.Proofs.Document.PathSpelling
import WorkflowForge.Proofs.Snippet.Lookup
import WorkflowForge.Proofs.Assembly.Reassembly
import WorkflowForge.Proofs.Json.RoundTrip
import WorkflowForge.Proofs.Assembly.VerbatimRendering
import WorkflowForge.Proofs.Yaml.Scanning
import WorkflowForge.Proofs.Migration.Loading
import WorkflowForge.Proofs.Settings.Loading
import WorkflowForge.Proofs.Document.Views
import WorkflowForge.Proofs.Generation.Cancellation
import WorkflowForge.Proofs.Assembly.PreOrder
import WorkflowForge.Proofs.Data.Lookup
import WorkflowForge.Proofs.Workflow.Shape
import WorkflowForge.Proofs.Settings.Leaves
import WorkflowForge.Proofs.Yaml.Keys
import WorkflowForge.Proofs.Settings.Given
import WorkflowForge.Proofs.CommandLine.Options
import WorkflowForge.Proofs.Settings.Precedence
import WorkflowForge.Proofs.Files.NormalForm
