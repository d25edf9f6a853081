import CppAdvice.Text.Blank
import CppAdvice.Text.Pieces
import CppAdvice.Text.Digit
import CppAdvice.Json.Number
import CppAdvice.Json.Value
import CppAdvice.Json.Token
import CppAdvice.Json.Parser
import CppAdvice.Json.Printer
import CppAdvice.Text.Printable
import CppAdvice.Text.Quoted
import CppAdvice.Decimal.Shortest
import CppAdvice.Language.Tier
import CppAdvice.Language.Flags
import CppAdvice.Tree.Name
import CppAdvice.Tree.TypeRef
import CppAdvice.Pattern.Name
import CppAdvice.Pattern.Type
import CppAdvice.Tree.Opcode
import CppAdvice.Tree.Kind
import CppAdvice.Tree.Node
import CppAdvice.Document.Fault
import CppAdvice.Document.Field
import CppAdvice.Document.Basic
import CppAdvice.Document.Parts
import CppAdvice.Document.Load
import CppAdvice.Document.Write
import CppAdvice.Text.Lines
import CppAdvice.Text.Position
import CppAdvice.Tree.TranslationUnit
import CppAdvice.Sentinel
import CppAdvice.Pattern.Regex
import CppAdvice.Pattern.RegexReader
import CppAdvice.Matcher.Condition
import CppAdvice.Matcher.Bindings
import CppAdvice.Matcher.Basic
import CppAdvice.Finding.Template
import CppAdvice.Check.Descriptor
import CppAdvice.Finding.Basic
import CppAdvice.Finding.Step
import CppAdvice.Check.Basic
import CppAdvice.Check.Describe
import CppAdvice.Checks.Callables
import CppAdvice.Checks.Containers
import CppAdvice.Checks.Strings
import CppAdvice.Checks.Output
import CppAdvice.Checks.Ownership
import CppAdvice.Checks.Dispatch
import CppAdvice.Checks.Errors
import CppAdvice.Index
import CppAdvice.Catalog
import CppAdvice.Registry
import CppAdvice.Settings
import CppAdvice.Suppression.Directive
import CppAdvice.Suppression.Coverage
import CppAdvice.Engine
import CppAdvice.Decimal.Scientific
import CppAdvice.Toml.Token
import CppAdvice.Toml.Value
import CppAdvice.Toml.Scalar
import CppAdvice.Toml.Statement
import CppAdvice.Toml.Parser
import CppAdvice.Config
import CppAdvice.Path
import CppAdvice.Host.Basic
import CppAdvice.Host.Tree
import CppAdvice.Config.File
import CppAdvice.Document.Read
import CppAdvice.Report
import CppAdvice.Outline
import CppAdvice.Command.Line
import CppAdvice.Command.Run
import CppAdvice.Main
import CppAdvice.Proofs.Pieces
import CppAdvice.Proofs.Walk
import CppAdvice.Proofs.Numbering
import CppAdvice.Proofs.Layout
import CppAdvice.Proofs.Outcome
import CppAdvice.Proofs.Simulation
import CppAdvice.Proofs.Advice
import CppAdvice.Proofs.Hits
import CppAdvice.Proofs.Wrapping
import CppAdvice.Proofs.Transparency
import CppAdvice.Proofs.Ladder
import CppAdvice.Proofs.Registration
import CppAdvice.Proofs.Names
import CppAdvice.Proofs.Selection
import CppAdvice.Proofs.Silence
import CppAdvice.Proofs.Bytes
import CppAdvice.Proofs.WellFormed
import CppAdvice.Proofs.Neighbours
import CppAdvice.Proofs.Accounting
import CppAdvice.Proofs.JsonText
import CppAdvice.Proofs.RoundTrip
import CppAdvice.Proofs.Rearrangement
import CppAdvice.Proofs.Confinement
import CppAdvice.Proofs.Subtrees
import CppAdvice.Proofs.Scopes
import CppAdvice.Proofs.Flow
import CppAdvice.Proofs.Regex
import CppAdvice.Proofs.Clashes
import CppAdvice.Proofs.Repetition
import CppAdvice.Proofs.Labels
import CppAdvice.Proofs.Reservation
import CppAdvice.Proofs.Searches
import CppAdvice.Proofs.Substitution
import CppAdvice.Proofs.SmallArrays
import CppAdvice.Proofs.Regions
import CppAdvice.Proofs.Comments
import CppAdvice.Proofs.Standards
import CppAdvice.Proofs.Paths
import CppAdvice.Proofs.Disks
import CppAdvice.Proofs.Discovery
import CppAdvice.Proofs.Latest
import CppAdvice.Proofs.Records
import CppAdvice.Proofs.Choices
import CppAdvice.Proofs.Composition
import CppAdvice.Proofs.Segments
import CppAdvice.Proofs.Streams
import CppAdvice.Proofs.RegexText
import CppAdvice.Proofs.Callees
import CppAdvice.Proofs.Rows
import CppAdvice.Proofs.Escaping
import CppAdvice.Proofs.Outlines
import CppAdvice.Proofs.Canonical
import CppAdvice.Proofs.Qualification
