import RouteScribe.Blueprint.Document
import RouteScribe.Blueprint.Path
import RouteScribe.Blueprint.Writer
import RouteScribe.CommandLine.Arguments
import RouteScribe.CommandLine.Run
import RouteScribe.CommandLine.Usage
import RouteScribe.Comment.Basic
import RouteScribe.Comment.Tag
import RouteScribe.Config.Basic
import RouteScribe.Config.Model
import RouteScribe.Config.Load
import RouteScribe.Config.Validate
import RouteScribe.Diagnostic
import RouteScribe.Documentation
import RouteScribe.Example
import RouteScribe.Json.Reader
import RouteScribe.Json.Value
import RouteScribe.Json.Writer
import RouteScribe.Logging.Config
import RouteScribe.Logging.Level
import RouteScribe.Logging.Outline
import RouteScribe.Logging.Setup
import RouteScribe.Main
import RouteScribe.Number.Binary64
import RouteScribe.Number.Reader
import RouteScribe.Number.Shortest
import RouteScribe.Project.Discovery
import RouteScribe.Project.Hook
import RouteScribe.Project.Pass
import RouteScribe.Project.Path
import RouteScribe.Project.Program
import RouteScribe.Project.Tree
import RouteScribe.Project.Watch
import RouteScribe.Proofs.Route.Footprint
import RouteScribe.Proofs.Route.Gathering
import RouteScribe.Proofs.Route.Outcome
import RouteScribe.Proofs.Route.Rebinding
import RouteScribe.Proofs.Route.Renaming
import RouteScribe.Proofs.Route.Report
import RouteScribe.Proofs.Route.Respelling
import RouteScribe.Proofs.Route.Simulation
import RouteScribe.Proofs.Route.TwoPhase
import RouteScribe.Proofs.Route.Walk
import RouteScribe.Proofs.Source.Binds
import RouteScribe.Proofs.Source.Renaming
import RouteScribe.Route.Binding
import RouteScribe.Route.Block
import RouteScribe.Route.Report
import RouteScribe.Route.Scan
import RouteScribe.Route.Sighting
import RouteScribe.Schema.Basic
import RouteScribe.Schema.ClassBody
import RouteScribe.Schema.Resolve
import RouteScribe.Schema.TypeTable
import RouteScribe.Settings.Basic
import RouteScribe.Settings.EnvFile
import RouteScribe.Shell.Effect
import RouteScribe.Shell.Print
import RouteScribe.Shell.Reader
import RouteScribe.Shell.Run
import RouteScribe.Shell.Script
import RouteScribe.Shell.Token
import RouteScribe.Shell.Tool
import RouteScribe.Source.Calls
import RouteScribe.Source.Classes
import RouteScribe.Source.Escape
import RouteScribe.Source.File
import RouteScribe.Source.Grammar.Basic
import RouteScribe.Source.Grammar.Expression
import RouteScribe.Source.Grammar.FormattedText
import RouteScribe.Source.Grammar.Params
import RouteScribe.Source.Grammar.Pattern
import RouteScribe.Source.Grammar.Statement
import RouteScribe.Source.Grammar.Target
import RouteScribe.Source.Literal
import RouteScribe.Source.Names
import RouteScribe.Source.Parser
import RouteScribe.Source.Printer
import RouteScribe.Source.Quotation
import RouteScribe.Source.Syntax
import RouteScribe.Source.Token.Basic
import RouteScribe.Source.Token.Lexer
import RouteScribe.Source.Token.Number
import RouteScribe.Table
import RouteScribe.Text.Alphanumeric
import RouteScribe.Text.Blank
import RouteScribe.Text.CodeRange
import RouteScribe.Text.CombiningClass
import RouteScribe.Text.Decomposition
import RouteScribe.Text.Dedent
import RouteScribe.Text.Digit
import RouteScribe.Text.Hex
import RouteScribe.Text.Identifier
import RouteScribe.Text.Line
import RouteScribe.Text.NormalForm
import RouteScribe.Text.Percent
import RouteScribe.Text.Printable
import RouteScribe.Text.Quoted
import RouteScribe.Text.Search
import RouteScribe.Text.Uppercase
import RouteScribe.Text.Utf8
import RouteScribe.Proofs.Source.Weight
import RouteScribe.Proofs.Schema.Reading
import RouteScribe.Proofs.Schema.Failure
import RouteScribe.Proofs.Schema.Inlining
import RouteScribe.Proofs.Schema.Shape
import RouteScribe.Proofs.Source.Layout
import RouteScribe.Proofs.Comment.Sections
import RouteScribe.Proofs.Route.TagLines
import RouteScribe.Proofs.Text.Indentation
import RouteScribe.Proofs.Comment.TagLine
import RouteScribe.Proofs.Comment.Drafting
import RouteScribe.Proofs.Documentation
import RouteScribe.Proofs.Project.Pass
import RouteScribe.Proofs.Project.Round
import RouteScribe.Proofs.Project.Watch
import RouteScribe.Proofs.Project.Survival
import RouteScribe.Proofs.Table
import RouteScribe.Proofs.Route.Scoping
import RouteScribe.Proofs.Example.Synthesis
import RouteScribe.Proofs.Example.Conformance
import RouteScribe.Proofs.Route.ExampleTables
import RouteScribe.Proofs.FileOrder
import RouteScribe.Proofs.Blueprint.KeyOrder
import RouteScribe.Proofs.Json.RoundTrip
import RouteScribe.Proofs.Blueprint.Payload
import RouteScribe.Proofs.Schema.Redeclaration
import RouteScribe.Proofs.Comment.Partition
import RouteScribe.Proofs.Blueprint.Parameters
import RouteScribe.Proofs.Blueprint.Segments
import RouteScribe.Proofs.Blueprint.Joining
import RouteScribe.Proofs.Text.Utf8
import RouteScribe.Proofs.Text.Percent
import RouteScribe.Proofs.Blueprint.ParamEncoding
import RouteScribe.Proofs.Schema.References
import RouteScribe.Proofs.Schema.UnionSpelling
import RouteScribe.Proofs.Schema.Enumerations
import RouteScribe.Proofs.Schema.Quoting
import RouteScribe.Proofs.Schema.Aliases
import RouteScribe.Proofs.Example.Overrides
import RouteScribe.Proofs.Comment.Rearrangement
import RouteScribe.Proofs.Route.Interleaving
import RouteScribe.Proofs.Route.BodyBrackets
import RouteScribe.Proofs.Comment.Braces
import RouteScribe.Proofs.Text.Columns
import RouteScribe.Proofs.Source.NodePlaces
import RouteScribe.Proofs.Json.Decoding
import RouteScribe.Proofs.Config.Validation
import RouteScribe.Proofs.Project.Sources
