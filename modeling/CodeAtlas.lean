import CodeAtlas.Command
import CodeAtlas.CommandLine.Parse
import CodeAtlas.CommandLine.Scan
import CodeAtlas.Decimal.Binary
import CodeAtlas.Decimal.Round
import CodeAtlas.Decimal.Shortest
import CodeAtlas.Decimal.Written
import CodeAtlas.Digest
import CodeAtlas.Entity
import CodeAtlas.Failure
import CodeAtlas.Graph.Basic
import CodeAtlas.Graph.Edit
import CodeAtlas.Graph.Live
import CodeAtlas.Graph.Node
import CodeAtlas.Graph.Scan
import CodeAtlas.Json.Printer
import CodeAtlas.Json.Reader
import CodeAtlas.Json.Value
import CodeAtlas.Language.CFamily
import CodeAtlas.Language.CSharp
import CodeAtlas.Language.Go
import CodeAtlas.Language.Java
import CodeAtlas.Language.Php
import CodeAtlas.Language.Python
import CodeAtlas.Language.Registry
import CodeAtlas.Language.Ruby
import CodeAtlas.Language.Rust
import CodeAtlas.Language.Script
import CodeAtlas.Language.Walk
import CodeAtlas.Main
import CodeAtlas.Outline
import CodeAtlas.Path
import CodeAtlas.Path.Pattern
import CodeAtlas.Project.Disk
import CodeAtlas.Project.Index
import CodeAtlas.Report
import CodeAtlas.Search.Engine
import CodeAtlas.Search.Index
import CodeAtlas.Search.Scalar
import CodeAtlas.Search.Words
import CodeAtlas.Source.Calls
import CodeAtlas.Source.Docstring
import CodeAtlas.Source.Expr
import CodeAtlas.Source.Grammar.Basic
import CodeAtlas.Source.Grammar.Expression
import CodeAtlas.Source.Grammar.Pattern
import CodeAtlas.Source.Grammar.Statement
import CodeAtlas.Source.Lexer
import CodeAtlas.Source.Literal
import CodeAtlas.Source.Outline
import CodeAtlas.Source.Printer
import CodeAtlas.Source.Program
import CodeAtlas.Source.Reader
import CodeAtlas.Source.Signature
import CodeAtlas.Source.Stmt
import CodeAtlas.Source.Token
import CodeAtlas.Store.Connection
import CodeAtlas.Store.Like
import CodeAtlas.Store.Row
import CodeAtlas.Store.Snapshot
import CodeAtlas.Store.Statement
import CodeAtlas.Store.Tables
import CodeAtlas.Text.Blank
import CodeAtlas.Text.Coded
import CodeAtlas.Text.Cut
import CodeAtlas.Text.Identifier
import CodeAtlas.Text.Integer
import CodeAtlas.Text.Lines
import CodeAtlas.Text.Lowercase
import CodeAtlas.Text.Named
import CodeAtlas.Text.Normal
import CodeAtlas.Text.Printable
import CodeAtlas.Text.Quoted
import CodeAtlas.Text.Ranges
import CodeAtlas.Text.Similar
import CodeAtlas.Text.Table.Casing
import CodeAtlas.Text.Table.CharacterName
import CodeAtlas.Text.Table.CombiningClass
import CodeAtlas.Text.Table.Composition
import CodeAtlas.Text.Table.Decomposition
import CodeAtlas.Text.Table.DigitZero
import CodeAtlas.Text.Table.IdentifierContinue
import CodeAtlas.Text.Table.IdentifierStart
import CodeAtlas.Text.Table.Lowercase
import CodeAtlas.Text.Table.Unprintable
import CodeAtlas.Tree.Basic
import CodeAtlas.Tree.Call
import CodeAtlas.Tree.Comment
import CodeAtlas.Tree.Decode
import CodeAtlas.Tree.Span
import CodeAtlas.Workload.Files
import CodeAtlas.Workload.Headers
import CodeAtlas.Workload.Lookups
import CodeAtlas.Workload.Project
import CodeAtlas.Workload.Queries
import CodeAtlas.Workload.Reports
import CodeAtlas.Workload.Sample
import CodeAtlas.Workload.Shape
import CodeAtlas.Workspace
import CodeAtlas.Workspace.Load
import CodeAtlas.Proofs.Project.Names
import CodeAtlas.Proofs.Graph.Rows
import CodeAtlas.Proofs.Project.Places
import CodeAtlas.Proofs.Store.Transaction
import CodeAtlas.Proofs.Store.Saved
import CodeAtlas.Proofs.Language.Names
import CodeAtlas.Proofs.Project.Scan
import CodeAtlas.Proofs.Project.FileRows
import CodeAtlas.Proofs.Project.AddedFile
import CodeAtlas.Proofs.Project.Run
import CodeAtlas.Proofs.Search.Indexed
import CodeAtlas.Proofs.Project.Outcome
import CodeAtlas.Proofs.Project.History
import CodeAtlas.Proofs.Project.Agreement
import CodeAtlas.Proofs.Search.Complete
import CodeAtlas.Proofs.Project.Refresh
import CodeAtlas.Proofs.Project.Parents
import CodeAtlas.Proofs.Graph.Owned
import CodeAtlas.Proofs.Project.Selection
import CodeAtlas.Proofs.Graph.Linked
import CodeAtlas.Proofs.Project.Statistics
import CodeAtlas.Proofs.Project.Effect
import CodeAtlas.Proofs.Project.Gathered
import CodeAtlas.Proofs.Project.Written
import CodeAtlas.Proofs.Search.Order
import CodeAtlas.Proofs.Project.Order
import CodeAtlas.Proofs.Search.Exact
import CodeAtlas.Proofs.Search.Sound
import CodeAtlas.Proofs.Language.Nesting
import CodeAtlas.Proofs.Project.Placement
import CodeAtlas.Proofs.Project.Embedding
import CodeAtlas.Proofs.Store.Patterns
import CodeAtlas.Proofs.Store.Queries
import CodeAtlas.Proofs.Store.Subtree
import CodeAtlas.Proofs.Search.Session
import CodeAtlas.Proofs.Search.Coherence
import CodeAtlas.Proofs.Search.Contents
import CodeAtlas.Proofs.Search.Measured
import CodeAtlas.Proofs.Search.Relevance
import CodeAtlas.Proofs.Search.Rebuild
import CodeAtlas.Proofs.Store.RoundTrip
import CodeAtlas.Proofs.Search.Uncommitted
import CodeAtlas.Proofs.Graph.Ranked
import CodeAtlas.Proofs.Project.Growth
import CodeAtlas.Proofs.Project.Listed
import CodeAtlas.Proofs.Project.Visits
import CodeAtlas.Proofs.Project.Children
import CodeAtlas.Proofs.Project.Removal
import CodeAtlas.Proofs.Text.Newlines
import CodeAtlas.Proofs.Language.Spans
import CodeAtlas.Proofs.Command.Reading
import CodeAtlas.Proofs.Search.Aborted
import CodeAtlas.Proofs.Store.Readers
import CodeAtlas.Proofs.Search.ReadBack
import CodeAtlas.Proofs.Language.Ranges
import CodeAtlas.Proofs.Language.Callees
import CodeAtlas.Proofs.Language.Definitions
import CodeAtlas.Proofs.Search.Tokens
import CodeAtlas.Proofs.Search.Steps
import CodeAtlas.Proofs.Search.Scores
import CodeAtlas.Proofs.Search.Identifiers
import CodeAtlas.Proofs.Language.Signatures
import CodeAtlas.Proofs.Language.Documentation
import CodeAtlas.Proofs.Project.Paths
import CodeAtlas.Proofs.Project.Frame
import CodeAtlas.Proofs.Language.Blocks
import CodeAtlas.Proofs.Source.Parameters
import CodeAtlas.Proofs.Json.Grammar
import CodeAtlas.Proofs.Json.Printing
import CodeAtlas.Proofs.Report.Views
