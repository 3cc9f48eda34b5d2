import C4Model.Blueprint.Element
import C4Model.Blueprint.Fault
import C4Model.Blueprint.File
import C4Model.Blueprint.Load
import C4Model.Blueprint.Reader
import C4Model.CommandLine.Command
import C4Model.CommandLine.Export
import C4Model.CommandLine.InitialSettings
import C4Model.CommandLine.Option
import C4Model.CommandLine.Run
import C4Model.CommandLine.Session
import C4Model.CommandLine.Version
import C4Model.Console.Basic
import C4Model.Console.Paint
import C4Model.Console.Style
import C4Model.Document.Json
import C4Model.Document.Lookup
import C4Model.Document.Toml.Node
import C4Model.Document.Toml.Reader
import C4Model.Document.Toml.Scalar
import C4Model.Document.Toml.Section
import C4Model.Document.Toml.Writer
import C4Model.Document.Value
import C4Model.Document.ValueText
import C4Model.Element.Basic
import C4Model.Element.Call
import C4Model.Element.Factory
import C4Model.Element.Identity
import C4Model.Element.Kind
import C4Model.Element.Relationship
import C4Model.Files.Path
import C4Model.Files.Text
import C4Model.Files.Tree
import C4Model.Hierarchy.Attachment
import C4Model.Hierarchy.Registry
import C4Model.Layout.Item
import C4Model.Layout.Program
import C4Model.Layout.Reindent
import C4Model.Layout.Statement
import C4Model.Layout.Template
import C4Model.Layout.Writer
import C4Model.Logging.Level
import C4Model.Logging.Record
import C4Model.Main
import C4Model.Naming.Identifier
import C4Model.Naming.PathMap
import C4Model.Naming.Scope
import C4Model.Number.FloatText
import C4Model.Number.Shortest
import C4Model.Proofs.Hierarchy.Placement
import C4Model.Proofs.Hierarchy.Registry
import C4Model.Proofs.Layout.Line
import C4Model.Proofs.Layout.Pattern
import C4Model.Proofs.Layout.Reflow
import C4Model.Proofs.Layout.Reindent
import C4Model.Proofs.Layout.Splice
import C4Model.Proofs.Layout.Wording
import C4Model.Proofs.Naming.Identifier
import C4Model.Proofs.Naming.PathMap
import C4Model.Proofs.Naming.Scope
import C4Model.Proofs.Naming.Search
import C4Model.Proofs.Outcome
import C4Model.Proofs.Reading.Balance
import C4Model.Proofs.Reading.Contents
import C4Model.Proofs.Reading.Document
import C4Model.Proofs.Reading.Literals
import C4Model.Proofs.Reading.Token
import C4Model.Proofs.Text.Blank
import C4Model.Proofs.Text.Lines
import C4Model.Proofs.View.Rendering
import C4Model.Proofs.View.Section
import C4Model.Proofs.View.Style
import C4Model.Proofs.Workspace.Balance
import C4Model.Proofs.Workspace.Growth
import C4Model.Proofs.Workspace.Literals
import C4Model.Proofs.Workspace.Locality
import C4Model.Proofs.Workspace.Outline
import C4Model.Proofs.Workspace.Ownership
import C4Model.Proofs.Workspace.Paths
import C4Model.Proofs.Workspace.Placement
import C4Model.Proofs.Workspace.ReadBack
import C4Model.Proofs.Workspace.References
import C4Model.Proofs.Workspace.Reindent
import C4Model.Proofs.Workspace.Statements
import C4Model.Proofs.Workspace.Success
import C4Model.Proofs.Workspace.Walk
import C4Model.Settings.Basic
import C4Model.Settings.Diagnostic
import C4Model.Settings.Discovery
import C4Model.Settings.Layer
import C4Model.Text.Alphanumeric
import C4Model.Text.Blank
import C4Model.Text.CodePoints
import C4Model.Text.Digits
import C4Model.Text.Integer
import C4Model.Text.Labelled
import C4Model.Text.Lines
import C4Model.Text.Literal
import C4Model.Text.LowerCase
import C4Model.Text.Numeral
import C4Model.Text.Printable
import C4Model.Text.Quoted
import C4Model.Text.Similarity
import C4Model.Text.Surrogate
import C4Model.View.Basic
import C4Model.View.Style
import C4Model.Workspace.Basic
import C4Model.Workspace.Outline
import C4Model.Workspace.Serialize
import C4Model.Proofs.Workspace.Order
import C4Model.Proofs.Workspace.Cycle
import C4Model.Proofs.Element.Renaming
import C4Model.Proofs.Hierarchy.Renaming
import C4Model.Proofs.Workspace.Renaming
import C4Model.Proofs.Blueprint.Reader
import C4Model.Proofs.Blueprint.Rows
import C4Model.Proofs.Blueprint.Element
import C4Model.Proofs.Blueprint.Load
import C4Model.Proofs.Blueprint.Sound
import C4Model.Proofs.Workspace.Endpoints
import C4Model.Proofs.Settings.Table
import C4Model.Proofs.Settings.Layers
import C4Model.Proofs.Settings.Files
import C4Model.Proofs.Blueprint.Failure
import C4Model.Proofs.Blueprint.Lists
import C4Model.Proofs.Workspace.Allocation
import C4Model.Proofs.Reading.Section
import C4Model.Proofs.View.Faithful
import C4Model.Proofs.Files.Tree
import C4Model.Proofs.CommandLine.Command
import C4Model.Proofs.CommandLine.Export
import C4Model.Proofs.CommandLine.Run
import C4Model.Proofs.CommandLine.SettingsFiles
import C4Model.Proofs.Hierarchy.Lookup
import C4Model.Proofs.Hierarchy.Ancestors
import C4Model.Proofs.Workspace.Ancestors
import C4Model.Proofs.Text.Content
import C4Model.Proofs.Workspace.Fragments
import C4Model.Proofs.Layout.Content
import C4Model.Proofs.Layout.Program
import C4Model.Proofs.Settings.Report
import C4Model.Proofs.Element.Rules
import C4Model.Proofs.Element.Calls
import C4Model.Proofs.Workspace.WrittenEnds
import C4Model.Proofs.Settings.WrittenOut
import C4Model.Proofs.Console.Codes
import C4Model.Proofs.Layout.Codes
import C4Model.Proofs.Workspace.Codes
import C4Model.Proofs.CommandLine.Delivery
import C4Model.Proofs.Layout.Place
