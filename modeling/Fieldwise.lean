import Fieldwise.BuildScript
import Fieldwise.Bundle.Accessor
import Fieldwise.Bundle.Basic
import Fieldwise.Bundle.Source
import Fieldwise.Candidate
import Fieldwise.CommandLine.Arguments
import Fieldwise.CommandLine.ErrorStream
import Fieldwise.CommandLine.LogFilter
import Fieldwise.CommandLine.Run
import Fieldwise.CommandLine.Version
import Fieldwise.CommandLine.Workspace
import Fieldwise.Conditions.Basic
import Fieldwise.Conditions.Predicate
import Fieldwise.Declaration
import Fieldwise.Demo
import Fieldwise.Diagnostic
import Fieldwise.Discovery.Conversion
import Fieldwise.Discovery.Crate
import Fieldwise.Discovery.Walk
import Fieldwise.Emission
import Fieldwise.Event
import Fieldwise.FileTree.Basic
import Fieldwise.FileTree.Change
import Fieldwise.Grammar.Attribute
import Fieldwise.Grammar.Expression
import Fieldwise.Grammar.File
import Fieldwise.Grammar.Item
import Fieldwise.Grammar.ItemReader
import Fieldwise.Grammar.Parser
import Fieldwise.Grammar.Parts.Attribute
import Fieldwise.Grammar.Parts.Expr
import Fieldwise.Grammar.Parts.Item
import Fieldwise.Grammar.Parts.Path
import Fieldwise.Grammar.Parts.Pattern
import Fieldwise.Grammar.Parts.Statement
import Fieldwise.Grammar.Path
import Fieldwise.Grammar.Pattern
import Fieldwise.Grammar.Rules
import Fieldwise.Grammar.Signature
import Fieldwise.Grammar.Statement
import Fieldwise.Grammar.Type
import Fieldwise.Grammar.TypeReader
import Fieldwise.Halt
import Fieldwise.Json.Basic
import Fieldwise.Json.Reader
import Fieldwise.Json.Record
import Fieldwise.Json.Written
import Fieldwise.Layout.Doc
import Fieldwise.Layout.Tokens
import Fieldwise.Location
import Fieldwise.Main
import Fieldwise.Marked
import Fieldwise.Marker
import Fieldwise.Number.Binary
import Fieldwise.Number.Shortest
import Fieldwise.Pass
import Fieldwise.Proofs.Bundle.Acceptance
import Fieldwise.Proofs.Bundle.Accessors
import Fieldwise.Proofs.Bundle.Assembly
import Fieldwise.Proofs.Bundle.FileNames
import Fieldwise.Proofs.Bundle.Lexemes
import Fieldwise.Proofs.Bundle.ReadBack
import Fieldwise.Proofs.Bundle.Rendering
import Fieldwise.Proofs.CommandLine.DryRun
import Fieldwise.Proofs.CommandLine.Status
import Fieldwise.Proofs.Discovery.Bodies
import Fieldwise.Proofs.Discovery.Confinement
import Fieldwise.Proofs.Discovery.Inlining
import Fieldwise.Proofs.Discovery.ModuleFiles
import Fieldwise.Proofs.Discovery.Stripping
import Fieldwise.Proofs.Discovery.Termination
import Fieldwise.Proofs.Discovery.Uniqueness
import Fieldwise.Proofs.Discovery.Walks
import Fieldwise.Proofs.Emission.Mirror
import Fieldwise.Proofs.Emission.Storing
import Fieldwise.Proofs.FileTree.Confinement
import Fieldwise.Proofs.FileTree.Directories
import Fieldwise.Proofs.FileTree.Opening
import Fieldwise.Proofs.Grammar.Advance
import Fieldwise.Proofs.Grammar.ItemNames
import Fieldwise.Proofs.Grammar.Types
import Fieldwise.Proofs.Layout.Printing
import Fieldwise.Proofs.Location.Ancestors
import Fieldwise.Proofs.Location.Names
import Fieldwise.Proofs.Pass.Isolation
import Fieldwise.Proofs.Pass.Markers
import Fieldwise.Proofs.Round.Consistency
import Fieldwise.Proofs.Token.Lexemes
import Fieldwise.Proofs.Token.Literals
import Fieldwise.Proofs.Token.Names
import Fieldwise.Round
import Fieldwise.Settings.Basic
import Fieldwise.Settings.Table
import Fieldwise.Template
import Fieldwise.Text.Blank
import Fieldwise.Text.Digits
import Fieldwise.Text.Identifier
import Fieldwise.Text.Letter
import Fieldwise.Text.Printable
import Fieldwise.Text.Quoted
import Fieldwise.Text.Ranges
import Fieldwise.Text.SnakeCase
import Fieldwise.Text.Split
import Fieldwise.Token.Basic
import Fieldwise.Token.Lexer
import Fieldwise.Token.Literal
import Fieldwise.Proofs.Bundle.Templates
import Fieldwise.Proofs.Conditions.Formulas
import Fieldwise.Proofs.Conditions.Evaluation
import Fieldwise.Proofs.Conditions.Constants
import Fieldwise.Proofs.Emission.Repetition
import Fieldwise.Proofs.Round.Repetition
import Fieldwise.Proofs.Pass.Obstacles
import Fieldwise.Proofs.Emission.Atomicity
import Fieldwise.Proofs.Pass.Blame
import Fieldwise.Proofs.Pass.Generics
import Fieldwise.Proofs.Pass.Halting
import Fieldwise.Proofs.Bundle.RelativePaths
import Fieldwise.Proofs.Conditions.Sets
import Fieldwise.Proofs.Emission.Leftovers
import Fieldwise.Proofs.CommandLine.BuildOutput
import Fieldwise.Proofs.CommandLine.ErrorLines
import Fieldwise.Proofs.CommandLine.Selection
import Fieldwise.Proofs.Discovery.EntryFiles
import Fieldwise.Proofs.Lists.First
import Fieldwise.Proofs.Location.Halves
