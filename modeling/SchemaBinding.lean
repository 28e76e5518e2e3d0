import SchemaBinding.CommandLine.Help
import SchemaBinding.CommandLine.Request
import SchemaBinding.CommandLine.Run
import SchemaBinding.Compilation
import SchemaBinding.Cycle
import SchemaBinding.Decimal.Shortest
import SchemaBinding.Diagnostic
import SchemaBinding.Expectation.Basic
import SchemaBinding.Expectation.Check
import SchemaBinding.Main
import SchemaBinding.Manifest.Basic
import SchemaBinding.Manifest.Decode
import SchemaBinding.Manifest.File
import SchemaBinding.Manifest.Load
import SchemaBinding.Model.Basic
import SchemaBinding.Model.Leaf
import SchemaBinding.Model.ScopeStack
import SchemaBinding.Model.Tree
import SchemaBinding.Naming.Convention
import SchemaBinding.Naming.Identifier
import SchemaBinding.Naming.Package
import SchemaBinding.Naming.Words
import SchemaBinding.Proofs.Acknowledging.Basic
import SchemaBinding.Proofs.Acknowledging.Resolver
import SchemaBinding.Proofs.Acknowledging.Run
import SchemaBinding.Proofs.Bracketing
import SchemaBinding.Proofs.Calls
import SchemaBinding.Proofs.Changes.Answers
import SchemaBinding.Proofs.Changes.Basic
import SchemaBinding.Proofs.Changes.Notes
import SchemaBinding.Proofs.Changes.Run
import SchemaBinding.Proofs.Changes.Standard
import SchemaBinding.Proofs.ClassTitles
import SchemaBinding.Proofs.Completion
import SchemaBinding.Proofs.Concurrence.Basic
import SchemaBinding.Proofs.Concurrence.Run
import SchemaBinding.Proofs.Concurrence.Steps
import SchemaBinding.Proofs.Cutting
import SchemaBinding.Proofs.Detection
import SchemaBinding.Proofs.Documentation
import SchemaBinding.Proofs.ExpectedErrors
import SchemaBinding.Proofs.Failure
import SchemaBinding.Proofs.Final
import SchemaBinding.Proofs.Following.Basic
import SchemaBinding.Proofs.Following.Body
import SchemaBinding.Proofs.Following.Proposal
import SchemaBinding.Proofs.Following.Resolver
import SchemaBinding.Proofs.Following.Run
import SchemaBinding.Proofs.Fragment.Levels
import SchemaBinding.Proofs.Fragment.Nesting
import SchemaBinding.Proofs.Fragment.Reading
import SchemaBinding.Proofs.Frame.Basic
import SchemaBinding.Proofs.Frame.Books
import SchemaBinding.Proofs.Frame.Resolver
import SchemaBinding.Proofs.Frame.Standard
import SchemaBinding.Proofs.Inheritance
import SchemaBinding.Proofs.Lodging.Basic
import SchemaBinding.Proofs.Lodging.Run
import SchemaBinding.Proofs.Manifest.Acceptance
import SchemaBinding.Proofs.Manifest.Building
import SchemaBinding.Proofs.Manifest.Consistency
import SchemaBinding.Proofs.Manifest.Contents
import SchemaBinding.Proofs.Manifest.Description
import SchemaBinding.Proofs.Manifest.Filling
import SchemaBinding.Proofs.Manifest.Loaded
import SchemaBinding.Proofs.Manifest.Nameless
import SchemaBinding.Proofs.Manifest.Names
import SchemaBinding.Proofs.Manifest.Outcome
import SchemaBinding.Proofs.Manifest.Ownership
import SchemaBinding.Proofs.Manifest.Parts
import SchemaBinding.Proofs.Manifest.Settling
import SchemaBinding.Proofs.Manifest.WellFormed
import SchemaBinding.Proofs.ModelGrowth
import SchemaBinding.Proofs.Moves.Allocation
import SchemaBinding.Proofs.Moves.Basic
import SchemaBinding.Proofs.Moves.Building
import SchemaBinding.Proofs.Moves.Content
import SchemaBinding.Proofs.Moves.Inheritance
import SchemaBinding.Proofs.Moves.Registry
import SchemaBinding.Proofs.Moves.Titles
import SchemaBinding.Proofs.Naming.Breaks
import SchemaBinding.Proofs.Naming.Identifier
import SchemaBinding.Proofs.Naming.Package
import SchemaBinding.Proofs.Naming.Words
import SchemaBinding.Proofs.Packages.Memo
import SchemaBinding.Proofs.Packages.Requests
import SchemaBinding.Proofs.Placement.Basic
import SchemaBinding.Proofs.Placement.Body
import SchemaBinding.Proofs.Placement.Proposal
import SchemaBinding.Proofs.Placement.Run
import SchemaBinding.Proofs.Placement.Steps
import SchemaBinding.Proofs.Prescription
import SchemaBinding.Proofs.Renaming.Component
import SchemaBinding.Proofs.Renaming.Context
import SchemaBinding.Proofs.Renaming.Documentation
import SchemaBinding.Proofs.Renaming.Model
import SchemaBinding.Proofs.Renaming.Outcome
import SchemaBinding.Proofs.Renaming.Pairing
import SchemaBinding.Proofs.Renaming.Plan
import SchemaBinding.Proofs.Renaming.Run
import SchemaBinding.Proofs.Reordering.Compilation
import SchemaBinding.Proofs.Reordering.Declaring
import SchemaBinding.Proofs.Reordering.Decoding
import SchemaBinding.Proofs.Reordering.Document
import SchemaBinding.Proofs.Reordering.Exchange
import SchemaBinding.Proofs.Reordering.Filling
import SchemaBinding.Proofs.Reordering.Indexed
import SchemaBinding.Proofs.Reordering.Manifest
import SchemaBinding.Proofs.Reordering.Matched
import SchemaBinding.Proofs.Reordering.Mirroring
import SchemaBinding.Proofs.Repetition
import SchemaBinding.Proofs.Restoration
import SchemaBinding.Proofs.Running
import SchemaBinding.Proofs.Schema.Assembly
import SchemaBinding.Proofs.Schema.Bases
import SchemaBinding.Proofs.Schema.Built
import SchemaBinding.Proofs.Schema.Depth
import SchemaBinding.Proofs.Schema.Index
import SchemaBinding.Proofs.Schema.Kind
import SchemaBinding.Proofs.Schema.Loaded
import SchemaBinding.Proofs.Schema.Loading
import SchemaBinding.Proofs.Schema.Manifest
import SchemaBinding.Proofs.Schema.Restrictions
import SchemaBinding.Proofs.Schema.Stages
import SchemaBinding.Proofs.Scoping.Basic
import SchemaBinding.Proofs.Scoping.Body
import SchemaBinding.Proofs.Scoping.Matching
import SchemaBinding.Proofs.Scoping.Proposal
import SchemaBinding.Proofs.Scoping.Run
import SchemaBinding.Proofs.SharedClass
import SchemaBinding.Proofs.Simulation.Basic
import SchemaBinding.Proofs.Simulation.Resolver
import SchemaBinding.Proofs.Simulation.Run
import SchemaBinding.Proofs.SourceLines
import SchemaBinding.Proofs.Standard.Plan
import SchemaBinding.Proofs.Termination.Basic
import SchemaBinding.Proofs.Termination.Fragment
import SchemaBinding.Proofs.Termination.Questions
import SchemaBinding.Proofs.Termination.Resolver
import SchemaBinding.Proofs.Termination.Run
import SchemaBinding.Proofs.Tree.Arrangement
import SchemaBinding.Proofs.Tree.Compiled
import SchemaBinding.Proofs.Tree.Formation
import SchemaBinding.Proofs.Tree.Paths
import SchemaBinding.Proofs.Tree.Traversal
import SchemaBinding.Proofs.Unused
import SchemaBinding.Proofs.WellPlaced
import SchemaBinding.Resolver.Basic
import SchemaBinding.Resolver.Config
import SchemaBinding.Resolver.ConfigFile
import SchemaBinding.Resolver.Context
import SchemaBinding.Resolver.Error
import SchemaBinding.Resolver.Finding
import SchemaBinding.Resolver.Leaf
import SchemaBinding.Resolver.Question
import SchemaBinding.Resolver.Registry
import SchemaBinding.Resolver.State
import SchemaBinding.Schema.Basic
import SchemaBinding.Schema.Builder
import SchemaBinding.Schema.Component
import SchemaBinding.Schema.Fragment
import SchemaBinding.Schema.Label
import SchemaBinding.Schema.Occurrence
import SchemaBinding.Source.FileTree
import SchemaBinding.Source.Files
import SchemaBinding.Source.Locator
import SchemaBinding.Source.Reading
import SchemaBinding.Strategy.Body
import SchemaBinding.Strategy.Documentation
import SchemaBinding.Strategy.Proposal
import SchemaBinding.Strategy.Standard
import SchemaBinding.Text.CaseTables
import SchemaBinding.Text.Casing
import SchemaBinding.Text.CharClass
import SchemaBinding.Text.CharTables
import SchemaBinding.Text.Escaped
import SchemaBinding.Text.Quoted
import SchemaBinding.Text.Split
import SchemaBinding.Toml.Decode
import SchemaBinding.Toml.Document
import SchemaBinding.Toml.Quotation
import SchemaBinding.Toml.Scalar
import SchemaBinding.Toml.Scan
import SchemaBinding.Toml.Table
import SchemaBinding.Toml.Value
