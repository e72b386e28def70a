import CiPipeline.Collection.OrderedMap
import CiPipeline.Collection.SortedMap
import CiPipeline.CommandLine.Arguments
import CiPipeline.CommandLine.Given
import CiPipeline.CommandLine.Help
import CiPipeline.CommandLine.Run
import CiPipeline.CommandLine.Switch
import CiPipeline.Decode.Basic
import CiPipeline.Decode.Error
import CiPipeline.Decode.Record
import CiPipeline.Decode.Source
import CiPipeline.Decode.Variant
import CiPipeline.Definition
import CiPipeline.Definition.Load
import CiPipeline.Failure
import CiPipeline.Format
import CiPipeline.GitHub.Backend
import CiPipeline.GitHub.Compiler
import CiPipeline.GitHub.Document
import CiPipeline.GitHub.Options
import CiPipeline.GitLab.Backend
import CiPipeline.GitLab.Compiler
import CiPipeline.GitLab.Document
import CiPipeline.GitLab.Options
import CiPipeline.GitLab.Rules
import CiPipeline.Job
import CiPipeline.Job.Form
import CiPipeline.Log
import CiPipeline.Log.Directive
import CiPipeline.Log.Filter
import CiPipeline.Log.Line
import CiPipeline.Log.Pattern
import CiPipeline.Main
import CiPipeline.Number.Binary64
import CiPipeline.Number.Decimal
import CiPipeline.Number.Word
import CiPipeline.Output
import CiPipeline.Path
import CiPipeline.Proofs.Agreement
import CiPipeline.Proofs.Bindings
import CiPipeline.Proofs.Bundles
import CiPipeline.Proofs.ByteOrder
import CiPipeline.Proofs.Capitals
import CiPipeline.Proofs.Checking
import CiPipeline.Proofs.Collisions
import CiPipeline.Proofs.Components
import CiPipeline.Proofs.Containment
import CiPipeline.Proofs.Cycles
import CiPipeline.Proofs.Dependency
import CiPipeline.Proofs.Destinations
import CiPipeline.Proofs.Directories
import CiPipeline.Proofs.Emission
import CiPipeline.Proofs.Entries
import CiPipeline.Proofs.Fields
import CiPipeline.Proofs.Following
import CiPipeline.Proofs.Foresight
import CiPipeline.Proofs.Frames
import CiPipeline.Proofs.Gating
import CiPipeline.Proofs.Inclusion
import CiPipeline.Proofs.Lists
import CiPipeline.Proofs.Needs
import CiPipeline.Proofs.Order
import CiPipeline.Proofs.Parents
import CiPipeline.Proofs.Paths
import CiPipeline.Proofs.Patterns
import CiPipeline.Proofs.Placing
import CiPipeline.Proofs.Presenting
import CiPipeline.Proofs.Reachability
import CiPipeline.Proofs.References
import CiPipeline.Proofs.Repeating
import CiPipeline.Proofs.Replacing
import CiPipeline.Proofs.Reports
import CiPipeline.Proofs.Restoring
import CiPipeline.Proofs.Roots
import CiPipeline.Proofs.Runs
import CiPipeline.Proofs.Schedules
import CiPipeline.Proofs.Sections
import CiPipeline.Proofs.Settling
import CiPipeline.Proofs.Slug
import CiPipeline.Proofs.Soundness
import CiPipeline.Proofs.Splitting
import CiPipeline.Proofs.Storing
import CiPipeline.Proofs.Synthesis
import CiPipeline.Proofs.Variables
import CiPipeline.Proofs.Writing
import CiPipeline.Provider
import CiPipeline.Render
import CiPipeline.Section
import CiPipeline.Storage.Basic
import CiPipeline.Storage.Disk
import CiPipeline.Storage.Error
import CiPipeline.Text.Blank
import CiPipeline.Text.Letter
import CiPipeline.Text.Lowercase
import CiPipeline.Text.Quoted
import CiPipeline.Text.Shown
import CiPipeline.Text.Slug
import CiPipeline.Toml.Moment
import CiPipeline.Toml.Statement
import CiPipeline.Toml.Table
import CiPipeline.Toml.Text
import CiPipeline.Toml.Value
import CiPipeline.Tree
import CiPipeline.Trigger
import CiPipeline.Workflow.Basic
import CiPipeline.Workflow.Check
import CiPipeline.Workflow.Reachability
import CiPipeline.Workflow.Violation
import CiPipeline.Yaml.Character
import CiPipeline.Yaml.Cursor
import CiPipeline.Yaml.Document
import CiPipeline.Yaml.Node
import CiPipeline.Yaml.Node.OfTokens
import CiPipeline.Yaml.Reader
import CiPipeline.Yaml.Scalar
import CiPipeline.Yaml.Style
import CiPipeline.Yaml.Tag
import CiPipeline.Yaml.Token
import CiPipeline.Yaml.Token.Block
import CiPipeline.Yaml.Token.Flow
import CiPipeline.Yaml.Token.Property
import CiPipeline.Yaml.Token.Scanner
import CiPipeline.Yaml.Writer
