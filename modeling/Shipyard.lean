import Shipyard.Archive.Basic
import Shipyard.Archive.Calendar
import Shipyard.Archive.Deflate
import Shipyard.Archive.Store
import Shipyard.Archive.Tar
import Shipyard.Archive.Zip
import Shipyard.Asset.Artifact
import Shipyard.Asset.Checksum
import Shipyard.Command.Basic
import Shipyard.Command.Child
import Shipyard.Command.Machine
import Shipyard.Command.World
import Shipyard.CommandLine.Execution
import Shipyard.CommandLine.Invocation
import Shipyard.Console.Layout
import Shipyard.Console.Notice
import Shipyard.Console.Shortcode
import Shipyard.Console.Shortcode.Table
import Shipyard.Console.Terminal
import Shipyard.Data.Document
import Shipyard.Data.Json.Reader
import Shipyard.Data.Json.Writer
import Shipyard.Data.Shown
import Shipyard.Data.Toml.Document
import Shipyard.Data.Toml.Scalar
import Shipyard.Data.Value
import Shipyard.Decimal.Binary64
import Shipyard.Decimal.Places
import Shipyard.Decimal.Shortest
import Shipyard.Digest.Sha256
import Shipyard.Fault
import Shipyard.FileSystem.Basic
import Shipyard.FileSystem.Disk
import Shipyard.Main
import Shipyard.Outcome.ExitCode
import Shipyard.Outcome.Failure
import Shipyard.Outcome.Report
import Shipyard.Path
import Shipyard.Plan.Config
import Shipyard.Plan.Context
import Shipyard.Plan.Event
import Shipyard.Proofs.Asset.Name
import Shipyard.Proofs.Asset.Sidecar
import Shipyard.Proofs.Build.Afresh
import Shipyard.Proofs.Build.Checkout
import Shipyard.Proofs.Build.Protocol
import Shipyard.Proofs.Build.Script
import Shipyard.Proofs.Command.Action
import Shipyard.Proofs.Command.Child
import Shipyard.Proofs.Command.Coupling
import Shipyard.Proofs.Command.Exchange
import Shipyard.Proofs.Command.Film
import Shipyard.Proofs.Command.Pairs
import Shipyard.Proofs.Command.Telling
import Shipyard.Proofs.Command.Variables
import Shipyard.Proofs.Command.Work
import Shipyard.Proofs.CommandLine.Branch
import Shipyard.Proofs.CommandLine.Command
import Shipyard.Proofs.CommandLine.Decision
import Shipyard.Proofs.Data.Extent
import Shipyard.Proofs.Data.Json
import Shipyard.Proofs.Data.Table
import Shipyard.Proofs.Data.Toml.Document
import Shipyard.Proofs.Data.Toml.Scalar
import Shipyard.Proofs.Digest.Sha256
import Shipyard.Proofs.Digest.Standard
import Shipyard.Proofs.FileSystem.Agreement
import Shipyard.Proofs.FileSystem.Content
import Shipyard.Proofs.FileSystem.Directories
import Shipyard.Proofs.FileSystem.Disk
import Shipyard.Proofs.FileSystem.Extent
import Shipyard.Proofs.FileSystem.Look
import Shipyard.Proofs.FileSystem.Missing
import Shipyard.Proofs.FileSystem.Request
import Shipyard.Proofs.FileSystem.Touch
import Shipyard.Proofs.FileSystem.Walk
import Shipyard.Proofs.Formula.Calls
import Shipyard.Proofs.Formula.Link
import Shipyard.Proofs.Formula.Lookup
import Shipyard.Proofs.Formula.Protocol
import Shipyard.Proofs.Formula.Spelling
import Shipyard.Proofs.Formula.Tap
import Shipyard.Proofs.Formula.Title
import Shipyard.Proofs.Packaging.Confinement
import Shipyard.Proofs.Packaging.Failure
import Shipyard.Proofs.Packaging.Fresh
import Shipyard.Proofs.Packaging.Input
import Shipyard.Proofs.Packaging.Layout
import Shipyard.Proofs.Packaging.Names
import Shipyard.Proofs.Packaging.Places
import Shipyard.Proofs.Packaging.SidecarFile
import Shipyard.Proofs.Packaging.Staging
import Shipyard.Proofs.Packaging.Steps
import Shipyard.Proofs.Packaging.Success
import Shipyard.Proofs.Packaging.Verification
import Shipyard.Proofs.Path
import Shipyard.Proofs.Plan.ConfigFile
import Shipyard.Proofs.Plan.Event
import Shipyard.Proofs.Plan.EventFile
import Shipyard.Proofs.Plan.Settings
import Shipyard.Proofs.Publication.Answers
import Shipyard.Proofs.Publication.Calls
import Shipyard.Proofs.Publication.Cleanup
import Shipyard.Proofs.Publication.Parallel
import Shipyard.Proofs.Publication.Protocol
import Shipyard.Proofs.Publication.Served
import Shipyard.Proofs.Publication.Verdict
import Shipyard.Proofs.Rehearsal
import Shipyard.Proofs.Run.Attribution
import Shipyard.Proofs.Run.Coupling
import Shipyard.Proofs.Run.Delivery
import Shipyard.Proofs.Run.Directories
import Shipyard.Proofs.Run.Discipline
import Shipyard.Proofs.Run.Film
import Shipyard.Proofs.Run.Gate
import Shipyard.Proofs.Run.Hint
import Shipyard.Proofs.Run.Independence
import Shipyard.Proofs.Run.Isolation
import Shipyard.Proofs.Run.Leftovers
import Shipyard.Proofs.Run.Order
import Shipyard.Proofs.Run.Outcomes
import Shipyard.Proofs.Run.Parallel
import Shipyard.Proofs.Run.Platform
import Shipyard.Proofs.Run.Protocol
import Shipyard.Proofs.Run.Requests
import Shipyard.Proofs.Run.Secrecy
import Shipyard.Proofs.Run.Selective
import Shipyard.Proofs.Run.Steady
import Shipyard.Proofs.Run.Telling
import Shipyard.Proofs.Run.Territory
import Shipyard.Proofs.Text.Blank
import Shipyard.Proofs.Text.Case
import Shipyard.Proofs.Text.Lines
import Shipyard.Proofs.Text.Utf8
import Shipyard.Proofs.Text.Words
import Shipyard.Regex.Basic
import Shipyard.Regex.Reader
import Shipyard.Rehearsal.Script
import Shipyard.Run.Branch
import Shipyard.Run.Release
import Shipyard.Shell.Arithmetic
import Shipyard.Shell.Builtin
import Shipyard.Shell.Builtin.Basic
import Shipyard.Shell.Builtin.Processes
import Shipyard.Shell.Builtin.Surroundings
import Shipyard.Shell.Builtin.Text
import Shipyard.Shell.Builtin.Variables
import Shipyard.Shell.Command
import Shipyard.Shell.Condition
import Shipyard.Shell.Evaluation
import Shipyard.Shell.Evaluator
import Shipyard.Shell.Expansion
import Shipyard.Shell.Format
import Shipyard.Shell.Job
import Shipyard.Shell.Parser
import Shipyard.Shell.Pattern
import Shipyard.Shell.Reader
import Shipyard.Shell.Redirection
import Shipyard.Shell.Search
import Shipyard.Shell.Session
import Shipyard.Shell.State
import Shipyard.Shell.Syntax
import Shipyard.Step.Build
import Shipyard.Step.Formula
import Shipyard.Step.Packaging
import Shipyard.Step.Publication
import Shipyard.Step.Verification
import Shipyard.Target
import Shipyard.Text.Blank
import Shipyard.Text.Case
import Shipyard.Text.Case.Table
import Shipyard.Text.CellWidth
import Shipyard.Text.CellWidth.Table
import Shipyard.Text.CharClass
import Shipyard.Text.Quoted
import Shipyard.Text.Search
import Shipyard.Text.ShellWord
import Shipyard.Text.Utf8
import Shipyard.Unix.Basic
import Shipyard.Unix.Files
import Shipyard.Unix.Processes
import Shipyard.Unix.Program
import Shipyard.Unix.Streams
import Shipyard.Utility
import Shipyard.Utility.Basic
import Shipyard.Utility.Characters
import Shipyard.Utility.Coding
import Shipyard.Utility.Columns
import Shipyard.Utility.Editing
import Shipyard.Utility.Editing.Script
import Shipyard.Utility.Expression
import Shipyard.Utility.Files
import Shipyard.Utility.Grep
import Shipyard.Utility.Launch
import Shipyard.Utility.Listing
import Shipyard.Utility.Order
import Shipyard.Utility.Small
import Shipyard.Utility.Stream
import Shipyard.Utility.Surroundings
