import FeatureLadder.Arguments.Basic
import FeatureLadder.Arguments.Help
import FeatureLadder.Arguments.Parse
import FeatureLadder.Catalog
import FeatureLadder.Command
import FeatureLadder.Completion
import FeatureLadder.Error
import FeatureLadder.Executor.Basic
import FeatureLadder.Executor.Scripted
import FeatureLadder.Executor.Shell
import FeatureLadder.FileTree
import FeatureLadder.Json.Value
import FeatureLadder.Log.Entry
import FeatureLadder.Log.Filter
import FeatureLadder.Log.Level
import FeatureLadder.Log.Noted
import FeatureLadder.Main
import FeatureLadder.Manifest
import FeatureLadder.Options
import FeatureLadder.Path
import FeatureLadder.Plan
import FeatureLadder.Program.Basic
import FeatureLadder.Program.Journal
import FeatureLadder.Program.Run
import FeatureLadder.Selection.Basic
import FeatureLadder.Selection.Cumulation
import FeatureLadder.Shell.Arithmetic
import FeatureLadder.Shell.Binary64
import FeatureLadder.Shell.Builtin
import FeatureLadder.Shell.Builtin.Condition
import FeatureLadder.Shell.Builtin.Control
import FeatureLadder.Shell.Builtin.Directory
import FeatureLadder.Shell.Builtin.Printing
import FeatureLadder.Shell.Builtin.Signals
import FeatureLadder.Shell.Builtin.Variables
import FeatureLadder.Shell.Bytes
import FeatureLadder.Shell.Calling
import FeatureLadder.Shell.Evaluate
import FeatureLadder.Shell.Expand
import FeatureLadder.Shell.Fields
import FeatureLadder.Shell.Glob
import FeatureLadder.Shell.Invocation
import FeatureLadder.Shell.Lookup
import FeatureLadder.Shell.Machine
import FeatureLadder.Shell.Parse
import FeatureLadder.Shell.Pattern
import FeatureLadder.Shell.Program
import FeatureLadder.Shell.Redirection
import FeatureLadder.Shell.Regex
import FeatureLadder.Shell.Run
import FeatureLadder.Shell.Running
import FeatureLadder.Shell.Script
import FeatureLadder.Shell.Signal
import FeatureLadder.Shell.Source
import FeatureLadder.Shell.Utility.Basic
import FeatureLadder.Shell.Utility.Editor
import FeatureLadder.Shell.Utility.Expression
import FeatureLadder.Shell.Utility.Files
import FeatureLadder.Shell.Utility.Host
import FeatureLadder.Shell.Utility.Launching
import FeatureLadder.Shell.Utility.Lines
import FeatureLadder.Shell.Utility.Predicate
import FeatureLadder.Shell.Utility.Search
import FeatureLadder.Shell.Utility.Transform
import FeatureLadder.Text.Alphanumeric
import FeatureLadder.Text.Blank
import FeatureLadder.Text.Lines
import FeatureLadder.Text.Pieces
import FeatureLadder.Text.Plain
import FeatureLadder.Text.Quoted
import FeatureLadder.Text.Utf8
import FeatureLadder.Version.Basic
import FeatureLadder.Version.Order
import FeatureLadder.Version.Read
import FeatureLadder.Proofs.Pieces
import FeatureLadder.Proofs.Planning
import FeatureLadder.Proofs.Scanning
import FeatureLadder.Proofs.Selection
import FeatureLadder.Proofs.VersionOrder
import FeatureLadder.Proofs.Listing
import FeatureLadder.Proofs.Quoting
import FeatureLadder.Proofs.Courses
import FeatureLadder.Proofs.Verdict
import FeatureLadder.Proofs.DigitRuns
import FeatureLadder.Proofs.NumericOrder
import FeatureLadder.Proofs.Grammar
import FeatureLadder.Proofs.Prefixes
import FeatureLadder.Proofs.LineReading
import FeatureLadder.Proofs.Writing
import FeatureLadder.Proofs.OrderAgreement
import FeatureLadder.Proofs.SharedTape
import FeatureLadder.Proofs.JsonGrammar
import FeatureLadder.Proofs.JsonLexemes
import FeatureLadder.Proofs.JsonReading
import FeatureLadder.Proofs.JsonWriting
import FeatureLadder.Proofs.Documents
import FeatureLadder.Proofs.DryRun
import FeatureLadder.Proofs.Requests
import FeatureLadder.Proofs.CommandLines
import FeatureLadder.Proofs.GroupReading
import FeatureLadder.Proofs.LineSplitting
import FeatureLadder.Proofs.WrittenArguments
import FeatureLadder.Proofs.LogNoninterference
import FeatureLadder.Proofs.Rearrangement
import FeatureLadder.Proofs.CanonicalOrder
import FeatureLadder.Proofs.Coverage
import FeatureLadder.Proofs.LineEndings
import FeatureLadder.Proofs.Diagnostics
import FeatureLadder.Proofs.Directories
import FeatureLadder.Proofs.Stepping
import FeatureLadder.Proofs.ArgumentRules
import FeatureLadder.Proofs.Replacement
import FeatureLadder.Proofs.CharacterBytes
import FeatureLadder.Proofs.CapturedOutput
