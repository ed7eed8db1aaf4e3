import ContainerLint.CommandLine.Arguments
import ContainerLint.CommandLine.Failure
import ContainerLint.CommandLine.Report
import ContainerLint.CommandLine.Request
import ContainerLint.CommandLine.Run
import ContainerLint.ConfigFault
import ContainerLint.Decimal.Shortest
import ContainerLint.Diagnostic
import ContainerLint.Docker.Fault
import ContainerLint.Docker.MachineEnv
import ContainerLint.Docker.Program
import ContainerLint.Docker.Runtime
import ContainerLint.Docker.Toolbox
import ContainerLint.Extraction
import ContainerLint.FileTree
import ContainerLint.IoFault
import ContainerLint.Json.Reader
import ContainerLint.Json.Writer
import ContainerLint.Linter
import ContainerLint.Main
import ContainerLint.Pattern.Cursor
import ContainerLint.Pattern.Error
import ContainerLint.Pattern.Footprint
import ContainerLint.Pattern.Match
import ContainerLint.Pattern.Meaning
import ContainerLint.Pattern.Node
import ContainerLint.Pattern.Program
import ContainerLint.Pattern.Property
import ContainerLint.Pattern.Reader
import ContainerLint.Pattern.Search
import ContainerLint.Pattern.Syntax
import ContainerLint.Profile
import ContainerLint.Run.Chunk
import ContainerLint.Run.Collector
import ContainerLint.Run.DaemonError
import ContainerLint.Run.LineBuffer
import ContainerLint.Server.DistinctMessages
import ContainerLint.Server.DockerHost
import ContainerLint.Server.EditorDiagnostic
import ContainerLint.Server.Host
import ContainerLint.Server.Message
import ContainerLint.Server.Params
import ContainerLint.Server.Payload
import ContainerLint.Server.Pool
import ContainerLint.Server.Rehearsal
import ContainerLint.Server.Session
import ContainerLint.Server.State
import ContainerLint.Server.Step
import ContainerLint.Server.Uri
import ContainerLint.Server.Wire
import ContainerLint.Settings.Basic
import ContainerLint.Settings.Data
import ContainerLint.Text.Blank
import ContainerLint.Text.CaseOrbit
import ContainerLint.Text.CharSet
import ContainerLint.Text.Digit
import ContainerLint.Text.Printable
import ContainerLint.Text.Property.Age
import ContainerLint.Text.Property.Basic
import ContainerLint.Text.Property.Binary
import ContainerLint.Text.Property.Category
import ContainerLint.Text.Property.GraphemeBreak
import ContainerLint.Text.Property.Script
import ContainerLint.Text.Property.ScriptExtension
import ContainerLint.Text.Property.SentenceBreak
import ContainerLint.Text.Property.WordBreak
import ContainerLint.Text.Quoted
import ContainerLint.Text.Utf8
import ContainerLint.Text.Word
import ContainerLint.Text.Word32
import ContainerLint.Toml.Reader
import ContainerLint.Toml.Scalar
import ContainerLint.Toml.Table
import ContainerLint.Value
import ContainerLint.Value.Decode
import ContainerLint.Version
import ContainerLint.Proofs.Server.Documents
import ContainerLint.Proofs.Server.Validation
import ContainerLint.Proofs.Server.Invariant
import ContainerLint.Proofs.Server.Frame
import ContainerLint.Proofs.Server.History
import ContainerLint.Proofs.Server.Replay
import ContainerLint.Proofs.Server.Starting
import ContainerLint.Proofs.Server.Versions
import ContainerLint.Proofs.Server.Tasks
import ContainerLint.Proofs.Server.Freshness
import ContainerLint.Proofs.Server.Convergence
import ContainerLint.Proofs.Pattern.Places
import ContainerLint.Proofs.Pattern.Resolution
import ContainerLint.Proofs.Pattern.Following
import ContainerLint.Proofs.Pattern.Leftmost
import ContainerLint.Proofs.Pattern.Memory
import ContainerLint.Proofs.Pattern.Code
import ContainerLint.Proofs.Text.Lines
import ContainerLint.Proofs.Text.Separators
import ContainerLint.Proofs.Text.FullLines
import ContainerLint.Proofs.Run.DaemonLines
import ContainerLint.Proofs.Run.Buffering
import ContainerLint.Proofs.Run.Outcomes
import ContainerLint.Proofs.Run.Lossless
import ContainerLint.Proofs.Server.Notes
import ContainerLint.Proofs.Server.Staleness
import ContainerLint.Proofs.Server.Ownership
import ContainerLint.Proofs.Server.Reports
import ContainerLint.Proofs.Server.Independence
import ContainerLint.Proofs.Server.Beginnings
import ContainerLint.Proofs.Text.Encoding
import ContainerLint.Proofs.Docker.Environments
import ContainerLint.Proofs.Docker.Exports
import ContainerLint.Proofs.Settings.Surfaces
import ContainerLint.Proofs.CommandLine.Offline
import ContainerLint.Proofs.CommandLine.ExitCodes
import ContainerLint.Proofs.Value.Sorted
import ContainerLint.Proofs.Value.Records
import ContainerLint.Proofs.Value.ReadBack
import ContainerLint.Proofs.Json.Grammar
import ContainerLint.Proofs.Json.Reading
import ContainerLint.Proofs.Text.Blanks
import ContainerLint.Proofs.Text.Figures
import ContainerLint.Proofs.Settings.Objections
import ContainerLint.Proofs.Settings.Selection
import ContainerLint.Proofs.Settings.Overrides
import ContainerLint.Proofs.Settings.Payloads
import ContainerLint.Proofs.Server.Courses
import ContainerLint.Proofs.Server.Batching
import ContainerLint.Proofs.Pattern.LineStarts
import ContainerLint.Proofs.Pattern.Inline
import ContainerLint.Proofs.Pattern.LineByLine
import ContainerLint.Proofs.Pattern.Runs
import ContainerLint.Proofs.Linter.Extraction
import ContainerLint.Proofs.Linter.Perlcritic
import ContainerLint.Proofs.Linter.Positions
import ContainerLint.Proofs.CommandLine.ReportLines
import ContainerLint.Proofs.Linter.Records
import ContainerLint.Proofs.Pattern.Groups
import ContainerLint.Proofs.Pattern.Passages
import ContainerLint.Proofs.Pattern.Spans
import ContainerLint.Proofs.Pattern.Iteration
import ContainerLint.Proofs.Linter.Matches
import ContainerLint.Proofs.Pattern.Contents
import ContainerLint.Proofs.Linter.BuiltIn
import ContainerLint.Proofs.CommandLine.CleanReports
