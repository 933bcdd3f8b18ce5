import ShaderDiagnostics.Cache
import ShaderDiagnostics.Cache.Callers
import ShaderDiagnostics.Client.Capabilities
import ShaderDiagnostics.Client.Support
import ShaderDiagnostics.CommandLine
import ShaderDiagnostics.Connection
import ShaderDiagnostics.Diagnostic
import ShaderDiagnostics.Document.Editor
import ShaderDiagnostics.Document.Text
import ShaderDiagnostics.Host.Basic
import ShaderDiagnostics.Host.Desktop
import ShaderDiagnostics.Host.Scripted
import ShaderDiagnostics.Host.Shell
import ShaderDiagnostics.Host.Streams
import ShaderDiagnostics.Json.Decoder
import ShaderDiagnostics.Json.Fault
import ShaderDiagnostics.Json.Printer
import ShaderDiagnostics.Json.Reader
import ShaderDiagnostics.Json.Shape
import ShaderDiagnostics.Json.Value
import ShaderDiagnostics.Main
import ShaderDiagnostics.Message.Frame
import ShaderDiagnostics.Message.Incoming
import ShaderDiagnostics.Message.Outgoing
import ShaderDiagnostics.Message.Params
import ShaderDiagnostics.Number.Shortest
import ShaderDiagnostics.Path
import ShaderDiagnostics.PathMap
import ShaderDiagnostics.Pattern.Basic
import ShaderDiagnostics.Pattern.IndexSet
import ShaderDiagnostics.Pattern.Reader
import ShaderDiagnostics.Pattern.Search
import ShaderDiagnostics.Proofs.Cache.Coverage
import ShaderDiagnostics.Proofs.Cache.Failures
import ShaderDiagnostics.Proofs.Cache.Latest
import ShaderDiagnostics.Proofs.Cache.Sharing
import ShaderDiagnostics.Proofs.Cache.Slots
import ShaderDiagnostics.Proofs.Cache.Thrift
import ShaderDiagnostics.Proofs.Document.Lines
import ShaderDiagnostics.Proofs.Document.Locality
import ShaderDiagnostics.Proofs.Document.SourceLines
import ShaderDiagnostics.Proofs.Document.Synchrony
import ShaderDiagnostics.Proofs.Json.Members
import ShaderDiagnostics.Proofs.Json.Records
import ShaderDiagnostics.Proofs.Path.Components
import ShaderDiagnostics.Proofs.Pattern.Bounds
import ShaderDiagnostics.Proofs.Pattern.Choices
import ShaderDiagnostics.Proofs.Pattern.Extents
import ShaderDiagnostics.Proofs.Pattern.Readings
import ShaderDiagnostics.Proofs.Pattern.Replacing
import ShaderDiagnostics.Proofs.Redaction.Errors
import ShaderDiagnostics.Proofs.Redaction.Paths
import ShaderDiagnostics.Proofs.Redaction.Residue
import ShaderDiagnostics.Proofs.Report.Comments
import ShaderDiagnostics.Proofs.Report.Findings
import ShaderDiagnostics.Proofs.Report.Ranges
import ShaderDiagnostics.Proofs.Report.Snippets
import ShaderDiagnostics.Proofs.Report.Streams
import ShaderDiagnostics.Proofs.Report.Words
import ShaderDiagnostics.Proofs.Service.Acts
import ShaderDiagnostics.Proofs.Service.Answering
import ShaderDiagnostics.Proofs.Service.Bursts
import ShaderDiagnostics.Proofs.Service.Changes
import ShaderDiagnostics.Proofs.Service.Commission
import ShaderDiagnostics.Proofs.Service.Deeds
import ShaderDiagnostics.Proofs.Service.Deferral
import ShaderDiagnostics.Proofs.Service.Delays
import ShaderDiagnostics.Proofs.Service.Departure
import ShaderDiagnostics.Proofs.Service.Display
import ShaderDiagnostics.Proofs.Service.Economy
import ShaderDiagnostics.Proofs.Service.Elsewhere
import ShaderDiagnostics.Proofs.Service.Freshness
import ShaderDiagnostics.Proofs.Service.Handing
import ShaderDiagnostics.Proofs.Service.Handling
import ShaderDiagnostics.Proofs.Service.Housekeeping
import ShaderDiagnostics.Proofs.Service.Indifference
import ShaderDiagnostics.Proofs.Service.Intake
import ShaderDiagnostics.Proofs.Service.Invocations
import ShaderDiagnostics.Proofs.Service.Moments
import ShaderDiagnostics.Proofs.Service.Numbering
import ShaderDiagnostics.Proofs.Service.Obligations
import ShaderDiagnostics.Proofs.Service.Onward
import ShaderDiagnostics.Proofs.Service.OpenDocuments
import ShaderDiagnostics.Proofs.Service.Overflow
import ShaderDiagnostics.Proofs.Service.Polling
import ShaderDiagnostics.Proofs.Service.Provenance
import ShaderDiagnostics.Proofs.Service.Published
import ShaderDiagnostics.Proofs.Service.Pursuit
import ShaderDiagnostics.Proofs.Service.Quiet
import ShaderDiagnostics.Proofs.Service.Reconfiguring
import ShaderDiagnostics.Proofs.Service.Refreshing
import ShaderDiagnostics.Proofs.Service.Registry
import ShaderDiagnostics.Proofs.Service.Replies
import ShaderDiagnostics.Proofs.Service.Rereading
import ShaderDiagnostics.Proofs.Service.ResultIds
import ShaderDiagnostics.Proofs.Service.Retraction
import ShaderDiagnostics.Proofs.Service.Runs
import ShaderDiagnostics.Proofs.Service.Standing
import ShaderDiagnostics.Proofs.Service.Upkeep
import ShaderDiagnostics.Proofs.Service.Validation
import ShaderDiagnostics.Proofs.Service.Versions
import ShaderDiagnostics.Proofs.Service.WorkspaceReports
import ShaderDiagnostics.Proofs.Session.Answers
import ShaderDiagnostics.Proofs.Session.Mishaps
import ShaderDiagnostics.Proofs.Session.Registrations
import ShaderDiagnostics.Proofs.Session.Responses
import ShaderDiagnostics.Proofs.Session.Turns
import ShaderDiagnostics.Proofs.Session.Watching
import ShaderDiagnostics.Proofs.Settings.Agreement
import ShaderDiagnostics.Proofs.Settings.Extensions
import ShaderDiagnostics.Proofs.Settings.Merging
import ShaderDiagnostics.Proofs.Text.CodeUnits
import ShaderDiagnostics.Proofs.Text.Columns
import ShaderDiagnostics.Proofs.Text.Decoding
import ShaderDiagnostics.Proofs.Text.Lines
import ShaderDiagnostics.Proofs.Text.Numerals
import ShaderDiagnostics.Proofs.Text.Trimming
import ShaderDiagnostics.Proofs.Token.Texts
import ShaderDiagnostics.Proofs.Uri.Naming
import ShaderDiagnostics.Proofs.Uri.RoundTrip
import ShaderDiagnostics.Proofs.Uri.Segments
import ShaderDiagnostics.Proofs.Uri.Spelling
import ShaderDiagnostics.Redaction
import ShaderDiagnostics.Report.Comment
import ShaderDiagnostics.Report.Entry
import ShaderDiagnostics.Report.Severity
import ShaderDiagnostics.Report.Snippet
import ShaderDiagnostics.Server
import ShaderDiagnostics.Service.Events
import ShaderDiagnostics.Service.Jobs
import ShaderDiagnostics.Service.Pull
import ShaderDiagnostics.Service.Record
import ShaderDiagnostics.Service.Schedule
import ShaderDiagnostics.Service.State
import ShaderDiagnostics.Service.Usage
import ShaderDiagnostics.Service.Validate
import ShaderDiagnostics.ServiceError
import ShaderDiagnostics.Session
import ShaderDiagnostics.Settings
import ShaderDiagnostics.Stage
import ShaderDiagnostics.Telemetry
import ShaderDiagnostics.Text.Blank
import ShaderDiagnostics.Text.Decimal
import ShaderDiagnostics.Text.Lines
import ShaderDiagnostics.Text.Quoted
import ShaderDiagnostics.Text.Utf16
import ShaderDiagnostics.Text.Utf8
import ShaderDiagnostics.Token
import ShaderDiagnostics.Unicode.CaseFolding
import ShaderDiagnostics.Unicode.Category
import ShaderDiagnostics.Unicode.Named
import ShaderDiagnostics.Unicode.Property
import ShaderDiagnostics.Unicode.Ranges
import ShaderDiagnostics.Unicode.Script
import ShaderDiagnostics.Uri.File
import ShaderDiagnostics.Uri.Reference
