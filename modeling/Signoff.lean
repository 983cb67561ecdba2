import Signoff.Text.Basic
import Signoff.Text.Lines
import Signoff.Text.WordChar
import Signoff.Text.Quoted
import Signoff.Number.Numeral
import Signoff.Number.Decimal
import Signoff.Json.Writer
import Signoff.Json.Reader
import Signoff.Json.Fields
import Signoff.Time.Instant
import Signoff.RunId
import Signoff.Status
import Signoff.Section
import Signoff.Text.Scan
import Signoff.Analysis.Formal
import Signoff.Analysis.Timing
import Signoff.Analysis.Clock
import Signoff.Analysis.Physical
import Signoff.Analysis.Release
import Signoff.Analysis.GateLevel
import Signoff.Figures.Codec
import Signoff.Verdict
import Signoff.Record
import Signoff.CompletionLog
import Signoff.Catalog
import Signoff.Report.Codec
import Signoff.Report.Markdown
import Signoff.Gate
import Signoff.Event
import Signoff.Retry
import Signoff.Artifacts
import Signoff.LogFile
import Signoff.Run.Execute
import Signoff.Rehearsal
import Signoff.Main
import Signoff.Text.Lossy
import Signoff.Sources
import Signoff.Proofs.Ledger
import Signoff.Proofs.Run.Deeds
import Signoff.Proofs.Run.Jobs
import Signoff.Proofs.Run.Termination
import Signoff.Proofs.Run.Scheduling
import Signoff.Proofs.Text.Separated
import Signoff.Proofs.Time
import Signoff.Proofs.Workspace.Places
import Signoff.Proofs.Workspace.Parents
import Signoff.Proofs.Workspace.Folders
import Signoff.Proofs.Workspace.Files
import Signoff.Proofs.Workspace.Saving
import Signoff.Proofs.Workspace.Again
import Signoff.Proofs.Text.Digits
import Signoff.Proofs.CompletionLog
import Signoff.Proofs.Layout
import Signoff.Proofs.Run.Courses
import Signoff.Proofs.Run.Opening
import Signoff.Proofs.Run.Traces
import Signoff.Proofs.Run.Attained
import Signoff.Proofs.Run.Sample
import Signoff.Proofs.Run.Bookkeeping
import Signoff.Proofs.Run.Solo
import Signoff.Proofs.Run.Outcome
import Signoff.Proofs.Run.Lines
import Signoff.Proofs.Run.Agreement
import Signoff.Proofs.Number.Nearest
import Signoff.Proofs.Number.Numeral
import Signoff.Proofs.Json.Reader
import Signoff.Proofs.Json.Fields
import Signoff.Proofs.Figures
import Signoff.Proofs.Record
import Signoff.Proofs.RecordFile
import Signoff.Proofs.Catalog
import Signoff.Proofs.Report.Rows
import Signoff.Proofs.Report.Summaries
import Signoff.Proofs.Report.Markdown
import Signoff.Proofs.Report.Gate
import Signoff.Proofs.Run.Stopped
import Signoff.Proofs.Run.Resume
import Signoff.Proofs.Run.Reuse
import Signoff.Proofs.Run.Idle
import Signoff.Proofs.Run.Second
import Signoff.Proofs.Run.Convergence
import Signoff.Proofs.Section
import Signoff.Proofs.Report.Codec
import Signoff.Proofs.RunId
import Signoff.Proofs.Analysis
import Signoff.Proofs.Persistence
import Signoff.Proofs.Run.Entries
import Signoff.Proofs.Run.Failure
import Signoff.Proofs.LogAndRecord
import Signoff.Proofs.Run.DryRun
import Signoff.Proofs.Log.Shared
import Signoff.Proofs.Log.Torn
import Signoff.Proofs.Log.Recovery
import Signoff.Proofs.Log.Reading
import Signoff.Proofs.Run.SavedOutput
import Signoff.Proofs.Analysis.Annotations
import Signoff.Proofs.Analysis.Flows
import Signoff.Proofs.Catalog.Numbering
import Signoff.Proofs.Run.Shares
import Signoff.Proofs.Run.Counts
import Signoff.Proofs.Run.Accounts
import Signoff.Proofs.Retry
import Signoff.Proofs.Run.Execution
import Signoff.Proofs.Analysis.Counts
import Signoff.Proofs.Analysis.Scenarios
import Signoff.Proofs.Grouping
import Signoff.Proofs.Catalog.Selection
import Signoff.Proofs.Catalog.Lines
import Signoff.Proofs.Analysis.Clocks
import Signoff.Proofs.Text.Scan
import Signoff.Proofs.Analysis.SlackFigures
import Signoff.Proofs.Analysis.SlackLines
import Signoff.Proofs.Analysis.Keywords
import Signoff.Proofs.Domain
