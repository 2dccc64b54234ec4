import PublicLighting.Foundations.Runs
import PublicLighting.Foundations.RowLocks
import PublicLighting.Foundations.RowHolders
import PublicLighting.Foundations.FixedPoint
import PublicLighting.Foundations.JavaScriptText
import PublicLighting.RefreshRotation
import PublicLighting.EmailVerification.Lifecycle
import PublicLighting.EmailVerification.Store
import PublicLighting.EmailVerification.Safety
import PublicLighting.ReportSubmission.Submission
import PublicLighting.ReportSubmission.Store
import PublicLighting.ReportSubmission.Invariant
import PublicLighting.ReportSubmission.Safety
import PublicLighting.BackupScheduler.Journal
import PublicLighting.BackupScheduler.Invocations
import PublicLighting.BackupScheduler.JournalDurability
import PublicLighting.BackupScheduler.JournalFile
import PublicLighting.BackupScheduler.JournalFileSafety
import PublicLighting.Inventory.LightPoint
import PublicLighting.Inventory.ChangedFields
import PublicLighting.Inventory.UpdatePaths
import PublicLighting.Geocoding.Safety
import PublicLighting.Foundations.SqlLogic
import PublicLighting.Foundations.Updates
import PublicLighting.Migrations.InventoryTransition
import PublicLighting.Foundations.Effects
import PublicLighting.Foundations.Transactions
import PublicLighting.Foundations.DecimalText
import PublicLighting.Migrations.PackagedChain
import PublicLighting.Migrations.Runner
import PublicLighting.Migrations.RunnerRules
import PublicLighting.Migrations.RunnerChain
import PublicLighting.Migrations.LedgerSafety
import PublicLighting.AddressSuggestion.Admission
import PublicLighting.AddressSuggestion.Moves
import PublicLighting.AddressSuggestion.Invariant
import PublicLighting.AddressSuggestion.Starts
import PublicLighting.AddressSuggestion.Safety
import PublicLighting.AddressSuggestion.Lockstep
import PublicLighting.AddressSuggestion.Subscribers
import PublicLighting.ReportSubmission.Recording
import PublicLighting.ReportSubmission.Recurrence
import PublicLighting.ReportSubmission.RecurrenceSafety
import PublicLighting.ReportSubmission.Atomicity
import PublicLighting.ReportSubmission.AtomicitySafety
import PublicLighting.ImportQueue.Lifecycle
import PublicLighting.ImportQueue.Progress
import PublicLighting.ImportQueue.SourceParsing
import PublicLighting.Foundations.Trimming
import PublicLighting.Inventory.Identity
import PublicLighting.Foundations.Doubles
import PublicLighting.Foundations.Json
import PublicLighting.Foundations.JsonRecords
import PublicLighting.Foundations.RecordLog
import PublicLighting.Foundations.TextStore
import PublicLighting.ReportDraft.Draft
import PublicLighting.ReportDraft.Storage
import PublicLighting.ReportDraft.ReadBack
import PublicLighting.Foundations.TwoRuns
import PublicLighting.ReportSubmission.VoBoundary
import PublicLighting.ReportSubmission.LocalSubmit
import PublicLighting.ReportSubmission.Privacy
import PublicLighting.Foundations.Words
import PublicLighting.Foundations.Entries
import PublicLighting.Foundations.TokenBuckets
import PublicLighting.ClientAddress.Parsing
import PublicLighting.ClientAddress.Spelling
import PublicLighting.ClientAddress.Denotation
import PublicLighting.ClientAddress.Limiter
import PublicLighting.ClientAddress.LimiterBound
import PublicLighting.ClientAddress.LimiterRuns
import PublicLighting.EmailVerification.RateLimits
import PublicLighting.EmailVerification.RateLimitSafety
import PublicLighting.Exchange.CsvRecords
import PublicLighting.Exchange.CsvGrammar
import PublicLighting.Exchange.Writers
import PublicLighting.Exchange.WrittenText
import PublicLighting.Foundations.WireText
import PublicLighting.Exchange.WrittenBytes
import PublicLighting.Foundations.LikePatterns
import PublicLighting.Foundations.Instants
import PublicLighting.Exchange.Rows
import PublicLighting.Exchange.Filters
import PublicLighting.Exchange.Searching
import PublicLighting.Foundations.Keyset
import PublicLighting.Exchange.Documents
import PublicLighting.Exchange.Export
import PublicLighting.Exchange.ExportRuns
import PublicLighting.Foundations.Calendar
import PublicLighting.Operations.Timestamps
import PublicLighting.Operations.YearCutoff
import PublicLighting.Foundations.Largest
import PublicLighting.AddressSuggestion.Localities
import PublicLighting.Accounts.FirstAdmin
import PublicLighting.Accounts.FirstAdminSafety
import PublicLighting.Accounts.FirstAdminRuns
import PublicLighting.Foundations.Joins
import PublicLighting.Analytics.Reports
import PublicLighting.Analytics.Agreement
import PublicLighting.Foundations.OldestFirst
import PublicLighting.Operations.Retention
import PublicLighting.Operations.RetentionSafety
import PublicLighting.Operations.RestoreSessionSafety
import PublicLighting.Operations.RetentionRuns
import PublicLighting.ImportQueue.DuplicateGrouping
import PublicLighting.Backup.Manifests
import PublicLighting.Backup.Runner
import PublicLighting.Backup.RunnerSafety
import PublicLighting.Backup.RunnerCleanup
