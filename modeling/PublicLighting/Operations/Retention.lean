import Mathlib.Data.Prod.Lex
import Mathlib.Logic.Function.Basic
import PublicLighting.Foundations.Doubles
import PublicLighting.Foundations.Effects
import PublicLighting.Foundations.OldestFirst
import PublicLighting.Foundations.Transactions
import PublicLighting.Operations.YearCutoff

/-! The bounded retention run, statement by statement, against a schedule of failing and
unanswered queries. -/

namespace PublicLighting.Operations

open Foundations
open Foundations.Instants (toISOString)
open Foundations.Transactions (Session)
open Program (Scheduled await)

def retentionChunkSize : Nat := 500
def retentionMaxChunksPerTable : Nat := 100
def retentionMaxConfiguredChunksPerTable : Nat := 100

inductive RetentionTable
  | adminActivityLogs
  | inventoryAuditEvents
  | adminRefreshSessions
  deriving DecidableEq, Repr

/-- A row with the instant that its age is taken from, in microseconds. Only an audit event
names an import batch. -/
structure RetentionRow where
  id : Nat
  timestamp : ℤ
  importBatchId : Option Nat
  deriving DecidableEq, Repr

abbrev RetentionTables := RetentionTable → List RetentionRow

inductive ImportStatus
  | preview
  | queued
  | processing
  | completed
  | completedWithErrors
  | failed
  | systemFailed
  deriving DecidableEq, Repr

/-- `status IN ('completed', 'completed_with_errors', 'failed', 'system_failed')`. -/
def ImportStatus.isTerminal : ImportStatus → Bool
  | .completed | .completedWithErrors | .failed | .systemFailed => true
  | _ => false

structure RetainedBatch where
  id : Nat
  status : ImportStatus
  completedAt : Option ℤ
  hasPendingRow : Bool
  deriving DecidableEq, Repr

structure RetentionCounts where
  removed : RetentionTable → Nat
  eligible : RetentionTable → Nat
  deferredImportBatches : Nat
  importBatchesMissingCompletion : Nat
  importBatchesWithPendingRows : Nat
  importBatchesReferencedByRetainedAudit : Nat
  chunks : Nat

def emptyCounts : RetentionCounts := ⟨fun _ => 0, fun _ => 0, 0, 0, 0, 0, 0⟩

inductive RetentionRunState
  | complete
  | successWithBacklog
  | skippedOverlapping
  | incomplete
  deriving DecidableEq, Repr

structure RetentionResult where
  resultVersion : Nat
  phase : String
  runId : String
  state : RetentionRunState
  exitCode : Nat
  reasonCode : String
  runStartedAtUtc : List Char
  runFinishedAtUtc : List Char
  cutoffUtc : Option (List Char)
  counts : RetentionCounts
  appBuildSha : String

inductive RetentionError
  | query
  | connect
  | message (text : String)
  deriving DecidableEq, Repr

/-- A `DELETE` that was committed. `heard` notes whether the run got the answer to its `COMMIT`. -/
structure RetentionChunk where
  table : RetentionTable
  removed : Nat
  heard : Bool
  deriving DecidableEq, Repr

/-- The variables of `runRetentionOnce`. -/
structure RetentionVars where
  initial : List Char
  lockHeld : Bool
  cutoff : Option ℤ
  reason : String
  state : RetentionRunState
  exitCode : Nat

/-- What no failure of a query takes back: the committed rows, what the run knows, and a note of
the chunks, which the code does not keep. -/
structure RetentionCore where
  committed : RetentionTables
  chunks : List RetentionChunk
  counts : RetentionCounts
  vars : RetentionVars

inductive RetentionConnection
  | absent
  | live
  | lost
  deriving DecidableEq, Repr

inductive RetentionClient
  | absent
  | held
  | released
  | discarded
  deriving DecidableEq, Repr

/-- The connection, its transaction and whether it holds the advisory lock. -/
structure RetentionLink where
  session : Session RetentionTables
  locked : Bool
  connection : RetentionConnection
  client : RetentionClient

structure RetentionState where
  core : RetentionCore
  link : RetentionLink

/-- A clock that is no valid `Date` and a number that is not finite are `some none`. -/
structure RetentionOptions where
  appBuildSha : String
  runId : Option String
  nowForTest : Option (Option ℤ)
  maxChunksPerTable : Option (Option ℚ)

/-- What the run finds around it. `serverNow` is in microseconds, the other clocks are in
milliseconds. -/
structure RetentionSurroundings where
  nodeEnv : Option String
  databaseOperationsMode : Option String
  host : Option String
  database : Option String
  randomUuid : String
  now : ℤ
  finished : ℤ
  serverNow : ℤ
  lockTaken : Bool
  batches : List RetainedBatch

abbrev RetentionTask (α : Type) := Program (Scheduled RetentionState) RetentionError α

section Statements

variable {α : Type}

/-- A statement that raises aborts the transaction it stands in. -/
def refuseRetention (s : RetentionState) : RetentionState :=
  match s.link.session with
  | .working _ => { s with link := { s.link with session := .aborted } }
  | _ => s

/-- The server ends the session of a lost connection, which frees its lock. -/
def loseRetention (s : RetentionState) : RetentionState :=
  { s with link := { s.link with session := .idle, locked := false, connection := .lost } }

def retentionQuery (effect : RetentionState → Except RetentionError α × RetentionState) : RetentionTask α :=
  await .query refuseRetention loseRetention fun s =>
    if s.link.connection = .live then effect s else (.error .query, s)

def retentionBegin : RetentionTask Unit :=
  retentionQuery fun s =>
    match s.link.session with
    | .idle => (.ok (), { s with link := { s.link with session := .working s.core.committed } })
    | .working _ => (.ok (), s)
    | .aborted => (.error .query, s)

/-- `SET LOCAL lock_timeout` and `SET LOCAL statement_timeout`. -/
def setLocal : RetentionTask Unit :=
  retentionQuery fun s =>
    match s.link.session with
    | .aborted => (.error .query, s)
    | _ => (.ok (), s)

def isOlder (cutoff : ℤ) (row : RetentionRow) : Bool := row.timestamp < cutoff * 1000

/-- `ORDER BY timestamp ASC, id ASC`. -/
def ageKey (row : RetentionRow) : ℤ ×ₗ Nat := toLex (row.timestamp, row.id)

/-- `DELETE … USING candidates`, with the number of rows deleted. -/
def deleteOldest (table : RetentionTable) (cutoff : ℤ) (tables : RetentionTables) : Nat × RetentionTables :=
  let candidates := (Keyset.ordered ageKey ((tables table).filter (isOlder cutoff))).take retentionChunkSize
  let isTarget := fun row : RetentionRow => row.id ∈ candidates.map (·.id) && isOlder cutoff row
  ((tables table).countP isTarget, Function.update tables table ((tables table).filter fun row => !isTarget row))

def retentionDelete (table : RetentionTable) (cutoff : ℤ) : RetentionTask Nat :=
  retentionQuery fun s =>
    match s.link.session with
    | .idle =>
        let (removed, tables) := deleteOldest table cutoff s.core.committed
        (.ok removed, { s with core := { s.core with committed := tables } })
    | .working work =>
        let (removed, tables) := deleteOldest table cutoff work
        (.ok removed, { s with link := { s.link with session := .working tables } })
    | .aborted => (.error .query, s)

/-- The `COMMIT` of a chunk. -/
def retentionCommit (table : RetentionTable) (removed : Nat) : RetentionTask Unit :=
  await .query (fun s => { s with link := { s.link with session := .idle } }) loseRetention fun s =>
    if s.link.connection = .live then
      match s.link.session with
      | .working work =>
          (.ok (), { core := { s.core with committed := work, chunks := s.core.chunks ++ [⟨table, removed, false⟩] }
                     link := { s.link with session := .idle } })
      | _ => (.ok (), { s with link := { s.link with session := .idle } })
    else (.error .query, s)

def retentionRollback : RetentionTask Unit :=
  retentionQuery fun s => (.ok (), { s with link := { s.link with session := .idle } })

def assignCore (f : RetentionCore → RetentionCore) : RetentionTask Unit :=
  Program.update fun w => { w with state := { w.state with core := f w.state.core } }

def assignVars (f : RetentionVars → RetentionVars) : RetentionTask Unit :=
  assignCore fun core => { core with vars := f core.vars }

/-- The answer to the last `COMMIT` is there. -/
def hearCommit : RetentionTask Unit :=
  assignCore fun core =>
    { core with
      chunks := core.chunks.dropLast ++ core.chunks.getLast?.toList.map fun chunk => { chunk with heard := true } }

def retentionConnect : RetentionTask Unit :=
  await .connect id (fun s => { s with link := { s.link with connection := .absent, client := .absent } }) fun s =>
    (.ok (), { s with link := { s.link with connection := .live, client := .held } })

def tryLock (surroundings : RetentionSurroundings) : RetentionTask Bool :=
  retentionQuery fun s =>
    if surroundings.lockTaken then (.ok false, s) else (.ok true, { s with link := { s.link with locked := true } })

/-- `pg_advisory_unlock`. -/
def unlockLink (s : RetentionState) : Except RetentionError Bool × RetentionState :=
  match s.link.session with
  | .aborted => (.error .query, s)
  | _ => (.ok s.link.locked, { s with link := { s.link with locked := false } })

def advisoryUnlock : RetentionTask Bool := retentionQuery unlockLink

def releaseClient (client : RetentionClient) : RetentionTask Unit :=
  Program.update fun w => { w with state := { w.state with link := { w.state.link with client := client } } }

end Statements

section Code

/-- The name ends in `_test`, in whatever case. -/
def isTestDatabase (database : String) : Bool := "_test".toList <:+ database.toList.map Char.toLower

def assertOfflineDisposablePool (surroundings : RetentionSurroundings) : Except RetentionError Unit :=
  if surroundings.nodeEnv = some "production" then .error (.message "production_retention_not_approved")
  else if surroundings.databaseOperationsMode ≠ some "offline-test" then .error (.message "offline_test_mode_required")
  else if surroundings.host ≠ some "127.0.0.1" ∧ surroundings.host ≠ some "::1" then
    .error (.message "retention_requires_loopback_disposable_test_database")
  else if ¬ surroundings.database.any isTestDatabase then
    .error (.message "retention_requires_loopback_disposable_test_database")
  else .ok ()

def deleteChunk (table : RetentionTable) (cutoff : ℤ) : RetentionTask Nat := do
  retentionBegin
  Program.catching
    (do
      setLocal
      setLocal
      let removed ← retentionDelete table cutoff
      retentionCommit table removed
      hearCommit
      return removed)
    fun _ => do
      Program.catching retentionRollback fun _ => (pure () : RetentionTask Unit)
      Program.throw (.message "retention_chunk_failed")

def countChunk (table : RetentionTable) (removed : Nat) (counts : RetentionCounts) : RetentionCounts :=
  { counts with
    removed := Function.update counts.removed table (counts.removed table + removed), chunks := counts.chunks + 1 }

/-- `processTable`, with the chunks that are left. -/
def processTable (table : RetentionTable) (cutoff : ℤ) : Nat → RetentionTask Unit
  | 0 => return ()
  | chunks + 1 => do
      let removed ← deleteChunk table cutoff
      if removed = 0 then return ()
      else do
        assignCore fun core => { core with counts := countChunk table removed core.counts }
        processTable table cutoff chunks

def isExpired (cutoff : ℤ) (batch : RetainedBatch) : Bool :=
  batch.completedAt.any fun completed => completed < cutoff * 1000

def isReferenced (tables : RetentionTables) (batch : RetainedBatch) : Bool :=
  (tables .inventoryAuditEvents).any fun event => event.importBatchId = some batch.id

def backlogCounts (surroundings : RetentionSurroundings) (cutoff startedAt : ℤ) (tables : RetentionTables)
    (counts : RetentionCounts) : RetentionCounts :=
  let batches := surroundings.batches.filter fun batch => batch.status.isTerminal
  { counts with
    eligible := fun table => match table with
      | .adminActivityLogs => (tables .adminActivityLogs).countP (isOlder cutoff)
      | .inventoryAuditEvents => (tables .inventoryAuditEvents).countP (isOlder cutoff)
      | .adminRefreshSessions => (tables .adminRefreshSessions).countP (isOlder startedAt)
    deferredImportBatches := batches.countP fun batch =>
      isExpired cutoff batch && !batch.hasPendingRow && !isReferenced tables batch
    importBatchesMissingCompletion := batches.countP fun batch => batch.completedAt.isNone
    importBatchesWithPendingRows := batches.countP fun batch =>
      isExpired cutoff batch && batch.hasPendingRow
    importBatchesReferencedByRetainedAudit := batches.countP fun batch =>
      isExpired cutoff batch && isReferenced tables batch }

def inspectBacklog (surroundings : RetentionSurroundings) (cutoff startedAt : ℤ) : RetentionTask Unit := do
  let tables ← retentionQuery fun s =>
    match s.link.session with
    | .idle => (.ok s.core.committed, s)
    | .working work => (.ok work, s)
    | .aborted => (.error .query, s)
  assignCore fun core => { core with counts := backlogCounts surroundings cutoff startedAt tables core.counts }

/-- The start of the run and its cutoff in milliseconds, or `none` for an invalid `Date`. -/
def captureClock (surroundings : RetentionSurroundings) (options : RetentionOptions) :
    RetentionTask (Option ℤ × Option ℤ) :=
  match options.nowForTest with
  | some now =>
      match utcCalendarYearCutoff now with
      | .ok cutoff => return (now, cutoff)
      | .error error => Program.throw (.message error.message)
  | none =>
      retentionQuery fun s =>
        match s.link.session with
        | .aborted => (.error .query, s)
        | _ => (.ok (some (surroundings.serverNow / 1000), some (plusMonths (-12) surroundings.serverNow / 1000)), s)

def importBacklog (counts : RetentionCounts) : Nat :=
  counts.deferredImportBatches + counts.importBatchesMissingCompletion + counts.importBatchesWithPendingRows +
    counts.importBatchesReferencedByRetainedAudit

def approvedBacklog (counts : RetentionCounts) : Nat :=
  counts.eligible .adminActivityLogs + counts.eligible .inventoryAuditEvents + counts.eligible .adminRefreshSessions

/-- The state and the reason of a run whose inspection is done. -/
def inspectedVars (counts : RetentionCounts) (vars : RetentionVars) : RetentionVars :=
  if 0 < importBacklog counts ∨ 0 < approvedBacklog counts then
    { vars with
      state := .successWithBacklog
      exitCode := 0
      reason :=
        if 0 < approvedBacklog counts then "retention_chunk_ceiling_reached" else "retention_safe_backlog_present" }
  else vars

def retentionPasses (surroundings : RetentionSurroundings) (options : RetentionOptions) (maxChunks : Nat) :
    RetentionTask Unit := do
  let (startedAt, capturedCutoff) ← captureClock surroundings options
  match startedAt with
  | none => Program.throw (.message "retention_clock_unavailable")
  | some startedAt => do
      assignVars fun vars => { vars with initial := toISOString startedAt, cutoff := capturedCutoff }
      match capturedCutoff with
      | none => Program.throw (.message "retention_cutoff_unavailable")
      | some cutoff => do
          processTable .adminActivityLogs cutoff maxChunks
          processTable .inventoryAuditEvents cutoff maxChunks
          processTable .adminRefreshSessions startedAt maxChunks
          inspectBacklog surroundings cutoff startedAt
          assignCore fun core => { core with vars := inspectedVars core.counts core.vars }

/-- The `try` and the `catch` of `runRetentionOnce`. -/
def retentionBody (surroundings : RetentionSurroundings) (options : RetentionOptions) (maxChunks : Nat) :
    RetentionTask Unit :=
  Program.catching
    (do
      retentionConnect
      let locked ← tryLock surroundings
      if locked then do
        assignVars fun vars => { vars with lockHeld := true }
        retentionPasses surroundings options maxChunks
      else
        assignVars fun vars =>
          { vars with state := .skippedOverlapping, exitCode := 10, reason := "retention_already_running" })
    fun _ => assignVars fun vars =>
      { vars with state := .incomplete, exitCode := 1, reason := "retention_chunk_or_preflight_failed" }

/-- The first part of its `finally`. -/
def unlockRetention : RetentionTask Unit := do
  let s ← Program.read (·.state)
  if s.link.client = .held ∧ s.core.vars.lockHeld then
    Program.catching
      (do
        let unlocked ← advisoryUnlock
        if unlocked then return ()
        else Program.throw (.message "retention_unlock_not_confirmed"))
      fun _ => do
        assignVars fun vars => { vars with
          state := .incomplete, exitCode := 1, reason := "retention_lock_release_failed" }
        releaseClient .discarded
  else return ()

/-- `client?.release()`. -/
def releaseRetention : RetentionTask Unit := do
  let s ← Program.read (·.state)
  if s.link.client = .held then releaseClient .released else return ()

def retentionResult (surroundings : RetentionSurroundings) (options : RetentionOptions) (vars : RetentionVars)
    (counts : RetentionCounts) : RetentionResult where
  resultVersion := 1
  phase := "retention"
  runId := options.runId.getD surroundings.randomUuid
  state := vars.state
  exitCode := vars.exitCode
  reasonCode := vars.reason
  runStartedAtUtc := vars.initial
  runFinishedAtUtc := toISOString surroundings.finished
  cutoffUtc := vars.cutoff.map toISOString
  counts := counts
  appBuildSha := options.appBuildSha

/-- A safe integer between 1 and the configured maximum. -/
def chunkBound (options : RetentionOptions) : Option Nat :=
  match options.maxChunksPerTable.getD (some (retentionMaxChunksPerTable : ℚ)) with
  | none => none
  | some maxChunks =>
      if !Doubles.isSafeInteger maxChunks ∨ maxChunks < 1 ∨
          (retentionMaxConfiguredChunksPerTable : ℚ) < maxChunks then none
      else some maxChunks.num.toNat

/-- The variables before the `try`. -/
def initialVars (surroundings : RetentionSurroundings) : RetentionVars :=
  ⟨toISOString surroundings.now, false, none, "retention_completed", .complete, 0⟩

def runRetentionOnce (surroundings : RetentionSurroundings) (options : RetentionOptions) :
    RetentionTask RetentionResult :=
  match assertOfflineDisposablePool surroundings with
  | .error error => Program.throw error
  | .ok () =>
      match chunkBound options with
      | none =>
          return retentionResult surroundings options
            { initialVars surroundings with
              state := .incomplete, exitCode := 1, reason := "retention_chunk_bound_invalid" } emptyCounts
      | some maxChunks => do
          retentionBody surroundings options maxChunks
          unlockRetention
          releaseRetention
          let core ← Program.read (·.state.core)
          return retentionResult surroundings options core.vars core.counts

/-- The three tables, with their primary keys. -/
structure RetainedDatabase where
  tables : RetentionTables
  distinct : ∀ table, ((tables table).map RetentionRow.id).Nodup

def retentionStart (surroundings : RetentionSurroundings) (database : RetainedDatabase) : RetentionState where
  core := ⟨database.tables, [], emptyCounts, initialVars surroundings⟩
  link := ⟨.idle, false, .absent, .absent⟩

end Code

end PublicLighting.Operations
