import PublicLighting.ImportQueue.Tables

/-! The SQL transactions of the import queue. -/

namespace PublicLighting.ImportQueue

open Inventory

/-- `INTERVAL '1 second'`, in microseconds. -/
def second : Nat := 1000000

def leaseSeconds : Nat := 30
def rowsPerQuery : Nat := 100

structure Claim where
  id : BatchId
  token : Uuid
  deriving DecidableEq

section Preview

variable {server : ServerText}

def expired (now : Nat) (batch : ImportBatch) : Bool :=
  batch.status = .preview && batch.previewExpiresAt.any (· ≤ now)

def cleanupExpiredPreviews (db : Database) : Database :=
  { db with batches := fun id => (db.batches id).filter fun batch => !expired db.now batch }

/-- The batch with a confirmation key, of which an index keeps there from being two. -/
def findBatch (db : Database) (previewId : Uuid) : Option BatchId :=
  (List.range db.nextBatchId).find? fun id => (db.batches id).any (·.confirmationKey = previewId)

def stagedBatch (adminId : AdminId) (uploaderUsername : Option String) (previewId : Uuid) (now : Nat)
    (rows : List ImportBatchRow) : ImportBatch :=
  { uploadedByAdminId := adminId
    uploadedByUsernameSnapshot := uploaderUsername
    totalRows := rows.length
    createdRows := 0
    updatedRows := 0
    unchangedRows := 0
    -- The summary is still empty when the batch is inserted.
    skippedRows := 0
    failedRows := 0
    successfulRows := 0
    appliedRows := 0
    status := .preview
    updateExisting := false
    confirmationKey := previewId
    queuedAt := none
    previewExpiresAt := some (now + 15 * 60 * second)
    startedAt := none
    completedAt := none
    leaseUntil := none
    workerToken := none
    attemptCount := 0
    rows := rows }

/-- The transaction of `buildImportPreview`, given what the SELECTs before it found. -/
def buildImportPreview (adminId : AdminId) (uploaderUsername : Option String) (previewId : Uuid)
    (parsedRows : List (ParsedImportRow server)) (existing : String → Option PointId) (db : Database) :
    Except SqlState Database :=
  if (findBatch db previewId).isSome then .error .uniqueViolation
  else if ¬ (parsedRows.map (·.rowIndex)).Nodup then .error .uniqueViolation
  else if 0 ∈ parsedRows.map (·.rowIndex) then .error .checkViolation
  else
    let batch := stagedBatch adminId uploaderUsername previewId db.now (stageRows parsedRows existing)
    .ok { db with
      batches := Function.update db.batches db.nextBatchId (some batch)
      nextBatchId := db.nextBatchId + 1 }

end Preview

section Confirm

structure AppError where
  status : Nat
  message : String
  deriving DecidableEq, Repr

def countOutcome (rows : List ImportBatchRow) (outcome : RowOutcome) : Nat :=
  rows.countP (·.outcome = outcome)

def confirmed (allowUpdate : Bool) (now : Nat) (batch : ImportBatch) : ImportBatch :=
  { batch with
    status := .queued
    updateExisting := allowUpdate
    queuedAt := some now
    previewExpiresAt := none
    successfulRows := 0
    appliedRows := 0
    createdRows := 0
    updatedRows := 0
    unchangedRows := 0
    skippedRows := countOutcome batch.rows .skipped
    failedRows := countOutcome batch.rows .failed }

/-- The transaction of `confirmImport`; `clientNow` is `Date.now()`. -/
def confirmImport (adminId : AdminId) (previewId : Uuid) (allowUpdate : Bool) (clientNow : Nat) (db : Database) :
    Except AppError Database :=
  let found := (findBatch db previewId).bind fun id => (db.batches id).map (id, ·)
  match found.filter fun (_, batch) => batch.uploadedByAdminId = adminId with
  | none => .error ⟨400, "Import preview expired or not found"⟩
  | some (id, batch) =>
      if batch.status ≠ .preview then .ok db
      else if !batch.previewExpiresAt.any (clientNow < ·) then .error ⟨400, "Import preview expired or not found"⟩
      else .ok { db with batches := Function.update db.batches id (some (confirmed allowUpdate db.now batch)) }

end Confirm

section Claiming

def requeued (now : Nat) (batch : ImportBatch) : ImportBatch :=
  if batch.status = .processing ∧ batch.leaseUntil.any (· < now) = true then
    { batch with status := .queued, workerToken := none, leaseUntil := none }
  else batch

def requeueExpired (db : Database) : Database :=
  { db with batches := fun id => (db.batches id).map (requeued db.now) }

def hasStatus (db : Database) (status : BatchStatus) (id : BatchId) : Bool :=
  (db.batches id).any (·.status = status)

/-- `ORDER BY queued.queued_at, queued.id`. -/
def queuedInOrder (db : Database) : List BatchId :=
  ((List.range db.nextBatchId).filter (hasStatus db .queued)).insertionSort fun one other =>
    ((db.batches one).bind (·.queuedAt)).getD 0 ≤ ((db.batches other).bind (·.queuedAt)).getD 0

def claimed (token : Uuid) (now : Nat) (batch : ImportBatch) : ImportBatch :=
  { batch with
    status := .processing
    workerToken := some token
    leaseUntil := some (now + leaseSeconds * second)
    startedAt := batch.startedAt.or (some now)
    attemptCount := batch.attemptCount + 1 }

def candidate (db : Database) : Option BatchId :=
  if (List.range db.nextBatchId).any (hasStatus db .processing) then none else (queuedInOrder db).head?

/-- The transaction of `claimBatch`. -/
def claimBatch (token : Uuid) (db : Database) : Option Claim × Database :=
  let ready := requeueExpired (cleanupExpiredPreviews db)
  match (candidate ready).bind fun id => (ready.batches id).map (id, ·) with
  | none => (none, ready)
  | some (id, batch) =>
      (some ⟨id, token⟩, { ready with
        batches := Function.update ready.batches id (some (claimed token ready.now batch)) })

/-- The batch of a claim, as long as nobody has taken it over. -/
def currentBatch (db : Database) (claim : Claim) : Option ImportBatch :=
  (db.batches claim.id).filter fun batch => batch.status = .processing && batch.workerToken = some claim.token

end Claiming

section Processing

/-- What `PROCESS_PENDING_ROW_SQL` does for one row. -/
inductive Verdict
  | created (point : LightPoint)
  | updated (point : PointRow) (written : Written)
  | unchanged (point : PointRow)
  | skipped (point : PointRow)
  deriving DecidableEq

def Verdict.outcome : Verdict → RowOutcome
  | created _ => .created
  | updated .. => .updated
  | unchanged _ => .unchanged
  | skipped _ => .skipped

def Verdict.reason : Verdict → Option (String × String)
  | skipped _ => some ("existing_update_disabled", "Existing inventory number was left unchanged")
  | _ => none

def Verdict.createdNumber : Verdict → Option String
  | created point => some point.inventoryNumber
  | _ => none

variable (server : ServerText)

def payloadVerdict (now : Nat) (updateExisting : Bool) (lightPoints : Inventory) (payload : ImportPayload) :
    Except SqlState Verdict :=
  match lightPoints payload.inventoryNumber with
  | none => ((payload.point now).store server).map .created
  | some point =>
      if updateExisting then
        (importUpdate server now payload point.row).map fun
          | some written => .updated point written
          | none => .unchanged point
      else .ok (.skipped point)

/-- A row without a payload has no inventory number to insert. -/
def rowVerdict (now : Nat) (updateExisting : Bool) (lightPoints : Inventory) (row : ImportBatchRow) :
    Except SqlState Verdict :=
  match row.payload with
  | none => .error .notNullViolation
  | some payload => payloadVerdict server now updateExisting lightPoints payload

/-- The record of the INSERT: `before` is null and stripped. -/
def importCreateFields (row : LightPoint) : ChangedFields :=
  TrackedField.all.map fun field => (field.name, ⟨none, (row.value field).stripped⟩)

def applyVerdict (id : BatchId) (batch : ImportBatch) (db : Database) (verdict : Verdict) : Database :=
  let event (point : PointRow) (action : AuditAction) (changedFields : ChangedFields) : AuditEvent :=
    ⟨batch.uploadedByAdminId, batch.uploadedByUsernameSnapshot, point.id, point.row.inventoryNumber, action, id,
      changedFields⟩
  match verdict with
  | .created row =>
      let point : PointRow := ⟨db.nextPointId, row⟩
      { db with
        lightPoints := Function.update db.lightPoints row.inventoryNumber (some point)
        nextPointId := db.nextPointId + 1
        auditEvents := db.auditEvents ++ [event point .create (importCreateFields row)] }
  | .updated existing written =>
      let point : PointRow := ⟨existing.id, written.row⟩
      { db with
        lightPoints := Function.update db.lightPoints written.row.inventoryNumber (some point)
        auditEvents := db.auditEvents ++ [event point .update written.changedFields] }
  | _ => db

def pendingInOrder (rows : List ImportBatchRow) : List ImportBatchRow :=
  (rows.filter (·.outcome = .pending)).insertionSort fun one other => one.sourceRowNumber ≤ other.sourceRowNumber

/-- A row as `marked` leaves it. -/
def settleRow (lightPoints : Inventory) (verdict : Verdict) (row : ImportBatchRow) : ImportBatchRow :=
  { row with
    outcome := verdict.outcome
    entityId := (row.payload.bind fun payload => lightPoints payload.inventoryNumber).map (·.id)
    reasonCode := verdict.reason.map (·.1)
    safeReason := verdict.reason.map (·.2)
    payload := none }

/-- A row of the batch as the statement leaves it. -/
def settle (lightPoints : Inventory) (verdictOf : ImportBatchRow → Except SqlState Verdict)
    (selected : List ImportBatchRow) (row : ImportBatchRow) : ImportBatchRow :=
  match verdictOf row with
  | .ok verdict => if row ∈ selected then settleRow lightPoints verdict row else row
  | .error _ => row

def countVerdicts (verdicts : List Verdict) (outcome : RowOutcome) : Nat :=
  verdicts.countP (·.outcome = outcome)

/-- The update of `batch_update`. -/
def counted (now : Nat) (verdicts : List Verdict) (rows : List ImportBatchRow) (batch : ImportBatch) : ImportBatch :=
  let created := countVerdicts verdicts .created
  let updated := countVerdicts verdicts .updated
  let unchanged := countVerdicts verdicts .unchanged
  let skipped := countVerdicts verdicts .skipped
  { batch with
    createdRows := batch.createdRows + created
    updatedRows := batch.updatedRows + updated
    unchangedRows := batch.unchangedRows + unchanged
    skippedRows := batch.skippedRows + skipped
    appliedRows := batch.appliedRows + created + updated
    successfulRows := batch.successfulRows + created + updated + unchanged
    leaseUntil := some (now + leaseSeconds * second)
    rows := rows }

def verdicts (verdictOf : ImportBatchRow → Except SqlState Verdict) (selected : List ImportBatchRow) :
    List Verdict :=
  selected.filterMap fun row => (verdictOf row).toOption

/-- What some selected rows violate; which of it is raised is the server's choice. -/
def violations (verdictOf : ImportBatchRow → Except SqlState Verdict) (selected : List ImportBatchRow) :
    List SqlState :=
  (selected.filterMap fun row =>
    match verdictOf row with
    | .ok _ => none
    | .error state => some state) ++
  if ((verdicts verdictOf selected).filterMap (·.createdNumber)).Nodup then [] else [.uniqueViolation]

section Selected

variable (db : Database) (id : BatchId) (batch : ImportBatch) (limit : Nat)

/-- The row's verdict on the database that the statement sees. -/
def verdictOf (row : ImportBatchRow) : Except SqlState Verdict :=
  rowVerdict server db.now batch.updateExisting db.lightPoints row

def selected : List ImportBatchRow := (pendingInOrder batch.rows).take limit

def worked : Database := (verdicts (verdictOf server db batch) (selected batch limit)).foldl
    (applyVerdict id batch) db

def processed : ImportBatch :=
  counted db.now (verdicts (verdictOf server db batch) (selected batch limit))
    (batch.rows.map (settle (worked server db id batch limit).lightPoints (verdictOf server db batch)
      (selected batch limit))) batch

end Selected

/-- `PROCESS_PENDING_ROW_SQL`. -/
def processImportRows (claim : Claim) (limit : Nat) (db : Database) :
    Except (List SqlState) (List RowOutcome × Database) :=
  match currentBatch db claim with
  | none => .ok ([], db)
  | some batch =>
      let raised := violations (verdictOf server db batch) (selected batch limit)
      if selected batch limit = [] then .ok ([], db)
      else if raised ≠ [] then .error raised
      else .ok ((verdicts (verdictOf server db batch) (selected batch limit)).map (·.outcome),
        { worked server db claim.id batch limit with
          batches := Function.update db.batches claim.id (some (processed server db claim.id batch limit)) })

/-- What others may make of a write while the statement runs: another session commits the number first, or
a constraint of the audit table refuses the event. -/
def Verdict.obstructions : Verdict → List SqlState
  | created _ => [.uniqueViolation, .checkViolation]
  | updated .. => [.checkViolation]
  | unchanged _ => []
  | skipped _ => []

def obstructions (claim : Claim) (limit : Nat) (db : Database) : List SqlState :=
  match currentBatch db claim with
  | none => []
  | some batch => (verdicts (verdictOf server db batch) (selected batch limit)).flatMap (·.obstructions)

end Processing

section Failing

structure SafeFailure where
  code : String
  reason : String
  deriving DecidableEq

/-- `none` is an error that is thrown on. -/
def safeFailure (state : SqlState) : Option SafeFailure :=
  let code := state.code
  if code = "23505" then some ⟨"inventory_identity_conflict", "Inventory number already exists"⟩
  else if code = "23502" ∨ code = "23514" ∨ code = "22003" ∨ code = "22P02" then
    some ⟨"invalid_row", "Row violates inventory data requirements"⟩
  else none

def failRow (failure : SafeFailure) (row : ImportBatchRow) : ImportBatchRow :=
  { row with
    outcome := .failed
    reasonCode := some failure.code
    safeReason := some failure.reason
    payload := none }

def failedBatch (failure : SafeFailure) (now : Nat) (candidate : ImportBatchRow) (batch : ImportBatch) :
    ImportBatch :=
  { batch with
    failedRows := batch.failedRows + 1
    leaseUntil := some (now + leaseSeconds * second)
    rows := batch.rows.map fun row => if row = candidate then failRow failure row else row }

def failNextPendingRow (claim : Claim) (failure : SafeFailure) (db : Database) : Database :=
  match currentBatch db claim with
  | none => db
  | some batch =>
      match (pendingInOrder batch.rows).head? with
      | none => db
      | some candidate =>
          { db with batches :=
              Function.update db.batches claim.id (some (failedBatch failure db.now candidate batch)) }

def completedBatch (now : Nat) (batch : ImportBatch) : ImportBatch :=
  { batch with
    status := if 0 < batch.failedRows then .completedWithErrors else .completed
    completedAt := some now
    leaseUntil := none
    workerToken := none }

def completeBatch (claim : Claim) (db : Database) : Database :=
  match currentBatch db claim with
  | none => db
  | some batch =>
      if pendingInOrder batch.rows ≠ [] then db
      else { db with batches := Function.update db.batches claim.id (some (completedBatch db.now batch)) }

end Failing

end PublicLighting.ImportQueue
