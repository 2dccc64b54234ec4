import PublicLighting.Foundations.Runs
import PublicLighting.ImportQueue.InventoryWrites

/-! The workers of the import queue and everyone else who uses its tables, one transaction at a time. -/

namespace PublicLighting.ImportQueue

open Inventory

/-- Where a worker is in `loop` and `processBatch`: which query it sends next. -/
inductive Worker
  | waiting
  | processing (claim : Claim)
  | completing (claim : Claim)
  | replaying (claim : Claim) (index : Nat)
  | failing (claim : Claim) (index : Nat) (failure : SafeFailure)
  deriving DecidableEq

def Worker.claim : Worker → Option Claim
  | waiting => none
  | processing claim => some claim
  | completing claim => some claim
  | replaying claim _ => some claim
  | failing claim .. => some claim

/-- How a query ends for the worker. A lost answer and a refused query are errors of the infrastructure; an
obstructed one fails by what others do to its rows, and a raised one by the rows themselves. -/
inductive Answer
  | heard
  | lost
  | refused
  | raised (state : SqlState)
  | obstructed (state : SqlState)
  deriving DecidableEq

inductive Label (server : ServerText) (WorkerId : Type)
  | elapse (time : Nat)
  | cleanup
  | preview (adminId : AdminId) (uploaderUsername : Option String) (previewId : Uuid)
      (parsedRows : List (ParsedImportRow server)) (existing : String → Option PointId)
  | confirm (adminId : AdminId) (previewId : Uuid) (allowUpdate : Bool) (clientNow : Nat)
  | claim (worker : WorkerId) (token : Uuid) (answer : Answer)
  | advance (worker : WorkerId) (answer : Answer)
  | crash (worker : WorkerId)
  | write (change : InventoryWrite)

/-- `tokens` are the values that `randomUUID` has given so far. -/
structure State (WorkerId : Type) where
  db : Database
  workers : WorkerId → Worker
  tokens : List Uuid

variable {server : ServerText} {WorkerId : Type} [DecidableEq WorkerId]

namespace State

def setWorker (s : State WorkerId) (worker : WorkerId) (next : Worker) : State WorkerId :=
  { s with workers := Function.update s.workers worker next }

def write (s : State WorkerId) (db : Database) : State WorkerId := { s with db := db }

/-- A query whose rows decide what the worker does next, and whose errors it may catch. -/
def query (s : State WorkerId) (worker : WorkerId) (answer : Answer)
    (effect : Except (List SqlState) (List RowOutcome × Database)) (obstructions : List SqlState)
    (next : List RowOutcome → Worker) (caught : SafeFailure → Worker) : Option (State WorkerId) :=
  let failed (state : SqlState) := s.setWorker worker (((safeFailure state).map caught).getD .waiting)
  match answer, effect with
  | .heard, .ok (outcomes, db) => some ((s.write db).setWorker worker (next outcomes))
  | .lost, .ok (_, db) => some ((s.write db).setWorker worker .waiting)
  | .refused, _ => some (s.setWorker worker .waiting)
  | .raised state, .error states => if state ∈ states then some (failed state) else none
  | .obstructed state, _ => if state ∈ obstructions then some (failed state) else none
  | _, _ => none

/-- An error of the queries that raise none of their own ends `processBatch`. -/
def command (s : State WorkerId) (worker : WorkerId) (answer : Answer) (db : Database) (next : Worker) :
    Option (State WorkerId) :=
  s.query worker answer (.ok ([], db)) [] (fun _ => next) fun _ => .waiting

end State

/-- The `for` loop over the rows of a failed query. -/
def afterReplay (claim : Claim) (index : Nat) : Worker :=
  if index + 1 < rowsPerQuery then .replaying claim (index + 1) else .processing claim

def advance (server : ServerText) (s : State WorkerId) (worker : WorkerId) (answer : Answer) :
    Option (State WorkerId) :=
  match s.workers worker with
  | .waiting => none
  | .processing claim =>
      s.query worker answer (processImportRows server claim rowsPerQuery s.db)
        (obstructions server claim rowsPerQuery s.db)
        (fun outcomes => if outcomes = [] then .completing claim else .processing claim)
        fun _ => .replaying claim 0
  | .replaying claim index =>
      s.query worker answer (processImportRows server claim 1 s.db) (obstructions server claim 1 s.db)
        (fun outcomes => if outcomes = [] then .processing claim else afterReplay claim index)
        fun failure => .failing claim index failure
  | .failing claim index failure =>
      s.command worker answer (failNextPendingRow claim failure s.db) (afterReplay claim index)
  | .completing claim => s.command worker answer (completeBatch claim s.db) .waiting

def step (server : ServerText) (s : State WorkerId) : Label server WorkerId → Option (State WorkerId)
  | .elapse time => some (s.write { s.db with now := s.db.now + time })
  | .cleanup => some (s.write (cleanupExpiredPreviews s.db))
  | .preview adminId uploaderUsername previewId parsedRows existing =>
      ((buildImportPreview adminId uploaderUsername previewId parsedRows existing s.db).toOption).map s.write
  | .confirm adminId previewId allowUpdate clientNow =>
      ((confirmImport adminId previewId allowUpdate clientNow s.db).toOption).map s.write
  | .claim worker token answer =>
      if s.workers worker = .waiting ∧ token ∉ s.tokens then
        let (claim, db) := claimBatch token s.db
        ({ s with tokens := token :: s.tokens }).command worker answer db
          ((claim.map Worker.processing).getD .waiting)
      else none
  | .advance worker answer => advance server s worker answer
  | .crash worker => some (s.setWorker worker .waiting)
  | .write change => (writeInventory server s.db change).map s.write

def Step (server : ServerText) (s : State WorkerId) (label : Label server WorkerId) (t : State WorkerId) : Prop :=
  step server s label = some t

/-- No batch yet, an inventory that PostgreSQL holds, and no worker at work. -/
structure Initial (server : ServerText) (s : State WorkerId) : Prop where
  batches : ∀ id, s.db.batches id = none
  auditEvents : ∀ event ∈ s.db.auditEvents, event.importBatchId < s.db.nextBatchId
  keyed : ∀ number point, s.db.lightPoints number = some point →
    point.row.inventoryNumber = number ∧ point.row.store server = .ok point.row ∧
      0 < point.id ∧ point.id < s.db.nextPointId
  ids : 0 < s.db.nextPointId
  workers : ∀ worker, s.workers worker = .waiting

end PublicLighting.ImportQueue
