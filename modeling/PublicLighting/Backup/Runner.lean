import Mathlib.Logic.Function.Basic
import PublicLighting.Backup.Manifests
import PublicLighting.Foundations.Effects

/-! `runBackupOnce`, await by await: what each call answers, and what the signal, the connection and the timer of
the snapshot do meanwhile, is the surroundings' to say. -/

namespace PublicLighting.Backup

open Foundations
open Foundations.Instants (toISOString)
open BackupScheduler (BackupState validRunId)

inductive Lock
  | backup
  | migration
  deriving DecidableEq, Repr

structure BackupConfig where
  maxSnapshotLifetimeMs : Nat
  logicalDatabaseId : String
  storageNamespaceId : String
  recipientKeyId : String
  appBuildSha : String

structure SnapshotRow where
  snapshotId : String
  snapshotStartedAt : String
  postgresServerVersion : String
  postgisVersion : String

structure BackupResult where
  state : BackupState
  exitCode : Nat
  reasonCode : String
  runId : String
  runStartedAt : String
  durationMs : Nat
  snapshotStartedAt : Option String
  migrationLedger : Option (List MigrationLedgerRow)
  manifestId : Option String
  archiveEncryptedBytes : Option Nat
  archiveEncryptedSha256 : Option String
  cleanupErrorCode : Option String
  recipientKeyId : String
  appBuildSha : String

/-- `BackupFailure`, `BackupOutcome` and any other error, with its `code`. -/
inductive Thrown
  | failure (reason : String) (preflight : Bool)
  | outcome (result : BackupResult)
  | raised (code : Option String)

inductive Reply (α : Type)
  | answered (value : α)
  | raised (code : Option String)

inductive PgpassEnd
  | ready
  | permissionsInvalid
  | failed

/-- How the race of `pg_dump` and its pipe with the early failures ends. -/
inductive DumpEnd
  | exited (code : Option Int)
  | ageFailed
  | raised (code : Option String)

/-- The output of a tool, if it runs, what the children and their streams do, and the answers of the database and the
storage. A row that is not there is `none`. -/
structure Surroundings where
  ageVersion : Option String
  pgDumpVersion : Option String
  makeDirectory : Reply Unit
  pgpass : PgpassEnd
  connect : Reply Unit
  backupLock : Reply (Option Bool)
  migrationLock : Reply (Option Bool)
  serverVersionNum : Reply (Option Nat)
  setTimeout : Reply Unit
  setTimeZone : Reply Unit
  begin : Reply Unit
  snapshot : Reply (Option SnapshotRow)
  afterSnapshot : Reply Unit
  ledger : Reply (List MigrationLedgerRow)
  createUpload : Reply Unit
  afterDumpSpawn : Reply Unit
  dump : DumpEnd
  commit : Reply Unit
  unlockMigration : Reply (Option Bool)
  afterMigrationBarrierRelease : Reply Unit
  age : Reply (Option Int)
  cipherBytes : Nat
  cipherSha256 : String
  finalize : Reply ExactObjectIdentity
  verifyArchive : Reply ObjectIntegrity
  publishManifest : Reply ExactObjectIdentity
  verifyManifest : Reply ObjectIntegrity
  rollback : Reply Unit
  unlockBackup : Reply (Option Bool)
  abortUpload : Reply Unit

/-- What has happened when an await ends, how many microseconds later it is, and what the clock then shows. -/
structure Moment where
  terminated : Bool
  connectionLost : Bool
  timerFired : Bool
  elapsed : Nat
  date : Nat

/-- What the run does that others can see. `unlocked` is the database's confirmation. -/
inductive Action
  | connected
  | unlocked (lock : Lock)
  | uploadCreated
  | dumped
  | encrypted
  | finalizing
  | verifying (identity : ExactObjectIdentity)
  | publishing (manifest : BackupManifestV1)
  | uploadAborted
  | released (discarded : Bool)
  deriving DecidableEq

/-- The session of the run's client, while its connection lives. -/
structure Session where
  locked : Lock → Bool
  inTransaction : Bool

/-- The variables of `runBackupOnce` that its `finally` block reads. -/
structure Locals where
  client : Bool
  backupLockHeld : Bool
  migrationLockHeld : Bool
  transactionOpen : Bool
  discardClient : Bool
  cleanupErrorCode : Option String
  upload : Bool
  snapshotAt : Option String
  ledger : Option (List MigrationLedgerRow)
  archiveBytes : Option Nat
  archiveSha256 : Option String

structure World where
  moments : Nat → Moment
  awaits : Nat
  mono : Nat
  date : Nat
  signalled : Bool
  clientLost : Bool
  timedOut : Bool
  timerSet : Bool
  locals : Locals
  session : Session
  actions : List Action

abbrev Task (α : Type) := Program World Thrown α

namespace World

def moment (w : World) : Moment := w.moments w.awaits

def losesConnection (w : World) : Bool := w.locals.client && w.moment.connectionLost

def timesOut (w : World) : Bool := w.timerSet && w.moment.timerFired

/-- Until the await ends. The client's `error` event and the timer abort the signal. -/
def advance (w : World) : World :=
  { w with
    awaits := w.awaits + 1
    mono := w.mono + w.moment.elapsed
    date := w.moment.date
    clientLost := w.clientLost || w.losesConnection
    timedOut := w.timedOut || w.timesOut
    signalled := w.signalled || w.moment.terminated || w.losesConnection || w.timesOut }

def note (action : Action) (w : World) : World := { w with actions := w.actions ++ [action] }

def assign (change : Locals → Locals) (w : World) : World := { w with locals := change w.locals }

def hold (lock : Lock) (held : Bool) (w : World) : World :=
  { w with session := { w.session with locked := Function.update w.session.locked lock held } }

def transact (inTransaction : Bool) (w : World) : World :=
  { w with session := { w.session with inTransaction := inTransaction } }

def timer (set : Bool) (w : World) : World := { w with timerSet := set }

end World

section Calls

variable {α : Type}

def call (reply : Reply α) : Task α := fun w =>
  match reply with
  | .answered value => (.returned value, w.advance)
  | .raised code => (.threw (.raised code), w.advance)

/-- A query whose connection is lost is rejected, with or without its effect. -/
def query (reply : Reply α) (effect : α → World → World) : Task α := fun w =>
  if w.clientLost then (.threw (.raised none), w.advance)
  else
    match reply with
    | .answered value =>
        if w.advance.clientLost then (.threw (.raised none), effect value w.advance)
        else (.returned value, effect value w.advance)
    | .raised code => (.threw (.raised code), w.advance)

/-- `raceWithAbort`: the signal's reason is no error of the database. -/
def race (reply : Reply α) : Task α := do
  if ← Program.read (·.signalled) then Program.throw (.raised none)
  else call reply

def note (action : Action) : Task Unit := Program.update (World.note action)

def assign (change : Locals → Locals) : Task Unit := Program.update (World.assign change)

def throwIfSignalled : Task Unit := do
  if ← Program.read (·.signalled) then Program.throw (.raised none) else pure ()

/-- What a confirmed `pg_try_advisory_lock` and `pg_advisory_unlock` do. -/
def locking (lock : Lock) (row : Option Bool) (w : World) : World := if row = some true then w.hold lock true else w

def unlocking (lock : Lock) (row : Option Bool) (w : World) : World :=
  if row = some true then (w.hold lock false).note (.unlocked lock) else w

def unlock (lock : Lock) (reply : Reply (Option Bool)) (failureReason : String) : Task Unit := do
  let row ← Program.catching (query reply (unlocking lock)) fun _ =>
    Program.throw (Thrown.failure failureReason false)
  if row ≠ some true then Program.throw (.failure failureReason false) else pure ()

def createUploadWithCancellation (reply : Reply Unit) : Task Unit := do
  let signalled ← Program.read (·.signalled)
  call reply
  note .uploadCreated
  if signalled || (← Program.read (·.signalled)) then
    note .uploadAborted
    Program.throw (.raised none)
  else pure ()

end Calls

section Preflight

def isWordCharacter (c : Char) : Bool := c.isAlphanum || c == '_'

/-- `\b` between two neighbours. -/
def boundary (before after : Option Char) : Bool := before.any isWordCharacter != after.any isWordCharacter

/-- `/\bv1\.3\.2\b/`. -/
def isPinnedAge (version : List Char) : Bool :=
  version.tails.any fun tail => ['v', '1', '.', '3', '.', '2'].isPrefixOf tail &&
    boundary (version.take (version.length - tail.length)).getLast? tail.head? && boundary (some '2')
      (tail.drop 6).head?

/-- `/\b16\./`. -/
def isPgDump16 (version : List Char) : Bool :=
  version.tails.any fun tail => ['1', '6', '.'].isPrefixOf tail &&
    boundary (version.take (version.length - tail.length)).getLast? tail.head?

/-- `String(stdout).trim().slice(0, 256)`. -/
def toolVersion (output : Option String) : Task String :=
  match output with
  | some text => pure (String.ofList (Json.ofUnits
      (((JavaScriptText.trim text).toList.flatMap Json.unitsOf).take 256)))
  | none => Program.throw (.failure "required_tool_unavailable" true)

def preflightTools (s : Surroundings) : Task String := do
  let ageVersion ← toolVersion s.ageVersion
  if !isPinnedAge ageVersion.toList then Program.throw (.failure "age_version_mismatch" true)
  else
    let pgDumpVersion ← toolVersion s.pgDumpVersion
    if !isPgDump16 pgDumpVersion.toList then Program.throw (.failure "pg_dump_major_mismatch" true)
    else return pgDumpVersion

def createPgpass (s : Surroundings) : Task Unit := do
  call s.makeDirectory
  -- Whatever fails from here on is caught, and the directory removed.
  call (.answered ())
  match s.pgpass with
  | .ready => pure ()
  | .permissionsInvalid => Program.throw (.failure "backup_password_file_permissions_invalid" true)
  | .failed => Program.throw (.failure "backup_password_file_preparation_failed" true)

end Preflight

/-- What is fixed when the run starts. `startedMono` is in microseconds. -/
structure Start where
  runId : String
  startedAt : String
  startedMono : Nat

/-- `new Date(date).toISOString()`. -/
def isoText (date : Nat) : String := String.ofList (toISOString date)

/-- `Math.max(0, Math.round(performance.now() - startedMono))`. -/
def durationMs (start : Start) (w : World) : Nat := (w.mono - start.startedMono + 500) / 1000

/-- `makeResult`, of the properties that every result has. -/
def makeResult (config : BackupConfig) (start : Start) (state : BackupState) (exitCode : Nat) (reason : String)
    (w : World) :
    BackupResult :=
  ⟨state, exitCode, reason, start.runId, start.startedAt, durationMs start w, none, none, none, none, none, none,
    config.recipientKeyId, config.appBuildSha⟩

def present (text : Option String) : Option String := text.filter (· ≠ "")

def withProgress (result : BackupResult) (w : World) : BackupResult :=
  { result with
    snapshotStartedAt := present w.locals.snapshotAt
    migrationLedger := w.locals.ledger
    archiveEncryptedBytes := w.locals.archiveBytes
    archiveEncryptedSha256 := present w.locals.archiveSha256 }

section Body

variable (config : BackupConfig) (sha256 : List UInt8 → String) (s : Surroundings) (start : Start)

def takeLock (lock : Lock) (reply : Reply (Option Bool)) (state : BackupState) (exitCode : Nat) (reason : String)
    (held : Locals → Locals) : Task Unit := do
  let row ← query reply (locking lock)
  if row ≠ some true then
    let result ← Program.read (makeResult config start state exitCode reason)
    Program.throw (.outcome result)
  else assign held

def takeLocks : Task Unit := do
  takeLock config start .backup s.backupLock .skippedOverlapping 10 "backup_already_running"
    fun locals => { locals with backupLockHeld := true }
  takeLock config start .migration s.migrationLock .blockedByMigration 11 "migration_barrier_busy"
    fun locals => { locals with migrationLockHeld := true }

def expired (snapshotStartedMono : Nat) (w : World) : Bool :=
  config.maxSnapshotLifetimeMs * 1000 ≤ w.mono - snapshotStartedMono

def throwIfExpired (snapshotStartedMono : Nat) (error : Thrown) : Task Unit := do
  if ← Program.read (expired config snapshotStartedMono) then
    Program.update fun w => { w with timedOut := true }
    Program.throw error
  else pure ()

/-- From the check of the server to the begin of the transaction. -/
def beginSnapshot : Task Nat := do
  let version ← query s.serverVersionNum fun _ => id
  if version.map (· / 10000) ≠ some 16 then Program.throw (.failure "postgres_server_major_mismatch" true)
  else
    query s.setTimeout fun _ => id
    query s.setTimeZone fun _ => id
    query s.begin fun _ => World.transact true
    assign fun locals => { locals with transactionOpen := true }
    Program.update (World.timer true)
    Program.read (·.mono)

def SnapshotRow.isWhole (row : SnapshotRow) : Bool :=
  row.snapshotId ≠ "" && row.snapshotStartedAt ≠ "" && row.postgresServerVersion ≠ "" && row.postgisVersion ≠ ""

def readSnapshot (snapshotStartedMono : Nat) : Task SnapshotRow := do
  let found ← query s.snapshot fun _ => id
  throwIfExpired config snapshotStartedMono (.raised none)
  match found.filter SnapshotRow.isWhole with
  | none => Program.throw (.raised none)
  | some row => do
      assign fun locals => { locals with snapshotAt := some row.snapshotStartedAt }
      race s.afterSnapshot
      throwIfSignalled
      return row

def readLedger (snapshotStartedMono : Nat) : Task (List MigrationLedgerRow) := do
  let rows ← query s.ledger fun _ => id
  assign fun locals => { locals with ledger := some rows }
  if !validateMigrationLedger rows then Program.throw (.raised none)
  else
    throwIfExpired config snapshotStartedMono (.raised none)
    return rows

def startUpload : Task Unit := do
  createUploadWithCancellation s.createUpload
  assign fun locals => { locals with upload := true }
  throwIfSignalled
  race s.afterDumpSpawn

/-- `await Promise.race([…, earlyPipelineFailure])`, with the time at which the dump has ended. -/
def awaitDump : Task String := do
  call (.answered ())
  match s.dump with
  | .ageFailed => Program.throw (.failure "age_encrypt_failed" false)
  | .raised code => Program.throw (.raised code)
  | .exited code =>
      if code ≠ some 0 then Program.throw (.failure "pg_dump_failed" false)
      else
        note .dumped
        Program.read fun w => isoText w.date

def throwIfLate (snapshotStartedMono : Nat) : Task Unit := do
  if ← Program.read fun w => w.timedOut || expired config snapshotStartedMono w then
    Program.update fun w => { w with timedOut := true }
    Program.throw (.failure "snapshot_max_lifetime_exceeded" false)
  else pure ()

/-- The inner `try` around the unlocking. -/
def releaseBarrier : Task Unit :=
  Program.catching
    (do
      unlock .migration s.unlockMigration "migration_lock_release_failed"
      assign fun locals => { locals with migrationLockHeld := false })
    fun error => do
      assign fun locals =>
        { locals with discardClient := true, cleanupErrorCode := some "migration_lock_release_failed" }
      Program.throw error

def endSnapshot : Task Unit := do
  query s.commit fun _ => World.transact false
  assign fun locals => { locals with transactionOpen := false }
  releaseBarrier s
  Program.update (World.timer false)
  call s.afterMigrationBarrierRelease

def awaitEncryption : Task String := do
  let code ← race s.age
  if code ≠ some 0 then Program.throw (.failure "age_encrypt_failed" false)
  else
    note .encrypted
    Program.read fun w => isoText w.date

/-- The checks on the answer of `verifyExactObject`. -/
def ObjectIntegrity.confirms (integrity : ObjectIntegrity) (identity : ExactObjectIdentity) (bytes : Nat)
    (value : String) : Bool :=
  integrity.identity = identity && integrity.bytes = bytes && integrity.algorithm = "sha256" && integrity.value = value

/-- The checks on an identity that the storage has given out. -/
def ExactObjectIdentity.isOf (identity : ExactObjectIdentity) (key : String) : Bool :=
  identity.key = key && identity.storageNamespaceId = config.storageNamespaceId && identity.providerVersionId ≠ ""

def verify (identity : ExactObjectIdentity) (bytes : Nat) (value : String) (reply : Reply ObjectIntegrity)
    (reason : String) :
    Task ObjectIntegrity := do
  note (.verifying identity)
  let integrity ← race reply
  if !integrity.confirms identity bytes value then Program.throw (.failure reason false) else return integrity

/-- The archive as it lies in the storage, and when it was there. -/
def storeArchive : Task (ExactObjectIdentity × ObjectIntegrity × String) := do
  if s.cipherBytes ≤ 0 then Program.throw (.failure "encrypted_archive_empty" false)
  else
    assign fun locals => { locals with archiveBytes := some s.cipherBytes, archiveSha256 := some s.cipherSha256 }
    note .finalizing
    let identity ← race s.finalize
    if !identity.isOf config (archiveKeyOf start.runId) then
      Program.throw (.failure "remote_archive_identity_mismatch" false)
    else
      let uploadCompletedAt ← Program.read fun w => isoText w.date
      let integrity ← verify identity s.cipherBytes s.cipherSha256 s.verifyArchive
        "remote_archive_integrity_mismatch"
      return (identity, integrity, uploadCompletedAt)

def manifestOf (pgDumpVersion : String) (row : SnapshotRow) (ledger : List MigrationLedgerRow)
    (times : ManifestTimes)
    (identity : ExactObjectIdentity) (integrity : ObjectIntegrity) : BackupManifestV1 where
  manifestId := manifestKeyOf start.runId
  runId := start.runId
  storageNamespaceId := config.storageNamespaceId
  source := ⟨config.logicalDatabaseId, row.postgresServerVersion, row.postgisVersion, config.appBuildSha, ledger⟩
  timesUtc := times
  pgDumpVersion := pgDumpVersion
  recipientKeyIds := [config.recipientKeyId]
  archive := ⟨archiveKeyOf start.runId, identity.providerVersionId, s.cipherBytes, s.cipherSha256,
    integrity.algorithm,
    integrity.value⟩

def publish (manifest : BackupManifestV1) : Task Unit := do
  note (.publishing manifest)
  let identity ← race s.publishManifest
  if !identity.isOf config (manifestKeyOf start.runId) then
    Program.throw (.failure "remote_manifest_identity_mismatch" false)
  else
    let _ ← verify identity manifest.bytes.length (sha256 manifest.bytes) s.verifyManifest
      "remote_manifest_integrity_mismatch"

def connect : Task Unit := do
  call s.connect
  note .connected
  assign fun locals => { locals with client := true }

def body : Task BackupResult := do
  if ← Program.read (·.signalled) then Program.throw (.failure "termination_requested" true)
  else
    let pgDumpVersion ← preflightTools s
    createPgpass s
    connect s
    takeLocks config s start
    let snapshotStartedMono ← beginSnapshot s
    let row ← readSnapshot config s snapshotStartedMono
    let ledger ← readLedger config s snapshotStartedMono
    startUpload s
    let dumpFinishedAt ← awaitDump s
    throwIfLate config snapshotStartedMono
    endSnapshot s
    let encryptionFinishedAt ← awaitEncryption s
    let (identity, integrity, uploadCompletedAt) ← storeArchive config s start
    let publishStartedAt ← Program.read fun w => isoText w.date
    publish config sha256 s start (manifestOf config s start pgDumpVersion row ledger
      ⟨start.startedAt, row.snapshotStartedAt, dumpFinishedAt, encryptionFinishedAt, uploadCompletedAt,
        publishStartedAt⟩
      identity integrity)
    Program.read fun w =>
      { withProgress (makeResult config start .complete 0 "producer_pipeline_complete" w) w with
        manifestId := some (manifestKeyOf start.runId) }

end Body

section Ending

variable (config : BackupConfig) (s : Surroundings) (start : Start)

def currentAbortReason (w : World) : String :=
  if w.clientLost then "database_connection_lost"
  else if w.timedOut then "snapshot_max_lifetime_exceeded"
  else if w.signalled then "termination_requested"
  else "backup_pipeline_failed"

def Thrown.reason (error : Thrown) (w : World) : String :=
  match error with
  | .failure reason _ => reason
  | .raised code => if code = some "57014" then "snapshot_max_lifetime_exceeded" else currentAbortReason w
  | .outcome result => result.reasonCode

def Thrown.isPreflight : Thrown → Bool
  | .failure _ preflight => preflight
  | _ => false

/-- The `catch` block. -/
def failed (error : Thrown) : Task BackupResult :=
  match error with
  | .outcome result => pure result
  | error => do
      let result ← Program.read fun w =>
        withProgress
          (if error.isPreflight then makeResult config start .preflightRejected 2 (error.reason w) w
            else makeResult config start .incomplete 1 (error.reason w) w) w
      Program.update fun w => { w with signalled := true }
      return result

/-- `cleanupErrorCode ??= code`. -/
def cleanupError (code : String) (locals : Locals) : Locals :=
  { locals with cleanupErrorCode := locals.cleanupErrorCode.or (some code) }

/-- A query of the cleanup, while the session may be used and if there is something to clean up. -/
def cleanup (needed : Locals → Bool) (step : Task Unit) (cleaned : Locals → Locals) (code : String) : Task Unit := do
  if ← Program.read fun w => !w.clientLost && !w.locals.discardClient && needed w.locals then
    Program.catching
      (do
        step
        assign cleaned)
      fun _ => assign fun locals => { cleanupError code locals with discardClient := true }
  else pure ()

def cleanSession : Task Unit := do
  cleanup (·.transactionOpen) (query s.rollback fun _ => World.transact false)
    (fun locals => { locals with transactionOpen := false }) "database_cleanup_failed"
  cleanup (·.migrationLockHeld) (unlock .migration s.unlockMigration "migration_lock_release_failed")
    (fun locals => { locals with migrationLockHeld := false }) "migration_lock_release_failed"
  cleanup (·.backupLockHeld) (unlock .backup s.unlockBackup "backup_lock_release_failed")
    (fun locals => { locals with backupLockHeld := false }) "backup_lock_release_failed"

def releaseClient : Task Unit :=
  Program.update fun w => w.note (.released (w.clientLost || w.locals.discardClient))

def abortUpload : Task Unit := do
  note .uploadAborted
  Program.catching (call s.abortUpload) fun _ => assign (cleanupError "storage_cleanup_failed")

/-- The `finally` block. Until the children have ended no error is passed on. -/
def settle (result : BackupResult) : Task Unit := do
  Program.update (World.timer false)
  call (.answered ())
  if ← Program.read (·.locals.client) then
    cleanSession s
    releaseClient
  else pure ()
  if result.state ≠ .complete && (← Program.read (·.locals.upload)) then abortUpload s else pure ()
  call (.answered ())

/-- An error of the cleanup makes a complete result incomplete. -/
def concluded (result : BackupResult) (w : World) : BackupResult :=
  match w.locals.cleanupErrorCode with
  | none => result
  | some code =>
      if result.state = .complete then
        { withProgress (makeResult config start .incomplete 1 "database_lock_cleanup_failed" w) w with
          cleanupErrorCode := some code }
      else { result with cleanupErrorCode := some code }

end Ending

def noLocals : Locals := ⟨false, false, false, false, false, none, false, none, none, none, none⟩

def runBackupOnce (config : BackupConfig) (sha256 : List UInt8 → String) (s : Surroundings) (runId : String) :
    Task BackupResult := do
  if !validRunId runId then Program.throw (.raised none)
  else
    let start ← Program.read fun w => (⟨runId, isoText w.date, w.mono⟩ : Start)
    let result ← Program.catching (body config sha256 s start) (failed config start)
    settle s result
    Program.read (concluded config start result)

/-- The process when it calls `runBackupOnce`; the signal may have been aborted before. -/
def initial (moments : Nat → Moment) (mono date : Nat) (signalled : Bool) : World :=
  ⟨moments, 0, mono, date, signalled, false, false, false, noLocals, ⟨fun _ => false, false⟩, []⟩

end PublicLighting.Backup
