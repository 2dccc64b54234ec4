import Mathlib.Data.List.Infix
import PublicLighting.BackupScheduler.Journal
import PublicLighting.Foundations.JavaScriptText
import PublicLighting.Foundations.JsonRecords
import PublicLighting.Foundations.WireText
import PublicLighting.Operations.Timestamps

/-! The records of the scheduler's journal: the JSON of an event and what `parseEvent` accepts. -/

namespace PublicLighting.BackupScheduler.Records

open Foundations Foundations.Json
open Foundations.Doubles (IsDouble isSafeInteger isDouble_safe infinity)
open Foundations.JavaScriptText (isHex isLowerHex)
open Foundations.WireText (utf8)
open Operations (isUtcTimestamp)

/-- A text that a check accepts, and a number with a property. -/
abbrev Text (accepts : String → Bool) := { text : String // accepts text = true }
abbrev Numeral (p : ℚ → Prop) := { value : ℚ // p value }

/-- `[…]{least,most}` from end to end. -/
def consists (accepts : Char → Bool) (least most : Nat) (text : String) : Bool :=
  text.toList.all accepts && least ≤ text.toList.length && text.toList.length ≤ most

def isTimestamp (text : String) : Bool := @isUtcTimestamp Unit (.inl (text.toList.flatMap unitsOf))

def isReasonCode : String → Bool := consists (fun c => c.isLower || c.isDigit || c == '_') 1 80

def isSha256 : String → Bool := consists isLowerHex 64 64

def isBuildSha : String → Bool := consists isHex 7 64

def isVersion : String → Bool := consists Char.isDigit 4 4

def isMigrationName : String → Bool := consists (fun c => c.isLower || c.isDigit || c == '_' || c == '-') 1 128

/-- `/^sha256:[a-f0-9]{64}$/`. -/
def isRecipientKeyId (text : String) : Bool :=
  text.toList.take 7 = ['s', 'h', 'a', '2', '5', '6', ':'] && isSha256 (String.ofList (text.toList.drop 7))

def isSafeObjectKey (text : String) : Bool :=
  text.toList.length ≤ 512 && text.toList.head?.any Char.isAlphanum &&
    text.toList.all (fun c => c.isAlphanum || c ∈ ['.', '_', '/', '-']) &&
    !(['.', '.'] <:+: text.toList) && !(['/', '/'] <:+: text.toList)

def stateText : BackupState → String
  | .complete => "complete"
  | .skippedOverlapping => "skipped_overlapping"
  | .blockedByMigration => "blocked_by_migration"
  | .preflightRejected => "preflight_rejected"
  | .incomplete => "incomplete"

def backupStates : List BackupState :=
  [.complete, .skippedOverlapping, .blockedByMigration, .preflightRejected, .incomplete]

structure MigrationLedgerRow where
  version : Text isVersion
  name : Text isMigrationName
  checksum : Text isSha256
  deriving DecidableEq

structure BackupResult where
  state : BackupState
  exitCode : Numeral (isSafeInteger ·)
  reasonCode : Text isReasonCode
  runId : Text validRunId
  runStartedAt : Text isTimestamp
  durationMs : Numeral fun value => IsDouble value ∧ 0 ≤ value
  snapshotStartedAt : Option (Text isTimestamp)
  migrationLedger : Option { rows : List MigrationLedgerRow // rows.length ≤ 256 }
  manifestId : Option (Text isSafeObjectKey)
  archiveEncryptedBytes : Option (Numeral fun value => isSafeInteger value ∧ 0 < value)
  archiveEncryptedSha256 : Option (Text isSha256)
  cleanupErrorCode : Option (Text isReasonCode)
  recipientKeyId : Text isRecipientKeyId
  appBuildSha : Text isBuildSha
  deriving DecidableEq

abbrev Attempt := Numeral fun value => isSafeInteger value ∧ 1 ≤ value ∧ value ≤ 2

structure Started where
  slotId : Text isTimestamp
  attempt : Attempt
  runId : Text validRunId
  startedAtUtc : Text isTimestamp
  deriving DecidableEq

/-- A result that is recorded is of the run that is recorded. -/
structure Finished where
  slotId : Text isTimestamp
  attempt : Attempt
  runId : Text validRunId
  finishedAtUtc : Text isTimestamp
  state : BackupState
  exitCode : Numeral (isSafeInteger ·)
  reasonCode : Text isReasonCode
  retryAtUtc : Option (Text isTimestamp)
  backupResult : Option BackupResult
  agrees : ∀ result ∈ backupResult, result.runId = runId ∧ result.state = state ∧ result.exitCode = exitCode ∧
    result.reasonCode = reasonCode
  deriving DecidableEq

inductive Event
  | started (event : Started)
  | finished (event : Finished)
  deriving DecidableEq

section Reading

def asText (accepts : String → Bool) : Json → Option (Text accepts)
  | .string text => if holds : accepts text = true then some ⟨text, holds⟩ else none
  | _ => none

/-- Of a number that `JSON.parse` gave; the infinite ones have no property here. -/
def asNumeral (p : ℚ → Prop) [DecidablePred p] : Json → Option (Numeral p)
  | .number value => if holds : p value then some ⟨value, holds⟩ else none
  | _ => none

def asState : Json → Option BackupState
  | .string text => backupStates.find? fun state => stateText state = text
  | _ => none

/-- A property that may be `undefined`, but nothing else that is not read. -/
def optional {α : Type} (read : Json → Option α) : Option Json → Option (Option α)
  | none => some none
  | some value => (read value).map some

def isOne : Option Json → Bool
  | some (.number value) => value = 1
  | _ => false

def ledgerFields : List String := ["version", "name", "checksum"]

def asLedgerRow (row : Json) : Option MigrationLedgerRow := do
  if !row.isObject || !row.keysWithin ledgerFields then none
  else
    let version ← (row.get? "version").bind (asText isVersion)
    let name ← (row.get? "name").bind (asText isMigrationName)
    let checksum ← (row.get? "checksum").bind (asText isSha256)
    return ⟨version, name, checksum⟩

def asLedger : Json → Option { rows : List MigrationLedgerRow // rows.length ≤ 256 }
  | .array items => (items.mapM asLedgerRow).bind fun rows =>
      if small : rows.length ≤ 256 then some ⟨rows, small⟩ else none
  | _ => none

def resultFields : List String :=
  ["result_version", "state", "exit_code", "reason_code", "run_id", "run_started_at", "duration_ms",
    "snapshot_started_at", "migration_ledger", "manifest_id", "archive_encrypted_bytes", "archive_encrypted_sha256",
    "cleanup_error_code", "recipient_key_id", "app_build_sha"]

def sanitizeBackupResult (value : Json) : Option BackupResult := do
  if !value.isObject || !value.keysWithin resultFields || !isOne (value.get? "result_version") then none
  else
    let state ← (value.get? "state").bind asState
    let exitCode ← (value.get? "exit_code").bind (asNumeral (isSafeInteger ·))
    let reasonCode ← (value.get? "reason_code").bind (asText isReasonCode)
    let runId ← (value.get? "run_id").bind (asText validRunId)
    let runStartedAt ← (value.get? "run_started_at").bind (asText isTimestamp)
    let durationMs ← (value.get? "duration_ms").bind (asNumeral fun value => IsDouble value ∧ 0 ≤ value)
    let snapshotStartedAt ← optional (asText isTimestamp) (value.get? "snapshot_started_at")
    let migrationLedger ← optional asLedger (value.get? "migration_ledger")
    let manifestId ← optional (asText isSafeObjectKey) (value.get? "manifest_id")
    let archiveEncryptedBytes ←
      optional (asNumeral fun value => isSafeInteger value ∧ 0 < value) (value.get? "archive_encrypted_bytes")
    let archiveEncryptedSha256 ← optional (asText isSha256) (value.get? "archive_encrypted_sha256")
    let cleanupErrorCode ← optional (asText isReasonCode) (value.get? "cleanup_error_code")
    let recipientKeyId ← (value.get? "recipient_key_id").bind (asText isRecipientKeyId)
    let appBuildSha ← (value.get? "app_build_sha").bind (asText isBuildSha)
    return ⟨state, exitCode, reasonCode, runId, runStartedAt, durationMs, snapshotStartedAt,
      migrationLedger, manifestId,
      archiveEncryptedBytes, archiveEncryptedSha256, cleanupErrorCode, recipientKeyId, appBuildSha⟩

def startedKeys : List String := ["event_version", "kind", "slot_id", "attempt", "run_id", "started_at_utc"]

def finishedKeys : List String :=
  ["event_version", "kind", "slot_id", "attempt", "run_id", "finished_at_utc", "state", "exit_code", "reason_code",
    "retry_at_utc", "backup_result"]

/-- `null`, or a timestamp. -/
def asRetry : Option Json → Option (Option (Text isTimestamp))
  | some .null => some none
  | some value => (asText isTimestamp value).map some
  | none => none

def asKind (kind : String) (value : Json) : Bool :=
  match value.get? "kind" with
  | some (.string text) => text = kind
  | _ => false

def readStarted (value : Json) : Option Event := do
  if !value.keysWithin startedKeys then none
  else
    let slotId ← (value.get? "slot_id").bind (asText isTimestamp)
    let attempt ← (value.get? "attempt").bind (asNumeral fun value => isSafeInteger value ∧ 1 ≤ value ∧ value ≤ 2)
    let runId ← (value.get? "run_id").bind (asText validRunId)
    let startedAtUtc ← (value.get? "started_at_utc").bind (asText isTimestamp)
    return .started ⟨slotId, attempt, runId, startedAtUtc⟩

def readFinished (value : Json) : Option Event := do
  if !value.keysWithin finishedKeys then none
  else
    let slotId ← (value.get? "slot_id").bind (asText isTimestamp)
    let attempt ← (value.get? "attempt").bind (asNumeral fun value => isSafeInteger value ∧ 1 ≤ value ∧ value ≤ 2)
    let runId ← (value.get? "run_id").bind (asText validRunId)
    let finishedAtUtc ← (value.get? "finished_at_utc").bind (asText isTimestamp)
    let state ← (value.get? "state").bind asState
    let exitCode ← (value.get? "exit_code").bind (asNumeral (isSafeInteger ·))
    let reasonCode ← (value.get? "reason_code").bind (asText isReasonCode)
    let retryAtUtc ← asRetry (value.get? "retry_at_utc")
    let backupResult ← optional sanitizeBackupResult (value.get? "backup_result")
    if agrees : ∀ result ∈ backupResult, result.runId = runId ∧ result.state = state ∧ result.exitCode = exitCode ∧
        result.reasonCode = reasonCode then
      return .finished ⟨slotId, attempt, runId, finishedAtUtc, state, exitCode, reasonCode, retryAtUtc,
        backupResult, agrees⟩
    else none

def readEvent (value : Json) : Option Event :=
  if !isOne (value.get? "event_version") then none
  else if asKind "attempt_started" value then readStarted value
  else if asKind "attempt_finished" value then readFinished value
  else none

end Reading

def maxSchedulerEventBytes : Nat := 64 * 1024

/-- `Buffer.byteLength(text, 'utf8')`. -/
def byteLength (text : String) : Nat := (utf8 text.toList).length

inductive RecordError
  | recordInvalid
  | syntaxError
  deriving DecidableEq, Repr

def parseEvent (line : String) : Except RecordError Event :=
  if maxSchedulerEventBytes < byteLength line then .error .recordInvalid
  else match parse line with
    | none => .error .syntaxError
    | some value => (readEvent value).elim (.error .recordInvalid) .ok

section Writing

def textJson {accepts : String → Bool} (text : Text accepts) : Json := .string text.val

def numeralJson {p : ℚ → Prop} (value : Numeral p) : Json := .number value.val

def MigrationLedgerRow.toJson (row : MigrationLedgerRow) : Json :=
  record [("version", some (textJson row.version)), ("name", some (textJson row.name)),
    ("checksum", some (textJson row.checksum))]

def ledgerJson (rows : { rows : List MigrationLedgerRow // rows.length ≤ 256 }) : Json :=
  .array (rows.val.map MigrationLedgerRow.toJson)

def BackupResult.fields (result : BackupResult) : List (String × Option Json) :=
  [("result_version", some (.number 1)), ("state", some (.string (stateText result.state))),
    ("exit_code", some (numeralJson result.exitCode)), ("reason_code", some (textJson result.reasonCode)),
    ("run_id", some (textJson result.runId)), ("run_started_at", some (textJson result.runStartedAt)),
    ("duration_ms", some (numeralJson result.durationMs)),
    ("snapshot_started_at", result.snapshotStartedAt.map textJson),
    ("migration_ledger", result.migrationLedger.map ledgerJson),
    ("manifest_id", result.manifestId.map textJson),
    ("archive_encrypted_bytes", result.archiveEncryptedBytes.map numeralJson),
    ("archive_encrypted_sha256", result.archiveEncryptedSha256.map textJson),
    ("cleanup_error_code", result.cleanupErrorCode.map textJson),
    ("recipient_key_id", some (textJson result.recipientKeyId)), ("app_build_sha", some (textJson result.appBuildSha))]

def BackupResult.toJson (result : BackupResult) : Json := record result.fields

def Started.fields (event : Started) : List (String × Option Json) :=
  [("event_version", some (.number 1)), ("kind", some (.string "attempt_started")),
    ("slot_id", some (textJson event.slotId)),
    ("attempt", some (numeralJson event.attempt)), ("run_id", some (textJson event.runId)),
    ("started_at_utc", some (textJson event.startedAtUtc))]

def Finished.fields (event : Finished) : List (String × Option Json) :=
  [("event_version", some (.number 1)), ("kind", some (.string "attempt_finished")),
    ("slot_id", some (textJson event.slotId)),
    ("attempt", some (numeralJson event.attempt)), ("run_id", some (textJson event.runId)),
    ("finished_at_utc", some (textJson event.finishedAtUtc)), ("state", some (.string (stateText event.state))),
    ("exit_code", some (numeralJson event.exitCode)), ("reason_code", some (textJson event.reasonCode)),
    ("retry_at_utc", some ((event.retryAtUtc.map textJson).getD .null)),
    ("backup_result", event.backupResult.map BackupResult.toJson)]

def Event.toJson : Event → Json
  | started event => record event.fields
  | finished event => record event.fields

/-- `JSON.stringify(event)`. -/
def Event.text (event : Event) : String := stringify event.toJson

end Writing

/-! What is written is read back. -/

section ReadBack

theorem asText_json {accepts : String → Bool} (text : Text accepts) :
    asText accepts (textJson text) = some text := by
  simp [asText, textJson, text.property]

theorem asNumeral_json {p : ℚ → Prop} [DecidablePred p] (value : Numeral p) :
    asNumeral p (numeralJson value) = some value := by
  simp [asNumeral, numeralJson, value.property]

theorem asState_text (state : BackupState) : asState (.string (stateText state)) = some state := by
  cases state <;> decide

theorem optional_map {α : Type} {read : Json → Option α} {write : α → Json}
    (back : ∀ value, read (write value) = some value)
    (value : Option α) : optional read (value.map write) = some value := by
  cases value with
  | none => rfl
  | some value => simp [optional, back]

theorem asRetry_json (retry : Option (Text isTimestamp)) :
    asRetry (some ((retry.map textJson).getD .null)) = some retry := by
  cases retry with
  | none => rfl
  | some time =>
      have back := asText_json time
      rw [textJson] at back
      simp [asRetry, textJson, back]

theorem asLedgerRow_json (row : MigrationLedgerRow) : asLedgerRow row.toJson = some row := by
  have distinct : ledgerFields.Nodup := by decide
  have keys : row.toJson.keysWithin ledgerFields = true := keysWithin_record (by simp [ledgerFields])
  have object : row.toJson.isObject = true := rfl
  have found : ∀ key, row.toJson.get? key = _ := fun _ => get?_lookup distinct
  simp [asLedgerRow, object, keys, found, List.lookup_cons, asText_json]

theorem asLedger_json (rows : { rows : List MigrationLedgerRow // rows.length ≤ 256 }) :
    asLedger (ledgerJson rows) = some rows := by
  have each : (rows.val.map MigrationLedgerRow.toJson).mapM asLedgerRow = some rows.val := by
    induction rows.val with
    | nil => rfl
    | cons row rest ih => simp [asLedgerRow_json, ih]
  simp [asLedger, ledgerJson, each, rows.property]

theorem sanitizeBackupResult_json (result : BackupResult) : sanitizeBackupResult result.toJson = some result := by
  have distinct : resultFields.Nodup := by decide
  have keys : result.toJson.keysWithin resultFields = true := by
    refine keysWithin_record fun field member => ?_
    exact List.mem_map_of_mem (f := (·.1)) member
  have object : result.toJson.isObject = true := rfl
  have found : ∀ key, result.toJson.get? key = (result.fields.lookup key).join := fun _ => get?_lookup distinct
  simp [sanitizeBackupResult, object, keys, found, BackupResult.fields, List.lookup_cons, isOne, asState_text,
    asNumeral_json,
    asText_json, optional_map asText_json, optional_map asLedger_json, optional_map asNumeral_json]

theorem readEvent_started (event : Started) : readEvent (Event.started event).toJson = some (.started event) := by
  have distinct : startedKeys.Nodup := by decide
  have keys : (Event.started event).toJson.keysWithin startedKeys = true := by
    refine keysWithin_record fun field member => ?_
    exact List.mem_map_of_mem (f := (·.1)) member
  have found : ∀ key, (Event.started event).toJson.get? key = (event.fields.lookup key).join :=
    fun _ => get?_lookup distinct
  simp [readEvent, readStarted, keys, found, Started.fields, List.lookup_cons, isOne, asKind,
    asNumeral_json, asText_json]

theorem readEvent_finished (event : Finished) :
    readEvent (Event.finished event).toJson = some (.finished event) := by
  have distinct : finishedKeys.Nodup := by decide
  have keys : (Event.finished event).toJson.keysWithin finishedKeys = true := by
    refine keysWithin_record fun field member => ?_
    exact List.mem_map_of_mem (f := (·.1)) member
  have found : ∀ key, (Event.finished event).toJson.get? key = (event.fields.lookup key).join :=
    fun _ => get?_lookup distinct
  have agrees := event.agrees
  simp [readEvent, readFinished, keys, found, Finished.fields, List.lookup_cons, isOne, asKind, asState_text,
    asNumeral_json,
    asText_json, asRetry_json, optional_map sanitizeBackupResult_json]
  exact fun result recorded => agrees result recorded

theorem readEvent_json (event : Event) : readEvent event.toJson = some event := by
  cases event with
  | started event => exact readEvent_started event
  | finished event => exact readEvent_finished event

end ReadBack

section Texts

theorem textJson_finite {accepts : String → Bool} (text : Text accepts) : (textJson text).Finite := trivial

theorem safe_finite {value : Numeral (isSafeInteger ·)} : (numeralJson value).Finite := isDouble_safe value.property

theorem row_finite (row : MigrationLedgerRow) : row.toJson.Finite := by
  refine record_finite ?_
  simp [textJson_finite]

theorem ledger_finite (rows : { rows : List MigrationLedgerRow // rows.length ≤ 256 }) :
    (ledgerJson rows).Finite := by
  refine (everyItem_iff IsDouble _).mpr fun item member => ?_
  obtain ⟨row, _, rfl⟩ := List.mem_map.mp member
  exact row_finite row

theorem one_finite : (Json.number 1).Finite := isDouble_safe (by decide)

theorem string_finite (text : String) : (Json.string text).Finite := trivial

theorem result_finite (result : BackupResult) : result.toJson.Finite := by
  refine record_finite ?_
  have bytes : ∀ value ∈ result.archiveEncryptedBytes, (numeralJson value).Finite :=
    fun value _ => isDouble_safe value.property.1
  have duration : (numeralJson result.durationMs).Finite := result.durationMs.property.1
  simp only [BackupResult.fields, List.forall_mem_cons, Option.mem_def, Option.some.injEq, forall_eq',
    Option.map_eq_some_iff,
    forall_exists_index, and_imp, forall_apply_eq_imp_iff₂, one_finite, string_finite, textJson_finite,
      safe_finite, duration,
    implies_true, true_and]
  exact ⟨fun rows _ => ledger_finite rows, fun value given => bytes value given, fun _ member => by cases member⟩

theorem event_finite (event : Event) : event.toJson.Finite := by
  cases event with
  | started event =>
      have attempt : (numeralJson event.attempt).Finite := isDouble_safe event.attempt.property.1
      refine record_finite ?_
      simp [Started.fields, one_finite, string_finite, textJson_finite, attempt]
  | finished event =>
      have attempt : (numeralJson event.attempt).Finite := isDouble_safe event.attempt.property.1
      have retry : ((event.retryAtUtc.map textJson).getD .null).Finite := by
        cases event.retryAtUtc <;> trivial
      refine record_finite ?_
      simp [Finished.fields, one_finite, string_finite, textJson_finite, attempt, safe_finite, retry, result_finite]

theorem parseEvent_text (event : Event) (fits : byteLength event.text ≤ maxSchedulerEventBytes) :
    parseEvent event.text = .ok event := by
  rw [parseEvent, if_neg (Nat.not_lt.mpr fits), Event.text, parse_stringify (event_finite event)]
  simp [readEvent_json]

end Texts

end PublicLighting.BackupScheduler.Records
