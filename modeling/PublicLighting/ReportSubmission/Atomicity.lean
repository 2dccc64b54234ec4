import PublicLighting.Foundations.Transactions
import PublicLighting.ReportSubmission.Recording

/-! `recordSubmission` as one call runs it: every await may fail, lose its answer or be the last. -/

namespace PublicLighting.ReportSubmission.Atomicity

open Foundations Foundations.Transactions
open Foundations.JavaScriptText (trim)
open EmailVerification (IntentId Challenge consumeUpdate)

/-- The tables that a submission reads and writes. -/
structure Tables (Digest : Type) where
  history : List FaultReport
  attempts : AttemptId → Option Receipt
  challenges : IntentId → Option (Challenge Digest)
  lightPoints : LightPointId → Option (ℚ × ℚ)

/-- `commitUnheard` is no variable of the call: its `COMMIT` was done and the answer lost. -/
structure Locals where
  transactionOpen : Bool
  checkouts : Nat
  releases : Nat
  commitUnheard : Bool
  deriving DecidableEq

inductive SubmissionError
  | input (error : FaultHistoryInputError)
  | target (error : ReportTargetError)
  | timestampUnavailable
  | sql
  deriving DecidableEq, Repr

/-- When the statements that read the clock do so. -/
structure Times where
  checked : Nat
  deleted : Nat
  authorized : Nat
  authorizedLate : Nat
  stamped : Nat
  receipted : Nat

/-- What the call is configured with, and what the server answers of its own accord. -/
structure Environment where
  options : FormOptions
  classifyArea : ℚ → ℚ → ServiceAreaClassification
  verifyReportAddressProof : String → String → ℚ → ℚ → String → Bool
  formatOperatorTimestamp : Int → String
  times : Times
  historyId : HistoryId

structure OperatorReportPayload where
  locality : String
  locationBlockCode : Option String
  faultTypeCode : Option String
  reportTarget : ResolvedReportTarget
  additionalInfo : String
  deriving DecidableEq

structure SubmissionResult where
  result : FaultHistoryRecordResult
  automaticNotes : List String
  operatorPayload : Option OperatorReportPayload
  deriving DecidableEq

def buildOperatorAdditionalInfo (originalDescription : Option String) (automaticNotes : List String) : String :=
  let original := (originalDescription.map trim).getD ""
  let generated := if automaticNotes = [] then "" else
    "Automatické poznámky pre operátora: " ++ String.intercalate " " automaticNotes
  String.intercalate "\n\n" ([original, generated].filter (· ≠ ""))

section Call

variable {Digest : Type} [DecidableEq Digest] (environment : Environment)

abbrev Call (Digest α : Type) := Task (Tables Digest) Locals SubmissionError α

def close : Call Digest Unit := assign fun locals => { locals with transactionOpen := false }

def commit : Call Digest Unit := do
  sqlCommit SubmissionError.sql fun locals => { locals with commitUnheard := true }
  close

/-- The SELECT of an unexpired receipt joined to its history row. -/
def existingReceipt (attemptId : AttemptId) (now : Nat) (tables : Tables Digest) : Option FaultReport :=
  match tables.attempts attemptId with
  | some receipt =>
      if now < receipt.expiresAt then tables.history.find? fun row => row.id = receipt.historyId else none
  | none => none

def deleteExpired (attemptId : AttemptId) (now : Nat) (tables : Tables Digest) : Tables Digest :=
  if (tables.attempts attemptId).any fun receipt => receipt.expiresAt ≤ now then
    { tables with attempts := Function.update tables.attempts attemptId none }
  else tables

def ofExcept {α : Type} : Except ReportTargetError α → Call Digest α
  | .ok value => pure value
  | .error error => Program.throw (.target error)

def resolveTarget (target : ReportTarget) : Call Digest ResolvedReportTarget :=
  match target with
  | .manual => pure ⟨"manual", none, none, none⟩
  | .custom latitude longitude =>
      ofExcept (resolvePlace environment.classifyArea "custom" latitude longitude none)
  | .device latitude longitude =>
      ofExcept (resolvePlace environment.classifyArea "device" latitude longitude none)
  | .lightPoint given =>
      match lightPointIdOf given with
      | none => Program.throw (.target ⟨400, "invalid_coordinates"⟩)
      | some lightPointId => do
          let found ← query SubmissionError.sql fun tables =>
            -- The column is an integer of four bytes.
            if 2147483647 < lightPointId then .error SubmissionError.sql
            else .ok (tables.lightPoints lightPointId, tables)
          ofExcept (resolveLightPoint environment.classifyArea given found)
  | .other => Program.throw (.target ⟨400, "invalid_coordinates"⟩)

/-- Whether the proof vouches for the address, if there is an address. -/
def addressProven (input : FaultHistorySubmissionInput) (target : ResolvedReportTarget) : Bool :=
  match input.automaticAddress.filter fun address => trim address ≠ "" with
  | none => true
  | some address =>
      match target.latitude, target.longitude, input.automaticAddressProof with
      | some latitude, some longitude, some proof =>
          (target.kind = "custom" || target.kind = "device") && proof ≠ "" &&
            environment.verifyReportAddressProof address target.kind latitude longitude proof
      | _, _, _ => false

def consumeVerification (intentId : IntentId) (emailDigest tokenDigest : Digest) (tables : Tables Digest) :
    Bool × Tables Digest :=
  let consumed := (tables.challenges intentId).bind fun row =>
    consumeUpdate emailDigest tokenDigest row environment.times.authorized environment.times.authorizedLate
  match consumed with
  | some row => (true, { tables with challenges := Function.update tables.challenges intentId (some row) })
  | none => (false, tables)

/-- `!authorize || await authorize(client)`. -/
def authorized : Authorize Digest → Call Digest Bool
  | .absent => pure true
  | .refuses => pure false
  | .consumes intentId emailDigest tokenDigest =>
      query SubmissionError.sql fun tables =>
        .ok (consumeVerification environment intentId emailDigest tokenDigest tables)

/-- A time of the database that `new Date` reads. -/
def readable (timestamp : Nat) : Bool := timestamp < 253402300800000000

def insertReport (submission : Submission) (target : ResolvedReportTarget) (submittedAt : Int)
    (automaticNotes : List String) (tables : Tables Digest) : FaultReport × Tables Digest :=
  let report := reportOf environment.historyId submission target submittedAt automaticNotes
  (report, { tables with history := tables.history ++ [report] })

def insertReceipt (attemptId : AttemptId) (report : FaultReport) (tables : Tables Digest) :
    Except SubmissionError (Unit × Tables Digest) :=
  let receipt : Receipt := ⟨report.id, environment.times.receipted⟩
  if (tables.attempts attemptId).isSome then .error .sql
  else .ok ((), { tables with attempts := Function.update tables.attempts attemptId (some receipt) })

def given (value : Option String) : Option String := value.filter (· ≠ "")

def operatorPayload (input : FaultHistorySubmissionInput) (detailDescription : Option String)
    (target : ResolvedReportTarget) (automaticNotes : List String) : OperatorReportPayload :=
  { locality := input.locality
    locationBlockCode := given input.locationBlockCode
    faultTypeCode := given input.faultTypeCode
    reportTarget := target
    additionalInfo := buildOperatorAdditionalInfo detailDescription automaticNotes }

def previousSummary (target : ResolvedReportTarget) (submittedAt : Int) : Call Digest PreviousFaultSummary :=
  match target.point with
  | some lightPointId => select SubmissionError.sql fun tables =>
      faultHistorySummary tables.history lightPointId submittedAt
  | none => pure noPreviousFaults

def writeReceipt (submission : Submission) (report : FaultReport) : Call Digest Unit :=
  match submission.attemptId with
  | some attemptId => query SubmissionError.sql (insertReceipt environment attemptId report)
  | none => pure ()

def insertSubmission (submission : Submission) (detailDescription : Option String)
    (target : ResolvedReportTarget) : Call Digest SubmissionResult := do
  let submittedAt ← select SubmissionError.sql fun _ => environment.times.stamped
  if readable submittedAt = false then Program.throw .timestampUnavailable
  else do
    let summary ← previousSummary target submittedAt
    let automaticNotes := buildAutomaticFaultNotes environment.formatOperatorTimestamp summary
      (dateOf submittedAt) target.point
    let report ← query SubmissionError.sql fun tables =>
      .ok (insertReport environment submission target submittedAt automaticNotes tables)
    writeReceipt environment submission report
    commit
    return {
      result := ⟨true, false, some report.id, submission.attemptId, some submittedAt⟩
      automaticNotes := automaticNotes
      operatorPayload := some (operatorPayload submission.input detailDescription target automaticNotes) }

/-- From the target on, with no receipt in the way. -/
def recordFresh (submission : Submission) (detailDescription : Option String) (authorize : Authorize Digest) :
    Call Digest SubmissionResult := do
  let target ← resolveTarget environment submission.input.reportTarget
  if addressProven environment submission.input target = false then
    Program.throw (.input .invalidAutomaticAddressProof)
  else do
    let allowed ← authorized environment authorize
    if allowed = false then do
      sqlRollback SubmissionError.sql
      close
      return ⟨unauthorized, [], none⟩
    else insertSubmission environment submission detailDescription target

def transaction (submission : Submission) (detailDescription : Option String) (authorize : Authorize Digest) :
    Call Digest SubmissionResult := do
  sqlBegin SubmissionError.sql
  assign fun locals => { locals with transactionOpen := true }
  match submission.attemptId with
  | none => recordFresh environment submission detailDescription authorize
  | some attemptId => do
      -- The advisory lock.
      select SubmissionError.sql fun _ => ()
      let existing ← select SubmissionError.sql (existingReceipt attemptId environment.times.checked)
      match existing with
      | some row => do
          commit
          return ⟨⟨true, true, some row.id, some attemptId, some row.submittedAt.toNat⟩, [], none⟩
      | none => do
          query SubmissionError.sql fun tables =>
            .ok ((), deleteExpired attemptId environment.times.deleted tables)
          recordFresh environment submission detailDescription authorize

def connect : Call Digest Unit := do
  Program.await SubmissionError.sql id id fun client => (.ok (), client)
  assign fun locals => { locals with checkouts := locals.checkouts + 1 }

def rollbackOpen : Call Digest Unit := do
  let transactionOpen ← Program.read fun w => w.state.locals.transactionOpen
  if transactionOpen then ignoring (sqlRollback SubmissionError.sql) else pure ()

def release : Call Digest Unit := assign fun locals => { locals with releases := locals.releases + 1 }

def recordSubmission (input : FaultHistorySubmissionInput) (detailDescription : Option String)
    (authorize : Authorize Digest) : Call Digest SubmissionResult :=
  match acceptSubmission environment.options input with
  | .error error => Program.throw (.input error)
  | .ok submission => do
      connect
      Program.ending
        (Program.catching (transaction environment submission detailDescription authorize) fun error => do
          rollbackOpen
          Program.throw error)
        release

end Call

end PublicLighting.ReportSubmission.Atomicity
