import PublicLighting.EmailVerification.Safety
import PublicLighting.ReportSubmission.Submission

/-! `recordSubmission` and the receipt cleanup, one statement at a time. A call that
throws, crashes or loses its connection rolls back; one whose answer is lost after
COMMIT has taken effect. -/

namespace PublicLighting.ReportSubmission

open Foundations
open EmailVerification (CallId IntentId Intent Event Challenge consumeUpdate Lawful Grows)

abbrev AttemptId := String
abbrev HistoryId := Nat

/-- `interval '30 days'`, in microseconds. -/
def receiptLifetime : Nat := 30 * 24 * 60 * 60 * 1000000

/-- A row of `report_submission_attempts`, whose `expires_at` the table fixes. -/
structure Receipt where
  historyId : HistoryId
  createdAt : Nat
  deriving DecidableEq

def Receipt.expiresAt (receipt : Receipt) : Nat := receipt.createdAt + receiptLifetime

structure ResolvedReportTarget where
  kind : String
  latitude : Option ℚ
  longitude : Option ℚ
  lightPointId : Option ℚ
  deriving DecidableEq

/-- A row of `fault_report_history`. The last four fields are no columns: the call
that recorded the row, and what it was recorded for and with. -/
structure HistoryRow where
  id : HistoryId
  submittedAt : Nat
  locality : String
  locationBlockCode : Option String
  faultTypeCode : Option String
  target : ResolvedReportTarget
  call : CallId
  attemptId : Option AttemptId
  receipt : Option Receipt
  verification : Option IntentId
  deriving DecidableEq

/-- The `authorize` argument: none, one that answers false without a statement, or
the consumption of a verification. -/
inductive Authorize (Digest : Type)
  | absent
  | refuses
  | consumes (intentId : IntentId) (emailDigest tokenDigest : Digest)
  deriving DecidableEq

structure Request (Digest : Type) where
  submission : Submission
  authorize : Authorize Digest
  deriving DecidableEq

structure FaultHistoryRecordResult where
  authorized : Bool
  duplicate : Bool
  id : Option HistoryId
  receiptId : Option AttemptId
  submittedAt : Option Nat
  deriving DecidableEq, Repr

inductive Failure
  | input (error : FaultHistoryInputError)
  | thrown (error : String)
  deriving DecidableEq, Repr

inductive Outcome
  | recorded (result : FaultHistoryRecordResult)
  | cleaned
  | failed (failure : Failure)
  deriving DecidableEq, Repr

def unauthorized : FaultHistoryRecordResult := ⟨false, false, none, none, none⟩

def duplicateOf (attemptId : AttemptId) (row : HistoryRow) : FaultHistoryRecordResult :=
  ⟨true, true, some row.id, some attemptId, some row.submittedAt⟩

def recordedAs (row : HistoryRow) : FaultHistoryRecordResult :=
  ⟨true, false, some row.id, row.attemptId, some row.submittedAt⟩

/-- The statement a call has to run next. -/
inductive Call (Digest : Type)
  | idle
  | locking (request : Request Digest) (attemptId : AttemptId)
  | checking (request : Request Digest) (attemptId : AttemptId)
  | deleting (request : Request Digest) (attemptId : AttemptId)
  | resolving (request : Request Digest)
  | authorizing (request : Request Digest) (target : ResolvedReportTarget)
  | stamping (request : Request Digest) (target : ResolvedReportTarget)
      (verification : Option IntentId)
  | inserting (request : Request Digest) (target : ResolvedReportTarget)
      (verification : Option IntentId) (submittedAt : Nat)
  | receipting (attemptId : AttemptId) (row : HistoryRow)
  | committing (row : HistoryRow)
  | duplicate (result : FaultHistoryRecordResult)
  | cleaning (expired : List (AttemptId × Nat))
  | ended (outcome : Outcome)
  deriving DecidableEq

/-- `writers` and `authorized` are no part of the database: the calls that have written
to a table, and those that have called `authorize`. -/
structure State (Digest : Type) where
  now : Nat
  receipts : RowLocks AttemptId (Option Receipt) CallId
  history : List HistoryRow
  nextId : HistoryId
  verifications : RowLocks IntentId (Intent Digest) CallId
  advisory : Int → Option CallId
  calls : CallId → Call Digest
  writers : List CallId
  authorized : List CallId

inductive Label (Digest : Type)
  | elapse (duration : Nat)
  | recordSubmission (call : CallId) (input : FaultHistorySubmissionInput)
      (authorize : Authorize Digest)
  | lock (call : CallId)
  | check (call : CallId)
  | deleteExpired (call : CallId)
  | resolveTarget (call : CallId) (outcome : Except String ResolvedReportTarget)
  | authorize (call : CallId) (late : Nat)
  | stamp (call : CallId)
  | insertHistory (call : CallId)
  | insertReceipt (call : CallId)
  | cleanupExpired (call : CallId) (limit : Int) (expired : List (AttemptId × Nat))
  | cleanupDelete (call : CallId)
  | commit (call : CallId) (delivered : Bool)
  | fail (call : CallId) (error : String)

section Steps

variable {Digest : Type}

def State.setCall (s : State Digest) (call : CallId) (next : Call Digest) : State Digest :=
  { s with calls := Function.update s.calls call next }

/-- Transaction-level advisory locks end with the transaction. -/
def State.unlocked (s : State Digest) (call : CallId) (key : Int) : Option CallId :=
  if s.advisory key = some call then none else s.advisory key

def State.rollback (s : State Digest) (call : CallId) (outcome : Outcome) : State Digest :=
  { s with
    receipts := s.receipts.rollback call
    verifications := s.verifications.rollback call
    advisory := s.unlocked call }.setCall call (.ended outcome)

def State.commit (s : State Digest) (call : CallId) (rows : List HistoryRow) (outcome : Outcome) :
    State Digest :=
  { s with
    receipts := s.receipts.commit call
    history := s.history ++ rows
    verifications := s.verifications.commit call
    advisory := s.unlocked call }.setCall call (.ended outcome)

def State.writeReceipt (s : State Digest) (call : CallId) (attemptId : AttemptId)
    (receipt : Option Receipt) (next : Call Digest) : Option (State Digest) :=
  if s.receipts.Free call attemptId then
    some ({ s with
      receipts := s.receipts.write call attemptId receipt
      writers := call :: s.writers }.setCall call next)
  else none

/-- The receipt is expired and is the one that the cleanup selected. -/
def expiredAs (receipt : Option Receipt) (expiresAt now : Nat) : Bool :=
  receipt.any fun receipt => receipt.expiresAt = expiresAt ∧ receipt.expiresAt ≤ now

/-- The SELECT of an unexpired receipt joined to its history row. -/
def State.existing (s : State Digest) (call : CallId) (attemptId : AttemptId) : Option HistoryRow :=
  match s.receipts.view call attemptId with
  | some receipt =>
      if s.now < receipt.expiresAt then s.history.find? fun row => row.id = receipt.historyId else none
  | none => none

def Call.underway : Call Digest → Bool
  | .idle => false
  | .ended _ => false
  | _ => true

variable [DecidableEq Digest]

def step (options : FormOptions) (hashtext : String → Int) (s : State Digest) :
    Label Digest → Option (State Digest)
  | .elapse duration => some { s with now := s.now + duration }
  | .recordSubmission call input authorize =>
      match s.calls call with
      | .idle =>
          match acceptSubmission options input with
          | .error error => some (s.setCall call (.ended (.failed (.input error))))
          | .ok submission =>
              match submission.attemptId with
              | some attemptId => some (s.setCall call (.locking ⟨submission, authorize⟩ attemptId))
              | none => some (s.setCall call (.resolving ⟨submission, authorize⟩))
      | _ => none
  | .lock call =>
      match s.calls call with
      | .locking request attemptId =>
          if s.advisory (hashtext attemptId) = none then
            some ({ s with
              advisory := Function.update s.advisory (hashtext attemptId) (some call) }.setCall call
                (.checking request attemptId))
          else none
      | _ => none
  | .check call =>
      match s.calls call with
      | .checking request attemptId =>
          match s.existing call attemptId with
          | some row => some (s.setCall call (.duplicate (duplicateOf attemptId row)))
          | none => some (s.setCall call (.deleting request attemptId))
      | _ => none
  | .deleteExpired call =>
      match s.calls call with
      | .deleting request attemptId =>
          if (s.receipts.view call attemptId).any fun receipt => receipt.expiresAt ≤ s.now then
            s.writeReceipt call attemptId none (.resolving request)
          else some (s.setCall call (.resolving request))
      | _ => none
  | .resolveTarget call outcome =>
      match s.calls call with
      | .resolving request =>
          match outcome with
          | .ok target => some (s.setCall call (.authorizing request target))
          | .error error => some (s.rollback call (.failed (.thrown error)))
      | _ => none
  | .authorize call late =>
      match s.calls call with
      | .authorizing request target =>
          match request.authorize with
          | .absent => some (s.setCall call (.stamping request target none))
          | .refuses =>
              some ({ s with authorized := call :: s.authorized }.rollback call (.recorded unauthorized))
          | .consumes intentId emailDigest tokenDigest =>
              let intent := s.verifications.view call intentId
              match intent.challenge.bind fun row =>
                  (consumeUpdate emailDigest tokenDigest row s.now late).map (row, ·) with
              | some (row, consumed) =>
                  if s.verifications.Free call intentId then
                    some ({ s with
                      now := s.now + late
                      verifications := s.verifications.write call intentId
                        ⟨some consumed, intent.history ++
                          [Event.consumed call emailDigest tokenDigest s.now row.expiresAt]⟩
                      writers := call :: s.writers
                      authorized := call :: s.authorized }.setCall call
                        (.stamping request target (some intentId)))
                  else none
              | none =>
                  some ({ s with authorized := call :: s.authorized }.rollback call
                    (.recorded unauthorized))
      | _ => none
  | .stamp call =>
      match s.calls call with
      | .stamping request target verification =>
          some (s.setCall call (.inserting request target verification s.now))
      | _ => none
  | .insertHistory call =>
      match s.calls call with
      | .inserting request target verification submittedAt =>
          let row : HistoryRow :=
            { id := s.nextId
              submittedAt := submittedAt
              locality := request.submission.input.locality
              locationBlockCode := request.submission.input.locationBlockCode
              faultTypeCode := request.submission.input.faultTypeCode
              target := target
              call := call
              attemptId := request.submission.attemptId
              receipt := none
              verification := verification }
          some ({ s with nextId := s.nextId + 1, writers := call :: s.writers }.setCall call
            (match request.submission.attemptId with
              | some attemptId => .receipting attemptId row
              | none => .committing row))
      | _ => none
  | .insertReceipt call =>
      match s.calls call with
      | .receipting attemptId row =>
          if (s.receipts.view call attemptId).isSome then
            -- The primary key refuses the receipt.
            some (s.rollback call (.failed (.thrown "report_submission_attempts_pkey")))
          else
            s.writeReceipt call attemptId (some ⟨row.id, s.now⟩)
              (.committing { row with receipt := some ⟨row.id, s.now⟩ })
      | _ => none
  | .cleanupExpired call limit expired =>
      match s.calls call with
      | .idle =>
          if limit < 1 ∨ 1000 < limit then
            some (s.setCall call (.ended (.failed (.thrown
              "Submission attempt cleanup limit must be between 1 and 1000."))))
          else if expired.length ≤ limit ∧
              ∀ entry ∈ expired, expiredAs (s.receipts.committed entry.1) entry.2 s.now = true then
            some (s.setCall call (.cleaning expired))
          else none
      | _ => none
  | .cleanupDelete call =>
      match s.calls call with
      | .cleaning ((attemptId, expiresAt) :: rest) =>
          if expiredAs (s.receipts.view call attemptId) expiresAt s.now then
            s.writeReceipt call attemptId none (.cleaning rest)
          else some (s.setCall call (.cleaning rest))
      | _ => none
  | .commit call delivered =>
      let answer := fun outcome =>
        if delivered then outcome else Outcome.failed (.thrown "Connection terminated unexpectedly")
      match s.calls call with
      | .committing row => some (s.commit call [row] (answer (.recorded (recordedAs row))))
      | .duplicate result => some (s.commit call [] (answer (.recorded result)))
      | .cleaning [] => some (s.commit call [] (answer .cleaned))
      | _ => none
  | .fail call error =>
      if (s.calls call).underway then some (s.rollback call (.failed (.thrown error))) else none

end Steps

/-- A statement of one of the calls, or a change that the verification service commits
to an intent no call has locked. -/
inductive Transition {Digest : Type} [DecidableEq Digest] (options : FormOptions)
    (hashtext : String → Int) (s : State Digest) : Option (Label Digest) → State Digest → Prop
  | statement (label : Label Digest) {t : State Digest} : step options hashtext s label = some t →
      Transition options hashtext s (some label) t
  | verification (intentId : IntentId) (intent : Intent Digest) :
      s.verifications.locks intentId = none → Lawful intent →
      Grows (s.verifications.committed intentId) intent →
      Transition options hashtext s none { s with verifications :=
        { s.verifications with
          committed := Function.update s.verifications.committed intentId intent } }

end PublicLighting.ReportSubmission
