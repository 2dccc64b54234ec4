import PublicLighting.ReportSubmission.VoBoundary
import PublicLighting.ReportSubmission.Atomicity

/-! The route that takes a report of the local form. -/

namespace PublicLighting.ReportSubmission

open Foundations Foundations.JavaScriptText
open Foundations.Program (Scheduled)
open Foundations.Transactions (Client)
open Atomicity (Tables Locals Environment SubmissionError SubmissionResult recordSubmission)

/-- The digests of the email verification, and how it lowers a text. -/
structure EmailVerificationCrypto (Digest : Type) where
  lower : String → String
  emailDigest : String → Digest
  verificationTokenDigest : String → Digest → String → Digest

structure LocalSubmitRoute (Digest : Type) where
  productionLocalPersistence : Bool
  emailVerification : Option (EmailVerificationCrypto Digest)
  faultHistory : Bool

structure UploadedFile where
  originalName : String
  size : ℚ
  mimeType : String
  deriving DecidableEq

def UploadedFile.metadata (file : UploadedFile) : VoAttachmentMetadata where
  originalName := file.originalName
  sizeBytes := file.size
  mediaType := if file.mimeType = "" then "application/octet-stream" else file.mimeType

def readPlace (place : ℚ → ℚ → ReportTarget) (target : Json) : ReportTarget :=
  match target.get? "latitude", target.get? "longitude" with
  | some (.number latitude), some (.number longitude) => place latitude longitude
  | _, _ => .other

/-- What `parseTarget` makes of a parsed value. -/
def targetOf (target : Json) : ReportTarget :=
  match textOf (target.get? "kind") with
  | some kind =>
      if kind = "light-point" then
        match target.get? "lightPointId" with
        | some (.number lightPointId) => .lightPoint lightPointId
        | _ => .other
      else if kind = "custom" then readPlace .custom target
      else if kind = "device" then readPlace .device target
      else if kind = "manual" then .manual
      else .other
  | none => .other

/-- `/^[A-Za-z0-9_-]{43}$/`. -/
def isVerificationToken (text : String) : Bool := fits (List.replicate 43 isBase64Url) text

def uuidValue (text : String) : Nat :=
  text.toList.foldl (fun value c => match Json.hexValue c with
    | some digit => value * 16 + digit
    | none => value) 0

section Route

variable {Digest : Type} [DecidableEq Digest]

/-- The authorization that the route hands on: `consumeSubmissionVerification` up to its statement. -/
def authorizeOf (emailVerification : Option (EmailVerificationCrypto Digest)) (fields : Fields) : Authorize Digest :=
  match emailVerification with
  | none => .absent
  | some crypto =>
      match nonempty (fields .verificationIntent), nonempty (fields .verificationToken) with
      | some intentId, some token =>
          let email := crypto.lower (trim ((fields .email).getD ""))
          if utf16Length email ≤ 254 && isMailShaped email && isUuidV4 intentId && isVerificationToken token then
            .consumes (uuidValue intentId) (crypto.emailDigest email)
              (crypto.verificationTokenDigest intentId (crypto.emailDigest email) token)
          else .refuses
      | _, _ => .refuses

def submissionInput (fields : Fields) (draft : CanonicalVoReportDraft) (reportTarget : Json) :
    FaultHistorySubmissionInput where
  submissionAttemptId := fields .submissionAttemptId
  locality := draft.locality
  automaticAddress := fields .automaticAddress
  automaticAddressProof := fields .automaticAddressProof
  locationBlockCode := draft.locationBlock
  faultTypeCode := draft.faultType
  reportTarget := targetOf reportTarget

/-- The body of an answer of status 200. -/
structure LocalSubmitReceipt where
  success : Bool
  status : String
  duplicate : Bool
  filesReceived : Nat
  receiptId : Option String
  deriving DecidableEq, Repr

inductive Response
  | sent (receipt : LocalSubmitReceipt)
  | failed (error : ErrorResponse)
  deriving DecidableEq, Repr

def unavailable : ErrorResponse :=
  ⟨503, "LOCAL_TEST_SUBMISSION_UNAVAILABLE", "The local test endpoint is unavailable."⟩

def verificationRequired : ErrorResponse :=
  ⟨403, "EMAIL_VERIFICATION_REQUIRED", "Verify the submitted email address before submitting this report."⟩

def invalidLocation (status : Nat) : ErrorResponse :=
  ⟨status, "LOCAL_TEST_INVALID_REPORT_LOCATION", "The report location or category is invalid."⟩

def errorOf : SubmissionError → ErrorResponse
  | .input _ => invalidLocation 400
  | .target error => invalidLocation error.status
  | .timestampUnavailable => unavailable
  | .sql => unavailable

def respond (route : LocalSubmitRoute Digest) (fields : Fields) (draft : CanonicalVoReportDraft)
    (history : FaultHistoryRecordResult) : Response :=
  if history.authorized = false then .failed verificationRequired
  else .sent {
    success := true
    status := if route.productionLocalPersistence then "locally_recorded" else "local_test_received"
    duplicate := history.duplicate
    filesReceived := draft.attachments.length
    receiptId := history.receiptId.or (fields .submissionAttemptId) }

/-- The request as `recordSubmission` is to be called for it, or the error that answers it. -/
def readRequest (route : LocalSubmitRoute Digest) (options : FormOptions) (body : FlatFields)
    (files : List UploadedFile) :
    Except ErrorResponse (Fields × CanonicalVoReportDraft × Json) := do
  let fields ← validateFields body route.emailVerification.isSome
  let draft ← (mapLocalVoFieldsToDraft options fields (files.map UploadedFile.metadata)).mapError invalidPayload
  let some reportTarget := Json.parse ((fields .reportTarget).getD "null")
    | throw (invalidPayload "The report location is invalid.")
  if route.faultHistory = false then throw unavailable
  return (fields, draft, reportTarget)

/-- A request that the multipart parser lets through. There is no answer of a process that dies. -/
def localSubmit (route : LocalSubmitRoute Digest) (environment : Environment) (body : FlatFields)
    (files : List UploadedFile) (w : Scheduled (Client (Tables Digest) Locals)) :
    Option Response × Scheduled (Client (Tables Digest) Locals) :=
  match readRequest route environment.options body files with
  | .error error => (some (.failed error), w)
  | .ok (fields, draft, reportTarget) =>
      let call := recordSubmission environment (submissionInput fields draft reportTarget) draft.detailDescription
        (authorizeOf route.emailVerification fields)
      match call w with
      | (.returned value, w) => (some (respond route fields draft value.result), w)
      | (.threw error, w) => (some (.failed (errorOf error)), w)
      | (.died, w) => (none, w)

omit [DecidableEq Digest] in
theorem readRequest_ok {route : LocalSubmitRoute Digest} {options : FormOptions} {body : FlatFields}
    {files : List UploadedFile} {fields : Fields} {draft : CanonicalVoReportDraft} {reportTarget : Json} :
    readRequest route options body files = .ok (fields, draft, reportTarget) ↔
      validateFields body route.emailVerification.isSome = .ok fields ∧
      mapLocalVoFieldsToDraft options fields (files.map UploadedFile.metadata) = .ok draft ∧
      Json.parse ((fields .reportTarget).getD "null") = some reportTarget ∧ route.faultHistory = true := by
  unfold readRequest
  cases validateFields body route.emailVerification.isSome with
  | error error =>
      simp [bind, Except.bind]
  | ok given =>
      simp only [bind, Except.bind, Except.ok.injEq]
      cases mapped : mapLocalVoFieldsToDraft options given (files.map UploadedFile.metadata) with
      | error message =>
          simp only [Except.mapError]
          constructor
          · intro never
            cases never
          · intro admitted
            rw [← admitted.1, mapped] at admitted
            cases admitted.2.1
      | ok written =>
          simp only [Except.mapError]
          cases parsed : Json.parse ((given .reportTarget).getD "null") with
          | none =>
              constructor
              · intro never
                cases never
              · intro admitted
                rw [← admitted.1, parsed] at admitted
                cases admitted.2.2.1
          | some value =>
              cases available : route.faultHistory with
              | false =>
                  constructor
                  · intro never
                    cases never
                  · intro admitted
                    cases admitted.2.2.2
              | true =>
                  constructor
                  · intro admitted
                    cases admitted
                    exact ⟨rfl, mapped, parsed, rfl⟩
                  · intro admitted
                    obtain ⟨rfl, same, read, _⟩ := admitted
                    rw [mapped] at same
                    rw [parsed] at read
                    cases same
                    cases read
                    rfl

end Route

end PublicLighting.ReportSubmission
