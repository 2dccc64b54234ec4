import Mathlib.Data.Rat.Defs
import PublicLighting.Foundations.JavaScriptText

/-! What `recordSubmission` is given, and what it refuses before it opens a transaction. -/

namespace PublicLighting.ReportSubmission

open Foundations.JavaScriptText

/-- `reportTarget` as `parseTarget` tells it apart; `other` is every value it refuses. -/
inductive ReportTarget
  | lightPoint (lightPointId : ℚ)
  | custom (latitude longitude : ℚ)
  | device (latitude longitude : ℚ)
  | manual
  | other
  deriving DecidableEq

structure FaultHistorySubmissionInput where
  submissionAttemptId : Option String
  locality : String
  automaticAddress : Option String
  automaticAddressProof : Option String
  locationBlockCode : Option String
  faultTypeCode : Option String
  reportTarget : ReportTarget
  deriving DecidableEq

structure FormOptions where
  localities : List String
  faultTypeValues : List String
  locationBlockValues : List String

inductive FaultHistoryInputError
  | invalidLocality
  | invalidFaultCode
  | invalidReportTarget
  | invalidSubmissionAttemptId
  | invalidAutomaticAddress
  | invalidAutomaticAddressProof
  deriving DecidableEq, Repr

/-- `/^v1\.[A-Za-z0-9_-]{43}$/`. -/
def isAddressProof (text : String) : Bool :=
  fits ([fun c => c == 'v', fun c => c == '1', fun c => c == '.'] ++ List.replicate 43 isBase64Url) text

/-- `/[\r\n\u0000-\u001f\u007f]/`. -/
def hasControl (text : String) : Bool :=
  text.toList.any fun c => c.toNat ≤ 0x1F || c.toNat == 0x7F

/-- `value && !values.includes(value)`. -/
def unlisted (value : Option String) (values : List String) : Bool :=
  value.any fun code => code ≠ "" && code ∉ values

def validateSubmission (options : FormOptions) (input : FaultHistorySubmissionInput) :
    Except FaultHistoryInputError Unit := do
  if input.submissionAttemptId.any fun id => !isUuidV4 id then throw .invalidSubmissionAttemptId
  if input.locality ∉ options.localities then throw .invalidLocality
  if unlisted input.faultTypeCode options.faultTypeValues then throw .invalidFaultCode
  if unlisted input.locationBlockCode options.locationBlockValues then throw .invalidFaultCode
  if input.automaticAddress.any fun address => 500 < utf16Length address || hasControl address then
    throw .invalidAutomaticAddress
  if input.automaticAddressProof.any fun proof => !isAddressProof proof then
    throw .invalidAutomaticAddressProof
  let hasAutomaticAddress := input.automaticAddress.any fun address => trim address ≠ ""
  if hasAutomaticAddress ≠ input.automaticAddressProof.isSome then
    throw .invalidAutomaticAddressProof

def parseTarget : ReportTarget → Except FaultHistoryInputError ReportTarget
  | .other => .error .invalidReportTarget
  | target => .ok target

def ReportTarget.isPlace : ReportTarget → Bool
  | custom .. => true
  | device .. => true
  | _ => false

/-- The attempt id in the one spelling that the lock and the receipt are keyed by. -/
structure Submission where
  input : FaultHistorySubmissionInput
  attemptId : Option String
  deriving DecidableEq

/-- `recordSubmission` up to `pool.connect`. -/
def acceptSubmission (options : FormOptions) (input : FaultHistorySubmissionInput) :
    Except FaultHistoryInputError Submission := do
  validateSubmission options input
  let target ← parseTarget input.reportTarget
  if input.automaticAddress.any (· ≠ "") && !target.isPlace then throw .invalidAutomaticAddress
  return { input := input, attemptId := input.submissionAttemptId.map toLowerCase }

theorem acceptSubmission_attemptId {options : FormOptions} {input : FaultHistorySubmissionInput}
    {submission : Submission} (accepted : acceptSubmission options input = .ok submission) :
    submission.attemptId = input.submissionAttemptId.map toLowerCase := by
  unfold acceptSubmission at accepted
  simp only [bind, Except.bind, pure, Except.pure] at accepted
  repeat' split at accepted
  all_goals
    cases accepted
    try rfl

end PublicLighting.ReportSubmission
