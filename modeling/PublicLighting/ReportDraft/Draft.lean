import PublicLighting.Foundations.Json
import PublicLighting.ReportSubmission.Submission

/-! A draft of the public report form, as it is written to the browser's storage and read from it. -/

namespace PublicLighting.ReportDraft

open Foundations
open Foundations.Doubles (isSafeInteger)
open Foundations.JavaScriptText (fits isHex utf16Length)
open ReportSubmission (isAddressProof hasControl)

/-- `/^[0-9a-f]{8}-[0-9a-f]{4}-[…][0-9a-f]{3}-[89ab][0-9a-f]{3}-[0-9a-f]{12}$/i` with these versions. -/
def isUuid (versions : List Char) (text : String) : Bool :=
  let hex := fun count => List.replicate count isHex
  let one : Char → List (Char → Bool) := fun expected => [fun c => c == expected]
  let among : List Char → List (Char → Bool) := fun expected => [fun c => c ∈ expected]
  fits (hex 8 ++ one '-' ++ hex 4 ++ one '-' ++ among versions ++ hex 3 ++ one '-' ++
    among ['8', '9', 'a', 'b', 'A', 'B'] ++ hex 3 ++ one '-' ++ hex 12) text

def isDraftId (id : String) : Bool := isUuid ['1', '2', '3', '4', '5', '6', '7', '8'] id

inductive CoordinateKind
  | custom
  | device
  deriving DecidableEq, Repr

def CoordinateKind.text : CoordinateKind → String
  | custom => "custom"
  | device => "device"

inductive ReportTarget
  | lightPoint (lightPointId : ℚ)
  | coordinates (kind : CoordinateKind) (latitude longitude : ℚ)
  | manual
  deriving DecidableEq

def ReportTarget.toJson : ReportTarget → Json
  | lightPoint lightPointId =>
      .object [("kind", .string "light-point"), ("lightPointId", .number lightPointId)]
  | coordinates kind latitude longitude =>
      .object [("kind", .string kind.text), ("latitude", .number latitude), ("longitude", .number longitude)]
  | manual => .object [("kind", .string "manual")]

def isValidReportCoordinates (latitude longitude : ℚ) : Bool :=
  -90 ≤ latitude ∧ latitude ≤ 90 ∧ -180 ≤ longitude ∧ longitude ≤ 180

def readCoordinates (kind : CoordinateKind) (target : Json) : Option ReportTarget :=
  match target.get? "latitude", target.get? "longitude" with
  | some (.number latitude), some (.number longitude) =>
      if isValidReportCoordinates latitude longitude then some (.coordinates kind latitude longitude) else none
  | _, _ => none

/-- The `reportTarget` property of a navigation state. -/
def readReportTarget (state : Json) : Option ReportTarget :=
  match state.get? "reportTarget" with
  | none => none
  | some target =>
      match target.get? "kind" with
      | some (.string kind) =>
          if kind = "light-point" then
            match target.get? "lightPointId" with
            | some (.number lightPointId) =>
                if isSafeInteger lightPointId ∧ 0 < lightPointId then some (.lightPoint lightPointId) else none
            | _ => none
          else if kind = "custom" then readCoordinates .custom target
          else if kind = "device" then readCoordinates .device target
          else if kind = "manual" then some .manual
          else none
      | _ => none

/-- The schema leaves four of the texts optional. -/
structure ReportFormValues where
  locality : String
  detailDescription : Option String
  locationBlock : Option String
  faultType : Option String
  otherFaultText : Option String
  phone : String
  email : String
  consent : Bool
  deriving DecidableEq

/-- `JSON.stringify` leaves a member out that is `undefined`. -/
def optionalMember (key : String) (value : Option String) : List (String × Json) :=
  (value.map fun text => (key, Json.string text)).toList

def ReportFormValues.toJson (values : ReportFormValues) : Json :=
  .object ([("locality", .string values.locality)] ++
    optionalMember "detailDescription" values.detailDescription ++
    optionalMember "locationBlock" values.locationBlock ++
    optionalMember "faultType" values.faultType ++
    optionalMember "otherFaultText" values.otherFaultText ++
    [("phone", .string values.phone), ("email", .string values.email), ("consent", .bool values.consent)])

def stringField (candidate : Json) (field : String) : Option String :=
  match candidate.get? field with
  | some (.string value) => some value
  | _ => none

def isTrue : Option Json → Bool
  | some (.bool true) => true
  | _ => false

def isBoolean : Option Json → Bool
  | some (.bool _) => true
  | _ => false

def numberField (candidate : Json) (field : String) : Option ℚ :=
  match candidate.get? field with
  | some (.number value) => some value
  | _ => none

def parseFormValues (candidate : Json) : Option ReportFormValues := do
  let locality ← stringField candidate "locality"
  let detailDescription ← stringField candidate "detailDescription"
  let locationBlock ← stringField candidate "locationBlock"
  let faultType ← stringField candidate "faultType"
  let otherFaultText ← stringField candidate "otherFaultText"
  let phone ← stringField candidate "phone"
  let email ← stringField candidate "email"
  if isBoolean (candidate.get? "consent") then
    return ⟨locality, some detailDescription, some locationBlock, some faultType, some otherFaultText, phone,
      email, isTrue (candidate.get? "consent")⟩
  else none

inductive ReportFormLocale
  | sk
  | en
  deriving DecidableEq, Repr

def ReportFormLocale.text : ReportFormLocale → String
  | sk => "sk"
  | en => "en"

def readLocale : Option String → Option ReportFormLocale
  | some text => if text = "sk" then some .sk else if text = "en" then some .en else none
  | none => none

structure PreparedReportSubmission where
  formValues : ReportFormValues
  locale : ReportFormLocale
  automaticAddress : Option String
  automaticAddressProof : Option String
  addressEnrichmentStatus : Option String
  deriving DecidableEq

def PreparedReportSubmission.toJson (prepared : PreparedReportSubmission) : Json :=
  .object ([("formValues", prepared.formValues.toJson), ("locale", .string prepared.locale.text)] ++
    optionalMember "automaticAddress" prepared.automaticAddress ++
    optionalMember "automaticAddressProof" prepared.automaticAddressProof ++
    optionalMember "addressEnrichmentStatus" prepared.addressEnrichmentStatus)

/-- Absent, `unavailable` or `not-found`; what it is where it is one of these. -/
def readEnrichmentStatus (prepared : Json) : Option (Option String) :=
  match prepared.get? "addressEnrichmentStatus" with
  | none => some none
  | some (.string status) => if status ∈ ["unavailable", "not-found"] then some (some status) else none
  | some _ => none

def parsePreparedSubmission (prepared : Json) : Option PreparedReportSubmission := do
  let values ← (prepared.get? "formValues").bind parseFormValues
  let locale ← readLocale (stringField prepared "locale")
  let addressEnrichmentStatus ← readEnrichmentStatus prepared
  let address := (stringField prepared "automaticAddress").filter fun address =>
    utf16Length address ≤ 500 && !hasControl address && address ≠ ""
  let proof := (stringField prepared "automaticAddressProof").filter isAddressProof
  let enriched := address.isSome && proof.isSome
  return ⟨values, locale, if enriched then address else none, if enriched then proof else none,
    addressEnrichmentStatus⟩

inductive DraftStep
  | one
  | two
  | three
  deriving DecidableEq, Repr

def DraftStep.number : DraftStep → ℚ
  | one => 1
  | two => 2
  | three => 3

def readStep : Option ℚ → Option DraftStep
  | some number => if number = 1 then some .one else if number = 2 then some .two
      else if number = 3 then some .three else none
  | none => none

inductive EditedField
  | locality
  | detailDescription
  deriving DecidableEq, Repr

def EditedField.text : EditedField → String
  | locality => "locality"
  | detailDescription => "detailDescription"

def readEditedField : Json → Option EditedField
  | .string text => if text = "locality" then some .locality
      else if text = "detailDescription" then some .detailDescription else none
  | _ => none

def readEditedFields : Option Json → Option (List EditedField)
  | some (.array fields) => fields.mapM readEditedField
  | _ => none

/-- In milliseconds. -/
def reportDraftTtl : ℚ := 30 * 24 * 60 * 60 * 1000

def reportSubmissionReceiptTtl : ℚ := 30 * 24 * 60 * 60 * 1000

structure StoredReportDraft where
  target : ReportTarget
  formValues : ReportFormValues
  step : DraftStep
  attachmentCount : ℚ
  submissionPending : Bool
  submissionPendingSince : Option ℚ
  submissionRetryBlocked : Bool
  preparedSubmission : Option PreparedReportSubmission
  userEditedFields : List EditedField
  updatedAt : ℚ
  deriving DecidableEq

/-- `pendingSince`, where it is a time that has come. -/
def validPendingSince (candidate : Json) (now : ℚ) : Option ℚ :=
  (numberField candidate "submissionPendingSince").filter fun since =>
    isSafeInteger since && decide (0 < since) && decide (since ≤ now)

def parseReportDraft (candidate : Json) (now : ℚ) : Option StoredReportDraft := do
  let target ← (candidate.get? "target").bind fun target =>
    readReportTarget (.object [("reportTarget", target)])
  let formValues ← (candidate.get? "formValues").bind parseFormValues
  let submissionPending := isTrue (candidate.get? "submissionPending")
  let preparedSubmission := (candidate.get? "preparedSubmission").bind parsePreparedSubmission
  let pendingSince := validPendingSince candidate now
  let submissionRetryBlocked := isTrue (candidate.get? "submissionRetryBlocked") ||
    (submissionPending && ((pendingSince.all fun since => since + reportSubmissionReceiptTtl ≤ now) ||
      preparedSubmission.isNone))
  let updatedAt ← numberField candidate "updatedAt"
  let attachmentCount ← numberField candidate "attachmentCount"
  let userEditedFields ← readEditedFields (candidate.get? "userEditedFields")
  let step ← readStep (numberField candidate "step")
  if isSafeInteger updatedAt ∧ updatedAt ≤ now ∧ now - updatedAt ≤ reportDraftTtl ∧
      isSafeInteger attachmentCount ∧ 0 ≤ attachmentCount ∧ attachmentCount ≤ 20 ∧
      ((candidate.get? "submissionPending").isNone ∨ isBoolean (candidate.get? "submissionPending")) then
    return {
      target := target
      formValues := formValues
      step := step
      attachmentCount := attachmentCount
      submissionPending := submissionPending
      submissionPendingSince := if submissionPending then pendingSince else none
      submissionRetryBlocked := submissionRetryBlocked
      preparedSubmission := preparedSubmission
      userEditedFields := userEditedFields
      updatedAt := updatedAt }
  else none

end PublicLighting.ReportDraft
