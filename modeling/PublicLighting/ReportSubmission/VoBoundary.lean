import PublicLighting.Foundations.Json
import PublicLighting.ReportSubmission.Submission

/-! The fields of the local form as the multipart parser leaves them, and the draft they are mapped to. -/

namespace PublicLighting.ReportSubmission

open Foundations Foundations.JavaScriptText

/-- `FIELD` and `AUSEMIO_FIELDS`. -/
inductive Field
  | service
  | locality
  | detailDescription
  | automaticAddress
  | automaticAddressProof
  | locationBlock
  | faultType
  | otherFault
  | phone
  | email
  | locale
  | reportTarget
  | submissionAttemptId
  | verificationIntent
  | verificationToken
  deriving DecidableEq, Repr

def Field.key : Field → String
  | service => "properties[vyber_sluzby]"
  | locality => "properties[ulica_miesto_poruchy_lokalita]"
  | detailDescription => "properties[detail_decription]"
  | automaticAddress => "automaticAddress"
  | automaticAddressProof => "automaticAddressProof"
  | locationBlock => "properties[lokalizacia_blok]"
  | faultType => "properties[typ_poruchy]"
  | otherFault => "properties[iny_druh_poruchy]"
  | phone => "properties[tel_cislo]"
  | email => "email"
  | locale => "locale"
  | reportTarget => "reportTarget"
  | submissionAttemptId => "submissionAttemptId"
  | verificationIntent => "emailVerificationIntentId"
  | verificationToken => "emailVerificationToken"

def allowedFields : List Field :=
  [.service, .locality, .detailDescription, .automaticAddress, .automaticAddressProof, .locationBlock, .faultType,
    .otherFault, .phone, .email, .locale, .reportTarget, .submissionAttemptId]

def verificationFields : List Field := [.verificationIntent, .verificationToken]

/-- The properties of an object with no prototype. -/
abbrev FlatFields := List (String × Json)

def FlatFields.get? (fields : FlatFields) (key : String) : Option Json := (Json.object fields).get? key

def flattenMultipartBody (body : FlatFields) : FlatFields :=
  body.flatMap fun (key, value) =>
    match key, value with
    | "properties", .object members => members.map fun (subKey, subValue) => ("properties[" ++ subKey ++ "]", subValue)
    | key, value => [(key, value)]

structure ErrorResponse where
  status : Nat
  code : String
  message : String
  deriving DecidableEq, Repr

def invalidPayload (message : String) : ErrorResponse := ⟨400, "LOCAL_TEST_INVALID_PAYLOAD", message⟩

def invalidVoPayload : ErrorResponse := invalidPayload "The local VO payload is invalid."

/-- The texts that `validateFields` lets through. -/
abbrev Fields := Field → Option String

def textOf : Option Json → Option String
  | some (.string text) => some text
  | _ => none

def allowedFor (verificationEnabled : Bool) : List Field :=
  if verificationEnabled then allowedFields ++ verificationFields else allowedFields

def readFields (flat : FlatFields) (allowed : List Field) : Fields :=
  fun field => if field ∈ allowed then textOf (flat.get? field.key) else none

def validateFields (body : FlatFields) (verificationEnabled : Bool) : Except ErrorResponse Fields := do
  let flat := flattenMultipartBody body
  let allowed := allowedFor verificationEnabled
  if flat.any fun (key, _) => key ∉ allowed.map Field.key || (textOf (flat.get? key)).isNone then
    throw invalidVoPayload
  let fields := readFields flat allowed
  if !isUuidV4 ((fields .submissionAttemptId).getD "") then throw invalidVoPayload
  return fields

/-- `[^\s@]`. -/
def isMailCharacter (c : Char) : Bool := !isTrimmed c && c ≠ '@'

/-- `/^[^\s@]+@[^\s@]+\.[^\s@]+$/`. -/
def isMailShaped (text : String) : Bool :=
  match text.toList.span isMailCharacter with
  | (mailbox, '@' :: domain) => mailbox ≠ [] && domain.all isMailCharacter && domain.tail.dropLast.contains '.'
  | _ => false

inductive SubmitLocale
  | sk
  | en
  deriving DecidableEq, Repr

def readSubmitLocale (text : String) : Option SubmitLocale :=
  if text = "sk" then some .sk else if text = "en" then some .en else none

structure VoAttachmentMetadata where
  originalName : String
  sizeBytes : ℚ
  mediaType : String
  deriving DecidableEq

structure CanonicalVoReportDraft where
  service : String
  locality : String
  detailDescription : Option String
  locationBlock : Option String
  faultType : Option String
  otherFaultText : Option String
  telephone : String
  email : String
  locale : SubmitLocale
  attachments : List VoAttachmentMetadata
  deriving DecidableEq

def ausemioServiceVo : String := "2"

def ausemioFaultTypeOther : String := "Q99"

def nonempty (value : Option String) : Option String := value.filter (· ≠ "")

def invalidAttachment (attachment : VoAttachmentMetadata) : Bool :=
  !Doubles.isSafeInteger attachment.sizeBytes || attachment.sizeBytes < 0

def mapLocalVoFieldsToDraft (options : FormOptions) (fields : Fields) (attachments : List VoAttachmentMetadata) :
    Except String CanonicalVoReportDraft := do
  if fields .service ≠ some ausemioServiceVo then
    throw "Only service 2 / VO is accepted by the local test endpoint."
  let some locality := (nonempty (fields .locality)).filter (· ∈ options.localities)
    | throw "Select a locality from the approved VO locality list."
  let some telephone := (fields .phone).filter fun telephone => trim telephone ≠ ""
    | throw "A telephone contact is required."
  let some rawEmail := (nonempty (fields .email)).filter fun email => isMailShaped (trim email)
    | throw "A valid local email value is required."
  let some locale := (fields .locale).bind readSubmitLocale | throw "Select a supported form locale."
  if unlisted (fields .locationBlock) options.locationBlockValues then
    throw "Select a valid VO location block code."
  if unlisted (fields .faultType) options.faultTypeValues then throw "Select a valid VO fault type code."
  if (fields .otherFault).isSome && fields .faultType ≠ some ausemioFaultTypeOther then
    throw "Other-fault text is only valid for Q99."
  if attachments.any invalidAttachment then throw "Attachment metadata is invalid."
  return {
    service := ausemioServiceVo
    locality := locality
    detailDescription := nonempty (fields .detailDescription)
    locationBlock := nonempty (fields .locationBlock)
    faultType := nonempty (fields .faultType)
    otherFaultText := nonempty (fields .otherFault)
    telephone := telephone
    email := trim rawEmail
    locale := locale
    attachments := attachments }

theorem validateFields_ok {body : FlatFields} {verificationEnabled : Bool} {fields : Fields} :
    validateFields body verificationEnabled = .ok fields ↔
      (∀ member ∈ flattenMultipartBody body, member.1 ∈ (allowedFor verificationEnabled).map Field.key ∧
        (textOf ((flattenMultipartBody body).get? member.1)).isSome = true) ∧
      isUuidV4 ((fields .submissionAttemptId).getD "") = true ∧
      fields = readFields (flattenMultipartBody body) (allowedFor verificationEnabled) := by
  simp only [validateFields]
  generalize flattenMultipartBody body = flat
  generalize allowedFor verificationEnabled = allowed
  have checked : flat.any (fun member => decide (member.1 ∉ allowed.map Field.key) ||
    (textOf (flat.get? member.1)).isNone)
      = false ↔ ∀ member ∈ flat, member.1 ∈ allowed.map Field.key ∧ (textOf (flat.get? member.1)).isSome = true := by
    simp only [List.any_eq_false, Bool.or_eq_true, decide_eq_true_eq, not_or, not_not, Option.isNone_iff_eq_none,
      Option.isSome_iff_ne_none, ne_eq]
  rw [← checked]
  cases flat.any _ with
  | true => simp [bind, Except.bind, throw, throwThe, MonadExceptOf.throw]
  | false =>
      cases attempt : isUuidV4 ((readFields flat allowed .submissionAttemptId).getD "") with
      | false =>
          simp only [bind, Except.bind, throw, throwThe, MonadExceptOf.throw, pure, Except.pure]
          constructor
          · intro never
            cases never
          · intro valid
            rw [valid.2.2, attempt] at valid
            cases valid.2.1
      | true =>
          simp only [bind, Except.bind, pure, Except.pure]
          constructor
          · intro same
            cases same
            exact ⟨trivial, attempt, rfl⟩
          · intro valid
            rw [valid.2.2]
            rfl

theorem nonempty_some {value : Option String} {text : String} (given : nonempty value = some text) :
    value = some text := (Option.filter_eq_some_iff.mp given).1

theorem mapLocalVoFieldsToDraft_ok {options : FormOptions} {fields : Fields}
    {attachments : List VoAttachmentMetadata}
    {draft : CanonicalVoReportDraft} (mapped : mapLocalVoFieldsToDraft options fields attachments = .ok draft) :
    fields .locality = some draft.locality ∧ draft.locationBlock = nonempty (fields .locationBlock) ∧
      draft.faultType = nonempty (fields .faultType) ∧ draft.attachments = attachments := by
  unfold mapLocalVoFieldsToDraft at mapped
  simp only [bind, Except.bind, pure, Except.pure, throw, throwThe, MonadExceptOf.throw] at mapped
  have kept : ∀ {p : String → Bool} {locality}, (nonempty (fields .locality)).filter p = some locality →
      fields .locality = some locality := fun found => nonempty_some (Option.filter_eq_some_iff.mp found).1
  repeat' split at mapped
  all_goals cases mapped
  exact ⟨kept ‹_›, rfl, rfl, rfl⟩

end PublicLighting.ReportSubmission
