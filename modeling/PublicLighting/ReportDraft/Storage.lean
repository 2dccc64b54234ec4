import PublicLighting.Foundations.TextStore
import PublicLighting.ReportDraft.Draft

/-! The drafts and their attachments in the storage of one browser. -/

namespace PublicLighting.ReportDraft

open Foundations
open Foundations.Doubles (isSafeInteger)

def reportDraftFront : String := "plfr:public-report-draft:v1:"

def attachmentCleanupFront : String := "plfr:public-report-attachment-cleanup:v1:"

def reportDraftKey (id : String) : String := reportDraftFront ++ id

def attachmentCleanupKey (id : String) : String := attachmentCleanupFront ++ id

/-- `window.localStorage`, whose methods throw where it is disabled and which refuses what is too much. -/
structure LocalStorage where
  store : TextStore
  enabled : Bool
  accepts : String → String → Bool

namespace LocalStorage

def getItem (storage : LocalStorage) (key : String) : Option (Option String) :=
  if storage.enabled then some (storage.store.get key) else none

def setItem (storage : LocalStorage) (key value : String) : Option LocalStorage :=
  if storage.enabled && storage.accepts key value then
    some { storage with store := storage.store.set key value }
  else none

def removeItem (storage : LocalStorage) (key : String) : LocalStorage :=
  { storage with store := storage.store.remove key }

end LocalStorage

/-- A date of JavaScript, in milliseconds. -/
structure DateValue where
  ms : Int
  inRange : |ms| ≤ 8640000000000000
  deriving DecidableEq

def readReportDraft (storage : LocalStorage) (id : String) (now : DateValue) :
    Option StoredReportDraft × LocalStorage :=
  if !isDraftId id then (none, storage)
  else
    match storage.getItem (reportDraftKey id) with
    | some (some serialized) =>
        if serialized = "" then (none, storage)
        else
          match Json.parse serialized with
          | none => (none, storage)
          | some value =>
              match parseReportDraft value now.ms with
              | some draft => (some draft, storage)
              | none => (none, storage.removeItem (reportDraftKey id))
    | _ => (none, storage)

structure ReportDraftInput where
  target : ReportTarget
  formValues : ReportFormValues
  step : DraftStep
  attachmentCount : Nat
  submissionPending : Option Bool
  submissionPendingSince : Option ℚ
  submissionRetryBlocked : Option Bool
  preparedSubmission : Option PreparedReportSubmission
  userEditedFields : List EditedField
  deriving DecidableEq

/-- The object that is stored under the key already. -/
def existingDraft : Option String → Option Json
  | some serialized =>
      match Json.parse serialized with
      | some (.object members) => some (.object members)
      | _ => none
  | none => none

def optionalNumber : Option ℚ → Json
  | some value => .number value
  | none => .null

def pendingSince (existing : Option Json) (draft : ReportDraftInput) (now : DateValue) : Option ℚ :=
  if draft.submissionPending.getD false then
    match draft.submissionPendingSince.filter (isSafeInteger ·) with
    | some requested => some requested
    | none =>
        let preserved := (existing.bind fun draft => numberField draft "submissionPendingSince").filter (isSafeInteger ·)
        if isTrue (existing.bind (·.get? "submissionPending")) then some (preserved.getD now.ms) else some now.ms
  else none

def retryBlocked (existing : Option Json) (draft : ReportDraftInput) : Bool :=
  draft.submissionRetryBlocked.getD (isTrue (existing.bind (·.get? "submissionRetryBlocked")))

def storedPrepared (existing : Option Json) (draft : ReportDraftInput) : Json :=
  if draft.submissionPending.getD false then
    match draft.preparedSubmission with
    | some prepared => prepared.toJson
    | none => (existing.bind (·.get? "preparedSubmission")).getD .null
  else .null

def storedDraft (existing : Option Json) (draft : ReportDraftInput) (now : DateValue) : Json :=
  .object [
    ("target", draft.target.toJson),
    ("formValues", draft.formValues.toJson),
    ("step", .number draft.step.number),
    ("attachmentCount", .number draft.attachmentCount),
    ("submissionPending", .bool (draft.submissionPending.getD false)),
    ("submissionPendingSince", optionalNumber (pendingSince existing draft now)),
    ("submissionRetryBlocked", .bool (retryBlocked existing draft)),
    ("preparedSubmission", storedPrepared existing draft),
    ("userEditedFields", .array (draft.userEditedFields.map fun field => .string field.text)),
    ("updatedAt", .number now.ms)]

def saveReportDraft (storage : LocalStorage) (id : String) (draft : ReportDraftInput) (now : DateValue) :
    Bool × LocalStorage :=
  if !isDraftId id then (false, storage)
  else
    match storage.getItem (reportDraftKey id) with
    | none => (false, storage)
    | some serialized =>
        let existing := existingDraft (serialized.filter (· ≠ ""))
        match storage.setItem (reportDraftKey id) (storedDraft existing draft now).stringify with
        | some storage => (true, storage)
        | none => (false, storage)

/-! Attachments. -/

structure File where
  name : String
  type : String
  lastModified : Int
  content : List UInt8
  deriving DecidableEq

def File.size (file : File) : Nat := file.content.length

def ausemioPublicFileMaxBytes : Nat := 30 * 1024 * 1024

/-- The files of one selection. An array has fewer than `2 ^ 32` elements. -/
structure FileSelection where
  files : List File
  array : files.length < 2 ^ 32

/-- `createReportFilesSchema(…).safeParse(files).success`. -/
def reportFilesSchema (selection : FileSelection) : Bool :=
  selection.files.all fun file => file.size ≤ ausemioPublicFileMaxBytes

/-- A record of the attachment store, whose key need not be a text. -/
structure AttachmentRecord where
  draftId : Option String
  files : List File
  deriving DecidableEq

abbrev AttachmentStore := List AttachmentRecord

def saveReportAttachments (attachments : AttachmentStore) (id : String) (selection : FileSelection) :
    AttachmentStore :=
  if isDraftId id then ⟨some id, selection.files⟩ :: attachments.filter fun record => record.draftId ≠ some id
  else attachments

def readReportAttachments (attachments : AttachmentStore) (id : String) : List File :=
  if isDraftId id then
    ((attachments.find? fun record => record.draftId = some id).map (·.files)).getD []
  else []

def removeReportAttachments (attachments : AttachmentStore) (id : String) : AttachmentStore :=
  if isDraftId id then attachments.filter fun record => record.draftId ≠ some id else attachments

def idsUnder (front : String) (storage : LocalStorage) : List String :=
  (storage.store.keys.filter fun key => front.toList.isPrefixOf key.toList).map fun key =>
    String.ofList (key.toList.drop front.toList.length)

section Cleanup

/-- What the browser has to say of the cleanup: whose attachments cannot be removed, and the time it is then. -/
structure CleanupRun where
  failing : String → Bool
  later : DateValue

/-- Reads every draft, which drops those that cannot be read, and gives those that have attachments. -/
def readDrafts (now : DateValue) : List String → LocalStorage → List String × LocalStorage
  | [], storage => ([], storage)
  | id :: ids, storage =>
      let (draft, storage) := readReportDraft storage id now
      let (active, storage) := readDrafts now ids storage
      (if draft.any fun draft => 0 < draft.attachmentCount then id :: active else active, storage)

def hasCurrentAttachmentDraft (storage : LocalStorage) (id : String) (now : DateValue) : Bool :=
  match storage.getItem (reportDraftKey id) with
  | none => true
  | some none => false
  | some (some serialized) =>
      if serialized = "" then false
      else
        match Json.parse serialized with
        | none => true
        | some value => (parseReportDraft value now.ms).any fun draft => 0 < draft.attachmentCount

/-- One marker after the other. A marker without a draft id only goes. -/
def retryCleanups (failing : String → Bool) :
    List String → LocalStorage → AttachmentStore → LocalStorage × AttachmentStore
  | [], storage, attachments => (storage, attachments)
  | id :: ids, storage, attachments =>
      if isDraftId id && failing id then retryCleanups failing ids storage attachments
      else retryCleanups failing ids (storage.removeItem (attachmentCleanupKey id))
        (removeReportAttachments attachments id)

def cleanupExpiredReportDraftData (run : CleanupRun) (storage : LocalStorage) (attachments : AttachmentStore)
    (now : DateValue) : LocalStorage × AttachmentStore :=
  if !storage.enabled then (storage, attachments)
  else
    let (active, storage) := readDrafts now (idsUnder reportDraftFront storage) storage
    let (storage, attachments) :=
      retryCleanups run.failing (idsUnder attachmentCleanupFront storage) storage attachments
    (storage, attachments.filter fun record => record.draftId.any fun id =>
      id ∈ active || hasCurrentAttachmentDraft storage id run.later)

end Cleanup

end PublicLighting.ReportDraft
