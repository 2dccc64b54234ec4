import PublicLighting.Foundations.TwoRuns
import PublicLighting.ReportSubmission.LocalSubmit
import PublicLighting.ReportSubmission.AtomicitySafety

/-! What a submission leaves in the tables and answers does not depend on what is private in it. -/

namespace PublicLighting.ReportSubmission.Atomicity

open Foundations Foundations.Transactions
open EmailVerification (consumeUpdate)

variable {Digest : Type} [DecidableEq Digest]

section Call

variable {environment : Environment} {submission : Submission} {description other : Option String}
variable {authorize allow : Authorize Digest}

/-- Two authorizations for the verification of one intent, if they are for one. -/
def SameIntent : Authorize Digest → Authorize Digest → Prop
  | .absent, .absent => True
  | .absent, .consumes .. => False
  | .consumes .., .absent => False
  | .consumes intentId _ _, .consumes intentId' _ _ => intentId = intentId'
  | _, _ => True

def SameResult (a : SubmissionResult) (s : Client (Tables Digest) Locals) (b : SubmissionResult)
    (t : Client (Tables Digest) Locals) : Prop :=
  a.result.authorized = true → b.result.authorized = true → a.result = b.result ∧ s = t

omit [DecidableEq Digest] in
theorem alike_resolveTarget {target : ReportTarget} :
    TwoRuns (· = ·) (resolveTarget environment target : Call Digest ResolvedReportTarget)
      (resolveTarget environment target : Call Digest ResolvedReportTarget) SameAnswer := by
  have ends : ∀ answer, TwoRuns (· = ·) (ofExcept answer : Call Digest ResolvedReportTarget)
      (ofExcept answer : Call Digest ResolvedReportTarget) SameAnswer := by
    intro answer
    cases answer with
    | ok => exact TwoRuns.pure fun s t same => ⟨rfl, same⟩
    | error => exact TwoRuns.throw
  cases target with
  | manual => exact TwoRuns.pure fun s t same => ⟨rfl, same⟩
  | custom => exact ends _
  | device => exact ends _
  | other => exact TwoRuns.throw
  | lightPoint given =>
      simp only [resolveTarget]
      cases lightPointIdOf given with
      | none => exact TwoRuns.throw
      | some lightPointId => exact alike_bind alike_query fun found => ends _

theorem consumeUpdate_same {email token email' token' : Digest}
    {row consumed consumed' : EmailVerification.Challenge Digest}
    {now late : Nat} (first : consumeUpdate email token row now late = some consumed)
    (second : consumeUpdate email' token' row now late = some consumed') : consumed = consumed' := by
  simp only [consumeUpdate] at first second
  cases given : row.verification with
  | none =>
      rw [given] at first
      cases first
  | some verification =>
      rw [given] at first second
      simp only [Option.ite_none_right_eq_some, Option.some.injEq] at first second
      exact first.2.symm.trans second.2

/-- Two consumptions that both go through leave the same tables. -/
theorem consumeVerification_same {intentId : EmailVerification.IntentId} {email token email' token' : Digest}
    {tables after after' : Tables Digest}
    (first : consumeVerification environment intentId email token tables = (true, after))
    (second : consumeVerification environment intentId email' token' tables = (true, after')) : after = after' := by
  simp only [consumeVerification] at first second
  split at first
  · rename_i consumed updated
    split at second
    · rename_i consumed' updated'
      cases first
      cases second
      obtain ⟨row, present, spent⟩ := Option.bind_eq_some_iff.mp updated
      obtain ⟨row', present', spent'⟩ := Option.bind_eq_some_iff.mp updated'
      rw [present] at present'
      cases present'
      rw [consumeUpdate_same spent spent']
    · cases second
  · cases first

theorem alike_authorized (same : SameIntent authorize allow) :
    TwoRuns (· = ·) (authorized environment authorize) (authorized environment allow)
      fun a s b t => a = true → b = true → s = t := by
  cases authorize with
  | absent =>
      cases allow with
      | absent => exact TwoRuns.pure fun s t same _ _ => same
      | refuses => exact TwoRuns.pure fun s t same _ _ => same
      | consumes => exact same.elim
  | refuses =>
      intro w v _ a b ended _ allowed
      cases ended
      cases allowed
  | consumes intentId email token =>
      cases allow with
      | absent => exact same.elim
      | refuses =>
          intro w v _ a b _ stopped _ allowed
          cases stopped
          cases allowed
      | consumes intentId' email' token' =>
          have one : intentId = intentId' := same
          subst one
          simp only [authorized, query]
          apply TwoRuns.await
          intro s t a b s' t' start ended stopped allowed permitted
          subst start allowed permitted
          exact statement_same (fun tables left right done spent =>
            consumeVerification_same (Except.ok.inj done) (Except.ok.inj spent)) ended stopped

omit [DecidableEq Digest] in
theorem alike_previousSummary {target : ResolvedReportTarget} {submittedAt : Int} :
    TwoRuns (· = ·) (previousSummary target submittedAt : Call Digest PreviousFaultSummary)
      (previousSummary target submittedAt : Call Digest PreviousFaultSummary) SameAnswer := by
  unfold previousSummary
  cases target.point with
  | none => exact TwoRuns.pure fun s t same => ⟨rfl, same⟩
  | some lightPointId => exact alike_query

omit [DecidableEq Digest] in
theorem alike_writeReceipt {report : FaultReport} :
    TwoRuns (· = ·) (writeReceipt environment submission report : Call Digest Unit)
      (writeReceipt environment submission report : Call Digest Unit) SameAnswer := by
  unfold writeReceipt
  cases submission.attemptId with
  | none => exact TwoRuns.pure fun s t same => ⟨rfl, same⟩
  | some attemptId => exact alike_query

omit [DecidableEq Digest] in
theorem alike_close : TwoRuns (· = ·) (close : Call Digest Unit)
    (close : Call Digest Unit) SameAnswer := alike_assign

omit [DecidableEq Digest] in
theorem alike_commit_close : TwoRuns (· = ·) (commit : Call Digest Unit) (commit : Call Digest Unit)
    SameAnswer := alike_bind alike_commit fun _ => alike_close

omit [DecidableEq Digest] in
theorem alike_insertSubmission {target : ResolvedReportTarget} :
    TwoRuns (· = ·) (insertSubmission environment submission description target : Call Digest SubmissionResult)
      (insertSubmission environment submission other target) SameResult := by
  unfold insertSubmission
  refine alike_bind alike_query fun submittedAt => ?_
  by_cases unread : readable submittedAt = false
  · simp only [if_pos unread]
    exact TwoRuns.throw
  · simp only [if_neg unread]
    refine alike_bind alike_previousSummary fun summary => ?_
    refine alike_bind alike_query fun report => ?_
    refine alike_bind alike_writeReceipt fun _ => ?_
    refine alike_bind alike_commit_close fun _ => ?_
    exact TwoRuns.pure fun s t same _ _ => ⟨rfl, same⟩

omit [DecidableEq Digest] in
theorem refused_returns {w : Program.Scheduled (Client (Tables Digest) Locals)} {result : SubmissionResult}
    (returned : ((do
      sqlRollback SubmissionError.sql
      close
      return ⟨unauthorized, [], none⟩ : Call Digest SubmissionResult) w).1 = .returned result) :
    result.result.authorized = false := by
  obtain ⟨_, _, closed, _⟩ := TwoRuns.bind_returned returned
  obtain ⟨_, _, ended, _⟩ := TwoRuns.bind_returned closed
  cases ended
  rfl

theorem alike_recordFresh (same : SameIntent authorize allow) :
    TwoRuns (· = ·) (recordFresh environment submission description authorize)
      (recordFresh environment submission other allow) SameResult := by
  unfold recordFresh
  refine alike_bind alike_resolveTarget fun target => ?_
  by_cases unproven : addressProven environment submission.input target = false
  · simp only [if_pos unproven]
    exact TwoRuns.throw
  · simp only [if_neg unproven]
    refine TwoRuns.bind (alike_authorized same) fun allowed permitted => ?_
    cases allowed with
    | false =>
        intro w v _ a b ended _ granted
        rw [refused_returns ended] at granted
        cases granted
    | true =>
        cases permitted with
        | false =>
            intro w v _ a b _ stopped _ granted
            rw [refused_returns stopped] at granted
            cases granted
        | true => exact alike_insertSubmission.weaken (fun s t here => here rfl rfl) fun _ _ _ _ => id

theorem alike_transaction (same : SameIntent authorize allow) :
    TwoRuns (· = ·) (transaction environment submission description authorize)
      (transaction environment submission other allow) SameResult := by
  unfold transaction
  refine alike_bind alike_begin fun _ => alike_bind alike_assign fun _ => ?_
  cases submission.attemptId with
  | none => exact alike_recordFresh same
  | some attemptId =>
      refine alike_bind alike_query fun _ => alike_bind alike_query fun existing => ?_
      cases existing with
      | some row =>
          refine alike_bind alike_commit_close fun _ => ?_
          exact TwoRuns.pure fun s t state _ _ => ⟨rfl, state⟩
      | none => exact alike_bind alike_query fun _ => alike_recordFresh same

omit [DecidableEq Digest] in
theorem alike_connect : TwoRuns (· = ·) (connect : Call Digest Unit) (connect : Call Digest Unit) SameAnswer := by
  refine alike_bind (TwoRuns.await ?_) fun _ => alike_assign
  intro s t a b s' t' start ended stopped
  cases ended
  cases stopped
  exact ⟨rfl, start⟩

theorem alike_recordSubmission {input : FaultHistorySubmissionInput} (same : SameIntent authorize allow) :
    TwoRuns (· = ·) (recordSubmission environment input description authorize)
      (recordSubmission environment input other allow) SameResult := by
  have rethrows : ∀ (error : SubmissionError) w (result : SubmissionResult),
      ((do rollbackOpen; Program.throw error : Call Digest SubmissionResult) w).1 ≠ .returned result := by
    intro error w result returned
    obtain ⟨_, _, threw, _⟩ := TwoRuns.bind_returned returned
    cases threw
  unfold recordSubmission
  cases acceptSubmission environment.options input with
  | error error => exact TwoRuns.throw
  | ok submission =>
      refine alike_bind alike_connect fun _ => ?_
      refine TwoRuns.ending (TwoRuns.catching (alike_transaction same) rethrows rethrows) ?_
      intro a b w v here _ _ _ _ granted permitted
      obtain ⟨results, state⟩ := here granted permitted
      exact ⟨results, (alike_assign w v state () () rfl rfl).2⟩

end Call

end PublicLighting.ReportSubmission.Atomicity

namespace PublicLighting.ReportSubmission

open Foundations Foundations.Transactions
open Foundations.Program (Scheduled)
open Atomicity (Tables Locals Environment recordSubmission fresh SameIntent alike_recordSubmission)

variable {Digest : Type} [DecidableEq Digest]
variable {route : LocalSubmitRoute Digest} {environment : Environment}

def privateFields : List Field := [.detailDescription, .otherFault, .phone, .email, .locale]

/-- The bodies hold the same under every key but those of the private fields. -/
def SamePublic (body body' : FlatFields) : Prop :=
  ∀ key, key ∉ privateFields.map Field.key →
    (flattenMultipartBody body).get? key = (flattenMultipartBody body').get? key

theorem validateFields_public {body body' : FlatFields} (same : SamePublic body body') {enabled : Bool}
    {fields fields' : Fields} (valid : validateFields body enabled = .ok fields)
    (valid' : validateFields body' enabled = .ok fields') {field : Field} (known : field ∉ privateFields) :
    fields field = fields' field := by
  have key : field.key ∉ privateFields.map Field.key := by
    revert known
    cases field <;> decide
  rw [(validateFields_ok.mp valid).2.2, (validateFields_ok.mp valid').2.2, readFields, readFields,
    same field.key key]

omit [DecidableEq Digest] in
theorem authorizeOf_sameIntent {emailVerification : Option (EmailVerificationCrypto Digest)}
    {fields fields' : Fields}
    (same : fields .verificationIntent = fields' .verificationIntent) :
    SameIntent (authorizeOf emailVerification fields) (authorizeOf emailVerification fields') := by
  have consumed : ∀ {given : Fields} {crypto : EmailVerificationCrypto Digest},
      authorizeOf (some crypto) given = .refuses ∨
        ∃ intentId email token, given .verificationIntent = some intentId ∧
        authorizeOf (some crypto) given = .consumes (uuidValue intentId) email token := by
    intro given crypto
    simp only [authorizeOf]
    split
    · rename_i intentId token found _
      split
      · exact Or.inr ⟨intentId, _, _, nonempty_some found, rfl⟩
      · exact Or.inl rfl
    · exact Or.inl rfl
  cases emailVerification with
  | none => trivial
  | some crypto =>
      rcases @consumed fields crypto with refused | ⟨intentId, email, token, given, first⟩
      · rw [refused]
        cases authorizeOf (some crypto) fields' <;> trivial
      · rcases @consumed fields' crypto with refused | ⟨intentId', email', token', given', second⟩
        · rw [first, refused]
          trivial
        · rw [first, second]
          rw [given, given'] at same
          cases same
          rfl

theorem localSubmit_sent {body : FlatFields} {files : List UploadedFile}
    {w : Scheduled (Client (Tables Digest) Locals)} {receipt : LocalSubmitReceipt}
    (sent : (localSubmit route environment body files w).1 = some (.sent receipt)) :
    ∃ fields draft reportTarget result, readRequest route environment.options body files = .ok (fields, draft,
      reportTarget) ∧
      let call := recordSubmission environment (submissionInput fields draft reportTarget) draft.detailDescription
        (authorizeOf route.emailVerification fields)
      (call w).1 = .returned result ∧ respond route fields draft result.result = .sent receipt ∧
        (localSubmit route environment body files w).2 = (call w).2 := by
  unfold localSubmit at sent ⊢
  split at sent
  · cases sent
  · rename_i fields draft reportTarget admitted
    refine ⟨fields, draft, reportTarget, ?_⟩
    rcases ran : recordSubmission environment (submissionInput fields draft reportTarget) draft.detailDescription
      (authorizeOf route.emailVerification fields) w with ⟨value | error | _, w'⟩
    · simp only [ran, Option.some.injEq] at sent
      exact ⟨value, admitted, by simp only [ran], sent, by simp only [ran]⟩
    · simp only [ran] at sent
      cases sent
    · simp only [ran] at sent
      cases sent

omit [DecidableEq Digest] in
theorem respond_sent {fields : Fields} {draft : CanonicalVoReportDraft} {history : FaultHistoryRecordResult}
    {receipt : LocalSubmitReceipt} (sent : respond route fields draft history = .sent receipt) :
    history.authorized = true := by
  cases granted : history.authorized with
  | true => rfl
  | false =>
      rw [respond, if_pos granted] at sent
      cases sent

/-- Two reports that are both taken, and that differ only in what is private, leave the same history and the same
receipts, and are answered alike. -/
theorem private_values_unrecorded {route : LocalSubmitRoute Digest} {environment : Environment}
    {body body' : FlatFields} {files files' : List UploadedFile} {before : Tables Digest}
    {faults faults' : Nat → Program.Fault} {receipt receipt' : LocalSubmitReceipt}
    (same : SamePublic body body') (number : files.length = files'.length)
    (taken : (localSubmit route environment body files ⟨⟨before, .idle, fresh⟩, faults, 0⟩).1 = some (.sent receipt))
    (taken' : (localSubmit route environment body' files' ⟨⟨before, .idle, fresh⟩, faults', 0⟩).1 =
      some (.sent receipt')) :
    let after := (localSubmit route environment body files ⟨⟨before, .idle, fresh⟩, faults, 0⟩).2.state.committed
    let after' := (localSubmit route environment body' files' ⟨⟨before, .idle, fresh⟩, faults', 0⟩).2.state.committed
    after.history = after'.history ∧ after.attempts = after'.attempts ∧ receipt = receipt' := by
  obtain ⟨fields, draft, target, result, admitted, returned, responded, left⟩ := localSubmit_sent taken
  obtain ⟨fields', draft', target', result', admitted', returned', responded', left'⟩ := localSubmit_sent taken'
  obtain ⟨valid, mapped, parsed, _⟩ := readRequest_ok.mp admitted
  obtain ⟨valid', mapped', parsed', _⟩ := readRequest_ok.mp admitted'
  have shared : ∀ field, field ∉ privateFields → fields field = fields' field :=
    fun _ known => validateFields_public same valid valid' known
  obtain ⟨locality, block, fault, attachments⟩ := mapLocalVoFieldsToDraft_ok mapped
  obtain ⟨locality', block', fault', attachments'⟩ := mapLocalVoFieldsToDraft_ok mapped'
  have targets : target = target' := by
    rw [shared .reportTarget (by decide), parsed'] at parsed
    exact (Option.some.inj parsed).symm
  have input : submissionInput fields draft target = submissionInput fields' draft' target' := by
    have localities : draft.locality = draft'.locality := by
      rw [shared .locality (by decide), locality'] at locality
      exact (Option.some.inj locality).symm
    unfold submissionInput
    rw [targets, localities, block, fault, block', fault', shared .submissionAttemptId (by decide),
      shared .automaticAddress (by decide), shared .automaticAddressProof (by decide),
      shared .locationBlock (by decide), shared .faultType (by decide)]
  have intents : SameIntent (authorizeOf route.emailVerification fields)
    (authorizeOf route.emailVerification fields') :=
    authorizeOf_sameIntent (shared .verificationIntent (by decide))
  rw [← input] at returned' left'
  obtain ⟨results, state⟩ := alike_recordSubmission intents ⟨⟨before, .idle, fresh⟩, faults, 0⟩
    ⟨⟨before, .idle, fresh⟩, faults', 0⟩ rfl _ _ returned returned'
    (respond_sent responded) (respond_sent responded')
  have counted : draft.attachments.length = draft'.attachments.length := by
    rw [attachments, attachments', List.length_map, List.length_map, number]
  refine ⟨?_, ?_, ?_⟩
  · rw [left, left', state]
  · rw [left, left', state]
  · have answered : Response.sent receipt = .sent receipt' := by
      rw [← responded, ← responded']
      unfold respond
      rw [results, counted, shared .submissionAttemptId (by decide)]
    exact Response.sent.inj answered

def productionRoute : LocalSubmitRoute String where
  productionLocalPersistence := true
  emailVerification := some
    { lower := JavaScriptText.toLowerCase
      emailDigest := id
      verificationTokenDigest := fun intentId emailDigest token => intentId ++ emailDigest ++ token }
  faultHistory := true

def quietNight : Environment where
  options := ⟨["Sever"], ["Q1", "Q99"], ["Q10"]⟩
  classifyArea := fun _ _ => .inside
  verifyReportAddressProof := fun _ _ _ _ _ => false
  formatOperatorTimestamp := fun _ => ""
  times := ⟨1, 1, 1, 0, 1, 1⟩
  historyId := 7

def intentId : String := "11111111-1111-4111-8111-111111111111"

def token : String := "AAAAAAAAAAAAAAAAAAAAAAAAAAAAAAAAAAAAAAAAAAA"

def email : String := "a@b.sk"

def verifiedAddress : Tables String where
  history := []
  attempts _ := none
  challenges id := if id = uuidValue intentId then
      some { EmailVerification.insertRow ⟨uuidValue intentId, email, ""⟩ 0 with
        verification := some ⟨intentId ++ email ++ token, 0, none⟩ }
    else none
  lightPoints _ := none

def darkStreet (description phone locale : String) : FlatFields :=
  [("properties", .object [("vyber_sluzby", .string "2"), ("ulica_miesto_poruchy_lokalita", .string "Sever"),
    ("detail_decription", .string description), ("tel_cislo", .string phone)]),
   ("email", .string email), ("locale", .string locale),
   ("reportTarget", .string (Json.object [("kind", .string "manual")]).stringify),
   ("submissionAttemptId", .string "00000000-0000-4000-8000-000000000000"),
   ("emailVerificationIntentId", .string intentId), ("emailVerificationToken", .string token)]

theorem darkStreet_public (description phone locale description' phone' locale' : String) :
    SamePublic (darkStreet description phone locale) (darkStreet description' phone' locale') := by
  intro key known
  simp only [privateFields, Field.key, List.map_cons, List.map_nil, List.mem_cons, List.not_mem_nil, or_false,
    not_or] at known
  obtain ⟨notDescription, _, notPhone, _, notLocale⟩ := known
  simp [darkStreet, flattenMultipartBody, FlatFields.get?, Json.get?, List.find?_cons, Ne.symm notDescription,
    Ne.symm notPhone, Ne.symm notLocale]

def west : FlatFields := darkStreet "at number 5" "+421900000001" "sk"

def east : FlatFields := darkStreet "" "+421900000002" "en"

def darkStreetReceipt : LocalSubmitReceipt :=
  ⟨true, "locally_recorded", false, 0, some "00000000-0000-4000-8000-000000000000"⟩

theorem west_taken : (localSubmit productionRoute quietNight west []
    ⟨⟨verifiedAddress, .idle, fresh⟩, fun _ => .none, 0⟩).1 =
    some (.sent darkStreetReceipt) := by decide +kernel

theorem east_taken : (localSubmit productionRoute quietNight east []
    ⟨⟨verifiedAddress, .idle, fresh⟩, fun _ => .none, 0⟩).1 =
    some (.sent darkStreetReceipt) := by decide +kernel

theorem twoCallers_unrecorded :
    let left := localSubmit productionRoute quietNight west [] ⟨⟨verifiedAddress, .idle, fresh⟩, fun _ => .none, 0⟩
    let right := localSubmit productionRoute quietNight east [] ⟨⟨verifiedAddress, .idle, fresh⟩, fun _ => .none, 0⟩
    left.2.state.committed.history = right.2.state.committed.history := by
  have public_ : SamePublic west east := darkStreet_public _ _ _ _ _ _
  exact (private_values_unrecorded public_ rfl west_taken east_taken).1

end PublicLighting.ReportSubmission
