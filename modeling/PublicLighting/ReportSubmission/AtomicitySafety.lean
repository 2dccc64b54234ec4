import PublicLighting.ReportSubmission.Atomicity

/-! A submission is recorded as a whole or not at all, and its client is given back. -/

namespace PublicLighting.ReportSubmission.Atomicity

open Foundations Foundations.Transactions
open Foundations.Program (On Triple)
open EmailVerification (IntentId Challenge consumeUpdate)

variable {Digest : Type} [DecidableEq Digest]

def ClearedOf (attemptId : Option AttemptId) (before after : AttemptId → Option Receipt) : Prop :=
  match attemptId with
  | none => after = before
  | some id => ∀ receipt, Function.update after id (some receipt) = Function.update before id (some receipt)

/-- What the authorization does to the verifications when it allows the submission. -/
def Consumed (authorize : Authorize Digest) (before after : IntentId → Option (Challenge Digest)) : Prop :=
  match authorize with
  | .absent => after = before
  | .refuses => False
  | .consumes intentId emailDigest tokenDigest => ∃ row consumed now late,
      before intentId = some row ∧ consumeUpdate emailDigest tokenDigest row now late = some consumed ∧
        after = Function.update before intentId (some consumed)

def Receipted (attemptId : Option AttemptId) (historyId : HistoryId)
    (before after : AttemptId → Option Receipt) : Prop :=
  match attemptId with
  | none => after = before
  | some id => ∃ receipt, receipt.historyId = historyId ∧ after = Function.update before id (some receipt)

/-- Everything that a submission does, done together. -/
def Recorded (id : HistoryId) (submission : Submission) (authorize : Authorize Digest)
    (before after : Tables Digest) :
    Prop :=
  ∃ target submittedAt automaticNotes attempts challenges,
    after = { before with
      history := before.history ++ [reportOf id submission target submittedAt automaticNotes]
      attempts := attempts
      challenges := challenges } ∧
    Receipted submission.attemptId id before.attempts attempts ∧
    Consumed authorize before.challenges challenges

section Call

variable (environment : Environment) (before : Tables Digest) (submission : Submission)
variable (authorize : Authorize Digest)

def opened : Locals := ⟨true, 1, 0, false⟩
def closed : Locals := ⟨false, 1, 0, false⟩

def Cleared (work : Tables Digest) : Prop :=
  ∃ attempts, work = { before with attempts := attempts } ∧
    ClearedOf submission.attemptId before.attempts attempts

def Allowed (work : Tables Digest) : Prop :=
  ∃ attempts challenges, work = { before with attempts := attempts, challenges := challenges } ∧
    ClearedOf submission.attemptId before.attempts attempts ∧ Consumed authorize before.challenges challenges

def Inserted (work : Tables Digest) : Prop :=
  ∃ target submittedAt automaticNotes attempts challenges,
    work = { before with
      history := before.history ++ [reportOf environment.historyId submission target submittedAt automaticNotes]
      attempts := attempts
      challenges := challenges } ∧
    ClearedOf submission.attemptId before.attempts attempts ∧ Consumed authorize before.challenges challenges

/-- What is committed when the call fails: nothing, unless the COMMIT's answer was lost. -/
def Caught (s : Client (Tables Digest) Locals) : Prop :=
  (s.locals.checkouts = 1 ∧ s.locals.releases = 0) ∧
    (s.committed = before ∨
      s.locals.commitUnheard = true ∧ Recorded environment.historyId submission authorize before s.committed) ∧
    (s.locals.transactionOpen = false → Quiet s)

/-- What a result says of what is committed. -/
def Told (result : SubmissionResult) (db : Tables Digest) : Prop :=
  if result.result.authorized = true ∧ result.result.duplicate = false then
    Recorded environment.historyId submission authorize before db
  else db = before

def Ended (result : SubmissionResult) (s : Client (Tables Digest) Locals) : Prop :=
  s.locals = closed ∧ Quiet s ∧ Told environment before submission authorize result s.committed

/-- What is committed when the process dies. -/
def Dead (s : Client (Tables Digest) Locals) : Prop :=
  (s.committed = before ∨ Recorded environment.historyId submission authorize before s.committed) ∧
    s.locals.releases ≤ s.locals.checkouts ∧ s.locals.checkouts ≤ 1

end Call

variable {environment : Environment} {before : Tables Digest} {submission : Submission}
variable {authorize : Authorize Digest} {α : Type}

theorem Caught.of_holds {s : Client (Tables Digest) Locals} (holds : Holds before opened s) :
    Caught environment before submission authorize s := by
  obtain ⟨same, locals⟩ := holds
  refine ⟨?_, Or.inl same, ?_⟩
  · rw [locals]
    exact ⟨rfl, rfl⟩
  · rw [locals]
    exact nofun

theorem Dead.of_holds {s : Client (Tables Digest) Locals} {locals : Locals} (holds : Holds before locals s)
    (released : locals.releases ≤ locals.checkouts) (once : locals.checkouts ≤ 1) :
    Dead environment before submission authorize s := by
  obtain ⟨same, here⟩ := holds
  refine ⟨Or.inl same, ?_⟩
  rw [here]
  exact ⟨released, once⟩

theorem Dead.of_opened {s : Client (Tables Digest) Locals} (holds : Holds before opened s) :
    Dead environment before submission authorize s := Dead.of_holds holds (by decide) (by decide)

theorem within {task : Call Digest α} {holds : Client (Tables Digest) Locals → Prop}
    {next : α → Client (Tables Digest) Locals → Prop}
    (works : Triple (On holds) task (fun value => On (next value)) (fun _ => On (Holds before opened))
      (On (Holds before opened))) :
    Triple (On holds) task (fun value => On (next value))
      (fun _ => On (Caught environment before submission authorize))
      (On (Dead environment before submission authorize)) :=
  works.weaken (fun _ => id) (fun _ _ => id) (fun _ _ => Caught.of_holds) fun _ => Dead.of_opened

omit [DecidableEq Digest] in
theorem thrown {error : SubmissionError} {holds : Tables Digest → Prop}
    {next : α → Client (Tables Digest) Locals → Prop} :
    Triple (On (Working before opened holds)) (Program.throw error : Call Digest α) (fun value => On (next value))
      (fun _ => On (Holds before opened)) (On (Holds before opened)) := by
  apply Triple.throw
  intro w here
  obtain ⟨work, same, _⟩ := here
  rw [On, show w.state = _ from same]
  exact ⟨rfl, rfl⟩

section Commit

theorem commit_ends {holds : Tables Digest → Prop} {result : SubmissionResult}
    (told : ∀ work, holds work → Told environment before submission authorize result work) :
    Triple (On (Working before opened holds)) (do commit; return result : Call Digest SubmissionResult)
      (fun value => On (Ended environment before submission authorize value))
      (fun _ => On (Caught environment before submission authorize))
      (On (Dead environment before submission authorize)) := by
  have fate : ∀ work, holds work →
      work = before ∨ Recorded environment.historyId submission authorize before work := by
    intro work here
    have said := told work here
    unfold Told at said
    split at said
    · exact Or.inr said
    · exact Or.inl said
  intro w ⟨work, same, here⟩
  have committed : Triple (On (· = ⟨before, .working work, opened⟩)) (commit : Call Digest Unit)
      (fun _ => On (· = ⟨work, .idle, closed⟩)) (fun _ => On (Caught environment before submission authorize))
      (On (Dead environment before submission authorize)) := by
    apply Triple.bind
    · apply commit_working.weaken (fun _ => id) (fun _ _ => id)
      · intro _ w failed
        cases failed with
        | inl undone =>
            apply On.at undone
            exact Caught.of_holds ⟨rfl, rfl⟩
        | inr unheard =>
            apply On.at unheard
            refine ⟨⟨rfl, rfl⟩, ?_, nofun⟩
            exact (fate work here).imp id fun recorded => ⟨rfl, recorded⟩
      · intro w died
        cases died with
        | inl undone => exact Dead.of_opened undone
        | inr done =>
            obtain ⟨committed, locals⟩ := done
            constructor
            · rw [committed]
              exact fate work here
            · rw [locals]
              exact ⟨by decide, by decide⟩
    · intro _
      apply assign_rule
      intro s here
      subst here
      rfl
  refine Triple.bind committed (fun _ => Triple.pure ?_) w same
  intro w done
  apply On.at done
  exact ⟨rfl, nofun, told work here⟩

end Commit

section Parts

omit [DecidableEq Digest] in
theorem resolves {holds : Tables Digest → Prop} {target : ReportTarget} :
    Triple (On (Working before opened holds)) (resolveTarget environment target : Call Digest ResolvedReportTarget)
      (fun _ => On (Working before opened holds)) (fun _ => On (Holds before opened))
      (On (Holds before opened)) := by
  have ends : ∀ answer, Triple (On (Working before opened holds))
      (ofExcept answer : Call Digest ResolvedReportTarget) (fun _ => On (Working before opened holds))
      (fun _ => On (Holds before opened)) (On (Holds before opened)) := by
    intro answer
    cases answer with
    | ok => exact Triple.pure fun _ => id
    | error => exact thrown
  cases target with
  | manual => exact Triple.pure fun _ => id
  | custom => exact ends _
  | device => exact ends _
  | other => exact thrown
  | lightPoint given =>
      cases accepted : lightPointIdOf given with
      | none =>
          simp only [resolveTarget, accepted]
          exact thrown
      | some lightPointId =>
          simp only [resolveTarget, accepted]
          refine Triple.bind (query_rule ?_) fun found => ends _
          intro work answer done here stepped
          split at stepped
          · cases stepped
          · cases stepped
            exact here

theorem authorizes :
    Triple (On (Working before opened (Cleared before submission))) (authorized environment authorize)
      (fun allowed => On (Working before opened fun work => allowed = true →
        Allowed before submission authorize work))
      (fun _ => On (Holds before opened)) (On (Holds before opened)) := by
  cases authorize with
  | absent =>
      apply Triple.pure
      intro w here
      obtain ⟨work, same, attempts, rfl, cleared⟩ := here
      exact ⟨_, same, fun _ => ⟨attempts, before.challenges, rfl, cleared, rfl⟩⟩
  | refuses =>
      apply Triple.pure
      intro w here
      obtain ⟨work, same, _⟩ := here
      exact ⟨work, same, nofun⟩
  | consumes intentId emailDigest tokenDigest =>
      apply query_rule
      intro work answer done here stepped allowed
      obtain ⟨attempts, rfl, cleared⟩ := here
      simp only [Except.ok.injEq, consumeVerification] at stepped
      split at stepped
      · rename_i consumed updated
        cases stepped
        obtain ⟨row, present, consumed⟩ := Option.bind_eq_some_iff.mp updated
        exact ⟨attempts, _, rfl, cleared, row, _, _, _, present, consumed, rfl⟩
      · cases stepped
        cases allowed

omit [DecidableEq Digest] in
theorem summarizes {holds : Tables Digest → Prop} {target : ResolvedReportTarget} {submittedAt : Int} :
    Triple (On (Working before opened holds))
      (previousSummary target submittedAt : Call Digest PreviousFaultSummary)
      (fun _ => On (Working before opened holds)) (fun _ => On (Holds before opened))
      (On (Holds before opened)) := by
  unfold previousSummary
  split
  · apply query_rule
    intro work answer done here stepped
    cases stepped
    exact here
  · exact Triple.pure fun _ => id

theorem inserts {target : ResolvedReportTarget} {submittedAt : Int} {automaticNotes : List String} :
    Triple (On (Working before opened (Allowed before submission authorize)))
      (query .sql fun tables =>
        .ok (insertReport environment submission target submittedAt automaticNotes tables) : Call Digest FaultReport)
      (fun report => On (Working before opened fun work =>
        Inserted environment before submission authorize work ∧ report.id = environment.historyId))
      (fun _ => On (Holds before opened)) (On (Holds before opened)) := by
  apply query_rule
  intro work answer done here stepped
  obtain ⟨attempts, challenges, rfl, cleared, consumed⟩ := here
  cases stepped
  exact ⟨⟨target, submittedAt, automaticNotes, attempts, challenges, rfl, cleared, consumed⟩, rfl⟩

theorem receipts {report : FaultReport} :
    Triple (On (Working before opened fun work =>
        Inserted environment before submission authorize work ∧ report.id = environment.historyId))
      (writeReceipt environment submission report : Call Digest Unit)
      (fun _ => On (Working before opened (Recorded environment.historyId submission authorize before)))
      (fun _ => On (Holds before opened)) (On (Holds before opened)) := by
  unfold writeReceipt
  cases given : submission.attemptId with
  | none =>
      apply Triple.pure
      intro w here
      obtain ⟨work, same, ⟨target, submittedAt, notes, attempts, challenges, rfl, cleared, consumed⟩, _⟩ := here
      refine ⟨_, same, target, submittedAt, notes, attempts, challenges, rfl, ?_, consumed⟩
      rw [given] at cleared ⊢
      exact cleared
  | some attemptId =>
      apply query_rule
      intro work answer done here stepped
      obtain ⟨⟨target, submittedAt, notes, attempts, challenges, rfl, cleared, consumed⟩, owner⟩ := here
      unfold insertReceipt at stepped
      split at stepped
      · cases stepped
      · cases stepped
        refine ⟨target, submittedAt, notes, _, challenges, rfl, ?_, consumed⟩
        rw [given] at cleared ⊢
        exact ⟨_, owner, cleared _⟩

theorem insertSubmission_ends {target : ResolvedReportTarget} {detailDescription : Option String} :
    Triple (On (Working before opened (Allowed before submission authorize)))
      (insertSubmission environment submission detailDescription target : Call Digest SubmissionResult)
      (fun value => On (Ended environment before submission authorize value))
      (fun _ => On (Caught environment before submission authorize))
      (On (Dead environment before submission authorize)) := by
  have stamps : Triple (On (Working before opened (Allowed before submission authorize)))
      (select .sql fun _ => environment.times.stamped : Call Digest Nat)
      (fun _ => On (Working before opened (Allowed before submission authorize)))
      (fun _ => On (Holds before opened)) (On (Holds before opened)) := by
    apply query_rule
    intro work answer done here stepped
    cases stepped
    exact here
  unfold insertSubmission
  refine Triple.bind (within stamps) fun submittedAt => ?_
  split
  · exact within thrown
  · refine Triple.bind (within summarizes) fun summary => ?_
    refine Triple.bind (within inserts) fun report => ?_
    refine Triple.bind (within receipts) fun _ => ?_
    apply commit_ends
    intro work recorded
    exact recorded

theorem refuses_ends :
    Triple (On (Holds before opened)) (do
        sqlRollback .sql
        close
        return ⟨unauthorized, [], none⟩ : Call Digest SubmissionResult)
      (fun value => On (Ended environment before submission authorize value))
      (fun _ => On (Caught environment before submission authorize))
      (On (Dead environment before submission authorize)) := by
  have closes : Triple (On fun s => Holds before opened s ∧ Quiet s) (close : Call Digest Unit)
      (fun _ => On fun s => Holds before closed s ∧ Quiet s)
      (fun _ => On (Caught environment before submission authorize))
      (On (Dead environment before submission authorize)) := by
    apply assign_rule
    intro s here
    obtain ⟨⟨committed, locals⟩, quiet⟩ := here
    refine ⟨⟨committed, ?_⟩, quiet⟩
    rw [locals]
    rfl
  apply Triple.bind
  · exact rollback_holds.weaken (fun _ => id) (fun _ _ => id) (fun _ _ holds => Caught.of_holds holds.1)
      fun _ => Dead.of_opened
  · intro _
    refine Triple.bind closes fun _ => Triple.pure ?_
    intro w here
    exact ⟨here.1.2, here.2, here.1.1⟩

theorem recordFresh_ends {detailDescription : Option String} :
    Triple (On (Working before opened (Cleared before submission)))
      (recordFresh environment submission detailDescription authorize)
      (fun value => On (Ended environment before submission authorize value))
      (fun _ => On (Caught environment before submission authorize))
      (On (Dead environment before submission authorize)) := by
  unfold recordFresh
  refine Triple.bind (within resolves) fun target => ?_
  split
  · exact within thrown
  · refine Triple.bind (within authorizes) fun allowed => ?_
    split
    · apply refuses_ends.weaken _ (fun _ _ => id) (fun _ _ => id) fun _ => id
      intro w here
      obtain ⟨work, same, _⟩ := here
      rw [On, show w.state = _ from same]
      exact ⟨rfl, rfl⟩
    · rename_i granted
      apply insertSubmission_ends.weaken _ (fun _ _ => id) (fun _ _ => id) fun _ => id
      intro w here
      obtain ⟨work, same, allowed⟩ := here
      exact ⟨work, same, allowed (Bool.of_not_eq_false granted)⟩

omit [DecidableEq Digest] in
theorem deletes {attemptId : AttemptId} (given : submission.attemptId = some attemptId) :
    Triple (On (Working before opened (· = before)))
      (query .sql fun tables => .ok ((), deleteExpired attemptId environment.times.deleted tables) :
        Call Digest Unit)
      (fun _ => On (Working before opened (Cleared before submission))) (fun _ => On (Holds before opened))
      (On (Holds before opened)) := by
  apply query_rule
  intro work answer done here stepped
  subst here
  cases stepped
  unfold deleteExpired
  split
  · refine ⟨_, rfl, ?_⟩
    rw [given]
    intro receipt
    exact Function.update_idem _ _ _
  · refine ⟨_, rfl, ?_⟩
    rw [given]
    exact fun _ => rfl

theorem transaction_ends {detailDescription : Option String} :
    Triple (On (· = ⟨before, .idle, closed⟩)) (transaction environment submission detailDescription authorize)
      (fun value => On (Ended environment before submission authorize value))
      (fun _ => On (Caught environment before submission authorize))
      (On (Dead environment before submission authorize)) := by
  have begins : Triple (On (· = ⟨before, .idle, closed⟩)) (sqlBegin .sql : Call Digest Unit)
      (fun _ => On (· = ⟨before, .working before, closed⟩))
      (fun _ => On (Caught environment before submission authorize))
      (On (Dead environment before submission authorize)) := by
    apply begin_idle.weaken (fun _ => id) (fun _ _ => id)
    · intro _ w holds
      obtain ⟨⟨committed, locals⟩, quiet⟩ := holds
      refine ⟨?_, Or.inl committed, fun _ => quiet⟩
      rw [locals]
      exact ⟨rfl, rfl⟩
    · intro w holds
      exact Dead.of_holds holds (by decide) (by decide)
  have opens : Triple (On (· = ⟨before, .working before, closed⟩))
      (assign fun locals => { locals with transactionOpen := true } : Call Digest Unit)
      (fun _ => On (Working before opened (· = before)))
      (fun _ => On (Caught environment before submission authorize))
      (On (Dead environment before submission authorize)) := by
    apply assign_rule
    intro s here
    subst here
    exact ⟨before, rfl, rfl⟩
  have reads : ∀ {α : Type} {f : Tables Digest → α}, Triple (On (Working before opened (· = before)))
      (select .sql f : Call Digest α) (fun _ => On (Working before opened (· = before)))
      (fun _ => On (Holds before opened)) (On (Holds before opened)) := by
    intro α f
    apply query_rule
    intro work answer done here stepped
    cases stepped
    exact here
  unfold transaction
  refine Triple.bind begins fun _ => Triple.bind opens fun _ => ?_
  split
  · rename_i absent
    apply recordFresh_ends.weaken _ (fun _ _ => id) (fun _ _ => id) fun _ => id
    intro w here
    obtain ⟨work, same, rfl⟩ := here
    refine ⟨work, same, work.attempts, rfl, ?_⟩
    rw [absent]
    rfl
  · rename_i attemptId given
    refine Triple.bind (within reads) fun _ => Triple.bind (within reads) fun existing => ?_
    cases existing with
    | some row => exact commit_ends fun work same => same
    | none => exact Triple.bind (within (deletes given)) fun _ => recordFresh_ends

end Parts

section Ending

/-- What is committed once the call has thrown and nothing of it is left on the server. -/
def Settled (environment : Environment) (before : Tables Digest) (submission : Submission)
    (authorize : Authorize Digest) (s : Client (Tables Digest) Locals) : Prop :=
  Caught environment before submission authorize s ∧ Quiet s

/-- The ROLLBACK of the handler ends what is open, whatever becomes of it. -/
theorem rollback_settles :
    Triple (On (Caught environment before submission authorize)) (ignoring (sqlRollback .sql) : Call Digest Unit)
      (fun _ => On (Settled environment before submission authorize))
      (fun _ => On (Settled environment before submission authorize))
      (On (Dead environment before submission authorize)) := by
  intro w caught
  obtain ⟨clients, fate, _⟩ := caught
  have left : ∀ s, Holds w.state.committed w.state.locals s → Quiet s →
      Settled environment before submission authorize s := by
    intro s holds quiet
    obtain ⟨committed, locals⟩ := holds
    refine ⟨⟨?_, ?_, fun _ => quiet⟩, quiet⟩
    · rw [locals]
      exact clients
    · rw [committed, locals]
      exact fate
  apply ignored_rollback.weaken (fun _ => id) _ _ _ w ⟨rfl, rfl⟩
  · exact fun _ _ holds => left _ holds.1 holds.2
  · exact fun _ _ holds => left _ holds.1 holds.2
  · intro w' holds
    obtain ⟨committed, locals⟩ := holds
    constructor
    · rw [committed]
      exact fate.imp id And.right
    · rw [locals, clients.1, clients.2]
      exact ⟨by decide, by decide⟩

theorem rollbackOpen_settles :
    Triple (On (Caught environment before submission authorize)) (rollbackOpen : Call Digest Unit)
      (fun _ => On (Settled environment before submission authorize))
      (fun _ => On (Settled environment before submission authorize))
      (On (Dead environment before submission authorize)) := by
  have looks : Triple (On (Caught environment before submission authorize))
      (Program.read fun w => w.state.locals.transactionOpen : Call Digest Bool)
      (fun isOpen => On fun s =>
        Caught environment before submission authorize s ∧ s.locals.transactionOpen = isOpen)
      (fun _ => On (Settled environment before submission authorize))
      (On (Dead environment before submission authorize)) :=
    Triple.read fun w caught => ⟨caught, rfl⟩
  unfold rollbackOpen
  refine Triple.bind looks fun isOpen => ?_
  cases isOpen with
  | true => exact rollback_settles.weaken (fun _ here => here.1) (fun _ _ => id) (fun _ _ => id) fun _ => id
  | false => exact Triple.pure fun w here => ⟨here.1, here.1.2.2 here.2⟩

def fresh : Locals := ⟨false, 0, 0, false⟩

theorem connects :
    Triple (On (· = ⟨before, .idle, fresh⟩)) (connect : Call Digest Unit)
      (fun _ => On (· = ⟨before, .idle, closed⟩)) (fun _ => On (· = ⟨before, .idle, fresh⟩))
      (On (Dead environment before submission authorize)) := by
  have unused : Holds before fresh (⟨before, .idle, fresh⟩ : Client (Tables Digest) Locals) := ⟨rfl, rfl⟩
  have dead : Dead environment before submission authorize ⟨before, .idle, fresh⟩ :=
    Dead.of_holds unused (by decide) (by decide)
  have obtains : Triple (On (· = ⟨before, .idle, fresh⟩))
      (Program.await SubmissionError.sql id id fun client => (.ok (), client) : Call Digest Unit)
      (fun _ => On (· = ⟨before, .idle, fresh⟩)) (fun _ => On (· = ⟨before, .idle, fresh⟩))
      (On (Dead environment before submission authorize)) := by
    apply Triple.await
    · intro s answer t here answered
      cases answered
      exact here
    · intro s error t here raised
      cases raised
    · exact fun s here => here
    · exact fun s here => here
    · intro s here
      subst here
      exact dead
    · intro s here
      subst here
      exact dead
  unfold connect
  refine Triple.bind obtains fun _ => assign_rule ?_
  intro s here
  subst here
  rfl

theorem guarded_ends {detailDescription : Option String} :
    Triple (On (· = ⟨before, .idle, closed⟩))
      (Program.catching (transaction environment submission detailDescription authorize) fun error => do
        rollbackOpen
        Program.throw error)
      (fun value => On (Ended environment before submission authorize value))
      (fun _ => On (Settled environment before submission authorize))
      (On (Dead environment before submission authorize)) := by
  apply Triple.catching transaction_ends
  intro error
  exact Triple.bind rollbackOpen_settles fun _ => Triple.throw fun w => id

/-- The client that was obtained, if any was, is back. -/
def Returned (s : Client (Tables Digest) Locals) : Prop :=
  s.locals.releases = s.locals.checkouts ∧ s.locals.checkouts ≤ 1

theorem recordSubmission_ends {input : FaultHistorySubmissionInput} {detailDescription : Option String}
    (accepted : acceptSubmission environment.options input = .ok submission) :
    Triple (On (· = ⟨before, .idle, fresh⟩)) (recordSubmission environment input detailDescription authorize)
      (fun value => On fun s =>
        Told environment before submission authorize value s.committed ∧ Quiet s ∧ Returned s)
      (fun _ => On fun s => (s.committed = before ∨ s.locals.commitUnheard = true ∧
        Recorded environment.historyId submission authorize before s.committed) ∧ Quiet s ∧ Returned s)
      (On (Dead environment before submission authorize)) := by
  simp only [recordSubmission, accepted]
  apply Triple.bind
  · apply connects.weaken (fun _ => id) (fun _ _ => id) _ fun _ => id
    intro _ w here
    rw [On, show w.state = _ from here]
    exact ⟨Or.inl rfl, quiet_lose ⟨before, .idle, fresh⟩, rfl, Nat.zero_le 1⟩
  · intro _
    refine Triple.ending guarded_ends (fun value => ?_) fun error => ?_
    · apply assign_rule
      intro s ended
      obtain ⟨locals, quiet, told⟩ := ended
      refine ⟨told, quiet, ?_⟩
      unfold Returned
      rw [locals]
      exact ⟨rfl, Nat.le_refl 1⟩
    · apply assign_rule
      intro s settled
      obtain ⟨⟨⟨checkouts, releases⟩, fate, _⟩, quiet⟩ := settled
      refine ⟨fate, quiet, ?_⟩
      unfold Returned
      simp only [checkouts, releases]
      decide

end Ending

/-- The input is accepted, and all that recording it means has been done. -/
def RecordedOf (environment : Environment) (input : FaultHistorySubmissionInput) (authorize : Authorize Digest)
    (before after : Tables Digest) : Prop :=
  ∃ submission, acceptSubmission environment.options input = .ok submission ∧
    Recorded environment.historyId submission authorize before after

/-- Whatever fails and wherever the process dies, the tables hold all of a submission or nothing of it, the
outcome says which unless the answer of the COMMIT was lost, and the client that was obtained is released. -/
theorem recordSubmission_atomic (environment : Environment) (input : FaultHistorySubmissionInput)
    (detailDescription : Option String) (authorize : Authorize Digest) (before : Tables Digest)
    (faults : Nat → Program.Fault) :
    match recordSubmission environment input detailDescription authorize ⟨⟨before, .idle, fresh⟩, faults, 0⟩ with
    | (.returned value, w) =>
        (if value.result.authorized = true ∧ value.result.duplicate = false then
          RecordedOf environment input authorize before w.state.committed
        else w.state.committed = before) ∧ Quiet w.state ∧ Returned w.state
    | (.threw _, w) =>
        (w.state.committed = before ∨ w.state.locals.commitUnheard = true ∧
          RecordedOf environment input authorize before w.state.committed) ∧ Quiet w.state ∧ Returned w.state
    | (.died, w) =>
        (w.state.committed = before ∨ RecordedOf environment input authorize before w.state.committed) ∧
          w.state.locals.releases ≤ w.state.locals.checkouts ∧ w.state.locals.checkouts ≤ 1 := by
  cases accepted : acceptSubmission environment.options input with
  | error error =>
      simp only [recordSubmission, accepted]
      exact ⟨Or.inl rfl, nofun, rfl, Nat.zero_le 1⟩
  | ok submission =>
      have whole : ∀ after, Recorded environment.historyId submission authorize before after →
          RecordedOf environment input authorize before after := fun _ recorded => ⟨submission, accepted, recorded⟩
      have ended := @recordSubmission_ends _ _ environment before submission authorize input detailDescription
        accepted ⟨⟨before, .idle, fresh⟩, faults, 0⟩ rfl
      rcases ran : recordSubmission environment input detailDescription authorize ⟨⟨before, .idle, fresh⟩, faults, 0⟩
        with ⟨value | error | _, w⟩ <;> rw [ran] at ended
      · obtain ⟨told, tidy⟩ := ended
        refine ⟨?_, tidy⟩
        unfold Told at told
        split at told
        · rename_i fresh
          rw [if_pos fresh]
          exact whole _ told
        · rename_i other
          rw [if_neg other]
          exact told
      · exact ⟨ended.1.imp id fun lost => ⟨lost.1, whole _ lost.2⟩, ended.2⟩
      · exact ⟨ended.1.imp id (whole _), ended.2⟩

end PublicLighting.ReportSubmission.Atomicity
