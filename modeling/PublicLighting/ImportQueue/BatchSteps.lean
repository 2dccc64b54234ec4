import PublicLighting.ImportQueue.Workers

/-! What a step of the queue may do to a batch. -/

namespace PublicLighting.ImportQueue

open Inventory Foundations

variable {server : ServerText} {drawn : Uuid → Prop} {writes : Prop} {WorkerId : Type} [DecidableEq WorkerId]

/-- The transactions that the steps commit, with the claim of the worker whose transaction it is. -/
inductive Change (server : ServerText) (drawn : Uuid → Prop) (writes : Prop) (db : Database) :
    Option Claim → Database → Prop
  | elapsed (time : Nat) : Change server drawn writes db none { db with now := db.now + time }
  | cleaned : Change server drawn writes db none (cleanupExpiredPreviews db)
  | previewed {adminId : AdminId} {uploaderUsername : Option String} {previewId : Uuid}
      {parsedRows : List (ParsedImportRow server)} {existing : String → Option PointId} {next : Database}
      (built : buildImportPreview adminId uploaderUsername previewId parsedRows existing db = .ok next) :
      Change server drawn writes db none next
  | confirmed {adminId : AdminId} {previewId : Uuid} {allowUpdate : Bool} {clientNow : Nat} {next : Database}
      (done : confirmImport adminId previewId allowUpdate clientNow db = .ok next) :
        Change server drawn writes db none next
  | claimed {token : Uuid} (new : drawn token) : Change server drawn writes db none (claimBatch token db).2
  | processed {claim : Claim} {limit : Nat} {outcomes : List RowOutcome} {next : Database}
      (ran : processImportRows server claim limit db = .ok (outcomes, next)) :
        Change server drawn writes db (some claim) next
  | failed (claim : Claim) (failure : SafeFailure) :
      Change server drawn writes db (some claim) (failNextPendingRow claim failure db)
  | completed (claim : Claim) : Change server drawn writes db (some claim) (completeBatch claim db)
  | written {next : Database} (other : writes) (taken : InventoryStep server db next) :
      Change server drawn writes db none next

def Drawn (s t : State WorkerId) (token : Uuid) : Prop := token ∉ s.tokens ∧ token ∈ t.tokens

def Writes (label : Label server WorkerId) : Prop := ∃ change, label = .write change

section Statements

variable {db next : Database} {claim : Claim}

theorem currentBatch_eq {batch : ImportBatch} : currentBatch db claim = some batch ↔
    db.batches claim.id = some batch ∧ batch.status = .processing ∧ batch.workerToken = some claim.token := by
  simp [currentBatch, Option.filter_eq_some_iff]

theorem processImportRows_ok {limit : Nat} {outcomes : List RowOutcome}
    (ran : processImportRows server claim limit db = .ok (outcomes, next)) :
    (outcomes = [] ∧ next = db ∧ ∀ batch, currentBatch db claim = some batch → selected batch limit = []) ∨
    ∃ batch, currentBatch db claim = some batch ∧ selected batch limit ≠ [] ∧
      violations (verdictOf server db batch) (selected batch limit) = [] ∧
      outcomes = (verdicts (verdictOf server db batch) (selected batch limit)).map (·.outcome) ∧
      next = { worked server db claim.id batch limit with
        batches := Function.update db.batches claim.id (some (processed server db claim.id batch limit)) } := by
  unfold processImportRows at ran
  cases current : currentBatch db claim with
  | none =>
      rw [current] at ran
      cases ran
      refine Or.inl ⟨rfl, rfl, fun other same => ?_⟩
      cases same
  | some batch =>
      rw [current] at ran
      dsimp only at ran
      split at ran
      · rename_i empty
        cases ran
        refine Or.inl ⟨rfl, rfl, fun other same => ?_⟩
        cases same
        exact empty
      · rename_i some
        split at ran
        · cases ran
        · rename_i clean
          cases ran
          exact Or.inr ⟨batch, rfl, some, not_not.mp clean, rfl, rfl⟩

theorem processImportRows_error {limit : Nat} {states : List SqlState}
    (ran : processImportRows server claim limit db = .error states) :
    ∃ batch, currentBatch db claim = some batch ∧ selected batch limit ≠ [] ∧ states ≠ [] ∧
      states = violations (verdictOf server db batch) (selected batch limit) := by
  unfold processImportRows at ran
  cases current : currentBatch db claim with
  | none =>
      rw [current] at ran
      cases ran
  | some batch =>
      rw [current] at ran
      dsimp only at ran
      split at ran
      · cases ran
      · rename_i some
        split at ran
        · rename_i raised
          cases ran
          exact ⟨batch, rfl, some, raised, rfl⟩
        · cases ran

theorem failNextPendingRow_cases (claim : Claim) (failure : SafeFailure) (db : Database) :
    failNextPendingRow claim failure db = db ∨
    ∃ batch row, currentBatch db claim = some batch ∧ (pendingInOrder batch.rows).head? = some row ∧
      failNextPendingRow claim failure db = { db with
        batches := Function.update db.batches claim.id (some (failedBatch failure db.now row batch)) } := by
  unfold failNextPendingRow
  split
  · exact Or.inl rfl
  · rename_i batch current
    split
    · exact Or.inl rfl
    · rename_i row first
      exact Or.inr ⟨batch, row, current, first, rfl⟩

theorem completeBatch_cases (claim : Claim) (db : Database) :
    completeBatch claim db = db ∨
    ∃ batch, currentBatch db claim = some batch ∧ pendingInOrder batch.rows = [] ∧
      completeBatch claim db = { db with
        batches := Function.update db.batches claim.id (some (completedBatch db.now batch)) } := by
  unfold completeBatch
  split
  · exact Or.inl rfl
  · rename_i batch current
    split
    · exact Or.inl rfl
    · rename_i done
      exact Or.inr ⟨batch, current, not_not.mp done, rfl⟩

theorem buildImportPreview_ok {adminId : AdminId} {uploaderUsername : Option String} {previewId : Uuid}
    {parsedRows : List (ParsedImportRow server)} {existing : String → Option PointId}
    (built : buildImportPreview adminId uploaderUsername previewId parsedRows existing db = .ok next) :
    (parsedRows.map (·.rowIndex)).Nodup ∧ next = { db with
      batches := Function.update db.batches db.nextBatchId
        (some (stagedBatch adminId uploaderUsername previewId db.now (stageRows parsedRows existing)))
      nextBatchId := db.nextBatchId + 1 } := by
  unfold buildImportPreview at built
  split at built
  · cases built
  split at built
  · cases built
  split at built
  · cases built
  rename_i distinct _
  cases built
  exact ⟨not_not.mp distinct, rfl⟩

theorem confirmImport_ok {adminId : AdminId} {previewId : Uuid} {allowUpdate : Bool} {clientNow : Nat}
    (done : confirmImport adminId previewId allowUpdate clientNow db = .ok next) :
    next = db ∨ ∃ id batch, db.batches id = some batch ∧ batch.status = .preview ∧ next = { db with
      batches := Function.update db.batches id (some (confirmed allowUpdate db.now batch)) } := by
  unfold confirmImport at done
  dsimp only at done
  split at done
  · cases done
  rename_i found
  split at done
  · cases done
    exact Or.inl rfl
  rename_i preview
  split at done
  · cases done
  cases done
  obtain ⟨found, _⟩ := Option.filter_eq_some_iff.mp found
  obtain ⟨_, _, found⟩ := Option.bind_eq_some_iff.mp found
  obtain ⟨_, present, same⟩ := Option.map_eq_some_iff.mp found
  cases same
  exact Or.inr ⟨_, _, present, not_not.mp preview, rfl⟩

theorem claimBatch_cases (token : Uuid) (db : Database) :
    (claimBatch token db = (none, requeueExpired (cleanupExpiredPreviews db))) ∨
    ∃ id batch, candidate (requeueExpired (cleanupExpiredPreviews db)) = some id ∧
      (requeueExpired (cleanupExpiredPreviews db)).batches id = some batch ∧
      claimBatch token db = (some ⟨id, token⟩, { requeueExpired (cleanupExpiredPreviews db) with
        batches := Function.update (requeueExpired (cleanupExpiredPreviews db)).batches id
          (some (claimed token db.now batch)) }) := by
  unfold claimBatch
  dsimp only
  split
  · exact Or.inl rfl
  · rename_i chosen batch found
    obtain ⟨other, queued, found⟩ := Option.bind_eq_some_iff.mp found
    obtain ⟨ready, present, same⟩ := Option.map_eq_some_iff.mp found
    cases same
    exact Or.inr ⟨_, _, queued, present, rfl⟩

end Statements

section Queries

variable {s t : State WorkerId} {worker : WorkerId} {answer : Answer}
  {effect : Except (List SqlState) (List RowOutcome × Database)} {obstructions : List SqlState}
  {next : List RowOutcome → Worker} {caught : SafeFailure → Worker}

/-- How a query ends: with its effect, heard or not, without one, or with an error that the worker hears. -/
theorem query_cases (taken : s.query worker answer effect obstructions next caught = some t) :
    (∃ outcomes db, answer = .heard ∧ effect = .ok (outcomes, db) ∧
      t = (s.write db).setWorker worker (next outcomes)) ∨
    (∃ outcomes db, answer = .lost ∧ effect = .ok (outcomes, db) ∧ t = (s.write db).setWorker worker .waiting) ∨
    (answer = .refused ∧ t = s.setWorker worker .waiting) ∨
    ∃ state, (answer = .raised state ∧ (∃ states, effect = .error states ∧ state ∈ states) ∨
        answer = .obstructed state ∧ state ∈ obstructions) ∧
      t = s.setWorker worker (((safeFailure state).map caught).getD .waiting) := by
  unfold State.query at taken
  dsimp only at taken
  split at taken
  · cases taken
    exact Or.inl ⟨_, _, rfl, rfl, rfl⟩
  · cases taken
    exact Or.inr (Or.inl ⟨_, _, rfl, rfl, rfl⟩)
  · cases taken
    exact Or.inr (Or.inr (Or.inl ⟨rfl, rfl⟩))
  · rename_i state states
    split at taken
    · rename_i member
      cases taken
      exact Or.inr (Or.inr (Or.inr ⟨state, Or.inl ⟨rfl, states, rfl, member⟩, rfl⟩))
    · cases taken
  · rename_i state
    split at taken
    · rename_i member
      cases taken
      exact Or.inr (Or.inr (Or.inr ⟨state, Or.inr ⟨rfl, member⟩, rfl⟩))
    · cases taken
  · cases taken

theorem query_db (taken : s.query worker answer effect obstructions next caught = some t) :
    t.db = s.db ∨ ∃ outcomes, effect = .ok (outcomes, t.db) := by
  rcases query_cases taken with ⟨outcomes, db, _, ran, rfl⟩ | ⟨outcomes, db, _, ran, rfl⟩ | ⟨_, rfl⟩ | ⟨_, _, rfl⟩
  · exact Or.inr ⟨outcomes, ran⟩
  · exact Or.inr ⟨outcomes, ran⟩
  · exact Or.inl rfl
  · exact Or.inl rfl

theorem query_tokens (taken : s.query worker answer effect obstructions next caught = some t) :
    t.tokens = s.tokens := by
  rcases query_cases taken with ⟨_, _, _, _, rfl⟩ | ⟨_, _, _, _, rfl⟩ | ⟨_, rfl⟩ | ⟨_, _, rfl⟩ <;> rfl

theorem command_db {db : Database} {next : Worker} (taken : s.command worker answer db next = some t) :
    t.db = s.db ∨ t.db = db := by
  cases query_db taken with
  | inl same => exact Or.inl same
  | inr done =>
      obtain ⟨outcomes, done⟩ := done
      cases done
      exact Or.inr rfl

theorem advance_change (taken : advance server s worker answer = some t) :
    t.db = s.db ∨ ∃ claim, (s.workers worker).claim = some claim ∧
      Change server (Drawn s t) writes s.db (some claim) t.db := by
  unfold advance at taken
  cases at_work : s.workers worker with
  | waiting =>
      rw [at_work] at taken
      cases taken
  | processing claim =>
      rw [at_work] at taken
      exact (query_db taken).imp id fun ran => ⟨claim, rfl, .processed ran.choose_spec⟩
  | replaying claim index =>
      rw [at_work] at taken
      exact (query_db taken).imp id fun ran => ⟨claim, rfl, .processed ran.choose_spec⟩
  | failing claim index failure =>
      rw [at_work] at taken
      cases command_db taken with
      | inl same => exact Or.inl same
      | inr done =>
          rw [done]
          exact Or.inr ⟨claim, rfl, .failed claim failure⟩
  | completing claim =>
      rw [at_work] at taken
      cases command_db taken with
      | inl same => exact Or.inl same
      | inr done =>
          rw [done]
          exact Or.inr ⟨claim, rfl, .completed claim⟩

theorem step_change {label : Label server WorkerId} (taken : Step server s label t) :
    t.db = s.db ∨ ∃ actor, Change server (Drawn s t) (Writes label) s.db actor t.db ∧ ∀ claim, actor = some claim →
      ∃ worker answer, label = .advance worker answer ∧ (s.workers worker).claim = some claim := by
  unfold Step at taken
  cases label with
  | elapse time =>
      cases taken
      exact Or.inr ⟨none, .elapsed time, nofun⟩
  | cleanup =>
      cases taken
      exact Or.inr ⟨none, .cleaned, nofun⟩
  | preview adminId uploaderUsername previewId parsedRows existing =>
      simp only [step] at taken
      cases built : buildImportPreview adminId uploaderUsername previewId parsedRows existing s.db with
      | error =>
          rw [built] at taken
          cases taken
      | ok next =>
          rw [built] at taken
          cases taken
          exact Or.inr ⟨none, .previewed built, nofun⟩
  | confirm adminId previewId allowUpdate clientNow =>
      simp only [step] at taken
      cases done : confirmImport adminId previewId allowUpdate clientNow s.db with
      | error =>
          rw [done] at taken
          cases taken
      | ok next =>
          rw [done] at taken
          cases taken
          exact Or.inr ⟨none, .confirmed done, nofun⟩
  | claim worker token answer =>
      simp only [step] at taken
      split at taken
      · rename_i ready
        have drawn : Drawn s t token := by
          refine ⟨ready.2, ?_⟩
          rw [query_tokens taken]
          exact List.mem_cons_self
        cases command_db taken with
        | inl same => exact Or.inl same
        | inr done =>
            rw [done]
            exact Or.inr ⟨none, .claimed drawn, nofun⟩
      · cases taken
  | advance worker answer =>
      apply (advance_change taken).imp id
      intro changed
      obtain ⟨claim, held, changed⟩ := changed
      refine ⟨some claim, changed, fun other same => ?_⟩
      cases same
      exact ⟨worker, answer, rfl, held⟩
  | crash worker =>
      cases taken
      exact Or.inl rfl
  | write change =>
      obtain ⟨next, done, rfl⟩ := Option.map_eq_some_iff.mp taken
      exact Or.inr ⟨none, .written ⟨change, rfl⟩ (writeInventory_step done), nofun⟩

end Queries

def Processed (server : ServerText) (db : Database) (claim : Claim) (limit : Nat) (batch : ImportBatch)
    (next : Database) : Prop :=
  currentBatch db claim = some batch ∧ selected batch limit ≠ [] ∧
    violations (verdictOf server db batch) (selected batch limit) = [] ∧
    next = { worked server db claim.id batch limit with
      batches := Function.update db.batches claim.id (some (processed server db claim.id batch limit)) }

inductive BatchStep (server : ServerText) (drawn : Uuid → Prop) (db next : Database) (id : BatchId) :
    Option Claim → Option ImportBatch → Option ImportBatch → Prop
  | kept (actor : Option Claim) (batch : Option ImportBatch) : BatchStep server drawn db next id actor batch batch
  | expired {batch : ImportBatch} (preview : batch.status = .preview) :
      BatchStep server drawn db next id none (some batch) none
  | staged {adminId : AdminId} {uploaderUsername : Option String} {previewId : Uuid}
      {parsedRows : List (ParsedImportRow server)} {existing : String → Option PointId}
      (distinct : (parsedRows.map (·.rowIndex)).Nodup) (newest : id = db.nextBatchId)
      (counted : next.nextBatchId = db.nextBatchId + 1) :
      BatchStep server drawn db next id none none
        (some (stagedBatch adminId uploaderUsername previewId db.now (stageRows parsedRows existing)))
  | confirmed {batch : ImportBatch} (preview : batch.status = .preview) (allowUpdate : Bool) :
      BatchStep server drawn db next id none (some batch) (some (confirmed allowUpdate db.now batch))
  | requeued (batch : ImportBatch) : BatchStep server drawn db next id none (some batch)
      (some (requeued db.now batch))
  | claimed {batch : ImportBatch} (queued : (requeued db.now batch).status = .queued) {token : Uuid}
      (new : drawn token) :
      BatchStep server drawn db next id none (some batch) (some (claimed token db.now (requeued db.now batch)))
  | processed {claim : Claim} {batch : ImportBatch} {limit : Nat} (here : claim.id = id)
      (ran : Processed server db claim limit batch next) :
      BatchStep server drawn db next id (some claim) (some batch) (some (processed server db id batch limit))
  | failed {claim : Claim} {batch : ImportBatch} {row : ImportBatchRow} (here : claim.id = id)
      (current : currentBatch db claim = some batch) (first : (pendingInOrder batch.rows).head? = some row)
      (failure : SafeFailure) :
      BatchStep server drawn db next id (some claim) (some batch) (some (failedBatch failure db.now row batch))
  | completed {claim : Claim} {batch : ImportBatch} (here : claim.id = id)
      (current : currentBatch db claim = some batch) (done : pendingInOrder batch.rows = []) :
      BatchStep server drawn db next id (some claim) (some batch) (some (completedBatch db.now batch))

section Batches

variable {db next : Database} {claim : Claim} {actor : Option Claim}

theorem update_step {id : BatchId} {written : Option ImportBatch}
    (taken : BatchStep server drawn db next id actor (db.batches id) written) :
    ∀ other, BatchStep server drawn db next other actor (db.batches other)
      (Function.update db.batches id written other) := by
  intro other
  by_cases same : other = id
  · subst same
    rw [Function.update_self]
    exact taken
  · rw [Function.update_of_ne same]
    exact .kept _ _

theorem current_step {written : Option ImportBatch} {batch : ImportBatch}
    (current : currentBatch db claim = some batch)
    (taken : BatchStep server drawn db next claim.id actor (some batch) written) :
    BatchStep server drawn db next claim.id actor (db.batches claim.id) written := by
  rw [(currentBatch_eq.mp current).1]
  exact taken

theorem cleanup_step (id : BatchId) :
    BatchStep server drawn db next id none (db.batches id) ((cleanupExpiredPreviews db).batches id) := by
  unfold cleanupExpiredPreviews
  cases found : db.batches id with
  | none => simpa [found] using .kept _ _
  | some batch =>
      simp only [found, Option.filter_some]
      cases ended : expired db.now batch with
      | false => exact .kept _ _
      | true =>
          simp only [expired, Bool.and_eq_true, decide_eq_true_eq] at ended
          exact .expired ended.1

theorem ready_batches (id : BatchId) : (requeueExpired (cleanupExpiredPreviews db)).batches id =
    ((db.batches id).filter fun batch => !expired db.now batch).map (requeued db.now) := rfl

theorem ready_step (id : BatchId) : BatchStep server drawn db next id none (db.batches id)
    ((requeueExpired (cleanupExpiredPreviews db)).batches id) := by
  rw [ready_batches]
  cases db.batches id with
  | none => exact .kept _ _
  | some batch =>
      rw [Option.filter_some]
      cases ended : expired db.now batch with
      | false => exact .requeued batch
      | true =>
          simp only [expired, Bool.and_eq_true, decide_eq_true_eq] at ended
          exact .expired ended.1

theorem candidate_queued {id : BatchId} (chosen : candidate db = some id) :
    hasStatus db .queued id = true ∧ ∀ other < db.nextBatchId, hasStatus db .processing other = false := by
  unfold candidate at chosen
  split at chosen
  · cases chosen
  · rename_i none
    have listed := List.mem_of_mem_head? chosen
    rw [queuedInOrder, List.mem_insertionSort, List.mem_filter] at listed
    refine ⟨listed.2, fun other below => ?_⟩
    simpa using fun processing => none (List.any_eq_true.mpr ⟨other, List.mem_range.mpr below, processing⟩)

theorem claim_step {token : Uuid} (new : drawn token) (id : BatchId) :
    BatchStep server drawn db next id none (db.batches id) ((claimBatch token db).2.batches id) := by
  cases claimBatch_cases token db with
  | inl same =>
      rw [same]
      exact ready_step id
  | inr done =>
      obtain ⟨chosen, batch, queued, present, same⟩ := done
      rw [same]
      by_cases here : id = chosen
      · subst here
        have queued := (candidate_queued queued).1
        rw [hasStatus, present] at queued
        rw [ready_batches] at present
        obtain ⟨before, kept, same⟩ := Option.map_eq_some_iff.mp present
        obtain ⟨found, _⟩ := Option.filter_eq_some_iff.mp kept
        subst same
        dsimp only
        rw [Function.update_self, found]
        exact .claimed (of_decide_eq_true queued) new
      · dsimp only
        rw [Function.update_of_ne here]
        exact ready_step id

theorem change_step (changed : Change server drawn writes db actor next)
    (fresh : ∀ id, db.nextBatchId ≤ id → db.batches id = none) (id : BatchId) :
    BatchStep server drawn db next id actor (db.batches id) (next.batches id) := by
  cases changed with
  | elapsed => exact .kept _ _
  | cleaned => exact cleanup_step id
  | previewed built =>
      obtain ⟨distinct, same⟩ := buildImportPreview_ok built
      rw [same]
      refine update_step ?_ id
      rw [fresh _ (Nat.le_refl _)]
      exact .staged distinct rfl rfl
  | confirmed done =>
      cases confirmImport_ok done with
      | inl same =>
          rw [same]
          exact .kept _ _
      | inr done =>
          obtain ⟨chosen, batch, present, preview, same⟩ := done
          rw [same]
          refine update_step ?_ id
          rw [present]
          exact .confirmed preview _
  | claimed new => exact claim_step new id
  | processed ran =>
      cases processImportRows_ok ran with
      | inl nothing =>
          rw [nothing.2.1]
          exact .kept _ _
      | inr done =>
          obtain ⟨batch, current, some, clean, _, same⟩ := done
          have ran : Processed server db _ _ batch next := ⟨current, some, clean, same⟩
          rw [show next.batches = _ from congrArg Database.batches same]
          exact update_step (current_step current (.processed rfl ran)) id
  | failed claim failure =>
      cases failNextPendingRow_cases claim failure db with
      | inl same =>
          rw [same]
          exact .kept _ _
      | inr done =>
          obtain ⟨batch, row, current, first, same⟩ := done
          rw [same]
          exact update_step (current_step current (.failed rfl current first failure)) id
  | completed claim =>
      cases completeBatch_cases claim db with
      | inl same =>
          rw [same]
          exact .kept _ _
      | inr done =>
          obtain ⟨batch, current, done, same⟩ := done
          rw [same]
          exact update_step (current_step current (.completed rfl current done)) id
  | written _ taken =>
      cases taken <;> exact .kept _ _

end Batches

end PublicLighting.ImportQueue
