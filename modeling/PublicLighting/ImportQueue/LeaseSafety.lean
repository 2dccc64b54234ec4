import PublicLighting.ImportQueue.QueueSafety

/-! What a lease protects: who may settle a row, and why a row fails. -/

namespace PublicLighting.ImportQueue

open Inventory Foundations

variable {server : ServerText} {WorkerId : Type} [DecidableEq WorkerId] {s t u : State WorkerId}

section Rows

variable {label : Label server WorkerId} {id : BatchId} {before after : ImportBatch} {row settled : ImportBatchRow}

inductive RowStep (server : ServerText) (s t : State WorkerId) (label : Label server WorkerId) (id : BatchId)
    (before : ImportBatch) (row : ImportBatchRow) : ImportBatchRow → Prop
  | kept : RowStep server s t label id before row row
  | settled {worker : WorkerId} {answer : Answer} {claim : Claim} {limit : Nat} {verdict : Verdict}
      (taken : label = .advance worker answer) (held : (s.workers worker).claim = some claim) (here : claim.id = id)
      (ran : Processed server s.db claim limit before t.db) (chosen : row ∈ selected before limit)
      (decided : verdictOf server s.db before row = .ok verdict) :
      RowStep server s t label id before row (settleRow t.db.lightPoints verdict row)
  | failed {worker : WorkerId} {answer : Answer} {claim : Claim} {index : Nat} {failure : SafeFailure}
      (taken : label = .advance worker answer) (at_work : s.workers worker = .failing claim index failure)
      (here : claim.id = id) (current : currentBatch s.db claim = some before)
      (first : (pendingInOrder before.rows).head? = some row)
      (effect : t.db = failNextPendingRow claim failure s.db) :
      RowStep server s t label id before row (failRow failure row)

/-- The rows of a batch after a step, each by what the step made of it. -/
def RowsStep (server : ServerText) (s t : State WorkerId) (label : Label server WorkerId) (id : BatchId)
    (before after : ImportBatch) : Prop :=
  ∃ change : ImportBatchRow → ImportBatchRow, after.rows = before.rows.map change ∧
    ∀ row ∈ before.rows, RowStep server s t label id before row (change row)

omit [DecidableEq WorkerId] in
theorem rowsStep_same (same : after.rows = before.rows) : RowsStep server s t label id before after :=
  ⟨fun row => row, by rw [same, List.map_id'], fun _ _ => .kept⟩

theorem advance_db {worker : WorkerId} {answer : Answer} (taken : advance server s worker answer = some t) :
    t.db = s.db ∨ ∃ claim, (s.workers worker).claim = some claim ∧
      ((∃ limit outcomes, processImportRows server claim limit s.db = .ok (outcomes, t.db)) ∨
        (∃ index failure, s.workers worker = .failing claim index failure ∧
          t.db = failNextPendingRow claim failure s.db) ∨
        t.db = completeBatch claim s.db) := by
  unfold advance at taken
  cases at_work : s.workers worker with
  | waiting =>
      rw [at_work] at taken
      cases taken
  | processing claim =>
      rw [at_work] at taken
      exact (query_db taken).imp id fun ran => ⟨claim, rfl, Or.inl ⟨_, ran.choose, ran.choose_spec⟩⟩
  | replaying claim index =>
      rw [at_work] at taken
      exact (query_db taken).imp id fun ran => ⟨claim, rfl, Or.inl ⟨_, ran.choose, ran.choose_spec⟩⟩
  | failing claim index failure =>
      rw [at_work] at taken
      exact (command_db taken).imp id fun done => ⟨claim, rfl, Or.inr (Or.inl ⟨index, failure, rfl, done⟩)⟩
  | completing claim =>
      rw [at_work] at taken
      exact (command_db taken).imp id fun done => ⟨claim, rfl, Or.inr (Or.inr done)⟩

theorem batch_written {db : Database} {written : ImportBatch} {chosen : BatchId}
    (found : db.batches id = some before)
    (there : (Function.update db.batches chosen (some written)) id = some after) :
    chosen = id ∧ after = written ∨ after = before := by
  by_cases here : id = chosen
  · subst here
    rw [Function.update_self] at there
    exact Or.inl ⟨rfl, (Option.some.inj there).symm⟩
  · rw [Function.update_of_ne here, found] at there
    exact Or.inr (Option.some.inj there).symm

omit [DecidableEq WorkerId] in
theorem current_found {claim : Claim} {batch : ImportBatch} (current : currentBatch s.db claim = some batch)
    (found : s.db.batches claim.id = some before) : batch = before := by
  rw [(currentBatch_eq.mp current).1] at found
  exact Option.some.inj found

theorem advance_rows {worker : WorkerId} {answer : Answer} (taken : advance server s worker answer = some t)
    (found : s.db.batches id = some before) (there : t.db.batches id = some after) :
    RowsStep server s t (.advance worker answer) id before after := by
  rcases advance_db taken with same | ⟨claim, held, ran | ⟨index, failure, at_work, effect⟩ | effect⟩
  · rw [same, found] at there
    exact rowsStep_same (by rw [Option.some.inj there])
  · obtain ⟨limit, outcomes, ran⟩ := ran
    cases processImportRows_ok ran with
    | inl nothing =>
        rw [nothing.2.1, found] at there
        exact rowsStep_same (by rw [Option.some.inj there])
    | inr done =>
        obtain ⟨batch, current, some, clean, _, next⟩ := done
        rw [next] at there
        rcases batch_written found there with ⟨here, written⟩ | same
        · subst here written
          cases current_found current found
          refine ⟨_, rfl, fun row member => ?_⟩
          by_cases chosen : row ∈ selected before limit
          · obtain ⟨verdict, decided⟩ := (violations_nil clean).1 row chosen
            rw [settle_chosen decided chosen]
            have points : t.db.lightPoints = (worked server s.db claim.id before limit).lightPoints := by rw [next]
            rw [← points]
            exact .settled rfl held rfl ⟨current, some, clean, next⟩ chosen decided
          · rw [settle_other chosen]
            exact .kept
        · exact rowsStep_same (by rw [same])
  · cases failNextPendingRow_cases claim failure s.db with
    | inl same =>
        rw [effect, same, found] at there
        exact rowsStep_same (by rw [Option.some.inj there])
    | inr done =>
        obtain ⟨batch, candidate, current, first, next⟩ := done
        rw [effect, next] at there
        rcases batch_written found there with ⟨here, written⟩ | same
        · subst here written
          cases current_found current found
          refine ⟨_, rfl, fun row member => ?_⟩
          split
          · rename_i same
            subst same
            exact .failed rfl at_work rfl current first effect
          · exact .kept
        · exact rowsStep_same (by rw [same])
  · cases completeBatch_cases claim s.db with
    | inl same =>
        rw [effect, same, found] at there
        exact rowsStep_same (by rw [Option.some.inj there])
    | inr done =>
        obtain ⟨batch, current, _, next⟩ := done
        rw [effect, next] at there
        rcases batch_written found there with ⟨here, written⟩ | same
        · subst here written
          cases current_found current found
          exact rowsStep_same rfl
        · exact rowsStep_same (by rw [same])

theorem rows_step (inv : Inv server s) (taken : Step server s label t) (found : s.db.batches id = some before)
    (there : t.db.batches id = some after) : RowsStep server s t label id before after := by
  by_cases advances : ∃ worker answer, label = .advance worker answer
  · obtain ⟨worker, answer, rfl⟩ := advances
    exact advance_rows taken found there
  · cases step_change taken with
    | inl same =>
        rw [same, found] at there
        exact rowsStep_same (by rw [Option.some.inj there])
    | inr changed =>
        obtain ⟨actor, changed, acts⟩ := changed
        have here := change_step changed inv.db.fresh id
        rw [found, there] at here
        have idle : ∀ claim, actor ≠ some claim := by
          intro claim same
          obtain ⟨worker, answer, advance, _⟩ := acts claim same
          exact advances ⟨worker, answer, advance⟩
        cases here with
        | kept => exact rowsStep_same rfl
        | confirmed => exact rowsStep_same rfl
        | requeued =>
            apply rowsStep_same
            unfold requeued
            split <;> rfl
        | claimed =>
            apply rowsStep_same
            unfold claimed requeued
            split <;> rfl
        | processed => exact absurd rfl (idle _)
        | failed => exact absurd rfl (idle _)
        | completed => exact absurd rfl (idle _)

omit [DecidableEq WorkerId] in
theorem RowStep.number {settled : ImportBatchRow} (taken : RowStep server s t label id before row settled) :
    settled.sourceRowNumber = row.sourceRowNumber := by
  cases taken <;> rfl

omit [DecidableEq WorkerId] in
theorem rowStep_of_rowsStep (inv : BatchInv server before) (taken : RowsStep server s t label id before after)
    (member : row ∈ before.rows) (present : settled ∈ after.rows)
    (same : settled.sourceRowNumber = row.sourceRowNumber) : RowStep server s t label id before row settled := by
  obtain ⟨change, rows, each⟩ := taken
  rw [rows] at present
  obtain ⟨other, listed, rfl⟩ := List.mem_map.mp present
  have number := (each other listed).number
  cases List.inj_on_of_nodup_map inv.rows.distinct listed member (number.symm.trans same)
  exact each row member

end Rows

section Raised

/-- Why the statement for one row fails: the row violates something, or others obstruct what it writes. -/
def RaisedBy (server : ServerText) (db : Database) (batch : ImportBatch) (row : ImportBatchRow) (answer : Answer)
    (state : SqlState) : Prop :=
  answer = .raised state ∧ verdictOf server db batch row = .error state ∨
    answer = .obstructed state ∧ ∃ verdict, verdictOf server db batch row = .ok verdict ∧
      state ∈ verdict.obstructions

/-- The holder of the claim sent the statement for this row alone, and the row raised a data error. -/
def Raised (server : ServerText) (s : State WorkerId) (labels : List (Label server WorkerId)) (worker : WorkerId)
    (claim : Claim) (failure : SafeFailure) (row : ImportBatchRow) : Prop :=
  ∃ earlier answer later u index batch state, labels = earlier ++ .advance worker answer :: later ∧
    Run (Step server) s earlier u ∧ u.workers worker = .replaying claim index ∧
    currentBatch u.db claim = some batch ∧ selected batch 1 = [row] ∧
    RaisedBy server u.db batch row answer state ∧ safeFailure state = some failure

theorem Raised.later {labels : List (Label server WorkerId)} {worker : WorkerId} {claim : Claim}
    {failure : SafeFailure} {row : ImportBatchRow} (raised : Raised server s labels worker claim failure row)
    (label : Label server WorkerId) : Raised server s (labels ++ [label]) worker claim failure row := by
  obtain ⟨earlier, answer, later, u, index, batch, state, shape, known⟩ := raised
  refine ⟨earlier, answer, later ++ [label], u, index, batch, state, ?_, known⟩
  rw [shape, List.append_assoc, List.cons_append]

/-- A worker that is about to fail the first pending row saw that row raise the error. -/
def Explained (server : ServerText) (s : State WorkerId) (labels : List (Label server WorkerId))
    (t : State WorkerId) : Prop :=
  ∀ worker claim index failure batch row, t.workers worker = .failing claim index failure →
    currentBatch t.db claim = some batch → (pendingInOrder batch.rows).head? = some row →
    Raised server s labels worker claim failure row

theorem selected_one {batch : ImportBatch} {row : ImportBatchRow}
    (first : (pendingInOrder batch.rows).head? = some row) :
    selected batch 1 = [row] := by
  unfold selected
  cases listed : pendingInOrder batch.rows with
  | nil =>
      rw [listed] at first
      cases first
  | cons head rest =>
      rw [listed] at first
      cases first
      rfl

/-- One row alone raises only what it violates itself. -/
theorem violations_one {verdictOf : ImportBatchRow → Except SqlState Verdict} {row : ImportBatchRow}
    {state : SqlState}
    (raised : state ∈ violations verdictOf [row]) : verdictOf row = .error state := by
  cases decided : verdictOf row with
  | error other =>
      simp only [violations, verdicts, List.filterMap_cons, decided, List.filterMap_nil, Except.toOption,
        List.nodup_nil, if_pos, List.append_nil, List.mem_singleton] at raised
      rw [raised]
  | ok verdict =>
      cases verdict <;> simp [violations, verdicts, decided, Except.toOption, Verdict.createdNumber] at raised

/-- The error that a worker's statement with a limit hears. -/
def Failed (server : ServerText) (db : Database) (claim : Claim) (limit : Nat) (answer : Answer) (state : SqlState) :
    Prop :=
  answer = .raised state ∧ (∃ states, processImportRows server claim limit db = .error states ∧ state ∈ states) ∨
    answer = .obstructed state ∧ state ∈ obstructions server claim limit db

theorem failed_raisedBy {db : Database} {claim : Claim} {batch : ImportBatch} {row : ImportBatchRow}
    {answer : Answer}
    {state : SqlState} (failed : Failed server db claim 1 answer state)
    (current : currentBatch db claim = some batch)
    (alone : selected batch 1 = [row]) : RaisedBy server db batch row answer state := by
  rcases failed with ⟨raised, states, ran, member⟩ | ⟨obstructed, member⟩
  · obtain ⟨before, holds, _, _, same⟩ := processImportRows_error ran
    rw [current] at holds
    cases holds
    rw [same, alone] at member
    exact Or.inl ⟨raised, violations_one member⟩
  · simp only [obstructions, current, alone, List.mem_flatMap, mem_verdicts, List.mem_singleton] at member
    obtain ⟨verdict, ⟨_, rfl, decided⟩, member⟩ := member
    exact Or.inr ⟨obstructed, verdict, decided, member⟩

variable {label : Label server WorkerId} {worker : WorkerId} {claim : Claim} {index : Nat} {failure : SafeFailure}

theorem query_failing {answer : Answer} {effect : Except (List SqlState) (List RowOutcome × Database)}
    {obstructions : List SqlState} {next : List RowOutcome → Worker} {caught : SafeFailure → Worker}
    (taken : s.query worker answer effect obstructions next caught = some t)
    (idle : ∀ outcomes, next outcomes ≠ .failing claim index failure)
    (failing : t.workers worker = .failing claim index failure) :
    t.db = s.db ∧ ∃ state other, safeFailure state = some other ∧ caught other = .failing claim index failure ∧
      (answer = .raised state ∧ (∃ states, effect = .error states ∧ state ∈ states) ∨
        answer = .obstructed state ∧ state ∈ obstructions) := by
  rcases query_cases taken with ⟨outcomes, _, _, _, rfl⟩ | ⟨_, _, _, _, rfl⟩ | ⟨_, rfl⟩ | ⟨state, answered, rfl⟩
  · simp only [State.setWorker, Function.update_self] at failing
    exact absurd failing (idle outcomes)
  · simp only [State.setWorker, Function.update_self] at failing
    cases failing
  · simp only [State.setWorker, Function.update_self] at failing
    cases failing
  · simp only [State.setWorker, Function.update_self] at failing
    cases safe : safeFailure state with
    | none =>
        rw [safe] at failing
        cases failing
    | some other =>
        rw [safe] at failing
        exact ⟨rfl, state, other, safe, failing, answered⟩

theorem afterReplay_failing (claim other : Claim) (index count : Nat) :
    afterReplay claim index ≠ .failing other count failure := by
  unfold afterReplay
  split <;> exact nofun

/-- A worker fails a row after it replayed one that raised a data error. -/
theorem advance_failing {answer : Answer} (taken : advance server s worker answer = some t)
    (failing : t.workers worker = .failing claim index failure) :
    s.workers worker = .replaying claim index ∧ t.db = s.db ∧
      ∃ state, Failed server s.db claim 1 answer state ∧ safeFailure state = some failure := by
  unfold advance at taken
  cases at_work : s.workers worker with
  | waiting =>
      rw [at_work] at taken
      cases taken
  | processing other =>
      rw [at_work] at taken
      obtain ⟨_, _, _, _, clash, _⟩ := query_failing taken (by
        intro outcomes
        split <;> exact nofun) failing
      cases clash
  | replaying other count =>
      rw [at_work] at taken
      obtain ⟨kept, state, caught, safe, same, answered⟩ := query_failing taken (by
        intro outcomes
        split
        · exact nofun
        · exact afterReplay_failing other claim count index) failing
      cases same
      exact ⟨rfl, kept, state, answered, safe⟩
  | failing other count caught =>
      rw [at_work] at taken
      obtain ⟨_, _, _, _, clash, _⟩ := query_failing taken
        (fun _ => afterReplay_failing other claim count index) failing
      cases clash
  | completing other =>
      rw [at_work] at taken
      obtain ⟨_, _, _, _, clash, _⟩ := query_failing taken (fun _ => nofun) failing
      cases clash

theorem step_failing (taken : Step server s label t) (others : ∀ answer, label ≠ .advance worker answer)
    (failing : t.workers worker = .failing claim index failure) :
    s.workers worker = .failing claim index failure := by
  have moved : ∀ other after, t.workers = Function.update s.workers other after →
      (other = worker → after ≠ .failing claim index failure) → s.workers worker = .failing claim index failure := by
    intro other after moved idle
    rw [moved] at failing
    by_cases same : worker = other
    · subst same
      rw [Function.update_self] at failing
      exact absurd failing (idle rfl)
    · rwa [Function.update_of_ne same] at failing
  unfold Step at taken
  cases label with
  | elapse =>
      cases taken
      exact failing
  | cleanup =>
      cases taken
      exact failing
  | preview =>
      obtain ⟨_, _, rfl⟩ := Option.map_eq_some_iff.mp taken
      exact failing
  | confirm =>
      obtain ⟨_, _, rfl⟩ := Option.map_eq_some_iff.mp taken
      exact failing
  | claim other token answer =>
      simp only [step] at taken
      split at taken
      · obtain ⟨_, after, workers, shape⟩ := query_worker taken
        apply moved other after workers
        intro _ failing
        rcases shape with rfl | ⟨_, rfl⟩ | ⟨_, rfl⟩
        · cases failing
        · cases claimed : (claimBatch token s.db).1 <;> simp [claimed] at failing
        · cases failing
      · cases taken
  | advance other answer =>
      obtain ⟨_, after, workers, _⟩ := advance_claim taken
      apply moved other after workers
      intro same
      subst same
      exact absurd rfl (others answer)
  | crash other =>
      cases taken
      apply moved other .waiting rfl
      simp
  | write =>
      obtain ⟨_, _, rfl⟩ := Option.map_eq_some_iff.mp taken
      exact failing

/-- Nobody but the holder of a claim touches its batch while the claim is current. -/
theorem undisturbed (inv : Inv server s) (taken : Step server s label t)
    (held : (s.workers worker).claim = some claim) (others : ∀ answer, label ≠ .advance worker answer)
    {batch : ImportBatch} (current : currentBatch t.db claim = some batch) :
    ∃ before, currentBatch s.db claim = some before ∧ before.rows = batch.rows := by
  cases step_change taken with
  | inl same =>
      rw [same] at current
      exact ⟨batch, current, rfl⟩
  | inr changed =>
      obtain ⟨actor, changed, acts⟩ := changed
      obtain ⟨found, processing, token⟩ := currentBatch_eq.mp current
      have here := change_step changed inv.db.fresh claim.id
      rw [found] at here
      have foreign : ∀ rival before, actor = some rival → rival.id = claim.id →
          currentBatch s.db rival = some before → before.workerToken ≠ some claim.token := by
        intro rival before acting at_batch current same
        obtain ⟨other, answer, advance, holds⟩ := acts rival acting
        have own := (currentBatch_eq.mp current).2.2
        rw [own] at same
        cases inv.own other worker rival claim holds held (Option.some.inj same)
        exact others answer advance
      generalize present : s.db.batches claim.id = before at here
      cases here with
      | kept => exact ⟨batch, currentBatch_eq.mpr ⟨present, processing, token⟩, rfl⟩
      | staged => cases token
      | confirmed => cases processing
      | requeued before =>
          unfold requeued at processing token ⊢
          split at processing
          · cases processing
          · rename_i live
            rw [if_neg live] at token ⊢
            exact ⟨before, currentBatch_eq.mpr ⟨present, processing, token⟩, rfl⟩
      | claimed queued new =>
          cases token
          exact absurd (inv.held worker claim held) new.1
      | processed at_batch ran => exact (foreign _ _ rfl at_batch ran.1 token).elim
      | failed at_batch holds => exact (foreign _ _ rfl at_batch holds token).elim
      | completed at_batch current => cases token

theorem explained_step {labels : List (Label server WorkerId)} (inv : Inv server t)
    (run : Run (Step server) s labels t) (explained : Explained server s labels t) (taken : Step server t label u) :
    Explained server s (labels ++ [label]) u := by
  intro worker claim index failure batch row failing current first
  by_cases own : ∃ answer, label = .advance worker answer
  · obtain ⟨answer, rfl⟩ := own
    obtain ⟨replaying, kept, state, failed, safe⟩ := advance_failing taken failing
    rw [kept] at current
    have alone := selected_one first
    exact ⟨labels, answer, [], t, index, batch, state, rfl, run, replaying, current, alone,
      failed_raisedBy failed current alone, safe⟩
  · have others : ∀ answer, label ≠ .advance worker answer := fun answer same => own ⟨answer, same⟩
    have before := step_failing taken others failing
    obtain ⟨held, here, same⟩ := undisturbed inv taken (by rw [before]; rfl) others current
    rw [← same] at first
    exact (explained worker claim index failure held row before here first).later label

theorem explained_run {labels : List (Label server WorkerId)} (inv : Inv server s)
    (idle : ∀ worker, s.workers worker = .waiting) (run : Run (Step server) s labels t) :
    Explained server s labels t := by
  induction run with
  | nil =>
      intro worker claim index failure batch row failing
      rw [idle worker] at failing
      cases failing
  | snoc run taken ih => exact explained_step (inv_run run inv) run ih taken

end Raised

section Onward

structure Onward (before after : ImportBatch) : Prop where
  confirmed : after.status ≠ .preview
  updateExisting : after.updateExisting = before.updateExisting
  created : before.createdRows ≤ after.createdRows
  updated : before.updatedRows ≤ after.updatedRows
  unchanged : before.unchangedRows ≤ after.unchangedRows
  skipped : before.skippedRows ≤ after.skippedRows
  failed : before.failedRows ≤ after.failedRows
  rows : ∀ row ∈ before.rows, row.outcome ≠ .pending → row ∈ after.rows

theorem Onward.refl {batch : ImportBatch} (confirmed : batch.status ≠ .preview) : Onward batch batch :=
  ⟨confirmed, rfl, Nat.le_refl _, Nat.le_refl _, Nat.le_refl _, Nat.le_refl _, Nat.le_refl _,
    fun _ member _ => member⟩

theorem Onward.trans {one two three : ImportBatch} (first : Onward one two) (second : Onward two three) :
    Onward one three where
  confirmed := second.confirmed
  updateExisting := second.updateExisting.trans first.updateExisting
  created := Nat.le_trans first.created second.created
  updated := Nat.le_trans first.updated second.updated
  unchanged := Nat.le_trans first.unchanged second.unchanged
  skipped := Nat.le_trans first.skipped second.skipped
  failed := Nat.le_trans first.failed second.failed
  rows := fun row member settled => second.rows row (first.rows row member settled) settled

theorem onward_requeued {now : Nat} {batch : ImportBatch} (confirmed : batch.status ≠ .preview) :
    Onward batch (requeued now batch) := by
  unfold requeued
  split
  · exact ⟨nofun, rfl, Nat.le_refl _, Nat.le_refl _, Nat.le_refl _, Nat.le_refl _, Nat.le_refl _,
      fun _ member _ => member⟩
  · exact .refl confirmed

theorem onward_claimed {now : Nat} {token : Uuid} (batch : ImportBatch) : Onward batch (claimed token now batch) :=
  ⟨nofun, rfl, Nat.le_refl _, Nat.le_refl _, Nat.le_refl _, Nat.le_refl _, Nat.le_refl _, fun _ member _ => member⟩

theorem onward_completed {now : Nat} (batch : ImportBatch) : Onward batch (completedBatch now batch) where
  confirmed := by
    unfold completedBatch
    dsimp only
    split <;> exact nofun
  updateExisting := rfl
  created := Nat.le_refl _
  updated := Nat.le_refl _
  unchanged := Nat.le_refl _
  skipped := Nat.le_refl _
  failed := Nat.le_refl _
  rows := fun _ member _ => member

theorem onward_step {drawn : Uuid → Prop} {db next : Database} {id : BatchId} {actor : Option Claim}
    {before : ImportBatch} {after : Option ImportBatch}
    (taken : BatchStep server drawn db next id actor (some before) after) (confirmed : before.status ≠ .preview) :
    ∃ batch, after = some batch ∧ Onward before batch := by
  cases taken with
  | kept => exact ⟨before, rfl, .refl confirmed⟩
  | expired preview => exact absurd preview confirmed
  | confirmed preview => exact absurd preview confirmed
  | requeued => exact ⟨_, rfl, onward_requeued confirmed⟩
  | claimed => exact ⟨_, rfl, (onward_requeued confirmed).trans (onward_claimed _)⟩
  | processed here ran =>
      refine ⟨_, rfl, confirmed, rfl, Nat.le_add_right .., Nat.le_add_right .., Nat.le_add_right ..,
        Nat.le_add_right .., Nat.le_refl _, fun row member settled => ?_⟩
      apply List.mem_map.mpr ⟨row, member, settle_other ?_⟩
      exact fun chosen => settled (selected_mem chosen).2
  | failed here current first failure =>
      refine ⟨_, rfl, confirmed, rfl, Nat.le_refl _, Nat.le_refl _, Nat.le_refl _, Nat.le_refl _, Nat.le_succ _,
        fun row member settled => ?_⟩
      have other : row ≠ _ := fun same => settled (same ▸ (mem_pendingInOrder.mp (List.mem_of_mem_head? first)).2)
      exact List.mem_map.mpr ⟨row, member, if_neg other⟩
  | completed => exact ⟨_, rfl, onward_completed before⟩

def GoesOn (s t : State WorkerId) : Prop :=
  ∀ id before, s.db.batches id = some before → before.status ≠ .preview →
    ∃ after, t.db.batches id = some after ∧ Onward before after

theorem goesOn_step {label : Label server WorkerId} (inv : Inv server s) (taken : Step server s label t) :
    GoesOn s t := by
  intro id before found confirmed
  cases step_change taken with
  | inl same => exact ⟨before, by rw [same, found], .refl confirmed⟩
  | inr changed =>
      obtain ⟨actor, changed, _⟩ := changed
      have here := change_step changed inv.db.fresh id
      rw [found] at here
      exact onward_step here confirmed

theorem goesOn_run {labels : List (Label server WorkerId)} (inv : Inv server s)
    (run : Run (Step server) s labels t) :
    GoesOn s t := by
  have trans : ∀ one two three : State WorkerId, GoesOn one two → GoesOn two three → GoesOn one three := by
    intro one two three first second id before found confirmed
    obtain ⟨middle, found, onward⟩ := first id before found confirmed
    obtain ⟨after, found, further⟩ := second id middle found onward.confirmed
    exact ⟨after, found, onward.trans further⟩
  have refl : ∀ s : State WorkerId, GoesOn s s := fun s id before found confirmed => ⟨before, found, .refl confirmed⟩
  exact @Run.related _ _ _ (Inv server) GoesOn refl trans (fun _ _ _ => inv_step) (fun _ _ _ => goesOn_step) _ _ _
    run inv

end Onward

section Safety

variable {labels : List (Label server WorkerId)} {label : Label server WorkerId}

/-- A number that a batch creates or updates is one row's, which leaves one event. -/
def WritesOnce (db : Database) : Prop :=
  ∀ id batch, db.batches id = some batch → ∀ number,
    db.auditEvents.countP (eventOf id number) = batch.rows.countP (rowWrites number) ∧
      batch.rows.countP (rowWrites number) ≤ 1

omit [DecidableEq WorkerId] in
theorem writesOnce (inv : DbInv server t.db) : WritesOnce t.db := by
  intro id batch found number
  refine ⟨inv.audited id batch found number, ?_⟩
  have rows := (inv.batches id batch found).rows
  have distinct : (batch.rows.filter (rowWrites number)).Nodup := rows.nodup.filter _
  rw [List.countP_eq_length_filter]
  match listed : batch.rows.filter (rowWrites number) with
  | [] => exact Nat.zero_le 1
  | [_] => exact Nat.le_refl 1
  | one :: other :: rest =>
      have written : ∀ row ∈ one :: other :: rest, row ∈ batch.rows ∧ row.inventoryNumber = some number ∧
          (row.outcome = .created ∨ row.outcome = .updated) := by
        intro row member
        rw [← listed, List.mem_filter] at member
        exact ⟨member.1, of_decide_eq_true member.2⟩
      have chosen : ∀ row ∈ one :: other :: rest, Chosen row := by
        intro row member
        obtain ⟨present, _, outcome⟩ := written row member
        apply rows.chosen row present
        · rcases outcome with here | here <;> rw [here] <;> exact nofun
        · rcases outcome with here | here <;> rw [here] <;> exact nofun
      have first := written one (by simp)
      have second := written other (by simp)
      rw [listed, List.nodup_cons] at distinct
      exact absurd (rows.numbers one first.1 other second.1 (chosen one (by simp)) (chosen other (by simp))
        (first.2.1.trans second.2.1.symm)) fun same => distinct.1 (by rw [same]; exact List.mem_cons_self)

/-- A step by the worker that holds the current token of a batch. -/
def HeldBy (s : State WorkerId) (label : Label server WorkerId) (worker : WorkerId) (claim : Claim)
    (batch : ImportBatch) : Prop :=
  (∃ answer, label = .advance worker answer) ∧ (s.workers worker).claim = some claim ∧
    s.db.batches claim.id = some batch ∧ batch.status = .processing ∧ batch.workerToken = some claim.token

/-- What a step of the queue keeps to, after a run from the start. -/
structure StepSafe (server : ServerText) (s : State WorkerId) (earlier : List (Label server WorkerId))
    (t : State WorkerId) (label : Label server WorkerId) (u : State WorkerId) : Prop where
  rows : ∀ id before after, t.db.batches id = some before → u.db.batches id = some after →
    ∀ row ∈ before.rows, ∀ settled ∈ after.rows, settled.sourceRowNumber = row.sourceRowNumber →
      settled = row ∨ row.outcome = .pending ∧ ∃ worker claim, claim.id = id ∧ HeldBy t label worker claim before ∧
        ((settled.outcome ≠ .pending ∧ settled.outcome ≠ .failed ∧
            ∃ limit, Processed server t.db claim limit before u.db ∧ row ∈ selected before limit) ∨
          settled.outcome = .failed ∧ Untouched t.db u.db ∧ after.failedRows = before.failedRows + 1 ∧
            ∃ failure, Raised server s earlier worker claim failure row)
  inventory : Untouched t.db u.db ∨
    (∃ worker claim batch limit, HeldBy t label worker claim batch ∧ Processed server t.db claim limit batch u.db) ∨
    Writes label ∧ InventoryStep server t.db u.db ∧ u.db.batches = t.db.batches ∧ u.db.auditEvents = t.db.auditEvents
  stale : ∀ worker answer claim, label = .advance worker answer → (t.workers worker).claim = some claim →
    currentBatch t.db claim = none → u.db = t.db
  reconfirmed : ∀ adminId previewId allowUpdate clientNow, label = .confirm adminId previewId allowUpdate clientNow →
    ∀ id batch, t.db.batches id = some batch → batch.status ≠ .preview → u.db.batches id = some batch

omit [DecidableEq WorkerId] in
theorem held_by (found : currentBatch s.db claim = some before) {worker : WorkerId} {answer : Answer}
    (taken : label = .advance worker answer) (held : (s.workers worker).claim = some claim) :
    HeldBy s label worker claim before :=
  ⟨⟨answer, taken⟩, held, currentBatch_eq.mp found⟩

theorem failed_frame {claim : Claim} {failure : SafeFailure} {db : Database} :
    Untouched db (failNextPendingRow claim failure db) := by
  cases failNextPendingRow_cases claim failure db with
  | inl same =>
      rw [same]
      exact .refl _
  | inr done =>
      obtain ⟨batch, row, _, _, same⟩ := done
      rw [same]
      exact ⟨rfl, rfl, rfl, Nat.le_refl _⟩

theorem failed_count {claim : Claim} {failure : SafeFailure} {db : Database} {before after : ImportBatch}
    {row : ImportBatchRow} (current : currentBatch db claim = some before)
    (first : (pendingInOrder before.rows).head? = some row)
    (found : (failNextPendingRow claim failure db).batches claim.id = some after) :
    after.failedRows = before.failedRows + 1 := by
  rw [failNextPendingRow, current] at found
  dsimp only at found
  rw [first] at found
  dsimp only at found
  rw [Function.update_self] at found
  cases found
  rfl

theorem stale_advance {worker : WorkerId} {answer : Answer} {claim : Claim}
    (taken : advance server s worker answer = some t) (held : (s.workers worker).claim = some claim)
    (stale : currentBatch s.db claim = none) : t.db = s.db := by
  rcases advance_db taken with same | ⟨other, holds, effect⟩
  · exact same
  · rw [held] at holds
    cases holds
    rcases effect with ⟨limit, outcomes, ran⟩ | ⟨index, failure, _, effect⟩ | effect
    · rw [processImportRows, stale] at ran
      exact (Prod.mk.inj (Except.ok.inj ran)).2.symm
    · rw [effect, failNextPendingRow, stale]
    · rw [effect, completeBatch, stale]

theorem reconfirmed {adminId : AdminId} {previewId : Uuid} {allowUpdate : Bool} {clientNow : Nat}
    {db next : Database}
    (done : confirmImport adminId previewId allowUpdate clientNow db = .ok next) {id : BatchId} {batch : ImportBatch}
    (found : db.batches id = some batch) (other : batch.status ≠ .preview) : next.batches id = some batch := by
  cases confirmImport_ok done with
  | inl same => rw [same, found]
  | inr written =>
      obtain ⟨chosen, before, present, preview, same⟩ := written
      rw [same]
      by_cases here : id = chosen
      · subst here
        rw [found] at present
        cases present
        exact absurd preview other
      · exact (Function.update_of_ne here ..).trans found

theorem stepSafe (inv : Inv server t) (explained : Explained server s labels t) (taken : Step server t label u) :
    StepSafe server s labels t label u where
  rows := by
    intro id before after found there row member settled present same
    have batch := inv.db.batches id before found
    cases rowStep_of_rowsStep batch (rows_step inv taken found there) member present same with
    | kept => exact Or.inl rfl
    | @settled worker answer claim limit verdict advance held here ran chosen decided =>
        refine Or.inr ⟨(selected_mem chosen).2, worker, claim, here, held_by ran.1 advance held,
          Or.inl ⟨?_, ?_, limit, ran, chosen⟩⟩
        · cases verdict <;> exact nofun
        · cases verdict <;> exact nofun
    | @failed worker answer claim index failure advance at_work here current first effect =>
        have pending := (mem_pendingInOrder.mp (List.mem_of_mem_head? first)).2
        have held : (t.workers worker).claim = some claim := by
          rw [at_work]
          rfl
        subst here
        rw [effect] at there ⊢
        exact Or.inr ⟨pending, worker, claim, rfl, held_by current advance held, Or.inr ⟨rfl, failed_frame,
          failed_count current first there, failure,
            explained worker claim index failure before row at_work current first⟩⟩
  inventory := by
    cases step_change taken with
    | inl same =>
        rw [same]
        exact Or.inl (.refl _)
    | inr changed =>
        obtain ⟨actor, changed, acts⟩ := changed
        rcases change_frame changed with untouched | ⟨claim, limit, batch, acting, ran⟩ | ⟨other, written⟩
        · exact Or.inl untouched
        · obtain ⟨worker, answer, advance, held⟩ := acts claim acting
          exact Or.inr (Or.inl ⟨worker, claim, batch, limit, held_by ran.1 advance held, ran⟩)
        · obtain ⟨batches, _, _, events⟩ := inventoryStep_frame written
          exact Or.inr (Or.inr ⟨other, written, batches, events⟩)
  stale := by
    intro worker answer claim advance held stale
    subst advance
    exact stale_advance taken held stale
  reconfirmed := by
    intro adminId previewId allowUpdate clientNow confirm id batch found other
    subst confirm
    obtain ⟨next, done, same⟩ := Option.map_eq_some_iff.mp taken
    subst same
    cases ran : confirmImport adminId previewId allowUpdate clientNow t.db with
    | error =>
        rw [ran] at done
        cases done
    | ok written =>
        rw [ran] at done
        cases done
        exact reconfirmed ran found other

/-- Over any number of workers and any order of steps, a lease is what lets a worker settle rows, each at most
once. -/
theorem lease_safety (start : Initial server s) (run : Run (Step server) s labels t) :
    (∀ one other, hasStatus t.db .processing one = true → hasStatus t.db .processing other = true → one = other) ∧
    WritesOnce t.db ∧
    (∀ label u, Step server t label u → StepSafe server s labels t label u) ∧
    ∀ later u, Run (Step server) t later u → GoesOn t u := by
  have inv := inv_run run start.inv
  refine ⟨inv.db.alone, writesOnce inv.db, ?_, ?_⟩
  · intro label u taken
    exact stepSafe inv (explained_run start.inv start.workers run) taken
  · intro later u further
    exact goesOn_run inv further

section Import

/-- The worker that claimed three lamps first loses its lease. The second one's statement is obstructed by a
session that creates the third lamp, and the event of the second lamp is refused when its row is replayed. -/
def takenOver : List (Label plainText Bool) :=
  [.preview 7 none "preview" [⟨1, .accepted lamp⟩, ⟨2, .accepted secondLamp⟩, ⟨3, .accepted thirdLamp⟩] fun _ => none,
    .confirm 7 "preview" false 5, .claim true "first" .heard, .elapse (31 * second), .claim false "second" .heard,
    .advance false (.obstructed .uniqueViolation),
    .write (.createLightPoint ⟨"VO-3", none, 48, 21, none, none, none, none⟩), .advance false .heard,
    .advance false (.obstructed .checkViolation)]

def twoWorkers : State Bool where
  db := emptyQueue.db
  workers := fun _ => .waiting
  tokens := []

/-- The second worker fails the row that it saw raise an error, and the first one changes nothing any more. -/
theorem takenOver_safe : ∃ s t : State Bool, Run (Step plainText) twoWorkers takenOver s ∧
    Step plainText s (.advance false .heard) t ∧
    (∀ u answer, Step plainText s (.advance true answer) u → u.db = s.db) ∧ WritesOnce s.db ∧
    ∃ batch, t.db.batches 1 = some batch ∧ batch.createdRows = 1 ∧ batch.failedRows = 1 ∧
      ∃ row ∈ batch.rows, row.sourceRowNumber = 2 ∧ row.outcome = .failed ∧ ∃ worker claim failure waiting,
        waiting.sourceRowNumber = 2 ∧ Raised plainText twoWorkers takenOver worker claim failure waiting := by
  have replayed : (takenOver.foldlM (step plainText) twoWorkers).any (fun s : State Bool =>
      s.workers true = .processing ⟨1, "first"⟩ ∧ (currentBatch s.db ⟨1, "first"⟩).isNone = true ∧
      (step plainText s (.advance false .heard)).any (fun t : State Bool => (t.db.batches 1).any fun batch =>
        batch.createdRows = 1 ∧ batch.failedRows = 1 ∧
        (batch.rows.any fun row => row.sourceRowNumber = 2 ∧ row.outcome = .failed) = true) ∧
      ((s.db.batches 1).any fun batch => batch.rows.any fun row =>
        row.sourceRowNumber = 2 ∧ row.outcome = .pending) = true) = true := by
    decide +kernel
  obtain ⟨s, folded, reached⟩ := (Option.any_eq_true ..).mp replayed
  obtain ⟨at_work, stale, next, waits⟩ := of_decide_eq_true reached
  obtain ⟨t, taken, next⟩ := (Option.any_eq_true ..).mp next
  obtain ⟨batch, there, next⟩ := (Option.any_eq_true ..).mp next
  obtain ⟨created, failed, next⟩ := of_decide_eq_true next
  obtain ⟨settled, present, next⟩ := List.any_eq_true.mp next
  obtain ⟨number, outcome⟩ := of_decide_eq_true next
  obtain ⟨before, found, waits⟩ := (Option.any_eq_true ..).mp waits
  obtain ⟨row, member, waits⟩ := List.any_eq_true.mp waits
  obtain ⟨here, pending⟩ := of_decide_eq_true waits
  have start : Initial plainText twoWorkers := ⟨fun _ => rfl, nofun, nofun, by decide, fun _ => rfl⟩
  have run : Run (Step plainText) twoWorkers takenOver s := .of_foldlM folded
  obtain ⟨_, once, safe, _⟩ := lease_safety start run
  refine ⟨s, t, run, taken, fun u answer taken => ?_, once, batch, there, created, failed, settled, present, number,
    outcome, ?_⟩
  · exact (safe _ u taken).stale true answer ⟨1, "first"⟩ rfl (by rw [at_work]; rfl)
      (Option.isNone_iff_eq_none.mp stale)
  · rcases (safe _ t taken).rows 1 before batch found there row member settled present (number.trans here.symm) with
      same | ⟨_, worker, claim, _, _, ⟨_, other, _⟩ | ⟨_, _, _, failure, raised⟩⟩
    · rw [← same, outcome] at pending
      cases pending
    · exact absurd outcome other
    · exact ⟨worker, claim, failure, row, here, raised⟩

end Import

end Safety

end PublicLighting.ImportQueue
