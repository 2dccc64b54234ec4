import PublicLighting.ImportQueue.Invariant

/-! Whole runs of the import queue: batches stay accounted for, and only the holder of a lease changes one. -/

namespace PublicLighting.ImportQueue

open Inventory Foundations

variable {server : ServerText} {WorkerId : Type} [DecidableEq WorkerId] {s t : State WorkerId}

section Claims

variable {worker : WorkerId} {answer : Answer}

theorem query_worker {effect : Except (List SqlState) (List RowOutcome × Database)} {obstructions : List SqlState}
    {next : List RowOutcome → Worker} {caught : SafeFailure → Worker}
    (taken : s.query worker answer effect obstructions next caught = some t) :
    t.tokens = s.tokens ∧ ∃ after, t.workers = Function.update s.workers worker after ∧
      (after = .waiting ∨ (∃ outcomes, after = next outcomes) ∨ ∃ failure, after = caught failure) := by
  rcases query_cases taken with ⟨outcomes, _, _, _, rfl⟩ | ⟨_, _, _, _, rfl⟩ | ⟨_, rfl⟩ | ⟨state, _, rfl⟩
  · exact ⟨rfl, _, rfl, Or.inr (Or.inl ⟨outcomes, rfl⟩)⟩
  · exact ⟨rfl, _, rfl, Or.inl rfl⟩
  · exact ⟨rfl, _, rfl, Or.inl rfl⟩
  · refine ⟨rfl, _, rfl, ?_⟩
    cases safeFailure state with
    | none => exact Or.inl rfl
    | some failure => exact Or.inr (Or.inr ⟨failure, rfl⟩)

theorem claim_afterReplay (claim : Claim) (index : Nat) : (afterReplay claim index).claim = some claim := by
  unfold afterReplay
  split <;> rfl

theorem advance_claim (taken : advance server s worker answer = some t) :
    t.tokens = s.tokens ∧ ∃ after, t.workers = Function.update s.workers worker after ∧
      (after.claim = none ∨ after.claim = (s.workers worker).claim) := by
  unfold advance at taken
  cases at_work : s.workers worker with
  | waiting =>
      rw [at_work] at taken
      cases taken
  | processing claim =>
      rw [at_work] at taken
      obtain ⟨same, after, moved, shape⟩ := query_worker taken
      refine ⟨same, after, moved, ?_⟩
      rcases shape with rfl | ⟨outcomes, rfl⟩ | ⟨failure, rfl⟩
      · exact Or.inl rfl
      · split <;> exact Or.inr rfl
      · exact Or.inr rfl
  | replaying claim index =>
      rw [at_work] at taken
      obtain ⟨same, after, moved, shape⟩ := query_worker taken
      refine ⟨same, after, moved, ?_⟩
      rcases shape with rfl | ⟨outcomes, rfl⟩ | ⟨failure, rfl⟩
      · exact Or.inl rfl
      · split
        · exact Or.inr rfl
        · exact Or.inr (claim_afterReplay claim index)
      · exact Or.inr rfl
  | failing claim index failure =>
      rw [at_work] at taken
      obtain ⟨same, after, moved, shape⟩ := query_worker taken
      refine ⟨same, after, moved, ?_⟩
      rcases shape with rfl | ⟨_, rfl⟩ | ⟨_, rfl⟩
      · exact Or.inl rfl
      · exact Or.inr (claim_afterReplay claim index)
      · exact Or.inl rfl
  | completing claim =>
      rw [at_work] at taken
      obtain ⟨same, after, moved, shape⟩ := query_worker taken
      refine ⟨same, after, moved, ?_⟩
      rcases shape with rfl | ⟨_, rfl⟩ | ⟨_, rfl⟩ <;> exact Or.inl rfl

theorem claimBatch_token {token : Uuid} {db : Database} {claim : Claim}
    (claimed : (claimBatch token db).1 = some claim) :
    claim.token = token := by
  cases claimBatch_cases token db with
  | inl same =>
      rw [same] at claimed
      cases claimed
  | inr done =>
      obtain ⟨id, batch, _, _, same⟩ := done
      rw [same] at claimed
      cases claimed
      rfl

theorem step_claims {label : Label server WorkerId} (taken : Step server s label t) :
    (∀ token ∈ s.tokens, token ∈ t.tokens) ∧ ∀ worker claim, (t.workers worker).claim = some claim →
      (s.workers worker).claim = some claim ∨ claim.token ∉ s.tokens ∧ claim.token ∈ t.tokens ∧
        ∀ other, other ≠ worker → t.workers other = s.workers other := by
  have still : t.tokens = s.tokens → t.workers = s.workers → (∀ token ∈ s.tokens, token ∈ t.tokens) ∧
      ∀ worker claim, (t.workers worker).claim = some claim →
        (s.workers worker).claim = some claim ∨ claim.token ∉ s.tokens ∧ claim.token ∈ t.tokens ∧
          ∀ other, other ≠ worker → t.workers other = s.workers other := by
    intro tokens workers
    rw [tokens, workers]
    exact ⟨fun _ => id, fun _ _ => Or.inl⟩
  unfold Step at taken
  cases label with
  | elapse time =>
      cases taken
      exact still rfl rfl
  | cleanup =>
      cases taken
      exact still rfl rfl
  | preview =>
      obtain ⟨_, _, rfl⟩ := Option.map_eq_some_iff.mp taken
      exact still rfl rfl
  | confirm =>
      obtain ⟨_, _, rfl⟩ := Option.map_eq_some_iff.mp taken
      exact still rfl rfl
  | claim worker token answer =>
      simp only [step] at taken
      split at taken
      · rename_i ready
        obtain ⟨tokens, after, moved, shape⟩ := query_worker taken
        rw [tokens, moved]
        refine ⟨fun _ => List.mem_cons_of_mem _, fun other claim held => ?_⟩
        by_cases here : other = worker
        · subst here
          rw [Function.update_self] at held
          right
          have own : claim.token = token := by
            rcases shape with rfl | ⟨_, rfl⟩ | ⟨_, rfl⟩
            · cases held
            · cases got : (claimBatch token s.db).1 with
              | none =>
                  rw [got] at held
                  cases held
              | some claimed =>
                  rw [got] at held
                  cases held
                  exact claimBatch_token got
            · cases held
          rw [own]
          exact ⟨ready.2, List.mem_cons_self, fun rival different => Function.update_of_ne different ..⟩
        · rw [Function.update_of_ne here] at held
          exact Or.inl held
      · cases taken
  | advance worker answer =>
      obtain ⟨tokens, after, moved, shape⟩ := advance_claim taken
      rw [tokens, moved]
      refine ⟨fun _ => id, fun other claim held => Or.inl ?_⟩
      by_cases here : other = worker
      · subst here
        rw [Function.update_self] at held
        cases shape with
        | inl none =>
            rw [none] at held
            cases held
        | inr same => rwa [same] at held
      · rwa [Function.update_of_ne here] at held
  | crash worker =>
      cases taken
      refine ⟨fun _ => id, fun other claim held => Or.inl ?_⟩
      by_cases here : other = worker
      · subst here
        simp [State.setWorker, Worker.claim] at held
      · simpa [State.setWorker, Function.update_of_ne here] using held
  | write =>
      obtain ⟨_, _, rfl⟩ := Option.map_eq_some_iff.mp taken
      exact still rfl rfl

end Claims

/-- What holds in every state that the queue reaches. -/
structure Inv (server : ServerText) (s : State WorkerId) : Prop where
  db : DbInv server s.db
  drawn : ∀ id batch token, s.db.batches id = some batch → batch.workerToken = some token → token ∈ s.tokens
  held : ∀ worker claim, (s.workers worker).claim = some claim → claim.token ∈ s.tokens
  own : ∀ one other claim rival, (s.workers one).claim = some claim → (s.workers other).claim = some rival →
    claim.token = rival.token → one = other

omit [DecidableEq WorkerId] in
theorem Initial.inv (start : Initial server s) : Inv server s where
  db := {
    points := ⟨start.ids, start.keyed⟩
    fresh := fun id _ => start.batches id
    batches := fun id batch found => by
      rw [start.batches id] at found
      cases found
    alone := fun id other here => by
      rw [hasStatus, start.batches id] at here
      cases here
    referenced := start.auditEvents
    audited := fun id batch found => by
      rw [start.batches id] at found
      cases found }
  drawn := fun id batch token found => by
    rw [start.batches id] at found
    cases found
  held := fun worker claim held => by
    rw [start.workers worker] at held
    cases held
  own := fun one other claim rival held => by
    rw [start.workers one] at held
    cases held

theorem token_step {drawn : Uuid → Prop} {db next : Database} {id : BatchId} {actor : Option Claim}
    {before : Option ImportBatch} {after : ImportBatch} {token : Uuid}
    (taken : BatchStep server drawn db next id actor before (some after)) (held : after.workerToken = some token) :
    (∃ batch, before = some batch ∧ batch.workerToken = some token) ∨ drawn token := by
  cases taken with
  | kept => exact Or.inl ⟨after, rfl, held⟩
  | staged => cases held
  | @confirmed batch => exact Or.inl ⟨batch, rfl, held⟩
  | requeued batch =>
      unfold requeued at held
      split at held
      · cases held
      · exact Or.inl ⟨batch, rfl, held⟩
  | claimed queued new =>
      cases held
      exact Or.inr new
  | processed => exact Or.inl ⟨_, rfl, held⟩
  | @failed _ batch => exact Or.inl ⟨batch, rfl, held⟩
  | completed => cases held

theorem inv_step {label : Label server WorkerId} (inv : Inv server s) (taken : Step server s label t) :
    Inv server t := by
  obtain ⟨more, claims⟩ := step_claims taken
  refine ⟨?_, ?_, ?_, ?_⟩
  · cases step_change taken with
    | inl same =>
        rw [same]
        exact inv.db
    | inr changed =>
        obtain ⟨actor, changed, _⟩ := changed
        exact dbInv_change inv.db changed
  · intro id batch token found held
    cases step_change taken with
    | inl same =>
        rw [same] at found
        exact more token (inv.drawn id batch token found held)
    | inr changed =>
        obtain ⟨actor, changed, _⟩ := changed
        have here := change_step changed inv.db.fresh id
        rw [found] at here
        cases token_step here held with
        | inl before =>
            obtain ⟨before, present, held⟩ := before
            exact more token (inv.drawn id before token present held)
        | inr new => exact new.2
  · intro worker claim held
    cases claims worker claim held with
    | inl before => exact more _ (inv.held worker claim before)
    | inr new => exact new.2.1
  · intro one other claim rival mine yours same
    by_contra different
    rcases claims one claim mine with before | ⟨new, _, others⟩
    · rcases claims other rival yours with held | ⟨new, _, others⟩
      · exact different (inv.own one other claim rival before held same)
      · exact new (same ▸ inv.held one claim before)
    · rw [others other fun clash => different clash.symm] at yours
      exact new (same ▸ inv.held other rival yours)

theorem inv_run {labels : List (Label server WorkerId)} (run : Run (Step server) s labels t) (inv : Inv server s) :
    Inv server t := run.invariant (fun _ _ _ => inv_step) inv

/-- The account of a confirmed batch. -/
structure Balanced (batch : ImportBatch) : Prop where
  created : batch.createdRows = countOutcome batch.rows .created
  updated : batch.updatedRows = countOutcome batch.rows .updated
  unchanged : batch.unchangedRows = countOutcome batch.rows .unchanged
  skipped : batch.skippedRows = countOutcome batch.rows .skipped
  failed : batch.failedRows = countOutcome batch.rows .failed
  total : batch.createdRows + batch.updatedRows + batch.unchangedRows + batch.skippedRows + batch.failedRows +
    countOutcome batch.rows .pending = batch.totalRows
  applied : batch.appliedRows = batch.createdRows + batch.updatedRows
  successful : batch.successfulRows = batch.createdRows + batch.updatedRows + batch.unchangedRows
  payloads : ∀ row ∈ batch.rows, row.payload.isSome = true ↔ row.outcome = .pending
  completed : batch.status = .completed → countOutcome batch.rows .pending = 0 ∧ countOutcome batch.rows .failed = 0
  completedWithErrors : batch.status = .completedWithErrors →
    countOutcome batch.rows .pending = 0 ∧ 0 < countOutcome batch.rows .failed

/-- In every state that the queue reaches, the counters of a confirmed batch are those of its rows. -/
theorem confirmed_batches_balanced {labels : List (Label server WorkerId)} (start : Initial server s)
    (run : Run (Step server) s labels t) {id : BatchId} {batch : ImportBatch} (found : t.db.batches id = some batch)
    (confirmed : batch.status ≠ .preview) : Balanced batch := by
  have inv := (inv_run run start.inv).db.batches id batch found
  have account := inv.accounted confirmed
  refine ⟨account.created, account.updated, account.unchanged, account.skipped, account.failed, ?_, account.applied,
    account.successful, fun row member => (inv.rows.pending row member).symm, ?_, ?_⟩
  · rw [inv.total, length_eq_outcomes, account.created, account.updated, account.unchanged, account.skipped,
      account.failed]
  · intro status
    obtain ⟨clean, none⟩ := inv.completed status
    exact ⟨none, account.failed ▸ clean⟩
  · intro status
    obtain ⟨errors, none⟩ := inv.completedWithErrors status
    exact ⟨none, account.failed ▸ errors⟩

section Import

def emptyQueue : State Unit where
  db := ⟨0, fun _ => none, 1, fun _ => none, 1, []⟩
  workers := fun _ => .waiting
  tokens := []

theorem status_unmentioned (mentioned : "status" ∈ ["inventory_number", "latitude", "longitude"]) :
    (none : Option LightPointStatus).isSome = true :=
  absurd mentioned (by decide)

def lamp : ParsedPayload plainText where
  payload := {
    inventoryNumber := "VO-1"
    externalId := none
    latitude := 48
    longitude := 21
    address := none
    district := none
    lampType := none
    status := none
    present := ["inventory_number", "latitude", "longitude"]
    statusGiven := status_unmentioned }
  canonical := by decide +kernel
  inRange := by decide +kernel
  listed := by decide

theorem emptyQueue_initial : Initial plainText emptyQueue :=
  ⟨fun _ => rfl, nofun, nofun, by decide, fun _ => rfl⟩

def secondLamp : ParsedPayload plainText where
  payload := { lamp.payload with inventoryNumber := "VO-2" }
  canonical := by decide +kernel
  inRange := lamp.inRange
  listed := lamp.listed

def thirdLamp : ParsedPayload plainText where
  payload := { lamp.payload with inventoryNumber := "VO-3" }
  canonical := by decide +kernel
  inRange := lamp.inRange
  listed := lamp.listed

/-- Two lamps, of which the audit table refuses the event of the second: the whole statement fails, the rows are
replayed one by one, and the second is failed by the worker. -/
def refusedLamp : List (Label plainText Unit) :=
  [.preview 7 none "preview" [⟨1, .accepted lamp⟩, ⟨2, .accepted secondLamp⟩,
      ⟨3, .refused "" "missing_inventory_number" "Missing inventory number"⟩] fun _ => none,
    .confirm 7 "preview" false 5, .elapse 3, .claim () "token" .heard, .advance () (.obstructed .checkViolation),
    .advance () .heard, .advance () (.obstructed .checkViolation), .advance () .heard, .advance () .heard,
    .advance () .heard, .advance () .heard]

/-- One row is failed by the preview and one by the worker. -/
theorem refusedLamp_balanced : ∃ (s : State Unit) (batch : ImportBatch), s.db.batches 1 = some batch ∧
    batch.status = .completedWithErrors ∧ batch.createdRows = 1 ∧ batch.failedRows = 2 ∧
    (batch.rows.any fun row => row.previewAction = .create ∧ row.outcome = .failed) = true ∧ Balanced batch := by
  have replayed : (refusedLamp.foldlM (step plainText) emptyQueue).any (fun s : State Unit =>
      (s.db.batches 1).any fun batch => batch.status = .completedWithErrors ∧ batch.createdRows = 1 ∧
        batch.failedRows = 2 ∧
        (batch.rows.any fun row => row.previewAction = .create ∧ row.outcome = .failed) = true) = true := by
    decide +kernel
  obtain ⟨s, folded, reached⟩ := (Option.any_eq_true ..).mp replayed
  obtain ⟨batch, found, status⟩ := (Option.any_eq_true ..).mp reached
  obtain ⟨status, created, failed, byWorker⟩ := of_decide_eq_true status
  exact ⟨s, batch, found, status, created, failed, byWorker,
    confirmed_batches_balanced emptyQueue_initial (.of_foldlM folded) found (by rw [status]; exact nofun)⟩

end Import

end PublicLighting.ImportQueue
