import PublicLighting.Foundations.Updates
import PublicLighting.ImportQueue.BatchSteps

/-! The counters of a batch and the outcomes of its rows. -/

namespace PublicLighting.ImportQueue

open Inventory Foundations
open scoped List

section Counts

variable {rows chosen : List ImportBatchRow} {change : ImportBatchRow → ImportBatchRow} {outcome : RowOutcome}

theorem countOutcome_map (distinct : rows.Nodup) (once : chosen.Nodup)
    (among : ∀ row ∈ chosen, row ∈ rows ∧ row.outcome ≠ outcome)
    (same : ∀ row ∈ rows, row ∉ chosen → (change row).outcome = row.outcome) :
    countOutcome (rows.map change) outcome =
      countOutcome rows outcome + chosen.countP fun row => (change row).outcome = outcome := by
  apply countP_map_chosen distinct once
  · exact fun row member => ⟨(among row member).1, decide_eq_false (among row member).2⟩
  · intro row member other
    rw [same row member other]

theorem length_eq_outcomes (rows : List ImportBatchRow) :
    rows.length = countOutcome rows .created + countOutcome rows .updated + countOutcome rows .unchanged +
      countOutcome rows .skipped + countOutcome rows .failed + countOutcome rows .pending := by
  unfold countOutcome
  induction rows with
  | nil => rfl
  | cons row rows ih =>
      simp only [List.length_cons, List.countP_cons, ih]
      cases row.outcome <;> simp <;> omega

end Counts

section Selected

variable {batch : ImportBatch} {limit : Nat} {row : ImportBatchRow}

theorem mem_pendingInOrder {rows : List ImportBatchRow} :
    row ∈ pendingInOrder rows ↔ row ∈ rows ∧ row.outcome = .pending := by
  simp [pendingInOrder]

theorem selected_mem (member : row ∈ selected batch limit) : row ∈ batch.rows ∧ row.outcome = .pending :=
  mem_pendingInOrder.mp (List.mem_of_mem_take member)

theorem selected_nodup (distinct : batch.rows.Nodup) : (selected batch limit).Nodup := by
  apply List.Nodup.sublist (List.take_sublist ..)
  exact (List.perm_insertionSort _ _).nodup_iff.mpr (distinct.filter _)

theorem violations_nil {verdictOf : ImportBatchRow → Except SqlState Verdict} {rows : List ImportBatchRow}
    (clean : violations verdictOf rows = []) :
    (∀ row ∈ rows, ∃ verdict, verdictOf row = .ok verdict) ∧
      ((verdicts verdictOf rows).filterMap (·.createdNumber)).Nodup := by
  obtain ⟨none, distinct⟩ := List.append_eq_nil_iff.mp clean
  constructor
  · intro row member
    have here := List.filterMap_eq_nil_iff.mp none row member
    cases decided : verdictOf row with
    | ok verdict => exact ⟨verdict, rfl⟩
    | error => simp [decided] at here
  · by_contra clash
    simp [clash] at distinct

theorem countVerdicts_eq {verdictOf : ImportBatchRow → Except SqlState Verdict} {rows : List ImportBatchRow}
    {outcome : RowOutcome} : countVerdicts (verdicts verdictOf rows) outcome =
      rows.countP fun row => (verdictOf row).toOption.any (·.outcome = outcome) := by
  unfold countVerdicts verdicts
  rw [List.countP_filterMap]
  apply List.countP_congr
  intro row _
  cases verdictOf row <;> simp [Except.toOption]

end Selected

section Settled

variable {lightPoints : Inventory} {verdictOf : ImportBatchRow → Except SqlState Verdict}
variable {rows chosen : List ImportBatchRow}

theorem settle_other {row : ImportBatchRow} (other : row ∉ chosen) :
    settle lightPoints verdictOf chosen row = row := by
  unfold settle
  split
  · exact if_neg other
  · rfl

theorem settle_chosen {row : ImportBatchRow} {verdict : Verdict} (decided : verdictOf row = .ok verdict)
    (member : row ∈ chosen) : settle lightPoints verdictOf chosen row = settleRow lightPoints verdict row := by
  simp [settle, decided, member]

theorem countOutcome_settled {outcome : RowOutcome} (distinct : rows.Nodup) (once : chosen.Nodup)
    (among : ∀ row ∈ chosen, row ∈ rows ∧ row.outcome = .pending) (clean : violations verdictOf chosen = [])
    (left : outcome ≠ .pending) :
    countOutcome (rows.map (settle lightPoints verdictOf chosen)) outcome =
      countOutcome rows outcome + countVerdicts (verdicts verdictOf chosen) outcome := by
  have counted := @countOutcome_map rows chosen (settle lightPoints verdictOf chosen) outcome distinct once
    (fun row member => ⟨(among row member).1, by rw [(among row member).2]; exact left.symm⟩)
    fun row _ other => by rw [settle_other other]
  rw [countVerdicts_eq]
  refine counted.trans (congrArg _ (List.countP_congr fun row member => ?_))
  obtain ⟨verdict, decided⟩ := (violations_nil clean).1 row member
  rw [settle_chosen decided member, decided]
  simp [settleRow, Except.toOption]

theorem countVerdicts_failed (verdicts : List Verdict) : countVerdicts verdicts .failed = 0 := by
  unfold countVerdicts
  rw [List.countP_eq_zero]
  intro verdict _
  cases verdict <;> simp [Verdict.outcome]

end Settled

structure Accounted (batch : ImportBatch) : Prop where
  created : batch.createdRows = countOutcome batch.rows .created
  updated : batch.updatedRows = countOutcome batch.rows .updated
  unchanged : batch.unchangedRows = countOutcome batch.rows .unchanged
  skipped : batch.skippedRows = countOutcome batch.rows .skipped
  failed : batch.failedRows = countOutcome batch.rows .failed
  applied : batch.appliedRows = batch.createdRows + batch.updatedRows
  successful : batch.successfulRows = batch.createdRows + batch.updatedRows + batch.unchangedRows

def Staged (server : ServerText) (inventoryNumber : Option String) (payload : ImportPayload) : Prop :=
  inventoryNumber = some payload.inventoryNumber ∧ ∃ parsed : ParsedPayload server, parsed.payload = payload

def Chosen (row : ImportBatchRow) : Prop := row.previewAction = .create ∨ row.previewAction = .update

structure RowsInv (server : ServerText) (rows : List ImportBatchRow) : Prop where
  distinct : (rows.map (·.sourceRowNumber)).Nodup
  pending : ∀ row ∈ rows, row.outcome = .pending ↔ row.payload.isSome = true
  staged : ∀ row ∈ rows, ∀ payload, row.payload = some payload → Staged server row.inventoryNumber payload
  chosen : ∀ row ∈ rows, row.outcome ≠ .skipped → row.outcome ≠ .failed → Chosen row
  numbers : ∀ row ∈ rows, ∀ other ∈ rows, Chosen row → Chosen other →
    row.inventoryNumber = other.inventoryNumber → row = other

structure BatchInv (server : ServerText) (batch : ImportBatch) : Prop where
  rows : RowsInv server batch.rows
  total : batch.totalRows = batch.rows.length
  preview : batch.status = .preview → ∀ row ∈ batch.rows,
    row.outcome = .pending ∨ row.outcome = .skipped ∨ row.outcome = .failed
  accounted : batch.status ≠ .preview → Accounted batch
  completed : batch.status = .completed → batch.failedRows = 0 ∧ countOutcome batch.rows .pending = 0
  completedWithErrors : batch.status = .completedWithErrors →
    0 < batch.failedRows ∧ countOutcome batch.rows .pending = 0
  token : batch.workerToken.isSome = true ↔ batch.status = .processing

section Rows

variable {server : ServerText} {rows : List ImportBatchRow} {change : ImportBatchRow → ImportBatchRow}

theorem RowsInv.nodup (inv : RowsInv server rows) : rows.Nodup := List.Nodup.of_map _ inv.distinct

theorem count_zero {outcome : RowOutcome} (none : ∀ row ∈ rows, row.outcome ≠ outcome) :
    countOutcome rows outcome = 0 := by
  unfold countOutcome
  rw [List.countP_eq_zero]
  intro row member
  simpa using none row member

theorem RowsInv.map (inv : RowsInv server rows)
    (named : ∀ row, (change row).sourceRowNumber = row.sourceRowNumber ∧
      (change row).inventoryNumber = row.inventoryNumber ∧ (change row).previewAction = row.previewAction)
    (settled : ∀ row ∈ rows, change row = row ∨
      row.outcome = .pending ∧ (change row).outcome ≠ .pending ∧ (change row).payload = none) :
    RowsInv server (rows.map change) := by
  have chosen : ∀ row, Chosen (change row) ↔ Chosen row := by
    intro row
    unfold Chosen
    rw [(named row).2.2]
  constructor
  · rw [List.map_map]
    exact (List.map_congr_left fun row _ => (named row).1) ▸ inv.distinct
  · intro row listed
    obtain ⟨before, member, rfl⟩ := List.mem_map.mp listed
    cases settled before member with
    | inl same =>
        rw [same]
        exact inv.pending before member
    | inr other => simp [other.2.1, other.2.2]
  · intro row listed payload held
    obtain ⟨before, member, rfl⟩ := List.mem_map.mp listed
    cases settled before member with
    | inl same =>
        rw [same] at held ⊢
        exact inv.staged before member payload held
    | inr other => simp [other.2.2] at held
  · intro row listed skipped failed
    obtain ⟨before, member, rfl⟩ := List.mem_map.mp listed
    rw [chosen]
    cases settled before member with
    | inl same =>
        rw [same] at skipped failed
        exact inv.chosen before member skipped failed
    | inr other => exact inv.chosen before member (by rw [other.1]; exact nofun) (by rw [other.1]; exact nofun)
  · intro row listed other known mine yours same
    obtain ⟨before, member, rfl⟩ := List.mem_map.mp listed
    obtain ⟨rival, present, rfl⟩ := List.mem_map.mp known
    rw [(named before).2.1, (named rival).2.1] at same
    rw [inv.numbers before member rival present ((chosen before).mp mine) ((chosen rival).mp yours) same]

theorem rowsInv_staged {parsedRows : List (ParsedImportRow server)} {existing : String → Option PointId}
    (distinct : (parsedRows.map (·.rowIndex)).Nodup) : RowsInv server (stageRows parsedRows existing) := by
  rw [stageRows_eq]
  have waits : ∀ row ∈ parsedRows, (stageRow parsedRows existing row).payload.isSome = true ∨
      (stageRow parsedRows existing row).outcome = .pending ∨ Chosen (stageRow parsedRows existing row) →
        ∃ payload, row.payload = some payload ∧ row.rowIndex ∉ duplicateConflicts parsedRows ∧
          row.rowIndex ∉ duplicateSkips parsedRows := by
    intro row member waiting
    by_contra other
    obtain ⟨empty, settled⟩ := @stageRow_other _ parsedRows existing row other
    rcases waiting with held | pending | chosen
    · simp [empty] at held
    · split at settled <;> simp [settled.1] at pending
    · split at settled <;> simp [Chosen, settled.2] at chosen
  constructor
  · rw [List.map_map]
    exact (List.map_congr_left fun row _ => stageRow_number) ▸ distinct
  · intro row listed
    obtain ⟨before, member, rfl⟩ := List.mem_map.mp listed
    constructor
    · intro pending
      obtain ⟨payload, accepted, calm, single⟩ := waits before member (Or.inr (Or.inl pending))
      rw [(stageRow_chosen accepted calm single).2.1]
      rfl
    · intro held
      obtain ⟨payload, accepted, calm, single⟩ := waits before member (Or.inl held)
      exact (stageRow_chosen accepted calm single).1
  · intro row listed payload held
    obtain ⟨before, member, rfl⟩ := List.mem_map.mp listed
    obtain ⟨parsed, accepted, calm, single⟩ := waits before member (Or.inl (by rw [held]; rfl))
    obtain ⟨_, stored, number, _⟩ := @stageRow_chosen _ parsedRows existing before parsed accepted calm single
    rw [stored] at held
    cases held
    exact ⟨number, parsed, rfl⟩
  · intro row listed skipped failed
    obtain ⟨before, member, rfl⟩ := List.mem_map.mp listed
    by_cases here : ∃ payload, before.payload = some payload ∧
        before.rowIndex ∉ duplicateConflicts parsedRows ∧ before.rowIndex ∉ duplicateSkips parsedRows
    · obtain ⟨payload, accepted, calm, single⟩ := here
      rw [Chosen, (stageRow_chosen accepted calm single).2.2.2]
      split
      · exact Or.inr rfl
      · exact Or.inl rfl
    · have settled := (@stageRow_other _ parsedRows existing before here).2
      split at settled
      · exact absurd settled.1 skipped
      · exact absurd settled.1 failed
  · intro row listed other known mine yours same
    obtain ⟨before, member, rfl⟩ := List.mem_map.mp listed
    obtain ⟨rival, present, rfl⟩ := List.mem_map.mp known
    obtain ⟨parsed, accepted, calm, single⟩ := waits before member (Or.inr (Or.inr mine))
    obtain ⟨parsed', accepted', calm', single'⟩ := waits rival present (Or.inr (Or.inr yours))
    rw [(stageRow_chosen accepted calm single).2.2.1, (stageRow_chosen accepted' calm' single').2.2.1] at same
    have number : before.inventoryNumber = rival.inventoryNumber := by
      rw [payload_number accepted, payload_number accepted', Option.some.inj same]
    have first := ((chosen_iff distinct member accepted).mp ⟨calm, single⟩).2
    have second := ((chosen_iff distinct present accepted').mp ⟨calm', single'⟩).2
    rw [number, second] at first
    rw [Option.some.inj first]

end Rows

section Batches

variable {server : ServerText} {db : Database} {batch : ImportBatch} {claim : Claim}

theorem batchInv_staged {adminId : AdminId} {uploaderUsername : Option String} {previewId : Uuid} {now : Nat}
    {parsedRows : List (ParsedImportRow server)} {existing : String → Option PointId}
    (distinct : (parsedRows.map (·.rowIndex)).Nodup) :
    BatchInv server (stagedBatch adminId uploaderUsername previewId now (stageRows parsedRows existing)) where
  rows := rowsInv_staged distinct
  total := rfl
  preview := by
    intro _ row listed
    change row ∈ stageRows parsedRows existing at listed
    rw [stageRows_eq] at listed
    obtain ⟨before, member, rfl⟩ := List.mem_map.mp listed
    by_cases chosen : ∃ payload, before.payload = some payload ∧
        before.rowIndex ∉ duplicateConflicts parsedRows ∧ before.rowIndex ∉ duplicateSkips parsedRows
    · obtain ⟨payload, accepted, calm, single⟩ := chosen
      exact Or.inl (stageRow_chosen accepted calm single).1
    · have settled := (@stageRow_other _ parsedRows existing before chosen).2
      split at settled
      · exact Or.inr (Or.inl settled.1)
      · exact Or.inr (Or.inr settled.1)
  accounted := fun other => absurd rfl other
  completed := nofun
  completedWithErrors := nofun
  token := ⟨nofun, nofun⟩

theorem batchInv_confirmed (inv : BatchInv server batch) (preview : batch.status = .preview) (allowUpdate : Bool)
    (now : Nat) : BatchInv server (confirmed allowUpdate now batch) where
  rows := inv.rows
  total := inv.total
  preview := nofun
  accounted := by
    intro _
    have none : ∀ outcome, ¬ (RowOutcome.pending = outcome ∨ RowOutcome.skipped = outcome ∨
        RowOutcome.failed = outcome) → 0 = countOutcome batch.rows outcome := by
      intro outcome other
      symm
      apply count_zero
      intro row member same
      subst same
      exact other ((inv.preview preview row member).imp Eq.symm (Or.imp Eq.symm Eq.symm))
    exact ⟨none .created (by decide), none .updated (by decide), none .unchanged (by decide), rfl, rfl, rfl, rfl⟩
  completed := nofun
  completedWithErrors := nofun
  token := by
    have idle := inv.token
    rw [preview] at idle
    exact ⟨fun held => absurd (idle.mp held) nofun, nofun⟩

theorem Accounted.requeued {now : Nat} (accounted : Accounted batch) : Accounted (requeued now batch) := by
  unfold ImportQueue.requeued
  split
  · exact ⟨accounted.created, accounted.updated, accounted.unchanged, accounted.skipped, accounted.failed,
      accounted.applied, accounted.successful⟩
  · exact accounted

theorem batchInv_requeued (inv : BatchInv server batch) (now : Nat) : BatchInv server (requeued now batch) := by
  have account : batch.status ≠ .preview → Accounted (requeued now batch) :=
    fun other => (inv.accounted other).requeued
  unfold requeued at account ⊢
  split
  · rename_i ended
    rw [if_pos ended] at account
    exact ⟨inv.rows, inv.total, nofun, fun _ => account (by rw [ended.1]; exact nofun), nofun, nofun, ⟨nofun, nofun⟩⟩
  · exact inv

theorem batchInv_claimed (inv : BatchInv server batch) (queued : batch.status = .queued) (token : Uuid) (now : Nat) :
    BatchInv server (claimed token now batch) where
  rows := inv.rows
  total := inv.total
  preview := nofun
  accounted := by
    intro _
    have account := inv.accounted (by rw [queued]; exact nofun)
    exact ⟨account.created, account.updated, account.unchanged, account.skipped, account.failed,
      account.applied, account.successful⟩
  completed := nofun
  completedWithErrors := nofun
  token := ⟨fun _ => rfl, fun _ => rfl⟩

theorem settle_kept {lightPoints : Inventory} {verdictOf : ImportBatchRow → Except SqlState Verdict}
    {chosen : List ImportBatchRow} (pending : ∀ row ∈ chosen, row.outcome = .pending) (row : ImportBatchRow) :
    settle lightPoints verdictOf chosen row = row ∨
      row.outcome = .pending ∧ (settle lightPoints verdictOf chosen row).outcome ≠ .pending ∧
        (settle lightPoints verdictOf chosen row).payload = none := by
  by_cases member : row ∈ chosen
  · cases decided : verdictOf row with
    | error => exact Or.inl (by simp [settle, decided])
    | ok verdict =>
        right
        rw [settle_chosen decided member]
        refine ⟨pending row member, ?_, rfl⟩
        cases verdict <;> exact nofun
  · exact Or.inl (settle_other member)

theorem settle_named {lightPoints : Inventory} {verdictOf : ImportBatchRow → Except SqlState Verdict}
    {chosen : List ImportBatchRow} (row : ImportBatchRow) :
    (settle lightPoints verdictOf chosen row).sourceRowNumber = row.sourceRowNumber ∧
      (settle lightPoints verdictOf chosen row).inventoryNumber = row.inventoryNumber ∧
      (settle lightPoints verdictOf chosen row).previewAction = row.previewAction := by
  unfold settle
  repeat' split
  all_goals exact ⟨rfl, rfl, rfl⟩

theorem batchInv_processed {limit : Nat} (inv : BatchInv server batch) (processing : batch.status = .processing)
    (clean : violations (verdictOf server db batch) (selected batch limit) = []) (id : BatchId) :
    BatchInv server (processed server db id batch limit) where
  rows := inv.rows.map settle_named fun row _ => settle_kept (fun _ member => (selected_mem member).2) row
  total := by
    rw [show (processed server db id batch limit).totalRows = batch.totalRows from rfl, inv.total]
    exact (List.length_map _).symm
  preview := fun preview => absurd (processing.symm.trans preview) nofun
  accounted := by
    intro _
    have account := inv.accounted (by rw [processing]; exact nofun)
    have counts : ∀ outcome, outcome ≠ .pending →
        countOutcome (processed server db id batch limit).rows outcome = countOutcome batch.rows outcome +
          countVerdicts (verdicts (verdictOf server db batch) (selected batch limit)) outcome :=
      fun outcome left => countOutcome_settled inv.rows.nodup (selected_nodup inv.rows.nodup)
        (fun _ => selected_mem) clean left
    constructor
    · rw [counts .created (by decide), ← account.created]
      rfl
    · rw [counts .updated (by decide), ← account.updated]
      rfl
    · rw [counts .unchanged (by decide), ← account.unchanged]
      rfl
    · rw [counts .skipped (by decide), ← account.skipped]
      rfl
    · rw [counts .failed (by decide), countVerdicts_failed, ← account.failed]
      rfl
    · simp only [processed, counted, account.applied]
      omega
    · simp only [processed, counted, account.successful]
      omega
  completed := fun ended => absurd (processing.symm.trans ended) nofun
  completedWithErrors := fun ended => absurd (processing.symm.trans ended) nofun
  token := inv.token

theorem batchInv_failed {row : ImportBatchRow} (inv : BatchInv server batch)
    (processing : batch.status = .processing)
    (first : (pendingInOrder batch.rows).head? = some row) (failure : SafeFailure) (now : Nat) :
    BatchInv server (failedBatch failure now row batch) where
  rows := by
    apply inv.rows.map
    · intro other
      split <;> exact ⟨rfl, rfl, rfl⟩
    · intro other member
      split
      · rename_i same
        have pending := (mem_pendingInOrder.mp (List.mem_of_mem_head? first)).2
        exact Or.inr ⟨same ▸ pending, nofun, rfl⟩
      · exact Or.inl rfl
  total := by
    rw [show (failedBatch failure now row batch).totalRows = batch.totalRows from rfl, inv.total]
    exact (List.length_map _).symm
  preview := fun preview => absurd (processing.symm.trans preview) nofun
  accounted := by
    intro _
    have account := inv.accounted (by rw [processing]; exact nofun)
    have pending := mem_pendingInOrder.mp (List.mem_of_mem_head? first)
    have counts : ∀ outcome, outcome ≠ .pending →
        countOutcome (failedBatch failure now row batch).rows outcome = countOutcome batch.rows outcome +
          if RowOutcome.failed = outcome then 1 else 0 := by
      intro outcome left
      refine (@countOutcome_map batch.rows [row] _ outcome inv.rows.nodup (List.nodup_singleton _) ?_ ?_).trans ?_
      · intro other member
        rw [List.mem_singleton] at member
        subst member
        exact ⟨pending.1, by rw [pending.2]; exact left.symm⟩
      · intro other _ different
        rw [if_neg fun same => different (List.mem_singleton.mpr same)]
      · simp [failRow, List.countP_cons]
    constructor
    · rw [counts .created (by decide), ← account.created]
      rfl
    · rw [counts .updated (by decide), ← account.updated]
      rfl
    · rw [counts .unchanged (by decide), ← account.unchanged]
      rfl
    · rw [counts .skipped (by decide), ← account.skipped]
      rfl
    · rw [counts .failed (by decide), ← account.failed]
      rfl
    · exact account.applied
    · exact account.successful
  completed := fun ended => absurd (processing.symm.trans ended) nofun
  completedWithErrors := fun ended => absurd (processing.symm.trans ended) nofun
  token := inv.token

theorem batchInv_completed (inv : BatchInv server batch) (processing : batch.status = .processing)
    (done : pendingInOrder batch.rows = []) (now : Nat) : BatchInv server (completedBatch now batch) := by
  have account := inv.accounted (by rw [processing]; exact nofun)
  have none : countOutcome batch.rows .pending = 0 := by
    apply count_zero
    intro row member pending
    have listed := mem_pendingInOrder.mpr ⟨member, pending⟩
    rw [done] at listed
    cases listed
  unfold completedBatch
  refine ⟨inv.rows, inv.total, ?_, ?_, ?_, ?_, ?_⟩
  · dsimp only
    split <;> exact nofun
  · exact fun _ => ⟨account.created, account.updated, account.unchanged, account.skipped, account.failed,
      account.applied, account.successful⟩
  · dsimp only
    split
    · exact nofun
    · rename_i clean
      exact fun _ => ⟨Nat.eq_zero_of_not_pos clean, none⟩
  · dsimp only
    split
    · rename_i errors
      exact fun _ => ⟨errors, none⟩
    · exact nofun
  · dsimp only
    split <;> exact ⟨nofun, nofun⟩

end Batches

end PublicLighting.ImportQueue
