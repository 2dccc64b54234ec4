import PublicLighting.ImportQueue.QueueSafety

/-! The life of an upload over whole runs of the queue, from its preview to its end. -/

namespace PublicLighting.ImportQueue

open Inventory Foundations

variable {server : ServerText} {WorkerId : Type} [DecidableEq WorkerId] {s t u : State WorkerId}

def BatchStatus.IsFinal (status : BatchStatus) : Prop := status = .completed ∨ status = .completedWithErrors

def rowNames (batch : ImportBatch) : List (Nat × Option String × PreviewAction) :=
  batch.rows.map fun row => (row.sourceRowNumber, row.inventoryNumber, row.previewAction)

structure Later (before after : ImportBatch) : Prop where
  uploader : after.uploadedByAdminId = before.uploadedByAdminId ∧
    after.uploadedByUsernameSnapshot = before.uploadedByUsernameSnapshot
  key : after.confirmationKey = before.confirmationKey
  total : after.totalRows = before.totalRows
  names : rowNames after = rowNames before
  settled : ∀ row ∈ before.rows, row.outcome ≠ .pending → row ∈ after.rows
  -- A preview changes by its confirmation only, and a confirmed upload is never a preview again.
  waiting : after.status = .preview → after = before
  choice : before.status ≠ .preview → after.updateExisting = before.updateExisting ∧ after.queuedAt = before.queuedAt
  started : ∀ time, before.startedAt = some time → after.startedAt = some time
  attempts : before.attemptCount ≤ after.attemptCount
  final : before.status.IsFinal → after = before

structure Phase (batch : ImportBatch) : Prop where
  preview : batch.status = .preview → batch.updateExisting = false ∧ batch.previewExpiresAt.isSome = true ∧
    batch.attemptCount = 0
  queued : batch.queuedAt.isSome = true ↔ batch.status ≠ .preview
  started : batch.startedAt.isSome = true ↔ 0 < batch.attemptCount
  attempted : batch.status = .processing ∨ batch.status.IsFinal → 0 < batch.attemptCount
  leased : batch.leaseUntil.isSome = true ↔ batch.status = .processing
  final : batch.completedAt.isSome = true ↔ batch.status.IsFinal

section Steps

variable {drawn : Uuid → Prop} {db next : Database} {id : BatchId} {actor : Option Claim}
  {before after batch : ImportBatch}

theorem Later.refl (batch : ImportBatch) : Later batch batch :=
  ⟨⟨rfl, rfl⟩, rfl, rfl, rfl, fun _ member _ => member, fun _ => rfl, fun _ => ⟨rfl, rfl⟩, fun _ same => same,
    Nat.le_refl _, fun _ => rfl⟩

theorem Later.confirmed (later : Later before after) (confirmed : before.status ≠ .preview) :
    after.status ≠ .preview := by
  intro preview
  exact confirmed (later.waiting preview ▸ preview)

theorem Later.trans {middle : ImportBatch} (first : Later before middle) (second : Later middle after) :
    Later before after where
  uploader := ⟨second.uploader.1.trans first.uploader.1, second.uploader.2.trans first.uploader.2⟩
  key := second.key.trans first.key
  total := second.total.trans first.total
  names := second.names.trans first.names
  settled := fun row member other => second.settled row (first.settled row member other) other
  waiting := by
    intro preview
    have same := second.waiting preview
    exact same.trans (first.waiting (same ▸ preview))
  choice := by
    intro confirmed
    have early := first.choice confirmed
    have late := second.choice (first.confirmed confirmed)
    exact ⟨late.1.trans early.1, late.2.trans early.2⟩
  started := fun time known => second.started time (first.started time known)
  attempts := Nat.le_trans first.attempts second.attempts
  final := by
    intro ended
    have same := first.final ended
    rw [second.final (same ▸ ended), same]

end Steps

section Runs

variable {label : Label server WorkerId} {labels : List (Label server WorkerId)}

theorem expired_mono {one other : Nat} {batch : ImportBatch} (later : one ≤ other)
    (ended : expired one batch = true) :
    expired other batch = true := by
  cases limit : batch.previewExpiresAt with
  | none => simp [expired, limit] at ended
  | some time =>
      simp only [expired, limit, Option.any_some, Bool.and_eq_true, decide_eq_true_eq] at ended ⊢
      exact ⟨ended.1, ended.2.trans later⟩

/-- What becomes of one upload, and of an id that is no upload's any more. -/
structure Fate (before after : Database) (id : BatchId) : Prop where
  found : ∀ batch, before.batches id = some batch →
    (∃ later, after.batches id = some later ∧ Later batch later) ∨
      after.batches id = none ∧ id < after.nextBatchId ∧ expired after.now batch = true
  gone : id < before.nextBatchId → before.batches id = none → after.batches id = none

structure Forward (before after : Database) : Prop where
  now : before.now ≤ after.now
  nextBatchId : before.nextBatchId ≤ after.nextBatchId
  fate : ∀ id, Fate before after id

theorem Forward.refl (db : Database) : Forward db db :=
  ⟨Nat.le_refl _, Nat.le_refl _, fun _ => ⟨fun batch found => Or.inl ⟨batch, found, .refl batch⟩,
    fun _ none => none⟩⟩

theorem Later.expired {one other : ImportBatch} {now : Nat} (later : Later one other)
    (ended : expired now other = true) : expired now one = true := by
  have preview : other.status = .preview := by
    simp only [ImportQueue.expired, Bool.and_eq_true, decide_eq_true_eq] at ended
    exact ended.1
  exact later.waiting preview ▸ ended

theorem Forward.trans {one two three : Database} (first : Forward one two) (second : Forward two three) :
    Forward one three where
  now := first.now.trans second.now
  nextBatchId := first.nextBatchId.trans second.nextBatchId
  fate := by
    intro id
    refine ⟨fun batch found => ?_, fun below absent => ?_⟩
    · rcases (first.fate id).found batch found with ⟨middle, present, early⟩ | ⟨absent, below, ended⟩
      · rcases (second.fate id).found middle present with ⟨after, present, late⟩ | ⟨absent, below, ended⟩
        · exact Or.inl ⟨after, present, early.trans late⟩
        · exact Or.inr ⟨absent, below, early.expired ended⟩
      · exact Or.inr ⟨(second.fate id).gone below absent, below.trans_le second.nextBatchId,
          expired_mono second.now ended⟩
    · exact (second.fate id).gone (below.trans_le first.nextBatchId) ((first.fate id).gone below absent)

end Runs

section Import

end Import

end PublicLighting.ImportQueue
