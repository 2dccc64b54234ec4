import PublicLighting.ImportQueue.ParsedRows

/-! The tables of the import queue, and the rows that `buildImportPreview` stages. -/

namespace PublicLighting.ImportQueue

open Inventory

abbrev BatchId := Nat
abbrev AdminId := Nat
abbrev PointId := Nat

/-- A value of `randomUUID`. -/
abbrev Uuid := String

inductive BatchStatus
  | preview
  | queued
  | processing
  | completed
  | completedWithErrors
  deriving DecidableEq, Repr

inductive RowOutcome
  | pending
  | created
  | updated
  | unchanged
  | skipped
  | failed
  deriving DecidableEq, Repr

inductive PreviewAction
  | create
  | update
  | unchanged
  | skip
  | error
  deriving DecidableEq, Repr

structure ImportBatchRow where
  sourceRowNumber : Nat
  inventoryNumber : Option String
  outcome : RowOutcome
  previewAction : PreviewAction
  previewExistingId : Option PointId
  entityId : Option PointId
  reasonCode : Option String
  safeReason : Option String
  payload : Option ImportPayload
  deriving DecidableEq

/-- A row of `import_batches` with the rows of `import_batch_rows` that reference it. -/
structure ImportBatch where
  uploadedByAdminId : AdminId
  uploadedByUsernameSnapshot : Option String
  totalRows : Nat
  createdRows : Nat
  updatedRows : Nat
  unchangedRows : Nat
  skippedRows : Nat
  failedRows : Nat
  successfulRows : Nat
  appliedRows : Nat
  status : BatchStatus
  updateExisting : Bool
  confirmationKey : Uuid
  queuedAt : Option Nat
  previewExpiresAt : Option Nat
  startedAt : Option Nat
  completedAt : Option Nat
  leaseUntil : Option Nat
  workerToken : Option Uuid
  attemptCount : Nat
  rows : List ImportBatchRow
  deriving DecidableEq

inductive AuditAction
  | create
  | update
  deriving DecidableEq, Repr

structure AuditEvent where
  actorAdminId : AdminId
  actorUsernameSnapshot : Option String
  entityIdSnapshot : PointId
  inventoryNumberSnapshot : String
  action : AuditAction
  importBatchId : BatchId
  changedFields : ChangedFields
  deriving DecidableEq

structure PointRow where
  id : PointId
  row : LightPoint
  deriving DecidableEq

/-- Its unique index makes `light_points` a map of inventory numbers. -/
abbrev Inventory := String → Option PointRow

structure Database where
  now : Nat
  lightPoints : Inventory
  nextPointId : PointId
  batches : BatchId → Option ImportBatch
  nextBatchId : BatchId
  auditEvents : List AuditEvent

section Preview

variable {server : ServerText}

/-- The SELECTs of the existing light points, 500 identities each. -/
def lookupExisting (lightPoints : Inventory) (identities : List String) : String → Option PointId :=
  (slices 500 identities).foldl (fun existing chunk inventoryNumber =>
    if inventoryNumber ∈ chunk then ((lightPoints inventoryNumber).map (·.id)).or (existing inventoryNumber)
    else existing inventoryNumber) fun _ => none

/-- The identities of the rows that are accepted and neither in conflict nor duplicates. -/
def lookedUp (rows : List (ParsedImportRow server)) : List String :=
  (rows.filterMap fun row =>
    if row.rowIndex ∈ duplicateConflicts rows ∨ row.rowIndex ∈ duplicateSkips rows then none
    else row.payload.map (·.payload.inventoryNumber)).dedup

/-- `row.errorCode` and `row.message`, which a conflict replaces. -/
def rowError (rows : List (ParsedImportRow server)) (row : ParsedImportRow server) : Option (String × String) :=
  if row.rowIndex ∈ duplicateConflicts rows then
    some ("conflicting_duplicate_inventory_number", "Conflicting rows use the same inventory number")
  else match row.content with
    | .accepted _ => none
    | .refused _ errorCode message => some (errorCode, message)

def duplicateOf (rows : List (ParsedImportRow server)) (row : ParsedImportRow server) : Option Nat :=
  (duplicateGroups rows row.inventoryNumber).map (·.first.rowIndex)

def presentText (text : String) : Option String := if text = "" then none else some text

def stageRow (rows : List (ParsedImportRow server)) (existing : String → Option PointId)
    (row : ParsedImportRow server) : ImportBatchRow :=
  let staged (outcome : RowOutcome) (action : PreviewAction) (existingId : Option PointId)
      (reason : Option (Option String × String)) (payload : Option ImportPayload) : ImportBatchRow :=
    { sourceRowNumber := row.rowIndex
      inventoryNumber := presentText row.inventoryNumber
      outcome := outcome
      previewAction := action
      previewExistingId := existingId
      entityId := none
      reasonCode := reason.bind (·.1)
      safeReason := reason.map (·.2)
      payload := payload }
  if row.rowIndex ∈ duplicateSkips rows then
    staged .skipped .skip none (some (some "duplicate_in_same_import",
      "Identical duplicate of row " ++ ((duplicateOf rows row).map toString).getD "undefined")) none
  else match rowError rows row, row.payload with
    | some (code, message), _ => staged .failed .error none (some (some code, message)) none
    | none, none => staged .failed .error none (some (some "invalid_row", "Invalid row")) none
    | none, some payload =>
        -- An id of 0 would be falsy.
        match (existing payload.payload.inventoryNumber).filter (· ≠ 0) with
        | some existingId => staged .pending .update (some existingId) (some (none,
            "Matching inventory number exists; checkbox controls whether represented fields are replaced"))
            (some payload.payload)
        | none => staged .pending .create none none (some payload.payload)

def stageRows (rows : List (ParsedImportRow server)) (existing : String → Option PointId) : List ImportBatchRow :=
  (slices 500 rows).flatMap fun chunk => chunk.map (stageRow rows existing)

theorem stageRows_eq (rows : List (ParsedImportRow server)) (existing : String → Option PointId) :
    stageRows rows existing = rows.map (stageRow rows existing) := by
  calc stageRows rows existing
    _ = ((slices 500 rows).map (List.map (stageRow rows existing))).flatten := List.flatMap_def ..
    _ = (slices 500 rows).flatten.map (stageRow rows existing) := List.map_flatten.symm
    _ = rows.map (stageRow rows existing) := by rw [flatten_slices (by decide)]

theorem lookup_chunks (lightPoints : Inventory) (chunks : List (List String)) (inventoryNumber : String) :
    chunks.foldl (fun existing chunk inventoryNumber =>
      if inventoryNumber ∈ chunk then ((lightPoints inventoryNumber).map (·.id)).or (existing inventoryNumber)
      else existing inventoryNumber) (fun _ => none) inventoryNumber =
    if inventoryNumber ∈ chunks.flatten then (lightPoints inventoryNumber).map (·.id) else none := by
  induction chunks using List.reverseRecOn with
  | nil => rfl
  | append_singleton chunks chunk ih =>
      rw [List.foldl_append, List.flatten_append]
      simp only [List.foldl_cons, List.foldl_nil, ih, List.flatten_singleton, List.mem_append]
      by_cases here : inventoryNumber ∈ chunk
      · rw [if_pos here, if_pos (Or.inr here)]
        split
        · exact Option.or_self
        · exact Option.or_none
      · simp only [here, if_false, or_false]

theorem lookupExisting_eq (lightPoints : Inventory) (identities : List String) (inventoryNumber : String) :
    lookupExisting lightPoints identities inventoryNumber =
      if inventoryNumber ∈ identities then (lightPoints inventoryNumber).map (·.id) else none := by
  unfold lookupExisting
  rw [lookup_chunks, flatten_slices (by decide)]

variable {rows : List (ParsedImportRow server)} {existing : String → Option PointId} {row : ParsedImportRow server}

theorem stageRow_number : (stageRow rows existing row).sourceRowNumber = row.rowIndex := by
  unfold stageRow
  dsimp only
  repeat' split
  all_goals rfl

/-- A row that is neither a duplicate nor in conflict waits to be processed. -/
theorem stageRow_chosen {payload : ParsedPayload server} (accepted : row.payload = some payload)
    (calm : row.rowIndex ∉ duplicateConflicts rows) (single : row.rowIndex ∉ duplicateSkips rows) :
    (stageRow rows existing row).outcome = .pending ∧
      (stageRow rows existing row).payload = some payload.payload ∧
      (stageRow rows existing row).inventoryNumber = some payload.payload.inventoryNumber ∧
      (stageRow rows existing row).previewAction =
        if ((existing payload.payload.inventoryNumber).filter (· ≠ 0)).isSome then .update else .create := by
  have number : presentText row.inventoryNumber = some payload.payload.inventoryNumber := by
    rw [payload_number accepted]
    exact if_neg payload.number_ne
  have noError : rowError rows row = none := by
    rcases row with ⟨index, content⟩
    cases content with
    | accepted => exact if_neg calm
    | refused => cases accepted
  unfold stageRow
  dsimp only
  rw [if_neg single, noError, accepted, number]
  dsimp only
  cases (existing payload.payload.inventoryNumber).filter (· ≠ 0) <;> exact ⟨rfl, rfl, rfl, rfl⟩

theorem stageRow_other (other : ¬ ∃ payload, row.payload = some payload ∧
      row.rowIndex ∉ duplicateConflicts rows ∧ row.rowIndex ∉ duplicateSkips rows) :
    (stageRow rows existing row).payload = none ∧
      if row.rowIndex ∈ duplicateSkips rows then
        (stageRow rows existing row).outcome = .skipped ∧ (stageRow rows existing row).previewAction = .skip
      else (stageRow rows existing row).outcome = .failed ∧ (stageRow rows existing row).previewAction = .error := by
  unfold stageRow
  dsimp only
  by_cases duplicate : row.rowIndex ∈ duplicateSkips rows
  · rw [if_pos duplicate, if_pos duplicate]
    exact ⟨rfl, rfl, rfl⟩
  · rw [if_neg duplicate, if_neg duplicate]
    cases error : rowError rows row with
    | some => exact ⟨rfl, rfl, rfl⟩
    | none =>
        cases accepted : row.payload with
        | none => exact ⟨rfl, rfl, rfl⟩
        | some payload =>
            refine absurd ⟨payload, accepted, ?_, duplicate⟩ other
            intro conflict
            rw [rowError, if_pos conflict] at error
            cases error

end Preview

end PublicLighting.ImportQueue
