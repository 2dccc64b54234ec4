import PublicLighting.ImportQueue.Accounting

/-! What the verdicts of one statement write to the inventory and to the audit trail. -/

namespace PublicLighting.ImportQueue

open Inventory Foundations

variable {server : ServerText} {db : Database} {batch : ImportBatch} {id : BatchId}

namespace Verdict

/-- The inventory number that a verdict writes, if it writes one. -/
def number : Verdict → Option String
  | created point => some point.inventoryNumber
  | updated _ written => some written.row.inventoryNumber
  | _ => none

def writes (verdict : Verdict) : Bool := verdict.outcome = .created || verdict.outcome = .updated

end Verdict

/-- What a verdict writes can be stored, and updates the point that is there. -/
def Sound (server : ServerText) (lightPoints : Inventory) : Verdict → Prop
  | .created row => row.store server = .ok row ∧ lightPoints row.inventoryNumber = none
  | .updated point written => written.row.store server = .ok written.row ∧
      lightPoints written.row.inventoryNumber = some point
  | .unchanged _ => True
  | .skipped _ => True

theorem importUpdate_some {now : Nat} {payload : ImportPayload} {existing : LightPoint} {written : Written}
    (updated : importUpdate server now payload existing = .ok (some written)) :
    ¬ existing.Alike (payload.replace existing) ∧
      { payload.replace existing with updatedAt := now }.store server = .ok written.row ∧
      written.changedFields = importUpdateFields existing written.row := by
  unfold importUpdate at updated
  split at updated
  · cases updated
  · rename_i different
    split at updated
    · rename_i row stored
      cases updated
      exact ⟨different, stored, rfl⟩
    · cases updated

theorem importUpdate_none {now : Nat} {payload : ImportPayload} {existing : LightPoint}
    (unchanged : importUpdate server now payload existing = .ok none) :
      existing.Alike (payload.replace existing) := by
  unfold importUpdate at unchanged
  split at unchanged
  · assumption
  · split at unchanged <;> cases unchanged

theorem payloadVerdict_ok {now : Nat} {updateExisting : Bool} {lightPoints : Inventory} {payload : ImportPayload}
    {verdict : Verdict} (decided : payloadVerdict server now updateExisting lightPoints payload = .ok verdict) :
    (∃ row, lightPoints payload.inventoryNumber = none ∧ (payload.point now).store server = .ok row ∧
      verdict = .created row) ∨
    (∃ point written, lightPoints payload.inventoryNumber = some point ∧ updateExisting = true ∧
      importUpdate server now payload point.row = .ok (some written) ∧ verdict = .updated point written) ∨
    (∃ point, lightPoints payload.inventoryNumber = some point ∧ updateExisting = true ∧
      importUpdate server now payload point.row = .ok none ∧ verdict = .unchanged point) ∨
    ∃ point, lightPoints payload.inventoryNumber = some point ∧ updateExisting = false ∧
      verdict = .skipped point := by
  unfold payloadVerdict at decided
  cases present : lightPoints payload.inventoryNumber with
  | none =>
      rw [present] at decided
      dsimp only at decided
      cases stored : (payload.point now).store server with
      | error =>
          rw [stored] at decided
          cases decided
      | ok row =>
          rw [stored] at decided
          cases decided
          exact Or.inl ⟨row, rfl, rfl, rfl⟩
  | some point =>
      rw [present] at decided
      dsimp only at decided
      cases updateExisting with
      | false =>
          cases decided
          exact Or.inr (Or.inr (Or.inr ⟨point, rfl, rfl, rfl⟩))
      | true =>
          rw [if_pos rfl] at decided
          cases updated : importUpdate server now payload point.row with
          | error =>
              rw [updated] at decided
              cases decided
          | ok written =>
              rw [updated] at decided
              cases written with
              | none =>
                  cases decided
                  exact Or.inr (Or.inr (Or.inl ⟨point, rfl, rfl, updated, rfl⟩))
              | some written =>
                  cases decided
                  exact Or.inr (Or.inl ⟨point, written, rfl, rfl, updated, rfl⟩)

theorem payloadVerdict_number {now : Nat} {updateExisting : Bool} {lightPoints : Inventory} {payload : ImportPayload}
    {verdict : Verdict} (decided : payloadVerdict server now updateExisting lightPoints payload = .ok verdict) :
    verdict.number = (if verdict.writes then some payload.inventoryNumber else none) ∧
      Sound server lightPoints verdict := by
  rcases payloadVerdict_ok decided with ⟨row, absent, stored, rfl⟩ | ⟨point, written, present, _, updated, rfl⟩ |
    ⟨point, present, _, _, rfl⟩ | ⟨point, present, _, rfl⟩
  · have number : row.inventoryNumber = payload.inventoryNumber := store_number stored
    exact ⟨congrArg some number, store_stored stored, number ▸ absent⟩
  · obtain ⟨_, stored, _⟩ := importUpdate_some updated
    have number : written.row.inventoryNumber = payload.inventoryNumber := store_number stored
    exact ⟨congrArg some number, store_stored stored, number ▸ present⟩
  · exact ⟨rfl, trivial⟩
  · exact ⟨rfl, trivial⟩

theorem rowVerdict_ok {now : Nat} {updateExisting : Bool} {lightPoints : Inventory} {row : ImportBatchRow}
    {verdict : Verdict} (decided : rowVerdict server now updateExisting lightPoints row = .ok verdict) :
    ∃ payload, row.payload = some payload ∧
      payloadVerdict server now updateExisting lightPoints payload = .ok verdict := by
  unfold rowVerdict at decided
  split at decided
  · cases decided
  · rename_i payload held
    exact ⟨payload, held, decided⟩

section Fold

/-- The event of a verdict for one inventory number. -/
def eventOf (id : BatchId) (number : String) (event : AuditEvent) : Bool :=
  id = event.importBatchId ∧ event.inventoryNumberSnapshot = number

theorem applyVerdict_other {verdict : Verdict} {number : String} (other : verdict.number ≠ some number) :
    (applyVerdict id batch db verdict).lightPoints number = db.lightPoints number := by
  cases verdict with
  | created row => exact Function.update_of_ne (fun same => other (congrArg some same.symm)) ..
  | updated point written => exact Function.update_of_ne (fun same => other (congrArg some same.symm)) ..
  | unchanged => rfl
  | skipped => rfl

theorem applyVerdicts_other {verdicts : List Verdict} {number : String}
    (others : ∀ verdict ∈ verdicts, verdict.number ≠ some number) :
    (verdicts.foldl (applyVerdict id batch) db).lightPoints number = db.lightPoints number := by
  induction verdicts generalizing db with
  | nil => rfl
  | cons verdict verdicts ih =>
      rw [List.foldl_cons, ih fun other member => others other (List.mem_cons_of_mem _ member)]
      exact applyVerdict_other (others verdict List.mem_cons_self)

def Leaves (verdict : Verdict) (point : PointRow) : Prop :=
  match verdict with
  | .created row => point.row = row
  | .updated existing written => point = ⟨existing.id, written.row⟩
  | _ => False

theorem applyVerdict_number {verdict : Verdict} {number : String} (written : verdict.number = some number) :
    ∃ point, (applyVerdict id batch db verdict).lightPoints number = some point ∧ Leaves verdict point := by
  cases verdict with
  | created row =>
      cases written
      exact ⟨_, Function.update_self .., rfl⟩
  | updated point row =>
      cases written
      exact ⟨_, Function.update_self .., rfl⟩
  | unchanged => cases written
  | skipped => cases written

theorem applyVerdicts_number {verdicts : List Verdict} {verdict : Verdict} {number : String}
    (distinct : (verdicts.filterMap (·.number)).Nodup) (member : verdict ∈ verdicts)
    (written : verdict.number = some number) :
    ∃ point, (verdicts.foldl (applyVerdict id batch) db).lightPoints number = some point ∧ Leaves verdict point := by
  induction verdicts generalizing db with
  | nil => cases member
  | cons first verdicts ih =>
      rw [List.foldl_cons]
      cases member with
      | head =>
          rw [List.filterMap_cons_some written, List.nodup_cons] at distinct
          obtain ⟨point, here, left⟩ := @applyVerdict_number db batch id verdict number written
          refine ⟨point, ?_, left⟩
          rw [applyVerdicts_other fun other later same =>
            distinct.1 (List.mem_filterMap.mpr ⟨other, later, same⟩), here]
      | tail _ member =>
          apply ih _ member
          cases fresh : first.number with
          | none => rwa [List.filterMap_cons_none fresh] at distinct
          | some =>
              rw [List.filterMap_cons_some fresh, List.nodup_cons] at distinct
              exact distinct.2

theorem applyVerdict_events (verdict : Verdict) (other : BatchId) (number : String) :
    (applyVerdict id batch db verdict).auditEvents.countP (eventOf other number) =
      db.auditEvents.countP (eventOf other number) + if other = id ∧ verdict.number = some number then 1 else 0 := by
  cases verdict with
  | created row => simp [applyVerdict, eventOf, Verdict.number, List.countP_append]
  | updated point written => simp [applyVerdict, eventOf, Verdict.number, List.countP_append]
  | unchanged => simp [applyVerdict, Verdict.number]
  | skipped => simp [applyVerdict, Verdict.number]

theorem applyVerdicts_events (verdicts : List Verdict) (other : BatchId) (number : String) :
    (verdicts.foldl (applyVerdict id batch) db).auditEvents.countP (eventOf other number) =
      db.auditEvents.countP (eventOf other number) +
        if other = id then verdicts.countP fun verdict => verdict.number = some number else 0 := by
  induction verdicts generalizing db with
  | nil => simp
  | cons verdict verdicts ih =>
      rw [List.foldl_cons, ih, applyVerdict_events, List.countP_cons]
      by_cases here : other = id
      · simp only [here, true_and, if_true, decide_eq_true_eq]
        omega
      · simp [here]

end Fold

end PublicLighting.ImportQueue
