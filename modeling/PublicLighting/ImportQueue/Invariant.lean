import PublicLighting.ImportQueue.Verdicts

/-! What holds of the database in every state that the queue reaches. -/

namespace PublicLighting.ImportQueue

open Inventory Foundations

/-- A light point is kept under its own number, as PostgreSQL stores it. -/
def Keyed (server : ServerText) (nextPointId : PointId) (number : String) (point : PointRow) : Prop :=
  point.row.inventoryNumber = number ∧ point.row.store server = .ok point.row ∧ 0 < point.id ∧ point.id < nextPointId

structure PointsInv (server : ServerText) (db : Database) : Prop where
  ids : 0 < db.nextPointId
  keyed : ∀ number point, db.lightPoints number = some point → Keyed server db.nextPointId number point

def rowWrites (number : String) (row : ImportBatchRow) : Bool :=
  row.inventoryNumber = some number ∧ (row.outcome = .created ∨ row.outcome = .updated)

structure DbInv (server : ServerText) (db : Database) : Prop where
  points : PointsInv server db
  fresh : ∀ id, db.nextBatchId ≤ id → db.batches id = none
  batches : ∀ id batch, db.batches id = some batch → BatchInv server batch
  alone : ∀ id other, hasStatus db .processing id = true → hasStatus db .processing other = true → id = other
  referenced : ∀ event ∈ db.auditEvents, event.importBatchId < db.nextBatchId
  audited : ∀ id batch, db.batches id = some batch → ∀ number,
    db.auditEvents.countP (eventOf id number) = batch.rows.countP (rowWrites number)

variable {server : ServerText} {drawn : Uuid → Prop} {writes : Prop} {db next : Database} {batch : ImportBatch}
  {claim : Claim} {actor : Option Claim}

section Points

/-- The point that a verdict leaves can be stored, under an id that was given out before. -/
def Fits (server : ServerText) (nextPointId : PointId) : Verdict → Prop
  | .created row => row.store server = .ok row
  | .updated point written => written.row.store server = .ok written.row ∧ 0 < point.id ∧ point.id < nextPointId
  | .unchanged _ => True
  | .skipped _ => True

theorem Fits.mono {one other : PointId} {verdict : Verdict} (fits : Fits server one verdict) (later : one ≤ other) :
    Fits server other verdict := by
  cases verdict with
  | created => exact fits
  | updated => exact ⟨fits.1, fits.2.1, Nat.lt_of_lt_of_le fits.2.2 later⟩
  | unchanged => trivial
  | skipped => trivial

theorem Sound.fits {verdict : Verdict} (points : PointsInv server db) (sound : Sound server db.lightPoints verdict) :
    Fits server db.nextPointId verdict := by
  cases verdict with
  | created => exact sound.1
  | updated point written => exact ⟨sound.1, (points.keyed _ point sound.2).2.2⟩
  | unchanged => trivial
  | skipped => trivial

theorem points_applied {id : BatchId} {verdict : Verdict} (points : PointsInv server db)
    (fits : Fits server db.nextPointId verdict) : PointsInv server (applyVerdict id batch db verdict) ∧
      db.nextPointId ≤ (applyVerdict id batch db verdict).nextPointId := by
  cases verdict with
  | created row =>
      refine ⟨⟨Nat.succ_pos _, ?_⟩, Nat.le_succ _⟩
      apply update_some (Keyed server (db.nextPointId + 1))
      · exact ⟨rfl, fits, points.ids, Nat.lt_succ_self _⟩
      · intro number point _ present
        obtain ⟨keyed, stored, positive, below⟩ := points.keyed number point present
        exact ⟨keyed, stored, positive, Nat.lt_succ_of_lt below⟩
  | updated existing written =>
      refine ⟨⟨points.ids, ?_⟩, Nat.le_refl _⟩
      apply update_some (Keyed server db.nextPointId)
      · exact ⟨rfl, fits⟩
      · exact fun number point _ present => points.keyed number point present
  | unchanged => exact ⟨points, Nat.le_refl _⟩
  | skipped => exact ⟨points, Nat.le_refl _⟩

theorem points_folded {id : BatchId} {verdicts : List Verdict} (points : PointsInv server db)
    (fits : ∀ verdict ∈ verdicts, Fits server db.nextPointId verdict) :
    PointsInv server (verdicts.foldl (applyVerdict id batch) db) := by
  induction verdicts generalizing db with
  | nil => exact points
  | cons verdict verdicts ih =>
      obtain ⟨kept, later⟩ := @points_applied server db batch id verdict points (fits verdict List.mem_cons_self)
      exact ih kept fun other member => (fits other (List.mem_cons_of_mem _ member)).mono later

theorem points_written (points : PointsInv server db) (taken : InventoryStep server db next) :
    PointsInv server next := by
  cases taken with
  | kept => exact points
  | @created row stored =>
      refine ⟨Nat.succ_pos _, ?_⟩
      apply update_some (Keyed server (db.nextPointId + 1))
      · exact ⟨rfl, stored, points.ids, Nat.lt_succ_self _⟩
      · intro number point _ present
        obtain ⟨keyed, stored, positive, below⟩ := points.keyed number point present
        exact ⟨keyed, stored, positive, Nat.lt_succ_of_lt below⟩
  | @updated number point row present stored =>
      refine ⟨points.ids, ?_⟩
      apply update_some (Keyed server db.nextPointId)
      · exact ⟨rfl, stored, (points.keyed number point present).2.2⟩
      · exact fun other point _ present => points.keyed other point (update_none present).2
  | deleted number => exact ⟨points.ids, fun other point present => points.keyed other point (update_none present).2⟩
  | @geocoded number point present address =>
      refine ⟨points.ids, ?_⟩
      obtain ⟨keyed, stored, ids⟩ := points.keyed number point present
      apply update_some (Keyed server db.nextPointId)
      · exact ⟨keyed, geocodedRow_stored stored, ids⟩
      · exact fun other point _ present => points.keyed other point present

end Points

section Selected

variable {limit : Nat} {row : ImportBatchRow} {verdict : Verdict}

theorem mem_verdicts {verdictOf : ImportBatchRow → Except SqlState Verdict} {rows : List ImportBatchRow} :
    verdict ∈ verdicts verdictOf rows ↔ ∃ row ∈ rows, verdictOf row = .ok verdict := by
  unfold verdicts
  rw [List.mem_filterMap]
  refine exists_congr fun row => and_congr_right fun _ => ?_
  cases verdictOf row <;> simp [Except.toOption]

theorem selected_number (inv : RowsInv server batch.rows) (member : row ∈ selected batch limit)
    (decided : verdictOf server db batch row = .ok verdict) :
    verdict.number = (if verdict.writes then row.inventoryNumber else none) ∧ row.inventoryNumber.isSome = true ∧
      Sound server db.lightPoints verdict := by
  obtain ⟨payload, held, decided⟩ := rowVerdict_ok decided
  obtain ⟨listed, _⟩ := selected_mem member
  have staged := (inv.staged row listed payload held).1
  obtain ⟨number, sound⟩ := payloadVerdict_number decided
  exact ⟨number.trans (by rw [staged]), by rw [staged]; rfl, sound⟩

/-- Different rows write different numbers. -/
theorem verdicts_distinct (inv : RowsInv server batch.rows) :
    ((verdicts (verdictOf server db batch) (selected batch limit)).filterMap (·.number)).Nodup := by
  unfold verdicts
  rw [List.filterMap_filterMap]
  have once : (selected batch limit).Pairwise fun row other => row ≠ other := selected_nodup inv.nodup
  rw [List.Nodup, List.pairwise_filterMap]
  apply once.imp_of_mem
  intro row other member present different number written number' written' same
  subst same
  obtain ⟨verdict, decided, named⟩ := Option.bind_eq_some_iff.mp written
  obtain ⟨verdict', decided', named'⟩ := Option.bind_eq_some_iff.mp written'
  have mine := (selected_number inv member (ok_of_toOption decided)).1
  have yours := (selected_number inv present (ok_of_toOption decided')).1
  rw [named] at mine
  rw [named'] at yours
  apply different
  obtain ⟨listed, pending⟩ := selected_mem member
  obtain ⟨known, waiting⟩ := selected_mem present
  have chosen := fun (row : ImportBatchRow) member (pending : row.outcome = .pending) =>
    inv.chosen row member (by rw [pending]; exact nofun) (by rw [pending]; exact nofun)
  apply inv.numbers row listed other known (chosen row listed pending) (chosen other known waiting)
  split at mine
  · split at yours
    · exact mine.symm.trans yours
    · cases yours
  · cases mine

end Selected

structure Untouched (db next : Database) : Prop where
  lightPoints : next.lightPoints = db.lightPoints
  nextPointId : next.nextPointId = db.nextPointId
  auditEvents : next.auditEvents = db.auditEvents
  nextBatchId : db.nextBatchId ≤ next.nextBatchId

theorem Untouched.refl (db : Database) : Untouched db db := ⟨rfl, rfl, rfl, Nat.le_refl _⟩

section Frame

theorem worked_frame {id : BatchId} {limit : Nat} : (worked server db id batch limit).now = db.now ∧
    (worked server db id batch limit).nextBatchId = db.nextBatchId := by
  unfold worked
  induction verdicts (verdictOf server db batch) (selected batch limit) using List.reverseRecOn with
  | nil => exact ⟨rfl, rfl⟩
  | append_singleton verdicts verdict ih =>
      rw [List.foldl_append]
      cases verdict <;> exact ih

theorem change_frame (changed : Change server drawn writes db actor next) : Untouched db next ∨
    (∃ claim limit batch, actor = some claim ∧ Processed server db claim limit batch next) ∨
    writes ∧ InventoryStep server db next := by
  cases changed with
  | elapsed => exact Or.inl ⟨rfl, rfl, rfl, Nat.le_refl _⟩
  | cleaned => exact Or.inl ⟨rfl, rfl, rfl, Nat.le_refl _⟩
  | previewed built =>
      rw [(buildImportPreview_ok built).2]
      exact Or.inl ⟨rfl, rfl, rfl, Nat.le_succ _⟩
  | confirmed done =>
      left
      cases confirmImport_ok done with
      | inl same =>
          rw [same]
          exact .refl _
      | inr done =>
          obtain ⟨id, batch, _, _, same⟩ := done
          rw [same]
          exact ⟨rfl, rfl, rfl, Nat.le_refl _⟩
  | @claimed token =>
      left
      cases claimBatch_cases token db with
      | inl same =>
          rw [same]
          exact ⟨rfl, rfl, rfl, Nat.le_refl _⟩
      | inr done =>
          obtain ⟨id, batch, _, _, same⟩ := done
          rw [same]
          exact ⟨rfl, rfl, rfl, Nat.le_refl _⟩
  | processed ran =>
      cases processImportRows_ok ran with
      | inl nothing =>
          rw [nothing.2.1]
          exact Or.inl (.refl _)
      | inr done =>
          obtain ⟨batch, current, some, clean, _, same⟩ := done
          exact Or.inr (Or.inl ⟨_, _, batch, rfl, current, some, clean, same⟩)
  | failed claim failure =>
      left
      cases failNextPendingRow_cases claim failure db with
      | inl same =>
          rw [same]
          exact .refl _
      | inr done =>
          obtain ⟨batch, row, _, _, same⟩ := done
          rw [same]
          exact ⟨rfl, rfl, rfl, Nat.le_refl _⟩
  | completed claim =>
      left
      cases completeBatch_cases claim db with
      | inl same =>
          rw [same]
          exact .refl _
      | inr done =>
          obtain ⟨batch, _, _, same⟩ := done
          rw [same]
          exact ⟨rfl, rfl, rfl, Nat.le_refl _⟩
  | written other taken => exact Or.inr (Or.inr ⟨other, taken⟩)

end Frame

section Steps

variable {id : BatchId} {before after : Option ImportBatch}

theorem batchInv_step (taken : BatchStep server drawn db next id actor before after)
    (inv : ∀ batch, before = some batch → BatchInv server batch) : ∀ batch, after = some batch →
      BatchInv server batch := by
  intro batch found
  cases taken with
  | kept => exact inv batch found
  | expired => cases found
  | staged distinct =>
      cases found
      exact batchInv_staged distinct
  | confirmed preview allowUpdate =>
      cases found
      exact batchInv_confirmed (inv _ rfl) preview allowUpdate db.now
  | requeued =>
      cases found
      exact batchInv_requeued (inv _ rfl) db.now
  | claimed queued =>
      cases found
      exact batchInv_claimed (batchInv_requeued (inv _ rfl) db.now) queued _ db.now
  | processed here ran =>
      cases found
      exact batchInv_processed (inv _ rfl) (currentBatch_eq.mp ran.1).2.1 ran.2.2.1 id
  | failed here current first failure =>
      cases found
      exact batchInv_failed (inv _ rfl) (currentBatch_eq.mp current).2.1 first failure db.now
  | completed here current done =>
      cases found
      exact batchInv_completed (inv _ rfl) (currentBatch_eq.mp current).2.1 done db.now

theorem requeued_processing {now : Nat} {batch : ImportBatch}
    (processing : (requeued now batch).status = .processing) :
    batch.status = .processing := by
  unfold requeued at processing
  split at processing
  · cases processing
  · exact processing

theorem ready_processing (processing : hasStatus
    (requeueExpired (cleanupExpiredPreviews db)) .processing id = true) :
    hasStatus db .processing id = true := by
  rw [hasStatus, ready_batches] at processing
  obtain ⟨batch, present, here⟩ := (Option.any_eq_true ..).mp processing
  obtain ⟨before, kept, rfl⟩ := Option.map_eq_some_iff.mp present
  rw [hasStatus, (Option.filter_eq_some_iff.mp kept).1]
  exact decide_eq_true (requeued_processing (of_decide_eq_true here))

/-- Where one batch is written, and is processing then only if it was or if no other is, one is at most. -/
theorem alone_update {batches : BatchId → Option ImportBatch} {written : ImportBatch}
    (alone : ∀ one other, (batches one).any (·.status = .processing) = true →
      (batches other).any (·.status = .processing) = true → one = other)
    (held : written.status = .processing → ∀ other,
      (batches other).any (·.status = .processing) = true → other = id) :
    ∀ one other, (Function.update batches id (some written) one).any (·.status = .processing) = true →
      (Function.update batches id (some written) other).any (·.status = .processing) = true → one = other := by
  have split : ∀ one, (Function.update batches id (some written) one).any (·.status = .processing) = true →
      one = id ∧ written.status = .processing ∨ (batches one).any (·.status = .processing) = true := by
    intro one processing
    by_cases here : one = id
    · subst here
      rw [Function.update_self] at processing
      exact Or.inl ⟨rfl, of_decide_eq_true processing⟩
    · rw [Function.update_of_ne here] at processing
      exact Or.inr processing
  intro one other first second
  rcases split one first with ⟨here, processing⟩ | first
  · rcases split other second with ⟨there, _⟩ | second
    · exact here.trans there.symm
    · exact here.trans (held processing other second).symm
  · rcases split other second with ⟨there, processing⟩ | second
    · exact (held processing one first).trans there.symm
    · exact alone one other first second

theorem current_alone (inv : DbInv server db) (current : currentBatch db claim = some batch) :
    ∀ other, hasStatus db .processing other = true → other = claim.id := by
  intro other processing
  obtain ⟨found, here, _⟩ := currentBatch_eq.mp current
  apply inv.alone other claim.id processing
  rw [hasStatus, found]
  exact decide_eq_true here

theorem alone_change (inv : DbInv server db) (changed : Change server drawn writes db actor next) :
    ∀ one other, hasStatus next .processing one = true → hasStatus next .processing other = true → one = other := by
  cases changed with
  | elapsed => exact inv.alone
  | cleaned =>
      have before : ∀ one, hasStatus (cleanupExpiredPreviews db) .processing one = true →
          hasStatus db .processing one = true := by
        intro one processing
        obtain ⟨batch, present, here⟩ := (Option.any_eq_true ..).mp processing
        rw [hasStatus, (Option.filter_eq_some_iff.mp present).1]
        exact here
      exact fun one other first second => inv.alone one other (before one first) (before other second)
  | previewed built =>
      rw [(buildImportPreview_ok built).2]
      apply alone_update inv.alone
      simp [stagedBatch]
  | confirmed done =>
      cases confirmImport_ok done with
      | inl same =>
          rw [same]
          exact inv.alone
      | inr done =>
          obtain ⟨chosen, batch, _, _, same⟩ := done
          rw [same]
          apply alone_update inv.alone
          simp [confirmed]
  | @claimed token =>
      have ready : ∀ one other, hasStatus (requeueExpired (cleanupExpiredPreviews db)) .processing one = true →
          hasStatus (requeueExpired (cleanupExpiredPreviews db)) .processing other = true → one = other :=
        fun one other first second => inv.alone one other (ready_processing first) (ready_processing second)
      cases claimBatch_cases token db with
      | inl same =>
          rw [same]
          exact ready
      | inr done =>
          obtain ⟨chosen, batch, queued, _, same⟩ := done
          rw [same]
          apply alone_update ready
          intro _ other processing
          have idle := (candidate_queued queued).2 other
          by_cases below : other < db.nextBatchId
          · rw [hasStatus, processing] at idle
            cases idle below
          · have absent := inv.fresh other (Nat.le_of_not_lt below)
            rw [ready_batches, absent] at processing
            cases processing
  | processed ran =>
      cases processImportRows_ok ran with
      | inl nothing =>
          rw [nothing.2.1]
          exact inv.alone
      | inr done =>
          obtain ⟨batch, current, _, _, _, same⟩ := done
          rw [same]
          exact alone_update inv.alone fun _ => current_alone inv current
  | failed claim failure =>
      cases failNextPendingRow_cases claim failure db with
      | inl same =>
          rw [same]
          exact inv.alone
      | inr done =>
          obtain ⟨batch, row, current, _, same⟩ := done
          rw [same]
          exact alone_update inv.alone fun _ => current_alone inv current
  | completed claim =>
      cases completeBatch_cases claim db with
      | inl same =>
          rw [same]
          exact inv.alone
      | inr done =>
          obtain ⟨batch, current, _, same⟩ := done
          rw [same]
          exact alone_update inv.alone fun _ => current_alone inv current
  | written _ taken =>
      unfold hasStatus
      rw [(inventoryStep_frame taken).1]
      exact inv.alone

theorem rowWrites_pending {number : String} {row : ImportBatchRow} (pending : row.outcome = .pending) :
    rowWrites number row = false := by
  simp [rowWrites, pending]

theorem writes_zero {rows : List ImportBatchRow} (number : String)
    (none : ∀ row ∈ rows, row.outcome = .pending ∨ row.outcome = .skipped ∨ row.outcome = .failed) :
    rows.countP (rowWrites number) = 0 := by
  rw [List.countP_eq_zero]
  intro row member
  rcases none row member with here | here | here <;> simp [rowWrites, here]

theorem writes_processed {limit : Nat} (inv : RowsInv server batch.rows)
    (clean : violations (verdictOf server db batch) (selected batch limit) = []) (number : String) :
    (processed server db id batch limit).rows.countP (rowWrites number) = batch.rows.countP (rowWrites number) +
      (verdicts (verdictOf server db batch) (selected batch limit)).countP fun verdict =>
        verdict.number = some number := by
  have counted := @countP_map_chosen _ _ (rowWrites number) batch.rows (selected batch limit)
    (settle (worked server db id batch limit).lightPoints (verdictOf server db batch) (selected batch limit))
    inv.nodup (selected_nodup inv.nodup)
    (fun row member => ⟨(selected_mem member).1, rowWrites_pending (selected_mem member).2⟩)
    fun row _ other => by rw [settle_other other]
  refine counted.trans (congrArg _ ?_)
  unfold verdicts
  rw [List.countP_filterMap]
  apply List.countP_congr
  intro row member
  obtain ⟨verdict, decided⟩ := (violations_nil clean).1 row member
  obtain ⟨named, given, _⟩ := selected_number inv member decided
  rw [settle_chosen decided member, decided]
  obtain ⟨mine, given⟩ := Option.isSome_iff_exists.mp given
  cases verdict <;> simp_all [settleRow, rowWrites, Except.toOption, Verdict.writes, Verdict.outcome]

theorem writes_step {before after : ImportBatch}
    (taken : BatchStep server drawn db next id actor (some before) (some after)) (inv : BatchInv server before)
    (number : String) :
    after.rows.countP (rowWrites number) = before.rows.countP (rowWrites number) ∨
      ∃ claim limit, claim.id = id ∧ Processed server db claim limit before next := by
  cases taken with
  | kept => exact Or.inl rfl
  | confirmed => exact Or.inl rfl
  | requeued =>
      left
      unfold requeued
      split <;> rfl
  | claimed =>
      left
      unfold claimed requeued
      split <;> rfl
  | processed here ran => exact Or.inr ⟨_, _, here, ran⟩
  | @failed claim batch row here current first failure =>
      left
      have member := mem_pendingInOrder.mp (List.mem_of_mem_head? first)
      have counted := @countP_map_chosen _ _ (rowWrites number) before.rows [row]
        (fun other => if other = row then failRow failure other else other) inv.rows.nodup (List.nodup_singleton _)
        (fun other listed => by
          rw [List.mem_singleton] at listed
          subst listed
          exact ⟨member.1, rowWrites_pending member.2⟩)
        fun other _ different => by rw [if_neg fun same => different (List.mem_singleton.mpr same)]
      refine counted.trans ?_
      simp [rowWrites, failRow]
  | completed => exact Or.inl rfl

theorem audited_processed {limit : Nat} (inv : DbInv server db) (ran : Processed server db claim limit batch next)
    (id : BatchId) (after : ImportBatch) (found : next.batches id = some after) (number : String) :
    next.auditEvents.countP (eventOf id number) = after.rows.countP (rowWrites number) := by
  obtain ⟨current, _, clean, same⟩ := ran
  obtain ⟨held, _⟩ := currentBatch_eq.mp current
  have events := @applyVerdicts_events db batch claim.id
    (verdicts (verdictOf server db batch) (selected batch limit)) id number
  rw [same] at found ⊢
  dsimp only at found ⊢
  unfold worked
  rw [events]
  by_cases here : id = claim.id
  · subst here
    rw [Function.update_self] at found
    cases found
    rw [writes_processed (inv.batches _ _ held).rows clean, ← inv.audited _ _ held, if_pos rfl]
  · rw [Function.update_of_ne here] at found
    rw [if_neg here, inv.audited id after found]
    rfl

theorem audited_change (inv : DbInv server db) (changed : Change server drawn writes db actor next) (id : BatchId)
    (after : ImportBatch) (found : next.batches id = some after) (number : String) :
    next.auditEvents.countP (eventOf id number) = after.rows.countP (rowWrites number) := by
  rcases change_frame changed with untouched | ⟨claim, limit, batch, _, ran⟩ | ⟨_, written⟩
  · have taken := change_step changed inv.fresh id
    rw [found] at taken
    cases present : db.batches id with
    | some before =>
        rw [present] at taken
        cases writes_step taken (inv.batches id before present) number with
        | inl same => rw [untouched.auditEvents, inv.audited id before present, same]
        | inr done =>
            obtain ⟨claim, limit, _, ran⟩ := done
            exact audited_processed inv ran id after found number
    | none =>
        rw [present] at taken
        have staged := batchInv_step taken nofun after rfl
        cases taken with
        | staged distinct newest =>
            subst newest
            rw [untouched.auditEvents, writes_zero number (staged.preview rfl), List.countP_eq_zero]
            intro event member
            have earlier := Nat.ne_of_gt (inv.referenced event member)
            simp [eventOf, earlier]
  · exact audited_processed inv ran id after found number
  · obtain ⟨batches, _, _, events⟩ := inventoryStep_frame written
    rw [events]
    exact inv.audited id after (batches ▸ found) number

theorem referenced_applied {verdict : Verdict} {limit : Nat} (below : id < limit)
    (referenced : ∀ event ∈ db.auditEvents, event.importBatchId < limit) :
    ∀ event ∈ (applyVerdict id batch db verdict).auditEvents, event.importBatchId < limit := by
  intro event member
  cases verdict with
  | created =>
      cases List.mem_append.mp member with
      | inl earlier => exact referenced event earlier
      | inr new =>
          cases List.mem_singleton.mp new
          exact below
  | updated =>
      cases List.mem_append.mp member with
      | inl earlier => exact referenced event earlier
      | inr new =>
          cases List.mem_singleton.mp new
          exact below
  | unchanged => exact referenced event member
  | skipped => exact referenced event member

theorem referenced_folded {verdicts : List Verdict} {limit : Nat} (below : id < limit)
    (referenced : ∀ event ∈ db.auditEvents, event.importBatchId < limit) :
    ∀ event ∈ (verdicts.foldl (applyVerdict id batch) db).auditEvents, event.importBatchId < limit := by
  induction verdicts generalizing db with
  | nil => exact referenced
  | cons verdict verdicts ih => exact ih (referenced_applied below referenced)

theorem nextBatchId_change (changed : Change server drawn writes db actor next) :
    db.nextBatchId ≤ next.nextBatchId := by
  rcases change_frame changed with untouched | ⟨_, _, _, _, _, _, _, same⟩ | ⟨_, written⟩
  · exact untouched.nextBatchId
  · rw [same]
    exact Nat.le_of_eq worked_frame.2.symm
  · exact Nat.le_of_eq (inventoryStep_frame written).2.2.1.symm

theorem fresh_change (inv : DbInv server db) (changed : Change server drawn writes db actor next) :
    ∀ id, next.nextBatchId ≤ id → next.batches id = none := by
  intro id beyond
  have absent := inv.fresh id (Nat.le_trans (nextBatchId_change changed) beyond)
  have taken := change_step changed inv.fresh id
  rw [absent] at taken
  generalize next.batches id = written at taken
  cases taken with
  | kept => rfl
  | staged _ newest counted =>
      rw [counted, newest] at beyond
      exact absurd beyond (Nat.not_succ_le_self _)

theorem points_change (inv : DbInv server db) (changed : Change server drawn writes db actor next) :
    PointsInv server next ∧
    ∀ event ∈ next.auditEvents, event.importBatchId < next.nextBatchId := by
  rcases change_frame changed with untouched | ⟨claim, limit, batch, _, current, _, clean, same⟩ | ⟨_, written⟩
  · refine ⟨⟨?_, ?_⟩, ?_⟩
    · rw [untouched.nextPointId]
      exact inv.points.ids
    · rw [untouched.lightPoints, untouched.nextPointId]
      exact inv.points.keyed
    · rw [untouched.auditEvents]
      exact fun event member => Nat.lt_of_lt_of_le (inv.referenced event member) untouched.nextBatchId
  · obtain ⟨held, _⟩ := currentBatch_eq.mp current
    have below : claim.id < db.nextBatchId := by
      by_contra beyond
      rw [inv.fresh claim.id (Nat.le_of_not_lt beyond)] at held
      cases held
    have fits : ∀ verdict ∈ verdicts (verdictOf server db batch) (selected batch limit),
        Fits server db.nextPointId verdict := by
      intro verdict member
      obtain ⟨row, chosen, decided⟩ := mem_verdicts.mp member
      exact (selected_number (inv.batches _ _ held).rows chosen decided).2.2.fits inv.points
    have folded := @points_folded server db batch claim.id _ inv.points fits
    rw [same]
    refine ⟨⟨folded.ids, folded.keyed⟩, ?_⟩
    dsimp only
    rw [worked_frame.2]
    exact referenced_folded below inv.referenced
  · obtain ⟨_, _, ids, events⟩ := inventoryStep_frame written
    refine ⟨points_written inv.points written, ?_⟩
    rw [ids, events]
    exact inv.referenced

theorem dbInv_change (inv : DbInv server db) (changed : Change server drawn writes db actor next) :
    DbInv server next where
  points := (points_change inv changed).1
  fresh := fresh_change inv changed
  batches := fun id => batchInv_step (change_step changed inv.fresh id) (inv.batches id)
  alone := alone_change inv changed
  referenced := (points_change inv changed).2
  audited := audited_change inv changed

end Steps

end PublicLighting.ImportQueue
