import PublicLighting.ImportQueue.Prediction

/-! When one worker brings the batch that it claimed to its end, and when a row holds the queue up. -/

namespace PublicLighting.ImportQueue

open Inventory Foundations

section Columns

variable {server : ServerText} {row : LightPoint}

/-- `VARCHAR(length)` takes the text: nothing but blanks is beyond the length. -/
def fitsColumn (length : Nat) : Option String → Bool
  | none => true
  | some text => text.length ≤ length || (text.toList.drop length).all (· == ' ')

/-- The texts of a row are not too long for its columns and for the index on its number. -/
def fitsColumns (server : ServerText) (row : LightPoint) : Bool :=
  fitsColumn 50 row.externalId && fitsColumn 100 row.district && fitsColumn 100 row.lampType &&
    server.indexRowFits row.inventoryNumber

theorem nullable_varchar (length : Nat) (text : Option String) :
    (fitsColumn length text = true ∧ ∃ kept, nullable (varchar length) text = .ok kept) ∨
      fitsColumn length text = false ∧ nullable (varchar length) text = .error .stringDataRightTruncation := by
  cases text with
  | none => exact Or.inl ⟨rfl, none, rfl⟩
  | some text =>
      by_cases short : text.length ≤ length
      · have kept : varchar length text = .ok text := if_pos short
        exact Or.inl ⟨by simp [fitsColumn, short], some text, by rw [nullable, kept]; rfl⟩
      · by_cases blank : (text.toList.drop length).all (· == ' ') = true
        · have cut : varchar length text = .ok (String.ofList (text.toList.take length)) := by
            rw [varchar, if_neg short, if_pos blank]
          exact Or.inl ⟨by simp only [fitsColumn, blank, Bool.or_true], _, by rw [nullable, cut]; rfl⟩
        · have long : varchar length text = .error .stringDataRightTruncation := by
            rw [varchar, if_neg short, if_neg blank]
          refine Or.inr ⟨?_, by rw [nullable, long]; rfl⟩
          rw [fitsColumn, Bool.or_eq_false_iff]
          exact ⟨decide_eq_false short, Bool.eq_false_of_not_eq_true blank⟩

/-- A row with a canonical number and a place is stored unless a text is too long, and that error is no row's
failure. -/
theorem store_fits (canonical : canonicalCheck server row.inventoryNumber = true)
    (valid : geomValidCheck row.longitude row.latitude = true) :
    (fitsColumns server row = true ∧ ∃ kept, row.store server = .ok kept) ∨
      fitsColumns server row = false ∧ ∃ state, row.store server = .error state ∧ safeFailure state = none := by
  unfold fitsColumns LightPoint.store
  rcases nullable_varchar 50 row.externalId with ⟨first, _, external⟩ | ⟨first, external⟩
  · rcases nullable_varchar 100 row.district with ⟨second, _, quarter⟩ | ⟨second, quarter⟩
    · rcases nullable_varchar 100 row.lampType with ⟨third, _, lamp⟩ | ⟨third, lamp⟩
      · rw [first, second, third, external, quarter, lamp, canonical, valid]
        cases server.indexRowFits row.inventoryNumber with
        | true => exact Or.inl ⟨rfl, _, rfl⟩
        | false => exact Or.inr ⟨rfl, _, rfl, by decide⟩
      · rw [third, external, quarter, lamp]
        exact Or.inr ⟨by simp, _, rfl, by decide⟩
    · rw [second, external, quarter]
      exact Or.inr ⟨by simp, _, rfl, by decide⟩
  · rw [first, external]
    exact Or.inr ⟨by simp, _, rfl, by decide⟩

end Columns

section Rows

variable {server : ServerText} {now : Nat} {updateExisting : Bool} {lightPoints : Inventory}

/-- The row that the statement has to write for a payload, if it has to write one, but for its `updated_at`. -/
def toWrite (updateExisting : Bool) (lightPoints : Inventory) (payload : ImportPayload) : Option LightPoint :=
  match lightPoints payload.inventoryNumber with
  | none => some (payload.point 0)
  | some point =>
      if updateExisting ∧ ¬ point.row.Alike (payload.replace point.row)
        then some (payload.replace point.row) else none

/-- What a row makes the statement write fits. -/
def Storable (server : ServerText) (updateExisting : Bool) (lightPoints : Inventory) (row : ImportBatchRow) : Prop :=
  ∀ payload, row.payload = some payload → ∀ written, toWrite updateExisting lightPoints payload = some written →
    fitsColumns server written = true

theorem verdict_writes (payload : ImportPayload) :
    (toWrite updateExisting lightPoints payload = none ∧
      ∃ verdict, payloadVerdict server now updateExisting lightPoints payload = .ok verdict) ∨
    ∃ written, toWrite updateExisting lightPoints payload = some written ∧
      written.inventoryNumber = payload.inventoryNumber ∧ written.longitude = payload.longitude ∧
      written.latitude = payload.latitude ∧
      ((∃ kept verdict, { written with updatedAt := now }.store server = .ok kept ∧
          payloadVerdict server now updateExisting lightPoints payload = .ok verdict) ∨
        ∃ state, { written with updatedAt := now }.store server = .error state ∧
          payloadVerdict server now updateExisting lightPoints payload = .error state) := by
  unfold toWrite payloadVerdict
  cases lightPoints payload.inventoryNumber with
  | none =>
      right
      refine ⟨_, rfl, rfl, rfl, rfl, ?_⟩
      change (∃ kept verdict, (payload.point now).store server = .ok kept ∧ _) ∨ _
      cases stored : (payload.point now).store server with
      | ok kept => exact Or.inl ⟨kept, _, rfl, rfl⟩
      | error state => exact Or.inr ⟨state, stored, rfl⟩
  | some point =>
      cases updateExisting with
      | false => exact Or.inl ⟨rfl, _, rfl⟩
      | true =>
          dsimp only
          unfold importUpdate
          by_cases alike : point.row.Alike (payload.replace point.row)
          · rw [if_pos rfl, if_pos alike, if_neg fun writes => writes.2 alike]
            exact Or.inl ⟨rfl, _, rfl⟩
          · right
            rw [if_pos rfl, if_neg alike, if_pos ⟨rfl, alike⟩]
            refine ⟨_, rfl, rfl, rfl, rfl, ?_⟩
            cases stored : ({ payload.replace point.row with updatedAt := now } : LightPoint).store server with
            | ok kept => exact Or.inl ⟨kept, _, rfl, rfl⟩
            | error state => exact Or.inr ⟨state, rfl, rfl⟩

theorem rowVerdict_storable {row : ImportBatchRow} {payload : ImportPayload} (held : row.payload = some payload)
    (staged : Staged server row.inventoryNumber payload) :
    (Storable server updateExisting lightPoints row ∧
      ∃ verdict, rowVerdict server now updateExisting lightPoints row = .ok verdict) ∨
    ¬ Storable server updateExisting lightPoints row ∧
      ∃ state, rowVerdict server now updateExisting lightPoints row = .error state ∧ safeFailure state = none := by
  obtain ⟨_, parsed, rfl⟩ := staged
  unfold rowVerdict Storable
  rw [held]
  rcases @verdict_writes server now updateExisting lightPoints parsed.payload with
    ⟨nothing, decided⟩ | ⟨written, writes, number, longitude, latitude, decided⟩
  · left
    refine ⟨fun payload same written writes => ?_, decided⟩
    cases same
    rw [nothing] at writes
    cases writes
  · have canonical := parsed.canonical
    have valid := parsed.inRange
    rw [← number] at canonical
    rw [← longitude, ← latitude] at valid
    rcases @store_fits server { written with
      updatedAt := now } canonical valid with ⟨fits, kept, stored⟩ | ⟨long, state, refused, thrown⟩
    · left
      refine ⟨fun payload same other writes' => ?_, ?_⟩
      · cases same
        rw [writes] at writes'
        cases writes'
        exact fits
      · rcases decided with ⟨_, verdict, _, decided⟩ | ⟨state, refused, _⟩
        · exact ⟨verdict, decided⟩
        · rw [stored] at refused
          cases refused
    · right
      refine ⟨fun storable => ?_, state, ?_, thrown⟩
      · exact absurd (storable _ rfl written writes)
          (by rw [show fitsColumns server written = false from long]; exact nofun)
      · rcases decided with ⟨_, _, stored, _⟩ | ⟨other, refused', decided⟩
        · rw [refused] at stored
          cases stored
        · rw [refused] at refused'
          cases refused'
          exact decided

end Rows

section Runs

variable {server : ServerText} {WorkerId : Type} [DecidableEq WorkerId] {s t start : State WorkerId}
  {label : Label server WorkerId} {worker : WorkerId} {claim : Claim} {batch : ImportBatch}

/-- What each pending row of a batch makes the statement write fits. -/
def AllStorable (server : ServerText) (db : Database) (batch : ImportBatch) : Prop :=
  ∀ row ∈ batch.rows, row.outcome = .pending → Storable server batch.updateExisting db.lightPoints row

/-- The statement for one row raises nothing but data errors that become the row's failure. -/
def FailsSafely (server : ServerText) (db : Database) (batch : ImportBatch) : Prop :=
  ∀ row ∈ batch.rows, row.outcome = .pending → ∀ state, verdictOf server db batch row = .error state →
    (safeFailure state).isSome = true

/-- A step of one worker whose queries the server answers, or time that goes by. -/
def SoloStep (server : ServerText) (worker : WorkerId) (s : State WorkerId) (label : Label server WorkerId)
    (t : State WorkerId) : Prop :=
  Step server s label t ∧ ((∃ time, label = .elapse time) ∨ label = .advance worker .heard ∨
    ∃ state, label = .advance worker (.raised state))

def advances : Label server WorkerId → Bool
  | .advance .. => true
  | _ => false

def Finished (db : Database) (id : BatchId) : Prop :=
  ∃ batch, db.batches id = some batch ∧ (batch.status = .completed ∨ batch.status = .completedWithErrors) ∧
    pendingInOrder batch.rows = []

/-- The worker's pass over its batch comes to an end, and then the batch is finished. -/
def Completes (server : ServerText) (worker : WorkerId) (id : BatchId) (s : State WorkerId) : Prop :=
  ∃ bound, ∀ labels u, Run (SoloStep server worker) s labels u → labels.countP advances ≤ bound ∧
    (Finished u.db id ∨ ∃ label v, advances label = true ∧ SoloStep server worker u label v)

theorem rowVerdict_inv (inv : RowsInv server batch.rows) {row : ImportBatchRow} (member : row ∈ batch.rows)
    (pending : row.outcome = .pending) (db : Database) :
    (Storable server batch.updateExisting db.lightPoints row ∧
      ∃ verdict, verdictOf server db batch row = .ok verdict) ∨
    ¬ Storable server batch.updateExisting db.lightPoints row ∧
      ∃ state, verdictOf server db batch row = .error state ∧ safeFailure state = none := by
  obtain ⟨payload, held⟩ := Option.isSome_iff_exists.mp ((inv.pending row member).mp pending)
  exact rowVerdict_storable held (inv.staged row member payload held)

theorem failsSafely_iff (inv : RowsInv server batch.rows) (db : Database) :
    FailsSafely server db batch ↔ AllStorable server db batch := by
  constructor
  · intro safely row member pending
    rcases rowVerdict_inv inv member pending db with ⟨storable, _⟩ | ⟨_, state, refused, thrown⟩
    · exact storable
    · have caught := safely row member pending state refused
      rw [thrown] at caught
      cases caught
  · intro storable row member pending state refused
    rcases rowVerdict_inv inv member pending db with ⟨_, verdict, decided⟩ | ⟨long, _⟩
    · rw [refused] at decided
      cases decided
    · exact absurd (storable row member pending) long

section Finishing

variable {db next : Database} {limit : Nat}

theorem selected_decided (inv : RowsInv server batch.rows) (storable : AllStorable server db batch) :
    violations (verdictOf server db batch) (selected batch limit) = [] := by
  apply violations_none inv
  intro row chosen
  obtain ⟨member, pending⟩ := selected_mem chosen
  rcases rowVerdict_inv inv member pending db with ⟨_, decided⟩ | ⟨long, _⟩
  · exact decided
  · exact absurd (storable row member pending) long

theorem unselected_number (inv : RowsInv server batch.rows) (id : BatchId) {row : ImportBatchRow}
    (member : row ∈ batch.rows) (pending : row.outcome = .pending) (other : row ∉ selected batch limit)
    {number : String} (named : row.inventoryNumber = some number) :
    (worked server db id batch limit).lightPoints number = db.lightPoints number := by
  apply applyVerdicts_other
  intro verdict listed written
  obtain ⟨rival, chosen, decided⟩ := mem_verdicts.mp listed
  obtain ⟨present, waiting⟩ := selected_mem chosen
  have same := (selected_number inv chosen decided).1
  rw [written] at same
  have left := fun (row : ImportBatchRow) member (pending : row.outcome = .pending) =>
    inv.chosen row member (by rw [pending]; exact nofun) (by rw [pending]; exact nofun)
  split at same
  · have alike := inv.numbers row member rival present (left row member pending) (left rival present waiting)
      (named.trans same)
    exact other (alike ▸ chosen)
  · cases same

theorem storable_same {updateExisting : Bool} {one two : Inventory} {row : ImportBatchRow} {number : String}
    (staged : ∀ payload, row.payload = some payload → payload.inventoryNumber = number)
    (same : one number = two number) :
    Storable server updateExisting one row ↔ Storable server updateExisting two row := by
  have writes : ∀ payload, row.payload = some payload →
      toWrite updateExisting one payload = toWrite updateExisting two payload := by
    intro payload held
    unfold toWrite
    rw [staged payload held, same]
  constructor
  · intro storable payload held written writing
    exact storable payload held written ((writes payload held).trans writing)
  · intro storable payload held written writing
    exact storable payload held written ((writes payload held).symm.trans writing)

theorem pending_number (inv : RowsInv server batch.rows) {row : ImportBatchRow} (member : row ∈ batch.rows)
    (pending : row.outcome = .pending) : ∃ number, row.inventoryNumber = some number ∧
      ∀ payload, row.payload = some payload → payload.inventoryNumber = number := by
  obtain ⟨payload, held⟩ := Option.isSome_iff_exists.mp ((inv.pending row member).mp pending)
  refine ⟨payload.inventoryNumber, (inv.staged row member payload held).1, fun other same => ?_⟩
  rw [held] at same
  rw [Option.some.inj same]

theorem processed_pending {id : BatchId} {row : ImportBatchRow}
    (clean : violations (verdictOf server db batch) (selected batch limit) = [])
    (member : row ∈ (processed server db id batch limit).rows) (pending : row.outcome = .pending) :
    row ∈ batch.rows ∧ row ∉ selected batch limit := by
  obtain ⟨before, listed, rfl⟩ := List.mem_map.mp member
  by_cases chosen : before ∈ selected batch limit
  · obtain ⟨verdict, decided⟩ := (violations_nil clean).1 before chosen
    rw [settle_chosen decided chosen] at pending
    cases verdict <;> cases pending
  · rw [settle_other chosen]
    exact ⟨listed, chosen⟩

theorem processed_fewer {id : BatchId} (some : selected batch limit ≠ [])
    (clean : violations (verdictOf server db batch) (selected batch limit) = []) :
    countOutcome (processed server db id batch limit).rows .pending < countOutcome batch.rows .pending := by
  obtain ⟨row, chosen⟩ := List.exists_mem_of_ne_nil _ some
  obtain ⟨member, pending⟩ := selected_mem chosen
  obtain ⟨verdict, decided⟩ := (violations_nil clean).1 row chosen
  change (batch.rows.map _).countP _ < _
  rw [List.countP_map]
  apply countP_lt _ member (decide_eq_true pending)
  · simp only [Function.comp_def, settle_chosen decided chosen]
    cases verdict <;> rfl
  · intro other listed still
    simp only [Function.comp_def, decide_eq_true_eq] at still ⊢
    rcases settle_kept (fun _ chosen => (selected_mem chosen).2) other with same | ⟨pending, _⟩
    · rwa [same] at still
    · exact pending

end Finishing

section Completing

variable {u : State WorkerId}

/-- Where a worker stands that goes through its batch without an error. -/
inductive Solo (server : ServerText) (worker : WorkerId) (claim : Claim) (s : State WorkerId) : Prop
  | processing (batch : ImportBatch) (current : currentBatch s.db claim = some batch)
      (at_work : s.workers worker = .processing claim) (storable : AllStorable server s.db batch)
  | completing (batch : ImportBatch) (current : currentBatch s.db claim = some batch)
      (at_work : s.workers worker = .completing claim) (none : pendingInOrder batch.rows = [])
  | finished (at_work : s.workers worker = .waiting) (finished : Finished s.db claim.id)

def remaining (worker : WorkerId) (id : BatchId) (s : State WorkerId) : Nat :=
  match s.workers worker with
  | .processing _ => ((s.db.batches id).map fun batch => countOutcome batch.rows .pending).getD 0 + 2
  | .completing _ => 1
  | _ => 0

theorem selected_none {limit : Nat} (none : selected batch (limit + 1) = []) : pendingInOrder batch.rows = [] := by
  unfold selected at none
  cases listed : pendingInOrder batch.rows with
  | nil => rfl
  | cons => simp [listed] at none

omit [DecidableEq WorkerId] in
theorem heard_processing (inv : Inv server s) (current : currentBatch s.db claim = some batch)
    (storable : AllStorable server s.db batch) :
    (pendingInOrder batch.rows = [] ∧ processImportRows server claim rowsPerQuery s.db = .ok ([], s.db)) ∨
    ∃ outcomes next, outcomes ≠ [] ∧ processImportRows server claim rowsPerQuery s.db = .ok (outcomes, next) ∧
      Processed server s.db claim rowsPerQuery batch next := by
  have rows := (inv.db.batches _ batch (currentBatch_eq.mp current).1).rows
  have clean := @selected_decided server batch s.db rowsPerQuery rows storable
  unfold processImportRows
  rw [current]
  dsimp only
  by_cases none : selected batch rowsPerQuery = []
  · rw [if_pos none]
    exact Or.inl ⟨selected_none none, rfl⟩
  · right
    rw [if_neg none, if_neg (not_not.mpr clean)]
    refine ⟨_, _, ?_, rfl, current, none, clean, rfl⟩
    obtain ⟨row, chosen⟩ := List.exists_mem_of_ne_nil _ none
    obtain ⟨verdict, decided⟩ := (violations_nil clean).1 row chosen
    have member := List.mem_map_of_mem (f := Verdict.outcome) (mem_verdicts.mpr ⟨row, chosen, decided⟩)
    exact List.ne_nil_of_mem member

omit [DecidableEq WorkerId] in
theorem current_processed {limit : Nat} {next : Database} (ran : Processed server s.db claim limit batch next) :
    currentBatch next claim = some (processed server s.db claim.id batch limit) := by
  obtain ⟨current, _, _, same⟩ := ran
  obtain ⟨_, processing, token⟩ := currentBatch_eq.mp current
  apply currentBatch_eq.mpr
  rw [same]
  exact ⟨Function.update_self .., processing, token⟩

omit [DecidableEq WorkerId] in
theorem storable_processed (inv : Inv server s) {limit : Nat} {next : Database}
    (ran : Processed server s.db claim limit batch next) (storable : AllStorable server s.db batch) :
    AllStorable server next (processed server s.db claim.id batch limit) := by
  obtain ⟨current, _, clean, same⟩ := ran
  have rows := (inv.db.batches _ batch (currentBatch_eq.mp current).1).rows
  intro row member pending
  obtain ⟨listed, other⟩ := processed_pending clean member pending
  obtain ⟨number, named, staged⟩ := pending_number rows listed pending
  have kept := @unselected_number server batch s.db limit rows claim.id row listed pending other number named
  rw [same]
  exact (storable_same staged kept).mpr (storable row listed pending)

theorem completed_finished {id : BatchId} {now : Nat} {db : Database} (none : pendingInOrder batch.rows = [])
    (found : db.batches id = some (completedBatch now batch)) : Finished db id := by
  refine ⟨_, found, ?_, none⟩
  unfold completedBatch
  dsimp only
  split
  · exact Or.inr rfl
  · exact Or.inl rfl

theorem solo_advance (inv : Inv server s) (solo : Solo server worker claim s) {answer : Answer}
    (answered : answer = .heard ∨ ∃ state, answer = .raised state)
    (taken : advance server s worker answer = some t) :
    Solo server worker claim t ∧ remaining worker claim.id t < remaining worker claim.id s := by
  unfold advance at taken
  cases solo with
  | processing batch current at_work storable =>
      have found := (currentBatch_eq.mp current).1
      have before : remaining worker claim.id s = countOutcome batch.rows .pending + 2 := by
        simp [remaining, at_work, found]
      rw [before]
      rw [at_work] at taken
      dsimp only at taken
      rcases heard_processing inv current storable with ⟨none, ran⟩ | ⟨outcomes, next, some, ran, processed⟩
      · rw [ran] at taken
        rcases answered with rfl | ⟨state, rfl⟩
        · cases taken
          refine ⟨.completing batch current (Function.update_self ..) none, ?_⟩
          simp [remaining, State.setWorker]
        · cases taken
      · rw [ran] at taken
        rcases answered with rfl | ⟨state, rfl⟩
        · cases taken
          simp only [if_neg some]
          have now := current_processed processed
          refine ⟨.processing _ now (Function.update_self ..) (storable_processed inv processed storable), ?_⟩
          have there := (currentBatch_eq.mp now).1
          have fewer := @processed_fewer server batch s.db rowsPerQuery claim.id processed.2.1 processed.2.2.1
          simp only [remaining, State.setWorker, State.write, Function.update_self, there, Option.map_some,
            Option.getD_some]
          omega
        · cases taken
  | completing batch current at_work none =>
      have before : remaining worker claim.id s = 1 := by simp [remaining, at_work]
      rw [before]
      rw [at_work] at taken
      rcases answered with rfl | ⟨state, rfl⟩
      · cases taken
        refine ⟨.finished (Function.update_self ..) ?_, by simp [remaining, State.setWorker]⟩
        simp only [State.setWorker, State.write, completeBatch, current, none, ne_eq, not_true_eq_false, if_false]
        exact completed_finished none (Function.update_self ..)
      · cases taken
  | finished at_work =>
      rw [at_work] at taken
      cases taken

theorem solo_step (inv : Inv server s) (solo : Solo server worker claim s)
    (taken : SoloStep server worker s label t) :
    Solo server worker claim t ∧
      (if advances label then 1 else 0) + remaining worker claim.id t ≤ remaining worker claim.id s := by
  obtain ⟨taken, ⟨time, rfl⟩ | rfl | ⟨state, rfl⟩⟩ := taken
  · cases taken
    refine ⟨?_, Nat.le_of_eq (Nat.zero_add _)⟩
    cases solo with
    | processing batch current at_work storable => exact .processing batch current at_work storable
    | completing batch current at_work none => exact .completing batch current at_work none
    | finished at_work finished => exact .finished at_work finished
  · obtain ⟨next, less⟩ := solo_advance inv solo (Or.inl rfl) taken
    exact ⟨next, by rw [advances, if_pos rfl]; omega⟩
  · obtain ⟨next, less⟩ := solo_advance inv solo (Or.inr ⟨state, rfl⟩) taken
    exact ⟨next, by rw [advances, if_pos rfl]; omega⟩

/-- Such a worker is never stuck before its batch is finished. -/
theorem solo_goes_on (inv : Inv server s) (solo : Solo server worker claim s) :
    Finished s.db claim.id ∨ ∃ label t, advances label = true ∧ SoloStep server worker s label t := by
  have heard : (∃ t, advance server s worker .heard = some t) →
      ∃ (label : Label server WorkerId) (t : State WorkerId), advances label = true ∧
        SoloStep server worker s label t := by
    intro taken
    obtain ⟨t, taken⟩ := taken
    exact ⟨.advance worker .heard, t, rfl, taken, Or.inr (Or.inl rfl)⟩
  cases solo with
  | processing batch current at_work storable =>
      apply Or.inr (heard _)
      unfold advance
      rw [at_work]
      dsimp only
      rcases heard_processing inv current storable with ⟨_, ran⟩ | ⟨outcomes, next, _, ran, _⟩
      · rw [ran]
        exact ⟨_, rfl⟩
      · rw [ran]
        exact ⟨_, rfl⟩
  | completing batch current at_work none =>
      apply Or.inr (heard _)
      unfold advance
      rw [at_work]
      exact ⟨_, rfl⟩
  | finished _ finished => exact Or.inl finished

theorem completes (inv : Inv server s) (solo : Solo server worker claim s) : Completes server worker claim.id s := by
  refine ⟨remaining worker claim.id s, fun labels u run => ?_⟩
  have keeps : ∀ s (label : Label server WorkerId) t, (Inv server s ∧ Solo server worker claim s) →
      SoloStep server worker s label t → Inv server t ∧ Solo server worker claim t :=
    fun _ _ _ both taken => ⟨inv_step both.1 taken.1, (solo_step both.1 both.2 taken).1⟩
  obtain ⟨inv', solo'⟩ := run.invariant keeps ⟨inv, solo⟩
  have paid := run.countP_le keeps (fun _ _ _ both taken => (solo_step both.1 both.2 taken).2) ⟨inv, solo⟩
  exact ⟨by omega, solo_goes_on inv' solo'⟩

end Completing

section Blocking

variable {id : BatchId} {row : ImportBatchRow}

omit [DecidableEq WorkerId] in
theorem selected_thrown (inv : Inv server s) {batch : ImportBatch} (found : s.db.batches id = some batch)
    {state : SqlState} (raised : state ∈ violations (verdictOf server s.db batch) (selected batch 1)) :
    safeFailure state = none := by
  have rows := (inv.db.batches id batch found).rows
  cases first : (pendingInOrder batch.rows).head? with
  | none =>
      rw [selected, List.head?_eq_none_iff.mp first] at raised
      simp [violations, verdicts] at raised
  | some row =>
      rw [selected_one first] at raised
      have refused := violations_one raised
      obtain ⟨listed, pending⟩ := mem_pendingInOrder.mp (List.mem_of_mem_head? first)
      rcases rowVerdict_inv rows listed pending s.db with ⟨_, verdict, decided⟩ | ⟨_, other, decided, thrown⟩
      · rw [refused] at decided
        cases decided
      · rw [refused] at decided
        cases decided
        exact thrown

/-- A confirmed batch with a pending row that does not fit. -/
def Blocked (server : ServerText) (id : BatchId) (row : ImportBatchRow) (s : State WorkerId) : Prop :=
  ∃ batch, s.db.batches id = some batch ∧ batch.status ≠ .preview ∧ row ∈ batch.rows ∧ row.outcome = .pending ∧
    ¬ Storable server batch.updateExisting s.db.lightPoints row

omit [DecidableEq WorkerId] in
theorem blocked_number {limit : Nat} (inv : Inv server s) (ran : Processed server s.db claim limit batch t.db)
    (member : row ∈ batch.rows) (pending : row.outcome = .pending)
    (long : ¬ Storable server batch.updateExisting s.db.lightPoints row) :
    row ∉ selected batch limit ∧ ∀ number, row.inventoryNumber = some number →
      t.db.lightPoints number = s.db.lightPoints number := by
  obtain ⟨current, _, clean, same⟩ := ran
  have rows := (inv.db.batches _ batch (currentBatch_eq.mp current).1).rows
  have other : row ∉ selected batch limit := by
    intro chosen
    obtain ⟨verdict, decided⟩ := (violations_nil clean).1 row chosen
    rcases rowVerdict_inv rows member pending s.db with ⟨storable, _⟩ | ⟨_, state, refused, _⟩
    · exact long storable
    · rw [refused] at decided
      cases decided
  refine ⟨other, fun number named => ?_⟩
  rw [same]
  exact unselected_number rows claim.id member pending other named

theorem blocked_step (inv : Inv server s) (calm : Unfailing id s) (blocked : Blocked server id row s)
    (taken : CalmStep server id s label t) : Blocked server id row t := by
  obtain ⟨taken, quiet, _⟩ := taken
  obtain ⟨before, found, confirmed, member, pending, long⟩ := blocked
  have rows := (inv.db.batches id before found).rows
  obtain ⟨number, named, staged⟩ := pending_number rows member pending
  obtain ⟨after, there, onward⟩ := goesOn_step inv taken id before found confirmed
  have kept : t.db.lightPoints number = s.db.lightPoints number := by
    cases step_change taken with
    | inl same => rw [same]
    | inr changed =>
        obtain ⟨actor, changed, acts⟩ := changed
        rcases change_frame changed with untouched | ⟨claim, limit, batch, acting, ran⟩ | ⟨⟨change, other⟩, _⟩
        · rw [untouched.lightPoints]
        · obtain ⟨worker, answer, advance, held⟩ := acts claim acting
          rcases quiet with same | ⟨other, answer', rival, advance', holds, here⟩
          · rw [same]
          · rw [advance] at advance'
            cases advance'
            rw [held] at holds
            cases holds
            subst here
            cases current_found ran.1 found
            exact (blocked_number inv ran member pending long).2 number named
        · rcases quiet with same | ⟨_, _, _, advance, _⟩
          · rw [same]
          · rw [other] at advance
            cases advance
  refine ⟨after, there, onward.confirmed, ?_, pending, ?_⟩
  · obtain ⟨change, shape, each⟩ := rows_step inv taken found there
    have moved := each row member
    rw [shape]
    refine List.mem_map.mpr ⟨row, member, ?_⟩
    generalize change row = now at moved
    cases moved with
    | kept => rfl
    | settled _ _ here ran chosen => exact absurd chosen (blocked_number inv ran member pending long).1
    | failed _ at_work here current =>
        rw [calm _ _ _ _ at_work here] at current
        cases current
  · rw [onward.updateExisting, storable_same staged kept]
    exact long

theorem blocked_run {labels : List (Label server WorkerId)} (inv : Inv server s) (calm : Unfailing id s)
    (blocked : Blocked server id row s) (run : Run (CalmStep server id) s labels t) : Blocked server id row t := by
  have keeps : ∀ s (label : Label server WorkerId) t, (Inv server s ∧ Unfailing id s ∧ Blocked server id row s) →
      CalmStep server id s label t → Inv server t ∧ Unfailing id t ∧ Blocked server id row t :=
    fun _ _ _ known taken => ⟨inv_step known.1 taken.1,
      unfailing_step known.1 known.2.1 taken fun _ found _ => selected_thrown known.1 found,
      blocked_step known.1 known.2.1 known.2.2 taken⟩
  exact (run.invariant keeps ⟨inv, calm, blocked⟩).2.2

omit [DecidableEq WorkerId] in
theorem blocked_pending (blocked : Blocked server id row s) :
    ∃ batch, s.db.batches id = some batch ∧ pendingInOrder batch.rows ≠ [] := by
  obtain ⟨batch, found, _, member, pending, _⟩ := blocked
  exact ⟨batch, found, List.ne_nil_of_mem (mem_pendingInOrder.mpr ⟨member, pending⟩)⟩

theorem solo_calm (held : (s.workers worker).claim = none ∨ (s.workers worker).claim = some claim)
    (taken : SoloStep server worker s label t) : CalmStep server claim.id s label t ∧
      ((t.workers worker).claim = none ∨ (t.workers worker).claim = some claim) := by
  have advanced : ∀ answer, (∀ state, answer ≠ .obstructed state) → label = .advance worker answer →
    CalmStep server claim.id s label t ∧
      ((t.workers worker).claim = none ∨ (t.workers worker).claim = some claim) := by
    intro answer alone same
    subst same
    have step := taken.1
    obtain ⟨_, after, moved, kept⟩ := advance_claim step
    have here : t.workers worker = after := by rw [moved, Function.update_self]
    refine ⟨⟨step, ?_, fun _ state same => alone state (Label.advance.inj same).2⟩, ?_⟩
    · rcases advance_db step with same | ⟨other, holds, _⟩
      · exact Or.inl (by rw [same])
      · rcases held with none | some
        · rw [holds] at none
          cases none
        · exact Or.inr ⟨worker, answer, claim, rfl, some, rfl⟩
    · rw [here]
      rcases kept with none | same
      · exact Or.inl none
      · rw [same]
        exact held
  rcases taken.2 with ⟨time, rfl⟩ | same | ⟨state, same⟩
  · have step := taken.1
    cases step
    exact ⟨⟨rfl, Or.inl rfl, nofun⟩, held⟩
  · exact advanced .heard nofun same
  · exact advanced (.raised state) nofun same

theorem solo_blocked {labels : List (Label server WorkerId)} (inv : Inv server s) (still : Unfailing claim.id s)
    (held : (s.workers worker).claim = none ∨ (s.workers worker).claim = some claim)
    (blocked : Blocked server claim.id row s) (run : Run (SoloStep server worker) s labels t) :
    Blocked server claim.id row t := by
  have calm : Run (CalmStep server claim.id) s labels t ∧
      ((t.workers worker).claim = none ∨ (t.workers worker).claim = some claim) := by
    induction run with
    | nil => exact ⟨.nil _, held⟩
    | snoc _ taken ih =>
        obtain ⟨calm, kept⟩ := solo_calm ih.2 taken
        exact ⟨ih.1.snoc calm, kept⟩
  exact blocked_run inv still blocked calm.1

/-- A pass that always goes on or is finished gets to its end. -/
theorem completes_finished {id : BatchId} (done : Completes server worker id s) :
    ∃ labels u, Run (SoloStep server worker) s labels u ∧ Finished u.db id := by
  obtain ⟨bound, done⟩ := done
  by_contra never
  have longer : ∀ count, ∃ labels u, Run (SoloStep server worker) s labels u ∧ labels.countP advances = count := by
    intro count
    induction count with
    | zero => exact ⟨[], s, .nil s, rfl⟩
    | succ count ih =>
        obtain ⟨labels, u, run, counted⟩ := ih
        rcases (done labels u run).2 with finished | ⟨label, v, advancing, taken⟩
        · exact absurd ⟨labels, u, run, finished⟩ never
        · exact ⟨labels ++ [label], v, run.snoc taken, by simp [List.countP_append, counted, advancing]⟩
  obtain ⟨labels, u, run, counted⟩ := longer (bound + 1)
  have most := (done labels u run).1
  omega

theorem blocked_incomplete (inv : Inv server s) (still : Unfailing claim.id s)
    (held : (s.workers worker).claim = none ∨ (s.workers worker).claim = some claim)
    (blocked : Blocked server claim.id row s) : ¬ Completes server worker claim.id s := by
  intro done
  obtain ⟨labels, u, run, batch, found, _, none⟩ := completes_finished done
  obtain ⟨other, there, waiting⟩ := blocked_pending (solo_blocked inv still held blocked run)
  rw [found] at there
  cases there
  exact waiting none

end Blocking

/-- A claimed batch is brought to its end exactly when what its rows make the statement write fits. Else it
never is. -/
theorem progress_iff {earlier : List (Label server WorkerId)} (initial : Initial server start)
    (run : Run (Step server) start earlier s) (at_work : s.workers worker = .processing claim)
    (current : currentBatch s.db claim = some batch) :
    (FailsSafely server s.db batch ∧ Completes server worker claim.id s ↔ AllStorable server s.db batch) ∧
    (Completes server worker claim.id s ↔ AllStorable server s.db batch) ∧
    (¬ AllStorable server s.db batch → ∀ labels u, Run (CalmStep server claim.id) s labels u →
      ∃ after, u.db.batches claim.id = some after ∧ pendingInOrder after.rows ≠ []) := by
  have inv := inv_run run initial.inv
  obtain ⟨found, processing, _⟩ := currentBatch_eq.mp current
  have rows := (inv.db.batches _ batch found).rows
  -- Only the worker that processes the batch holds its current token.
  have still : Unfailing claim.id s := by
    intro other rival index failure failing here
    cases holds : currentBatch s.db rival with
    | none => rfl
    | some held =>
        have token := (currentBatch_eq.mp holds).2.2
        rw [current_found holds (here.symm ▸ found), (currentBatch_eq.mp current).2.2] at token
        have same := inv.own worker other claim rival (by rw [at_work]; rfl) (by rw [failing]; rfl)
          (Option.some.inj token)
        rw [← same, at_work] at failing
        cases failing
  have blocked : ¬ AllStorable server s.db batch → ∃ row, Blocked server claim.id row s := by
    intro long
    unfold AllStorable at long
    push Not at long
    obtain ⟨row, member, pending, long⟩ := long
    exact ⟨row, batch, found, by rw [processing]; exact nofun, member, pending, long⟩
  have whole : Completes server worker claim.id s ↔ AllStorable server s.db batch := by
    constructor
    · intro done
      by_contra long
      obtain ⟨row, blocked⟩ := blocked long
      exact blocked_incomplete inv still (Or.inr (by rw [at_work]; rfl)) blocked done
    · exact fun storable => completes inv (.processing batch current at_work storable)
  refine ⟨?_, whole, fun long labels u run => ?_⟩
  · rw [whole, failsSafely_iff rows]
    exact and_self_iff
  · obtain ⟨row, blocked⟩ := blocked long
    exact blocked_pending (blocked_run inv still blocked run)

section Import

def claimedImport (payload : ParsedPayload plainText) : List (Label plainText Unit) :=
  [.preview 7 none "preview" [⟨1, .accepted payload⟩] fun _ => none, .confirm 7 "preview" false 5,
    .claim () "token" .heard]

theorem claimedLamp_completes : ∃ s : State Unit, Completes plainText () 1 s := by
  have replayed : ((claimedImport lamp).foldlM (step plainText) emptyQueue).any (fun s : State Unit =>
      s.workers () = .processing ⟨1, "token"⟩ ∧ (currentBatch s.db ⟨1, "token"⟩).any (fun batch =>
        batch.rows.map (·.payload) = [some lamp.payload]) ∧ s.db.lightPoints "VO-1" = none) = true := by
    decide +kernel
  obtain ⟨s, folded, reached⟩ := (Option.any_eq_true ..).mp replayed
  obtain ⟨at_work, here, absent⟩ := of_decide_eq_true reached
  obtain ⟨batch, current, rows⟩ := (Option.any_eq_true ..).mp here
  have rows := of_decide_eq_true rows
  refine ⟨s, (progress_iff emptyQueue_initial (.of_foldlM folded) at_work current).2.1.mpr ?_⟩
  intro row member _ payload held written writes
  have same : payload = lamp.payload := by
    have listed := List.mem_map_of_mem (f := ImportBatchRow.payload) member
    rw [rows, List.mem_singleton, held] at listed
    exact Option.some.inj listed
  subst same
  rw [toWrite, show s.db.lightPoints lamp.payload.inventoryNumber = none from absent] at writes
  cases writes
  decide +kernel

def longLamp : ParsedPayload plainText where
  payload := { lamp.payload with
    externalId := some "012345678901234567890123456789012345678901234567890"
    present := ["inventory_number", "latitude", "longitude", "external_id"]
    statusGiven := by decide }
  canonical := lamp.canonical
  inRange := lamp.inRange
  listed := by decide

/-- The claimed import of the long external id is not failed, and its pass ends with the row still pending. -/
theorem longLamp_blocks : ∃ (s : State Unit) (batch : ImportBatch),
    Run (Step plainText) emptyQueue (claimedImport longLamp) s ∧ s.workers () = .processing ⟨1, "token"⟩ ∧
      currentBatch s.db ⟨1, "token"⟩ = some batch ∧ ¬ FailsSafely plainText s.db batch ∧
        ¬ Completes plainText () 1 s := by
  have replayed : ((claimedImport longLamp).foldlM (step plainText) emptyQueue).any (fun s : State Unit =>
      s.workers () = .processing ⟨1, "token"⟩ ∧ (currentBatch s.db ⟨1, "token"⟩).any (fun batch =>
        batch.rows.any fun row => row.outcome = .pending && match verdictOf plainText s.db batch row with
          | .error state => (safeFailure state).isNone
          | .ok _ => false) ∧
      (step plainText s (.advance () (.raised .stringDataRightTruncation))).any (fun t : State Unit =>
        t.workers () = .waiting ∧ (t.db.batches 1).any (·.status = .processing))) = true := by
    decide +kernel
  obtain ⟨s, folded, reached⟩ := (Option.any_eq_true ..).mp replayed
  obtain ⟨at_work, here, next⟩ := of_decide_eq_true reached
  obtain ⟨batch, current, some⟩ := (Option.any_eq_true ..).mp here
  obtain ⟨row, member, refused⟩ := List.any_eq_true.mp some
  obtain ⟨pending, refused⟩ := (Bool.and_eq_true ..).mp refused
  obtain ⟨t, taken, ended⟩ := (Option.any_eq_true ..).mp next
  obtain ⟨waiting, still⟩ := of_decide_eq_true ended
  refine ⟨s, batch, .of_foldlM folded, at_work, current, fun safely => ?_, fun done => ?_⟩
  · split at refused
    · rename_i state raised
      have caught := safely row member (of_decide_eq_true pending) state raised
      rw [Option.isNone_iff_eq_none.mp refused] at caught
      cases caught
    · cases refused
  · obtain ⟨bound, done⟩ := done
    have solo : SoloStep plainText () s (.advance () (.raised .stringDataRightTruncation)) t :=
      ⟨taken, Or.inr (Or.inr ⟨_, rfl⟩)⟩
    rcases (done _ t (.single solo)).2 with ⟨after, found, finished, _⟩ | ⟨label, v, advancing, taken, answered⟩
    · obtain ⟨other, there, processing⟩ := (Option.any_eq_true ..).mp still
      rw [found] at there
      cases there
      rw [of_decide_eq_true processing] at finished
      rcases finished with clash | clash <;> cases clash
    · rcases answered with ⟨time, rfl⟩ | rfl | ⟨state, rfl⟩
      · cases advancing
      · simp [Step, step, advance, waiting] at taken
      · simp [Step, step, advance, waiting] at taken

end Import

end Runs

end PublicLighting.ImportQueue
