import PublicLighting.ImportQueue.LeaseSafety

/-! The preview of an import predicts what the processing of its batch does. -/

namespace PublicLighting.ImportQueue

open Inventory Foundations
open scoped List

section Maps

variable {updateExisting : Bool} {payloads : List ImportPayload} {points : String → Option LightPoint}

def undated (row : LightPoint) : LightPoint := { row with updatedAt := 0 }

def columnsOf (lightPoints : Inventory) (number : String) : Option LightPoint :=
  (lightPoints number).map fun point => undated point.row

/-- What a payload says of the point with its number. -/
def appliedTo (updateExisting : Bool) (payload : ImportPayload) : Option LightPoint → LightPoint
  | none => payload.point 0
  | some row => if updateExisting then payload.replace row else row

def applyPayload (updateExisting : Bool) (points : String → Option LightPoint) (payload : ImportPayload) :
    String → Option LightPoint :=
  Function.update points payload.inventoryNumber
    (some (appliedTo updateExisting payload (points payload.inventoryNumber)))

def applyPayloads (updateExisting : Bool) (payloads : List ImportPayload) (points : String → Option LightPoint) :
    String → Option LightPoint :=
  payloads.foldl (applyPayload updateExisting) points

theorem applyPayloads_other {number : String} (others : ∀ payload ∈ payloads, payload.inventoryNumber ≠ number) :
    applyPayloads updateExisting payloads points number = points number := by
  unfold applyPayloads
  induction payloads generalizing points with
  | nil => rfl
  | cons payload payloads ih =>
      rw [List.foldl_cons, ih fun other member => others other (List.mem_cons_of_mem _ member)]
      exact Function.update_of_ne (fun same => others payload List.mem_cons_self same.symm) ..

theorem applyPayloads_here (distinct : (payloads.map (·.inventoryNumber)).Nodup) {payload : ImportPayload}
    (member : payload ∈ payloads) : applyPayloads updateExisting payloads points payload.inventoryNumber =
      some (appliedTo updateExisting payload (points payload.inventoryNumber)) := by
  induction payloads generalizing points with
  | nil => cases member
  | cons first payloads ih =>
      rw [List.map_cons, List.nodup_cons] at distinct
      change applyPayloads updateExisting payloads (applyPayload updateExisting points first) _ = _
      cases member with
      | head =>
          rw [applyPayloads_other fun other later same => distinct.1 (List.mem_map.mpr ⟨other, later, same⟩)]
          exact Function.update_self ..
      | tail _ member =>
          have other : payload.inventoryNumber ≠ first.inventoryNumber :=
            fun same => distinct.1 (List.mem_map.mpr ⟨payload, member, same⟩)
          rw [ih distinct.2 member, applyPayload, Function.update_of_ne other]

end Maps

section Rows

variable {server : ServerText} {rows : List (ParsedImportRow server)} {row : ParsedImportRow server}
  {payload : ParsedPayload server}

/-- The row is the one that the import leaves to the worker for its number. -/
def Leads (rows : List (ParsedImportRow server)) (row : ParsedImportRow server)
    (payload : ParsedPayload server) : Prop :=
  row.payload = some payload ∧ row.rowIndex ∉ duplicateConflicts rows ∧ row.rowIndex ∉ duplicateSkips rows

/-- The payloads of the rows that are neither errors nor duplicates. -/
def toApply (rows : List (ParsedImportRow server)) : List ImportPayload :=
  rows.filterMap fun row =>
    if row.rowIndex ∈ duplicateConflicts rows ∨ row.rowIndex ∈ duplicateSkips rows then none
    else row.payload.map (·.payload)

theorem mem_toApply {payload : ImportPayload} : payload ∈ toApply rows ↔
    ∃ row ∈ rows, ∃ parsed, Leads rows row parsed ∧ parsed.payload = payload := by
  unfold toApply Leads
  rw [List.mem_filterMap]
  refine exists_congr fun row => and_congr_right fun _ => ?_
  split
  · rename_i left
    constructor
    · exact nofun
    · intro leads
      obtain ⟨_, ⟨_, calm, single⟩, _⟩ := leads
      exact absurd left (not_or.mpr ⟨calm, single⟩)
  · rename_i chosen
    simp [not_or.mp chosen]

theorem agreed_iff (distinct : (rows.map (·.rowIndex)).Nodup) {parsed : ParsedPayload server} :
    (∃ row ∈ rows, Leads rows row parsed) ↔ Agreed rows parsed.payload.inventoryNumber parsed := by
  constructor
  · intro leads
    obtain ⟨row, member, accepted, chosen⟩ := leads
    rw [← payload_number accepted]
    exact ((chosen_iff distinct member accepted).mp chosen).1
  · intro agreed
    obtain ⟨some, other⟩ := agreed.1
    cases shape : rowsOf rows parsed.payload.inventoryNumber with
    | nil => exact absurd (mem_rowsOf.mpr other) (by rw [shape]; exact List.not_mem_nil)
    | cons first rest =>
        have here : first ∈ rowsOf rows parsed.payload.inventoryNumber := by rw [shape]; exact List.mem_cons_self
        obtain ⟨member, number⟩ := mem_rowsOf.mp here
        have accepted := agreed.2 first member number
        refine ⟨first, member, accepted, (chosen_iff distinct member accepted).mpr ?_⟩
        rw [number, shape]
        exact ⟨agreed, rfl⟩

theorem leads_unique (distinct : (rows.map (·.rowIndex)).Nodup) {other : ParsedImportRow server}
    {parsed : ParsedPayload server} (member : row ∈ rows) (present : other ∈ rows) (leads : Leads rows row payload)
    (rival : Leads rows other parsed) (same : payload.payload.inventoryNumber = parsed.payload.inventoryNumber) :
    row = other := by
  have first := ((chosen_iff distinct member leads.1).mp leads.2).2
  have second := ((chosen_iff distinct present rival.1).mp rival.2).2
  rw [payload_number leads.1, same] at first
  rw [payload_number rival.1, first] at second
  exact Option.some.inj second

theorem toApply_distinct (distinct : (rows.map (·.rowIndex)).Nodup) :
    ((toApply rows).map (·.inventoryNumber)).Nodup := by
  have once : rows.Pairwise fun row other => row ≠ other := List.Nodup.of_map _ distinct
  unfold toApply
  rw [List.map_filterMap, List.Nodup, List.pairwise_filterMap]
  apply once.imp_of_mem
  intro row other member present different number written number' written' same
  subst same
  have leads : ∀ {row : ParsedImportRow server}, ((if row.rowIndex ∈ duplicateConflicts rows ∨
      row.rowIndex ∈ duplicateSkips rows then none else row.payload.map (·.payload)).map (·.inventoryNumber)) =
        some number → ∃ parsed, Leads rows row parsed ∧ parsed.payload.inventoryNumber = number := by
    intro row written
    split at written
    · cases written
    · rename_i chosen
      obtain ⟨payload, held, same⟩ := Option.map_eq_some_iff.mp written
      obtain ⟨parsed, accepted, rfl⟩ := Option.map_eq_some_iff.mp held
      exact ⟨parsed, ⟨accepted, not_or.mp chosen⟩, same⟩
  obtain ⟨_, first, here⟩ := leads written
  obtain ⟨_, second, there⟩ := leads written'
  exact different (leads_unique distinct member present first second (here.trans there.symm))

/-- Which payloads are applied does not depend on the order of the rows in the file. -/
theorem applied_order {other : List (ParsedImportRow server)} (distinct : (rows.map (·.rowIndex)).Nodup)
    (distinct' : (other.map (·.rowIndex)).Nodup) (same : rows.map (·.content) ~ other.map (·.content))
    (updateExisting : Bool) (points : String → Option LightPoint) :
    applyPayloads updateExisting (toApply rows) points = applyPayloads updateExisting (toApply other) points := by
  have content : ∀ {one other : List (ParsedImportRow server)} {parsed : ParsedPayload server} {number : String},
      one.map (·.content) ~ other.map (·.content) → Agreed one number parsed → Agreed other number parsed := by
    intro one other parsed number same agreed
    have found : ∀ row ∈ other, ∃ known ∈ one, known.content = row.content := by
      intro row member
      exact List.mem_map.mp (same.mem_iff.mpr (List.mem_map_of_mem member))
    obtain ⟨row, member, named⟩ := agreed.1
    obtain ⟨rival, present, alike⟩ := List.mem_map.mp (same.mem_iff.mp (List.mem_map_of_mem member))
    refine ⟨⟨rival, present, ?_⟩, ?_⟩
    · rw [← named, ParsedImportRow.inventoryNumber, ParsedImportRow.inventoryNumber, alike]
    · intro row member number
      obtain ⟨known, listed, alike⟩ := found row member
      have accepted := agreed.2 known listed (by
        rw [← number, ParsedImportRow.inventoryNumber, ParsedImportRow.inventoryNumber, alike])
      rw [← accepted, ParsedImportRow.payload, ParsedImportRow.payload, alike]
  have among : ∀ payload, payload ∈ toApply rows ↔ payload ∈ toApply other := by
    intro payload
    have each : ∀ {some : List (ParsedImportRow server)}, (some.map (·.rowIndex)).Nodup → (payload ∈ toApply some ↔
        ∃ parsed : ParsedPayload server, Agreed some parsed.payload.inventoryNumber parsed ∧
          parsed.payload = payload) := by
      intro some distinct
      rw [mem_toApply]
      constructor
      · intro leads
        obtain ⟨row, member, parsed, leads, same⟩ := leads
        exact ⟨parsed, (agreed_iff distinct).mp ⟨row, member, leads⟩, same⟩
      · intro agreed
        obtain ⟨parsed, agreed, same⟩ := agreed
        obtain ⟨row, member, leads⟩ := (agreed_iff distinct).mpr agreed
        exact ⟨row, member, parsed, leads, same⟩
    rw [each distinct, each distinct']
    exact exists_congr fun parsed => and_congr_left fun _ => ⟨content same, content same.symm⟩
  funext number
  by_cases applied : ∃ payload ∈ toApply rows, payload.inventoryNumber = number
  · obtain ⟨payload, member, rfl⟩ := applied
    rw [applyPayloads_here (toApply_distinct distinct) member,
      applyPayloads_here (toApply_distinct distinct') ((among payload).mp member)]
  · have none : ∀ payload ∈ toApply rows, payload.inventoryNumber ≠ number :=
      fun payload member here => applied ⟨payload, member, here⟩
    rw [applyPayloads_other none, applyPayloads_other fun payload member =>
      none payload ((among payload).mpr member)]

end Rows

section Verdicts

variable {server : ServerText} {now : Nat} {updateExisting : Bool} {lightPoints : Inventory}
  {payload : ImportPayload}
  {verdict : Verdict}

/-- The texts of a payload fit their columns as they are. -/
def Fitting (server : ServerText) (payload : ImportPayload) : Prop :=
  ∀ now, (payload.point now).store server = .ok (payload.point now)

/-- How a row ends that the preview leaves to the worker. -/
def predicted (updateExisting : Bool) (payload : ImportPayload) : Option PointRow → RowOutcome
  | none => .created
  | some point =>
      if updateExisting then if point.row.Alike (payload.replace point.row) then .unchanged else .updated
      else .skipped

theorem replace_undated (row : LightPoint) : undated (payload.replace row) = payload.replace (undated row) := rfl

theorem replace_store {row : LightPoint} (fitting : Fitting server payload) (stored : row.store server = .ok row) :
    { payload.replace row with updatedAt := now }.store server = .ok { payload.replace row with
      updatedAt := now } := by
  obtain ⟨canonical, valid, indexed⟩ := store_checks (fitting now)
  obtain ⟨external, quarter, lamp⟩ := stored_columns (fitting now)
  obtain ⟨external', quarter', lamp'⟩ := stored_columns stored
  apply store_of_checks
  · simp only [ImportPayload.replace, ImportPayload.given]
    split
    · exact external
    · exact external'
  · simp only [ImportPayload.replace, ImportPayload.given]
    split
    · exact quarter
    · exact quarter'
  · simp only [ImportPayload.replace, ImportPayload.given]
    split
    · exact lamp
    · exact lamp'
  · exact canonical
  · exact valid
  · exact indexed

theorem verdict_fits (fitting : Fitting server payload)
    (stored : ∀ point, lightPoints payload.inventoryNumber = some point → point.row.store server = .ok point.row) :
    ∃ verdict, payloadVerdict server now updateExisting lightPoints payload = .ok verdict := by
  unfold payloadVerdict
  cases present : lightPoints payload.inventoryNumber with
  | none =>
      dsimp only
      rw [fitting now]
      exact ⟨_, rfl⟩
  | some point =>
      dsimp only
      cases updateExisting with
      | false => exact ⟨_, rfl⟩
      | true =>
          rw [if_pos rfl, importUpdate]
          split
          · exact ⟨_, rfl⟩
          · rw [replace_store fitting (stored point present)]
            exact ⟨_, rfl⟩

theorem alike_undated {row : LightPoint} (alike : row.Alike (payload.replace row)) :
    undated row = payload.replace (undated row) := by
  obtain ⟨number, external, longitude, latitude, address, district, lamp, status⟩ := LightPoint.alike_iff.mp alike
  rw [← replace_undated]
  cases row
  simp only [undated, LightPoint.mk.injEq]
  exact ⟨number, external, longitude, latitude, address, rfl, district, lamp, status, trivial⟩

theorem verdict_predicted (fitting : Fitting server payload)
    (stored : ∀ point, lightPoints payload.inventoryNumber = some point → point.row.store server = .ok point.row)
    (decided : payloadVerdict server now updateExisting lightPoints payload = .ok verdict) :
    verdict.outcome = predicted updateExisting payload (lightPoints payload.inventoryNumber) ∧
    (∀ point, Leaves verdict point →
      undated point.row = appliedTo updateExisting payload (columnsOf lightPoints payload.inventoryNumber)) ∧
    (verdict.writes = false → columnsOf lightPoints payload.inventoryNumber =
      some (appliedTo updateExisting payload (columnsOf lightPoints payload.inventoryNumber))) := by
  rcases payloadVerdict_ok decided with ⟨row, absent, kept, rfl⟩ | ⟨point, written, present, rfl, updated, rfl⟩ |
    ⟨point, present, rfl, unchanged, rfl⟩ | ⟨point, present, rfl, rfl⟩
  · rw [fitting now] at kept
    cases kept
    refine ⟨by rw [absent]; rfl, fun point left => ?_, nofun⟩
    rw [columnsOf, absent, show point.row = _ from left]
    rfl
  · obtain ⟨different, kept, _⟩ := importUpdate_some updated
    rw [replace_store fitting (stored point present)] at kept
    have same := Except.ok.inj kept
    refine ⟨?_, fun other left => ?_, nofun⟩
    · rw [present]
      exact (if_neg different).symm
    · rw [show other = _ from left, columnsOf, present, ← same]
      rfl
  · refine ⟨?_, fun _ left => left.elim, fun _ => ?_⟩
    · rw [present]
      exact (if_pos (importUpdate_none unchanged)).symm
    · rw [columnsOf, present]
      exact congrArg some (alike_undated (importUpdate_none unchanged))
  · refine ⟨?_, fun _ left => left.elim, fun _ => ?_⟩
    · rw [present]
      rfl
    · rw [columnsOf, present]
      rfl

theorem predicted_ne (updateExisting : Bool) (payload : ImportPayload) (point : Option PointRow) :
    predicted updateExisting payload point ≠ .pending ∧ predicted updateExisting payload point ≠ .failed := by
  unfold predicted
  repeat' split
  all_goals exact ⟨nofun, nofun⟩

end Verdicts

section Progress

variable {server : ServerText} {WorkerId : Type} [DecidableEq WorkerId] {s t : State WorkerId}
  {label : Label server WorkerId} {rows : List (ParsedImportRow server)} {existing : String → Option PointId}
  {initial : Inventory} {id : BatchId}

/-- A step that changes the inventory only to process one batch, in which nobody obstructs a worker. -/
def CalmStep (server : ServerText) (id : BatchId) (s : State WorkerId) (label : Label server WorkerId)
    (t : State WorkerId) : Prop :=
  Step server s label t ∧ (t.db.lightPoints = s.db.lightPoints ∨ ∃ worker answer claim,
    label = .advance worker answer ∧ (s.workers worker).claim = some claim ∧ claim.id = id) ∧
  ∀ worker state, label ≠ .advance worker (.obstructed state)

def Unfailing (id : BatchId) (s : State WorkerId) : Prop :=
  ∀ worker claim index failure, s.workers worker = .failing claim index failure → claim.id = id →
    currentBatch s.db claim = none

def SameNames (staged row : ImportBatchRow) : Prop :=
  row.sourceRowNumber = staged.sourceRowNumber ∧ row.inventoryNumber = staged.inventoryNumber ∧
    row.previewAction = staged.previewAction

inductive Progressed (rows : List (ParsedImportRow server)) (existing : String → Option PointId)
    (initial : Inventory)
    (lightPoints : Inventory) (batch : ImportBatch) (row : ParsedImportRow server) : ImportBatchRow → Prop
  | waiting (still : ∀ payload, Leads rows row payload →
      lightPoints payload.payload.inventoryNumber = initial payload.payload.inventoryNumber) :
      Progressed rows existing initial lightPoints batch row (stageRow rows existing row)
  | done {settled : ImportBatchRow} {payload : ParsedPayload server} (confirmed : batch.status ≠ .preview)
      (leads : Leads rows row payload) (named : SameNames (stageRow rows existing row) settled)
      (outcome : settled.outcome =
        predicted batch.updateExisting payload.payload (initial payload.payload.inventoryNumber))
      (written : columnsOf lightPoints payload.payload.inventoryNumber = some (appliedTo batch.updateExisting
        payload.payload (columnsOf initial payload.payload.inventoryNumber))) :
      Progressed rows existing initial lightPoints batch row settled

def RowsProgressed (rows : List (ParsedImportRow server)) (existing : String → Option PointId) (initial : Inventory)
    (lightPoints : Inventory) (batch : ImportBatch) : Prop :=
  ∃ progress : ParsedImportRow server → ImportBatchRow, batch.rows = rows.map progress ∧
    ∀ row ∈ rows, Progressed rows existing initial lightPoints batch row (progress row)

structure Predicts (rows : List (ParsedImportRow server)) (existing : String → Option PointId) (initial : Inventory)
    (id : BatchId) (s : State WorkerId) : Prop where
  staged : id < s.db.nextBatchId
  calm : Unfailing id s
  others : ∀ number, (∀ payload ∈ toApply rows, payload.inventoryNumber ≠ number) →
    s.db.lightPoints number = initial number
  batch : ∀ batch, s.db.batches id = some batch → RowsProgressed rows existing initial s.db.lightPoints batch

theorem Progressed.named {lightPoints : Inventory} {batch : ImportBatch} {row : ParsedImportRow server}
    {now : ImportBatchRow} (progressed : Progressed rows existing initial lightPoints batch row now) :
    SameNames (stageRow rows existing row) now := by
  cases progressed with
  | waiting => exact ⟨rfl, rfl, rfl⟩
  | done _ _ named => exact named

theorem Progressed.kept {lightPoints written : Inventory} {batch after : ImportBatch} {row : ParsedImportRow server}
    {now : ImportBatchRow} (progressed : Progressed rows existing initial lightPoints batch row now)
    (still : ∀ payload, Leads rows row payload →
      written payload.payload.inventoryNumber = lightPoints payload.payload.inventoryNumber)
    (confirmed : batch.status ≠ .preview → after.status ≠ .preview ∧ after.updateExisting = batch.updateExisting) :
    Progressed rows existing initial written after row now := by
  cases progressed with
  | waiting untouched => exact .waiting fun payload leads => (still payload leads).trans (untouched payload leads)
  | @done _ payload before leads named outcome applied =>
      obtain ⟨later, choice⟩ := confirmed before
      refine .done later leads named (by rw [choice]; exact outcome) ?_
      rw [choice, columnsOf, still payload leads]
      exact applied

theorem stageRow_leads {row : ParsedImportRow server} (pending : (stageRow rows existing row).outcome = .pending) :
    ∃ payload, Leads rows row payload ∧ (stageRow rows existing row).payload = some payload.payload := by
  by_contra other
  have none : ¬ ∃ payload, row.payload = some payload ∧
      row.rowIndex ∉ duplicateConflicts rows ∧ row.rowIndex ∉ duplicateSkips rows := by
    intro leads
    obtain ⟨payload, leads⟩ := leads
    exact other ⟨payload, leads, (stageRow_chosen leads.1 leads.2.1 leads.2.2).2.1⟩
  have settled := (@stageRow_other _ rows existing row none).2
  split at settled <;> simp [settled.1] at pending

theorem progressed_pending {lightPoints : Inventory} {batch : ImportBatch} {row : ParsedImportRow server}
    {now : ImportBatchRow} (progressed : Progressed rows existing initial lightPoints batch row now)
    (pending : now.outcome = .pending) : ∃ payload, Leads rows row payload ∧ now.payload = some payload.payload ∧
      lightPoints payload.payload.inventoryNumber = initial payload.payload.inventoryNumber := by
  cases progressed with
  | waiting still =>
      obtain ⟨payload, leads, held⟩ := stageRow_leads pending
      exact ⟨payload, leads, held, still payload leads⟩
  | done _ _ _ outcome =>
      rw [outcome] at pending
      exact absurd pending (predicted_ne ..).1

section Selected

variable {batch : ImportBatch} {limit : Nat}

omit [DecidableEq WorkerId] in
theorem selected_verdicts (points : PointsInv server s.db)
    (fitting : ∀ row ∈ rows, ∀ payload, row.payload = some payload → Fitting server payload.payload)
    (progressed : RowsProgressed rows existing initial s.db.lightPoints batch) :
    ∀ row ∈ selected batch limit, ∃ verdict, verdictOf server s.db batch row = .ok verdict := by
  intro now chosen
  obtain ⟨progress, shape, each⟩ := progressed
  obtain ⟨member, pending⟩ := selected_mem chosen
  rw [shape] at member
  obtain ⟨row, listed, rfl⟩ := List.mem_map.mp member
  obtain ⟨payload, leads, held, _⟩ := progressed_pending (each row listed) pending
  rw [verdictOf, rowVerdict, held]
  exact verdict_fits (fitting row listed payload leads.1) fun point present => (points.keyed _ point present).2.1

theorem createdNumber_number {verdict : Verdict} {number : String} (created : verdict.createdNumber = some number) :
    verdict.number = some number := by
  cases verdict with
  | created => exact created
  | updated => cases created
  | unchanged => cases created
  | skipped => cases created

theorem violations_none {db : Database} (inv : RowsInv server batch.rows)
    (decided : ∀ row ∈ selected batch limit, ∃ verdict, verdictOf server db batch row = .ok verdict) :
    violations (verdictOf server db batch) (selected batch limit) = [] := by
  have distinct := @verdicts_distinct server db batch limit inv
  unfold violations
  apply List.append_eq_nil_iff.mpr
  constructor
  · rw [List.filterMap_eq_nil_iff]
    intro row member
    obtain ⟨verdict, decided⟩ := decided row member
    rw [decided]
  · apply if_pos
    rw [List.Nodup, List.pairwise_filterMap] at distinct ⊢
    apply distinct.imp
    intro one other apart number here number' there
    exact apart number (createdNumber_number here) number' (createdNumber_number there)

omit [DecidableEq WorkerId] in
theorem verdict_leads {progress : ParsedImportRow server → ImportBatchRow}
    (each : ∀ row ∈ rows, Progressed rows existing initial s.db.lightPoints batch row (progress row))
    {row : ParsedImportRow server} (listed : row ∈ rows) {verdict : Verdict}
    (chosen : progress row ∈ selected batch limit)
    (decided : verdictOf server s.db batch (progress row) = .ok verdict) :
    ∃ payload, Leads rows row payload ∧
      payloadVerdict server s.db.now batch.updateExisting s.db.lightPoints payload.payload = .ok verdict ∧
      s.db.lightPoints payload.payload.inventoryNumber = initial payload.payload.inventoryNumber := by
  obtain ⟨payload, leads, held, same⟩ := progressed_pending (each row listed) (selected_mem chosen).2
  rw [verdictOf, rowVerdict, held] at decided
  exact ⟨payload, leads, decided, same⟩

omit [DecidableEq WorkerId] in
theorem unwritten {progress : ParsedImportRow server → ImportBatchRow} (shape : batch.rows = rows.map progress)
    (each : ∀ row ∈ rows, Progressed rows existing initial s.db.lightPoints batch row (progress row))
    {number : String}
    (none : ∀ row ∈ rows, ∀ payload, Leads rows row payload → payload.payload.inventoryNumber = number →
      progress row ∈ selected batch limit → ∀ verdict, verdictOf server s.db batch (progress row) = .ok verdict →
        verdict.writes = false) :
    (worked server s.db id batch limit).lightPoints number = s.db.lightPoints number := by
  apply applyVerdicts_other
  intro verdict member written
  obtain ⟨now, chosen, decided⟩ := mem_verdicts.mp member
  have member := (selected_mem chosen).1
  rw [shape] at member
  obtain ⟨row, listed, rfl⟩ := List.mem_map.mp member
  obtain ⟨payload, leads, ruled, _⟩ := verdict_leads each listed chosen decided
  have named := (payloadVerdict_number ruled).1
  cases writes : verdict.writes with
  | false =>
      rw [writes, written] at named
      cases named
  | true =>
      rw [writes, written] at named
      have idle := none row listed payload leads (Option.some.inj named).symm chosen verdict decided
      rw [writes] at idle
      cases idle

end Selected

theorem columnsOf_same {one other : Inventory} {number : String} (same : one number = other number) :
    columnsOf one number = columnsOf other number := by
  rw [columnsOf, columnsOf, same]

variable (distinct : (rows.map (·.rowIndex)).Nodup)
  (fitting : ∀ row ∈ rows, ∀ payload, row.payload = some payload → Fitting server payload.payload)

include distinct fitting

omit [DecidableEq WorkerId] in
theorem processed_progress (inv : DbInv server s.db) {claim : Claim} {limit : Nat} {before : ImportBatch}
    (ran : Processed server s.db claim limit before t.db)
    (progressed : RowsProgressed rows existing initial s.db.lightPoints before) :
    RowsProgressed rows existing initial t.db.lightPoints (processed server s.db claim.id before limit) := by
  obtain ⟨progress, shape, each⟩ := progressed
  obtain ⟨current, _, clean, next⟩ := ran
  obtain ⟨found, processing, _⟩ := currentBatch_eq.mp current
  have rowsInv := (inv.batches _ before found).rows
  have points : t.db.lightPoints = (worked server s.db claim.id before limit).lightPoints := by rw [next]
  have confirmed : before.status ≠ .preview := by
    rw [processing]
    exact nofun
  refine ⟨fun row => settle (worked server s.db claim.id before limit).lightPoints (verdictOf server s.db before)
    (selected before limit) (progress row), ?_, ?_⟩
  · change before.rows.map _ = _
    rw [shape, List.map_map]
    rfl
  intro row listed
  dsimp only
  have alone : ∀ payload, Leads rows row payload → ∀ other ∈ rows, ∀ parsed, Leads rows other parsed →
      parsed.payload.inventoryNumber = payload.payload.inventoryNumber → other = row := by
    intro payload leads other present parsed rival same
    exact leads_unique distinct present listed rival leads same
  by_cases chosen : progress row ∈ selected before limit
  · obtain ⟨verdict, decided⟩ := (violations_nil clean).1 _ chosen
    obtain ⟨payload, leads, ruled, same⟩ := verdict_leads each listed chosen decided
    obtain ⟨outcome, left, idle⟩ := verdict_predicted (fitting row listed payload leads.1)
      (fun point present => (inv.points.keyed _ point present).2.1) ruled
    rw [settle_chosen decided chosen]
    obtain ⟨number, name, action⟩ := (each row listed).named
    refine .done confirmed leads ⟨number, name, action⟩ (by rw [← same]; exact outcome) ?_
    rw [points, ← columnsOf_same same]
    cases writes : verdict.writes with
    | true =>
        have named := (payloadVerdict_number ruled).1
        rw [writes] at named
        obtain ⟨point, here, leaves⟩ := @applyVerdicts_number s.db before claim.id _ verdict _
          (verdicts_distinct rowsInv) (mem_verdicts.mpr ⟨_, chosen, decided⟩) named
        rw [columnsOf, worked, here]
        exact congrArg some (left point leaves)
    | false =>
        refine (columnsOf_same (unwritten shape each ?_)).trans (idle writes)
        intro other present parsed rival number _ ruling decides
        cases alone payload leads other present parsed rival number
        rw [decided] at decides
        cases decides
        exact writes
  · rw [settle_other chosen, points]
    have untouched : ∀ payload, Leads rows row payload →
        (worked server s.db claim.id before limit).lightPoints payload.payload.inventoryNumber =
          s.db.lightPoints payload.payload.inventoryNumber := by
      intro payload leads
      refine unwritten shape each ?_
      intro other present parsed rival number picked
      cases alone payload leads other present parsed rival number
      exact absurd picked chosen
    exact (each row listed).kept untouched fun confirmed => ⟨confirmed, rfl⟩

omit [DecidableEq WorkerId] distinct fitting in
/-- Nothing but a verdict on a row that is left to the worker writes to the inventory. -/
theorem processed_others {claim : Claim} {limit : Nat} {before : ImportBatch}
    (ran : Processed server s.db claim limit before t.db)
    (progressed : RowsProgressed rows existing initial s.db.lightPoints before) {number : String}
    (other : ∀ payload ∈ toApply rows, payload.inventoryNumber ≠ number) :
    t.db.lightPoints number = s.db.lightPoints number := by
  obtain ⟨progress, shape, each⟩ := progressed
  have points : t.db.lightPoints = (worked server s.db claim.id before limit).lightPoints := by rw [ran.2.2.2]
  rw [points]
  refine unwritten shape each ?_
  intro row listed payload leads same
  exact absurd same (other payload.payload (mem_toApply.mpr ⟨row, listed, payload, leads, rfl⟩))

omit distinct fitting in
/-- No worker comes to fail a row where the statement for one row of the batch raises nothing that it catches. -/
theorem unfailing_step (inv : Inv server s) (calm : Unfailing id s) (taken : CalmStep server id s label t)
    (clean : ∀ batch, s.db.batches id = some batch → ∀ state,
      state ∈ violations (verdictOf server s.db batch) (selected batch 1) → safeFailure state = none) :
    Unfailing id t := by
  intro worker claim index failure failing here
  obtain ⟨taken, _, unobstructed⟩ := taken
  cases current : currentBatch t.db claim with
  | none => rfl
  | some batch =>
      exfalso
      by_cases own : ∃ answer, label = .advance worker answer
      · obtain ⟨answer, rfl⟩ := own
        obtain ⟨_, _, state, failed, safe⟩ := advance_failing taken failing
        rcases failed with ⟨_, states, ran, member⟩ | ⟨rfl, _⟩
        · obtain ⟨before, holds, _, _, same⟩ := processImportRows_error ran
          have thrown := clean before (here ▸ (currentBatch_eq.mp holds).1) state (same ▸ member)
          rw [safe] at thrown
          cases thrown
        · exact unobstructed worker state rfl
      · have others : ∀ answer, label ≠ .advance worker answer := fun answer same => own ⟨answer, same⟩
        have before := step_failing taken others failing
        obtain ⟨held, still, _⟩ := undisturbed inv taken (by rw [before]; rfl) others current
        rw [calm worker claim index failure before here] at still
        cases still

omit distinct in
/-- A worker never comes to fail a row whose texts fit. -/
theorem calm_step (inv : Inv server s) (predicts : Predicts rows existing initial id s)
    (taken : CalmStep server id s label t) : Unfailing id t := by
  refine unfailing_step inv predicts.calm taken fun batch found state raised => ?_
  have decided := @selected_verdicts server _ s rows existing initial batch 1 inv.db.points fitting
    (predicts.batch batch found)
  rw [violations_none (inv.db.batches _ batch found).rows decided] at raised
  cases raised

omit distinct fitting in
theorem nextBatchId_step (taken : Step server s label t) : s.db.nextBatchId ≤ t.db.nextBatchId := by
  cases step_change taken with
  | inl same => rw [same]
  | inr changed =>
      obtain ⟨actor, changed, _⟩ := changed
      exact nextBatchId_change changed

omit distinct fitting in
theorem batch_before (inv : Inv server s) (taken : Step server s label t) (staged : id < s.db.nextBatchId)
    {after : ImportBatch} (there : t.db.batches id = some after) : ∃ before, s.db.batches id = some before := by
  cases step_change taken with
  | inl same => exact ⟨after, same ▸ there⟩
  | inr changed =>
      obtain ⟨actor, changed, _⟩ := changed
      have here := change_step changed inv.db.fresh id
      rw [there] at here
      cases found : s.db.batches id with
      | some before => exact ⟨before, rfl⟩
      | none =>
          rw [found] at here
          cases here with
          | staged _ newest => exact absurd newest (Nat.ne_of_lt staged)

theorem predicts_step (inv : Inv server s) (predicts : Predicts rows existing initial id s)
    (taken : CalmStep server id s label t) : Predicts rows existing initial id t := by
  have calm := calm_step fitting inv predicts taken
  obtain ⟨taken, quiet, _⟩ := taken
  have staged := Nat.lt_of_lt_of_le predicts.staged (nextBatchId_step taken)
  by_cases works : ∃ claim limit before, claim.id = id ∧ Processed server s.db claim limit before t.db
  · obtain ⟨claim, limit, before, rfl, ran⟩ := works
    have found := (currentBatch_eq.mp ran.1).1
    have progressed := predicts.batch before found
    refine ⟨staged, calm, fun number other => ?_, fun after there => ?_⟩
    · exact (processed_others ran progressed other).trans (predicts.others number other)
    · have same : t.db.batches claim.id = some (processed server s.db claim.id before limit) := by
        rw [ran.2.2.2]
        exact Function.update_self ..
      rw [same] at there
      cases there
      exact processed_progress distinct fitting inv.db ran progressed
  · have points : t.db.lightPoints = s.db.lightPoints := by
      rcases quiet with same | ⟨worker, answer, claim, rfl, held, here⟩
      · exact same
      · rcases advance_db taken with same | ⟨other, holds, ⟨limit, outcomes, ran⟩ | ⟨_, failure, _, effect⟩ | effect⟩
        · rw [same]
        · rw [held] at holds
          cases holds
          cases processImportRows_ok ran with
          | inl nothing => rw [nothing.2.1]
          | inr done =>
              obtain ⟨batch, current, some, clean, _, next⟩ := done
              exact absurd ⟨claim, limit, batch, here, current, some, clean, next⟩ works
        · rw [effect]
          exact failed_frame.lightPoints
        · rw [effect]
          cases completeBatch_cases other s.db with
          | inl same => rw [same]
          | inr done =>
              obtain ⟨_, _, _, same⟩ := done
              rw [same]
    refine ⟨staged, calm, fun number other => ?_, fun after there => ?_⟩
    · rw [points]
      exact predicts.others number other
    · rw [points]
      obtain ⟨before, found⟩ := batch_before inv taken predicts.staged there
      obtain ⟨progress, shape, each⟩ := predicts.batch before found
      obtain ⟨change, rows', moved⟩ := rows_step inv taken found there
      refine ⟨progress, ?_, fun row listed => ?_⟩
      · rw [rows', shape, List.map_map]
        apply List.map_congr_left
        intro row listed
        have member : progress row ∈ before.rows := by
          rw [shape]
          exact List.mem_map_of_mem listed
        generalize settled : change (progress row) = now
        have here := moved _ member
        rw [settled] at here
        cases here with
        | kept => exact settled
        | settled _ _ here ran => exact absurd ⟨_, _, before, here, ran⟩ works
        | failed _ at_work here current =>
            rw [predicts.calm _ _ _ _ at_work here] at current
            cases current
      · apply (each row listed).kept fun _ _ => rfl
        intro confirmed
        obtain ⟨later, found', onward⟩ := goesOn_step inv taken id before found confirmed
        rw [there] at found'
        cases found'
        exact ⟨onward.confirmed, onward.updateExisting⟩

theorem predicts_run {labels : List (Label server WorkerId)} (inv : Inv server s)
    (predicts : Predicts rows existing initial id s) (run : Run (CalmStep server id) s labels t) :
    Inv server t ∧ Predicts rows existing initial id t := by
  induction run with
  | nil => exact ⟨inv, predicts⟩
  | snoc _ taken ih => exact ⟨inv_step ih.1 taken.1, predicts_step distinct fitting ih.1 ih.2 taken⟩

omit distinct fitting in
theorem predicts_staged {adminId : AdminId} {uploaderUsername : Option String} {previewId : Uuid}
    (staged : Step server s (.preview adminId uploaderUsername previewId rows existing) t) :
    (rows.map (·.rowIndex)).Nodup ∧ Predicts rows existing s.db.lightPoints s.db.nextBatchId t := by
  obtain ⟨next, built, rfl⟩ := Option.map_eq_some_iff.mp staged
  cases ran : buildImportPreview adminId uploaderUsername previewId rows existing s.db with
  | error =>
      rw [ran] at built
      cases built
  | ok db =>
      rw [ran] at built
      cases built
      obtain ⟨distinct, rfl⟩ := buildImportPreview_ok ran
      refine ⟨distinct, Nat.lt_succ_self _, ?_, fun _ _ => rfl, ?_⟩
      · intro worker claim index failure _ here
        simp [State.write, currentBatch, here, stagedBatch]
      · intro batch found
        simp only [State.write, Function.update_self, Option.some.injEq] at found
        subst found
        refine ⟨stageRow rows existing, stageRows_eq rows existing, fun row _ => .waiting fun _ _ => rfl⟩

end Progress

section Prediction

variable {server : ServerText} {WorkerId : Type} [DecidableEq WorkerId] {s t u start : State WorkerId}
  {rows : List (ParsedImportRow server)}

/-- What the preview said of a row came true. -/
def Fulfilled (updateExisting : Bool) (initial : Inventory) (row : ParsedImportRow server) (final : ImportBatchRow) :
    Prop :=
  match final.previewAction with
  | .create => final.outcome = .created
  | .update => ∃ payload point, row.payload = some payload ∧ initial payload.payload.inventoryNumber = some point ∧
      final.outcome =
        if updateExisting then if point.row.Alike (payload.payload.replace point.row) then .unchanged else .updated
        else .skipped
  | .skip => final.outcome = .skipped
  | .error => final.outcome = .failed
  | .unchanged => False

theorem mem_lookedUp {row : ParsedImportRow server} {payload : ParsedPayload server} (member : row ∈ rows)
    (leads : Leads rows row payload) : payload.payload.inventoryNumber ∈ lookedUp rows := by
  unfold lookedUp
  rw [List.mem_dedup, List.mem_filterMap]
  refine ⟨row, member, ?_⟩
  rw [if_neg (not_or.mpr leads.2), leads.1]
  rfl

theorem leads_action {db : Database} (points : PointsInv server db) {row : ParsedImportRow server}
    {payload : ParsedPayload server} (member : row ∈ rows) (leads : Leads rows row payload) :
    (stageRow rows (lookupExisting db.lightPoints (lookedUp rows)) row).previewAction =
      if (db.lightPoints payload.payload.inventoryNumber).isSome then .update else .create := by
  have looked : lookupExisting db.lightPoints (lookedUp rows) payload.payload.inventoryNumber =
      (db.lightPoints payload.payload.inventoryNumber).map (·.id) := by
    rw [lookupExisting_eq, if_pos (mem_lookedUp member leads)]
  rw [(stageRow_chosen leads.1 leads.2.1 leads.2.2).2.2.2, looked]
  cases found : db.lightPoints payload.payload.inventoryNumber with
  | none => rfl
  | some point =>
      have positive := (points.keyed _ point found).2.2.1
      simp [Nat.ne_of_gt positive]

theorem fulfilled {lightPoints : Inventory} {db : Database} (points : PointsInv server db) {batch : ImportBatch}
    {row : ParsedImportRow server} {final : ImportBatchRow} (member : row ∈ rows)
    (progressed : Progressed rows (lookupExisting db.lightPoints
      (lookedUp rows)) db.lightPoints lightPoints batch row final)
    (settled : final.outcome ≠ .pending) : Fulfilled batch.updateExisting db.lightPoints row final := by
  cases progressed with
  | waiting =>
      have other : ¬ ∃ payload, row.payload = some payload ∧
          row.rowIndex ∉ duplicateConflicts rows ∧ row.rowIndex ∉ duplicateSkips rows := by
        intro leads
        obtain ⟨payload, leads⟩ := leads
        exact settled (stageRow_chosen leads.1 leads.2.1 leads.2.2).1
      have shape := (@stageRow_other _ rows (lookupExisting db.lightPoints (lookedUp rows)) row other).2
      unfold Fulfilled
      split at shape <;> rw [shape.2] <;> exact shape.1
  | @done _ payload _ leads named outcome =>
      unfold Fulfilled
      rw [named.2.2, leads_action points member leads]
      cases found : db.lightPoints payload.payload.inventoryNumber with
      | none =>
          rw [found] at outcome
          exact outcome
      | some point =>
          rw [found] at outcome
          exact ⟨payload, point, leads.1, found, outcome⟩

omit [DecidableEq WorkerId] in
theorem columns_applied {existing : String → Option PointId} {initial : Inventory} {id : BatchId}
    {batch : ImportBatch}
    (distinct : (rows.map (·.rowIndex)).Nodup) (predicts : Predicts rows existing initial id u)
    (found : u.db.batches id = some batch) (settled : ∀ row ∈ batch.rows, row.outcome ≠ .pending) :
    columnsOf u.db.lightPoints = applyPayloads batch.updateExisting (toApply rows) (columnsOf initial) := by
  funext number
  by_cases applied : ∃ payload ∈ toApply rows, payload.inventoryNumber = number
  · obtain ⟨payload, member, rfl⟩ := applied
    rw [applyPayloads_here (toApply_distinct distinct) member]
    obtain ⟨row, listed, parsed, leads, rfl⟩ := mem_toApply.mp member
    obtain ⟨progress, shape, each⟩ := predicts.batch batch found
    have final := settled (progress row) (by rw [shape]; exact List.mem_map_of_mem listed)
    have progressed := each row listed
    generalize progress row = now at final progressed
    cases progressed with
    | waiting => exact absurd (stageRow_chosen leads.1 leads.2.1 leads.2.2).1 final
    | @done _ payload _ same named outcome written =>
        cases Option.some.inj (same.1.symm.trans leads.1)
        exact written
  · have none : ∀ payload ∈ toApply rows, payload.inventoryNumber ≠ number :=
      fun payload member here => applied ⟨payload, member, here⟩
    rw [applyPayloads_other none]
    exact columnsOf_same (predicts.others number none)

/-- The rows of an import end as the preview said, and leave the inventory as a map of its payloads says. -/
theorem preview_predicts {earlier labels : List (Label server WorkerId)} {adminId : AdminId}
    {uploaderUsername : Option String} {previewId : Uuid} {batch : ImportBatch} (initial : Initial server start)
    (run : Run (Step server) start earlier s)
    (staged : Step server s (.preview adminId uploaderUsername previewId rows
      (lookupExisting s.db.lightPoints (lookedUp rows))) t)
    (fitting : ∀ row ∈ rows, ∀ payload, row.payload = some payload → Fitting server payload.payload)
    (calm : Run (CalmStep server s.db.nextBatchId) t labels u)
    (found : u.db.batches s.db.nextBatchId = some batch)
    (finished : batch.status = .completed ∨ batch.status = .completedWithErrors) :
    (∃ final : ParsedImportRow server → ImportBatchRow, batch.rows = rows.map final ∧ ∀ row ∈ rows,
      (final row).previewAction =
        (stageRow rows (lookupExisting s.db.lightPoints (lookedUp rows)) row).previewAction ∧
      Fulfilled batch.updateExisting s.db.lightPoints row (final row)) ∧
    columnsOf u.db.lightPoints =
      applyPayloads batch.updateExisting (toApply rows) (columnsOf s.db.lightPoints) ∧
    ∀ other : List (ParsedImportRow server), (other.map (·.rowIndex)).Nodup →
      rows.map (·.content) ~ other.map (·.content) → columnsOf u.db.lightPoints =
        applyPayloads batch.updateExisting (toApply other) (columnsOf s.db.lightPoints) := by
  have inv := inv_run run initial.inv
  obtain ⟨distinct, predicts⟩ := predicts_staged staged
  obtain ⟨last, predicts⟩ := predicts_run distinct fitting (inv_step inv staged) predicts calm
  have none : countOutcome batch.rows .pending = 0 := by
    have batchInv := last.db.batches _ batch found
    cases finished with
    | inl completed => exact (batchInv.completed completed).2
    | inr completed => exact (batchInv.completedWithErrors completed).2
  have settled : ∀ row ∈ batch.rows, row.outcome ≠ .pending := by
    intro row member pending
    exact List.countP_eq_zero.mp none row member (decide_eq_true pending)
  have columns := columns_applied distinct predicts found settled
  refine ⟨?_, columns, fun other distinct' same => ?_⟩
  · obtain ⟨progress, shape, each⟩ := predicts.batch batch found
    refine ⟨progress, shape, fun row listed => ⟨(each row listed).named.2.2, ?_⟩⟩
    apply fulfilled inv.db.points listed (each row listed)
    exact settled _ (by rw [shape]; exact List.mem_map_of_mem listed)
  · rw [columns, applied_order distinct distinct' same]

theorem calmStep_of {id : BatchId} {label : Label server WorkerId} (taken : Step server s label t)
    (only : ∀ worker answer, label = .advance worker answer → (s.workers worker).claim.any (·.id = id) = true)
    (alone : ¬ Writes label) (unobstructed : ∀ worker state, label ≠ .advance worker (.obstructed state)) :
    CalmStep server id s label t := by
  refine ⟨taken, ?_, unobstructed⟩
  cases step_change taken with
  | inl same => exact Or.inl (by rw [same])
  | inr changed =>
      obtain ⟨actor, changed, acts⟩ := changed
      rcases change_frame changed with untouched | ⟨claim, _, _, acting, _⟩ | ⟨other, _⟩
      · exact Or.inl untouched.lightPoints
      · obtain ⟨worker, answer, advance, held⟩ := acts claim acting
        have here := only worker answer advance
        rw [held] at here
        exact Or.inr ⟨worker, answer, claim, advance, held, of_decide_eq_true here⟩
      · exact absurd other alone

section Import

/-- One lamp, twice the same, and a row without a number, imported from preview to completion. -/
def importedLamp : List (Label plainText Unit) :=
  [.preview 7 none "preview" [⟨1, .accepted lamp⟩, ⟨2, .accepted lamp⟩,
      ⟨3, .refused "" "missing_inventory_number" "Missing inventory number"⟩] fun _ => none,
    .confirm 7 "preview" false 5, .elapse 3, .claim () "token" .heard, .advance () .heard, .advance () .heard,
    .advance () .heard]

def lampRows : List (ParsedImportRow plainText) :=
  [⟨1, .accepted lamp⟩, ⟨2, .accepted lamp⟩, ⟨3, .refused "" "missing_inventory_number" "Missing inventory number"⟩]

def onlyBatch (id : BatchId) (s : State Unit) : Label plainText Unit → Bool
  | .advance _ (.obstructed _) => false
  | .advance worker _ => (s.workers worker).claim.any (·.id = id)
  | .write _ => false
  | _ => true

theorem lampRows_predicted : ∃ (s : State Unit) (batch : ImportBatch), s.db.batches 1 = some batch ∧
    batch.status = .completedWithErrors ∧
    columnsOf s.db.lightPoints = applyPayloads batch.updateExisting (toApply lampRows) fun _ => none := by
  have replayed : ((importedLamp.take 1).foldlM (step plainText) emptyQueue).any (fun t : State Unit =>
      ((importedLamp.drop 1).foldlM (fun s label =>
        if onlyBatch 1 s label then step plainText s label else none) t).any
        fun s : State Unit => (s.db.batches 1).any (·.status = .completedWithErrors)) = true := by
    decide +kernel
  obtain ⟨t, staged, reached⟩ := (Option.any_eq_true ..).mp replayed
  obtain ⟨s, folded, reached⟩ := (Option.any_eq_true ..).mp reached
  obtain ⟨batch, found, status⟩ := (Option.any_eq_true ..).mp reached
  have status := of_decide_eq_true status
  have looked : lookupExisting emptyQueue.db.lightPoints (lookedUp lampRows) = fun _ => none := by
    funext number
    rw [lookupExisting_eq]
    split <;> rfl
  have fitting : ∀ row ∈ lampRows, ∀ payload, row.payload = some payload → Fitting plainText payload.payload := by
    intro row member payload accepted now
    have same : payload = lamp := by
      simp only [lampRows, List.mem_cons, List.not_mem_nil, or_false] at member
      rcases member with rfl | rfl | rfl
      · exact (Option.some.inj accepted).symm
      · exact (Option.some.inj accepted).symm
      · cases accepted
    subst same
    exact store_of_checks rfl rfl rfl lamp.canonical lamp.inRange rfl
  have calm : Run (CalmStep plainText 1) t ((importedLamp.drop 1).map id) s := by
    apply (Run.of_foldlM folded).relabel
    intro s label t taken
    split at taken
    · rename_i only
      refine calmStep_of taken (fun worker answer same => ?_) (fun other => ?_) fun worker state same => ?_
      · subst same
        cases answer <;> first | exact only | cases only
      · obtain ⟨change, rfl⟩ := other
        cases only
      · subst same
        cases only
    · cases taken
  have taken : Step plainText emptyQueue (.preview 7 none "preview" lampRows
      (lookupExisting emptyQueue.db.lightPoints (lookedUp lampRows))) t := by
    rw [looked]
    obtain ⟨t', first, rest⟩ := Run.cons_inv (Run.of_foldlM staged)
    cases rest.nil_eq
    exact first
  exact ⟨s, batch, found, status,
    (preview_predicts emptyQueue_initial (.nil _) taken fitting calm found (Or.inr status)).2.1⟩

end Import

end Prediction

end PublicLighting.ImportQueue
