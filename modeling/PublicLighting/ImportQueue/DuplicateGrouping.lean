import PublicLighting.ImportQueue.QueueSafety

/-! What the preview decides for the rows of one inventory number, and its summary. -/

namespace PublicLighting.ImportQueue

open Inventory
open scoped List

variable {server : ServerText}

structure PreviewSummary where
  toCreate : Nat
  toUpdate : Nat
  unchanged : Nat
  skipped : Nat
  errors : Nat
  deriving DecidableEq, Repr

def countAction (rows : List ImportBatchRow) (action : PreviewAction) : Nat := rows.countP (·.previewAction = action)

/-- The `summary` that `getImportPreviewPage` counts and `buildImportPreview` answers: three times by the action,
twice by the outcome. -/
def previewSummary (staged : List ImportBatchRow) : PreviewSummary :=
  ⟨countAction staged .create, countAction staged .update, countAction staged .unchanged,
    countOutcome staged .skipped,
    countOutcome staged .failed⟩

section Summary

variable {rows : List (ParsedImportRow server)} {existing : String → Option PointId} {row : ParsedImportRow server}

theorem stageRow_action : ((stageRow rows existing row).outcome = .skipped ↔
      (stageRow rows existing row).previewAction = .skip) ∧
    ((stageRow rows existing row).outcome = .failed ↔ (stageRow rows existing row).previewAction = .error) := by
  unfold stageRow
  dsimp only
  repeat' split
  all_goals simp

theorem previewSummary_eq (rows : List (ParsedImportRow server)) (existing : String → Option PointId) :
    previewSummary (stageRows rows existing) =
      ⟨countAction (stageRows rows existing) .create, countAction (stageRows rows existing) .update,
        countAction (stageRows rows existing) .unchanged, countAction (stageRows rows existing) .skip,
        countAction (stageRows rows existing) .error⟩ := by
  have skipped : countOutcome (stageRows rows existing) .skipped = countAction (stageRows rows existing) .skip := by
    rw [stageRows_eq, countOutcome, countAction, List.countP_map, List.countP_map]
    exact List.countP_congr fun row _ => by simp [stageRow_action.1]
  have failed : countOutcome (stageRows rows existing) .failed = countAction (stageRows rows existing) .error := by
    rw [stageRows_eq, countOutcome, countAction, List.countP_map, List.countP_map]
    exact List.countP_congr fun row _ => by simp [stageRow_action.2]
  rw [previewSummary, skipped, failed]

theorem length_eq_actions (rows : List ImportBatchRow) :
    countAction rows .create + countAction rows .update + countAction rows .unchanged + countAction rows .skip +
      countAction rows .error = rows.length := by
  induction rows with
  | nil => rfl
  | cons row rows ih =>
      simp only [countAction, List.length_cons, List.countP_cons] at *
      cases row.previewAction <;> simp <;> omega

end Summary

section Decisions

variable {rows : List (ParsedImportRow server)} {row first : ParsedImportRow server} {payload : ParsedPayload server}
  {inventoryNumber : String} {existing : String → Option PointId}

theorem Agreed.accepted (agreed : Agreed rows inventoryNumber payload) (member : row ∈ rowsOf rows inventoryNumber) :
    row.payload = some payload :=
  agreed.2 row (mem_rowsOf.mp member).1 (mem_rowsOf.mp member).2

theorem Agreed.number (agreed : Agreed rows inventoryNumber payload) :
    inventoryNumber = payload.payload.inventoryNumber := by
  obtain ⟨row, member, same⟩ := agreed.1
  rw [← same, payload_number (agreed.2 row member same)]

theorem Agreed.given (agreed : Agreed rows inventoryNumber payload) : inventoryNumber ≠ "" := by
  rw [agreed.number]
  exact payload.number_ne

/-- The rows with the number are a group, and the group does not conflict exactly when they agree. -/
theorem group_agreed (given : inventoryNumber ≠ "") (member : row ∈ rowsOf rows inventoryNumber) :
    ∃ group, duplicateGroups rows inventoryNumber = some group ∧
      rowsOf rows inventoryNumber = group.first :: group.duplicates ∧
      (group.conflict = false ↔ ∃ payload, Agreed rows inventoryNumber payload) := by
  have number := (mem_rowsOf.mp member).2
  rw [duplicateGroups_eq rows given]
  cases shape : groupOf (rowsOf rows inventoryNumber) with
  | none =>
      cases found : rowsOf rows inventoryNumber with
      | nil => simp [found] at member
      | cons => simp [found, groupOf] at shape
  | some group =>
      refine ⟨group, rfl, duplicates_eq shape, (conflict_iff shape).trans ?_⟩
      constructor
      · intro alike
        obtain ⟨payload, alike⟩ := alike
        exact ⟨payload, ⟨row, (mem_rowsOf.mp member).1, number⟩, fun other present same =>
          alike other (mem_rowsOf.mpr ⟨present, same⟩)⟩
      · intro agreed
        obtain ⟨payload, agreed⟩ := agreed
        exact ⟨payload, fun other => agreed.accepted⟩

variable (distinct : (rows.map (·.rowIndex)).Nodup)

include distinct

theorem first_pending (agreed : Agreed rows inventoryNumber payload)
    (head : (rowsOf rows inventoryNumber).head? = some first) :
    (stageRow rows existing first).outcome = .pending ∧
      (stageRow rows existing first).payload = some payload.payload ∧
      (stageRow rows existing first).inventoryNumber = some inventoryNumber := by
  have member := List.mem_of_mem_head? head
  have accepted := agreed.accepted member
  obtain ⟨present, same⟩ := mem_rowsOf.mp member
  rw [← same] at agreed head
  obtain ⟨calm, single⟩ := (chosen_iff distinct present accepted).mpr ⟨agreed, head⟩
  obtain ⟨pending, held, number, _⟩ := @stageRow_chosen _ rows existing first payload accepted calm single
  rw [← same, agreed.number]
  exact ⟨pending, held, number⟩

theorem later_skipped (agreed : Agreed rows inventoryNumber payload) {later : List (ParsedImportRow server)}
    (split : rowsOf rows inventoryNumber = first :: later) (member : row ∈ later) :
    (stageRow rows existing row).outcome = .skipped ∧ (stageRow rows existing row).previewAction = .skip ∧
      (stageRow rows existing row).safeReason = some ("Identical duplicate of row " ++ toString first.rowIndex) := by
  have mine : row ∈ rowsOf rows inventoryNumber := by
    rw [split]
    exact List.mem_cons_of_mem _ member
  obtain ⟨present, same⟩ := mem_rowsOf.mp mine
  obtain ⟨group, grouped, shape, calm⟩ := group_agreed agreed.given mine
  rw [split, List.cons.injEq] at shape
  obtain ⟨same', rest⟩ := shape
  subst same' rest
  have skipped : row.rowIndex ∈ duplicateSkips rows := by
    rw [mem_duplicateSkips distinct present, same]
    refine ⟨group, grouped, ?_⟩
    rw [DuplicateGroup.repeated, if_pos ⟨List.ne_nil_of_mem member, calm.mpr ⟨payload, agreed⟩⟩]
    exact member
  have reference : duplicateOf rows row = some group.first.rowIndex := by
    rw [duplicateOf, same, grouped]
    rfl
  unfold stageRow
  dsimp only
  rw [if_pos skipped, reference]
  exact ⟨rfl, rfl, rfl⟩

theorem disagreed_error (present : row ∈ rows) (given : row.inventoryNumber ≠ "")
    (none : ¬ ∃ payload, Agreed rows row.inventoryNumber payload) :
    (stageRow rows existing row).outcome = .failed ∧ (stageRow rows existing row).previewAction = .error := by
  obtain ⟨group, grouped, _, calm⟩ := group_agreed given (mem_rowsOf.mpr ⟨present, rfl⟩)
  have single : row.rowIndex ∉ duplicateSkips rows := by
    rw [mem_duplicateSkips distinct present]
    intro skipped
    obtain ⟨other, same, chosen⟩ := skipped
    rw [grouped] at same
    cases same
    unfold DuplicateGroup.repeated at chosen
    split at chosen
    · rename_i quiet
      exact none (calm.mp quiet.2)
    · cases chosen
  have settled := (@stageRow_other _ rows existing row (fun chosen => by
    obtain ⟨payload, accepted, quiet, single⟩ := chosen
    exact none ⟨payload, ((chosen_iff distinct present accepted).mp ⟨quiet, single⟩).1⟩)).2
  rw [if_neg single] at settled
  exact settled

theorem conflict_rows (present : row ∈ rows) : row.rowIndex ∈ duplicateConflicts rows ↔
    row.inventoryNumber ≠ "" ∧ 2 ≤ (rowsOf rows row.inventoryNumber).length ∧
      ¬ ∃ payload, Agreed rows row.inventoryNumber payload := by
  rw [mem_duplicateConflicts distinct present]
  constructor
  · intro conflict
    obtain ⟨group, grouped, chosen⟩ := conflict
    have given := (group_members grouped).1
    obtain ⟨other, same, shape, calm⟩ := group_agreed given (mem_rowsOf.mpr ⟨present, rfl⟩)
    rw [grouped] at same
    cases same
    unfold DuplicateGroup.conflicting at chosen
    split at chosen
    · rename_i clash
      refine ⟨given, ?_, ?_⟩
      · have some := List.length_pos_iff.mpr clash.1
        rw [shape, List.length_cons]
        omega
      · intro agreed
        rw [calm.mpr agreed] at clash
        cases clash.2
    · cases chosen
  · intro clash
    obtain ⟨given, two, none⟩ := clash
    obtain ⟨group, grouped, shape, calm⟩ := group_agreed given (mem_rowsOf.mpr ⟨present, rfl⟩)
    refine ⟨group, grouped, ?_⟩
    have mine : row ∈ group.first :: group.duplicates := by
      rw [← shape]
      exact mem_rowsOf.mpr ⟨present, rfl⟩
    have more : group.duplicates ≠ [] := by
      intro empty
      rw [shape, empty] at two
      simp at two
    have clash : group.conflict = true := by
      rw [← Bool.not_eq_false]
      exact fun quiet => none (calm.mp quiet)
    rw [DuplicateGroup.conflicting, if_pos ⟨more, clash⟩]
    exact mine

end Decisions

section Permutations

variable {rows others : List (ParsedImportRow server)} {inventoryNumber : String} {payload : ParsedPayload server}

theorem same_content {row other : ParsedImportRow server} (same : row.content = other.content) :
    row.inventoryNumber = other.inventoryNumber ∧ row.payload = other.payload := by
  simp only [ParsedImportRow.inventoryNumber, ParsedImportRow.payload, same, and_self]

theorem Agreed.subset (agreed : Agreed rows inventoryNumber payload)
    (forward : ∀ content ∈ rows.map (·.content), content ∈ others.map (·.content))
    (back : ∀ content ∈ others.map (·.content), content ∈ rows.map (·.content)) :
      Agreed others inventoryNumber payload := by
  constructor
  · obtain ⟨row, member, number⟩ := agreed.1
    obtain ⟨other, present, same⟩ := List.mem_map.mp (forward _ (List.mem_map_of_mem member))
    exact ⟨other, present, (same_content same).1.trans number⟩
  · intro other present number
    obtain ⟨row, member, same⟩ := List.mem_map.mp (back _ (List.mem_map_of_mem present))
    rw [← (same_content same).2]
    exact agreed.2 row member ((same_content same).1.trans number)

variable (permuted : (rows.map (·.content)).Perm (others.map (·.content)))

include permuted

theorem agreed_permuted : Agreed rows inventoryNumber payload ↔ Agreed others inventoryNumber payload :=
  ⟨fun agreed => agreed.subset (fun _ => permuted.mem_iff.mp) fun _ => permuted.mem_iff.mpr,
    fun agreed => agreed.subset (fun _ => permuted.mem_iff.mpr) fun _ => permuted.mem_iff.mp⟩

theorem rowsOf_length : (rowsOf rows inventoryNumber).length = (rowsOf others inventoryNumber).length := by
  have counted : ∀ rows : List (ParsedImportRow server), (rowsOf rows inventoryNumber).length =
      (rows.map (·.content)).countP fun content => (ParsedImportRow.mk 0 content).inventoryNumber =
        inventoryNumber := by
    intro rows
    rw [rowsOf, ← List.countP_eq_length_filter, List.countP_map]
    rfl
  rw [counted, counted, permuted.countP_eq]

end Permutations

section Staging

variable {rows : List (ParsedImportRow server)} {existing : String → Option PointId}

/-- A row of the staged batch that waits for the number with the payload. -/
def PendingPayload (staged : List ImportBatchRow) (inventoryNumber : String) (payload : ImportPayload) : Prop :=
  ∃ row ∈ staged, row.outcome = .pending ∧ row.inventoryNumber = some inventoryNumber ∧ row.payload = some payload

def Conflicting (rows : List (ParsedImportRow server)) (inventoryNumber : String) : Prop :=
  ∃ row ∈ rows, row.inventoryNumber = inventoryNumber ∧ row.rowIndex ∈ duplicateConflicts rows

theorem pending_agreed (distinct : (rows.map (·.rowIndex)).Nodup) {row : ParsedImportRow server}
    (present : row ∈ rows)
    (pending : (stageRow rows existing row).outcome = .pending) :
    ∃ payload, Agreed rows row.inventoryNumber payload ∧ (rowsOf rows row.inventoryNumber).head? = some row ∧
      row.payload = some payload := by
  by_contra other
  have settled := (@stageRow_other _ rows existing row (fun chosen => by
    obtain ⟨payload, accepted, quiet, single⟩ := chosen
    obtain ⟨agreed, head⟩ := (chosen_iff distinct present accepted).mp ⟨quiet, single⟩
    exact other ⟨payload, agreed, head, accepted⟩)).2
  split at settled <;> simp [settled.1] at pending

theorem pendingPayload_iff (distinct : (rows.map (·.rowIndex)).Nodup) {inventoryNumber : String}
    {payload : ImportPayload} :
    PendingPayload (stageRows rows existing) inventoryNumber payload ↔
      ∃ parsed : ParsedPayload server, parsed.payload = payload ∧ Agreed rows inventoryNumber parsed := by
  rw [stageRows_eq]
  constructor
  · intro waiting
    obtain ⟨staged, member, pending, number, held⟩ := waiting
    obtain ⟨row, present, same⟩ := List.mem_map.mp member
    subst same
    obtain ⟨parsed, agreed, head, accepted⟩ := pending_agreed distinct present pending
    obtain ⟨_, stored, name⟩ := @first_pending _ rows row parsed row.inventoryNumber existing distinct agreed head
    rw [stored, Option.some.injEq] at held
    rw [name, Option.some.injEq] at number
    exact ⟨parsed, held, number ▸ agreed⟩
  · intro settled
    obtain ⟨parsed, same, agreed⟩ := settled
    subst same
    cases shape : rowsOf rows inventoryNumber with
    | nil =>
        obtain ⟨row, present, number⟩ := agreed.1
        have mine : row ∈ rowsOf rows inventoryNumber := mem_rowsOf.mpr ⟨present, number⟩
        simp [shape] at mine
    | cons first later =>
        have head : (rowsOf rows inventoryNumber).head? = some first := by rw [shape, List.head?_cons]
        obtain ⟨pending, held, number⟩ :=
          @first_pending _ rows first parsed inventoryNumber existing distinct agreed head
        have present := (mem_rowsOf.mp (List.mem_of_mem_head? head)).1
        exact ⟨_, List.mem_map_of_mem present, pending, number, held⟩

theorem conflicting_iff (distinct : (rows.map (·.rowIndex)).Nodup) {inventoryNumber : String} :
    Conflicting rows inventoryNumber ↔ inventoryNumber ≠ "" ∧ 2 ≤ (rowsOf rows inventoryNumber).length ∧
      ¬ ∃ payload, Agreed rows inventoryNumber payload := by
  constructor
  · intro conflict
    obtain ⟨row, present, number, listed⟩ := conflict
    subst number
    exact (conflict_rows distinct present).mp listed
  · intro clash
    cases shape : rowsOf rows inventoryNumber with
    | nil => simp [shape] at clash
    | cons first later =>
        have mine : first ∈ rowsOf rows inventoryNumber := by
          rw [shape]
          exact List.mem_cons_self
        obtain ⟨present, number⟩ := mem_rowsOf.mp mine
        subst number
        exact ⟨first, present, rfl, (conflict_rows distinct present).mpr clash⟩

/-- How a row is staged depends on the rows of its own number. -/
theorem stageRow_local (distinct : (rows.map (·.rowIndex)).Nodup) {others : List (ParsedImportRow server)}
    (distinct' : (others.map (·.rowIndex)).Nodup) {row : ParsedImportRow server} (present : row ∈ rows)
    (same : rowsOf others row.inventoryNumber = rowsOf rows row.inventoryNumber)
    {existing' : String → Option PointId}
    (found : existing' row.inventoryNumber = existing row.inventoryNumber) :
    stageRow others existing' row = stageRow rows existing row := by
  have there : row ∈ others := by
    apply (mem_rowsOf.mp _).1
    · exact row.inventoryNumber
    · rw [same]
      exact mem_rowsOf.mpr ⟨present, rfl⟩
  have grouped : duplicateGroups others row.inventoryNumber = duplicateGroups rows row.inventoryNumber := by
    by_cases given : row.inventoryNumber = ""
    · rw [given, duplicateGroups_empty, duplicateGroups_empty]
    · rw [duplicateGroups_eq others given, duplicateGroups_eq rows given, same]
  have skips : row.rowIndex ∈ duplicateSkips others ↔ row.rowIndex ∈ duplicateSkips rows := by
    rw [mem_duplicateSkips distinct' there, mem_duplicateSkips distinct present, grouped]
  have conflicts : row.rowIndex ∈ duplicateConflicts others ↔ row.rowIndex ∈ duplicateConflicts rows := by
    rw [mem_duplicateConflicts distinct' there, mem_duplicateConflicts distinct present, grouped]
  have errors : rowError others row = rowError rows row := by
    unfold rowError
    rw [if_congr conflicts rfl rfl]
  have reference : duplicateOf others row = duplicateOf rows row := by
    rw [duplicateOf, duplicateOf, grouped]
  unfold stageRow
  dsimp only
  rw [if_congr skips rfl rfl, errors, reference]
  cases accepted : row.payload with
  | none =>
      cases rowError rows row with
      | none => rfl
      | some error => rfl
  | some payload =>
      rw [payload_number accepted] at found
      cases rowError rows row with
      | none =>
          dsimp only
          rw [found]
      | some error => rfl

theorem conflict_reason (distinct : (rows.map (·.rowIndex)).Nodup) {row : ParsedImportRow server}
    (present : row ∈ rows)
    (conflict : row.rowIndex ∈ duplicateConflicts rows) :
    (stageRow rows existing row).reasonCode = some "conflicting_duplicate_inventory_number" := by
  have none := ((conflict_rows distinct present).mp conflict).2.2
  have given := ((conflict_rows distinct present).mp conflict).1
  have failed := (@disagreed_error _ rows row existing distinct present given none).1
  have error : rowError rows row =
      some ("conflicting_duplicate_inventory_number", "Conflicting rows use the same inventory number") := if_pos conflict
  unfold stageRow at *
  dsimp only at *
  rw [error] at *
  split
  · rename_i skipped
    rw [if_pos skipped] at failed
    cases failed
  · rfl

theorem pending_alone (distinct : (rows.map (·.rowIndex)).Nodup) :
    (((stageRows rows existing).filter (·.outcome = .pending)).map (·.inventoryNumber)).Nodup := by
  rw [stageRows_eq, List.filter_map, List.map_map]
  apply List.Nodup.map_on
  · intro row member other member' same
    rw [List.mem_filter, Function.comp_apply, decide_eq_true_eq] at member member'
    obtain ⟨payload, agreed, head, _⟩ := pending_agreed distinct member.1 member.2
    obtain ⟨payload', agreed', head', _⟩ := pending_agreed distinct member'.1 member'.2
    have number := (@first_pending _ rows row payload row.inventoryNumber existing distinct agreed head).2.2
    have number' := (@first_pending _ rows other payload' other.inventoryNumber existing distinct agreed' head').2.2
    rw [Function.comp_apply, Function.comp_apply, number, number', Option.some.injEq] at same
    rw [same, head', Option.some.injEq] at head
    exact head.symm
  · exact (List.Nodup.of_map _ distinct).filter _

end Staging

structure Grouped (rows : List (ParsedImportRow server)) (existing : String → Option PointId) : Prop where
  once : (stageRows rows existing).map (·.sourceRowNumber) = rows.map (·.rowIndex)
  counted : previewSummary (stageRows rows existing) =
    ⟨countAction (stageRows rows existing) .create, countAction (stageRows rows existing) .update,
      countAction (stageRows rows existing) .unchanged, countAction (stageRows rows existing) .skip,
      countAction (stageRows rows existing) .error⟩
  total : (previewSummary (stageRows rows existing)).toCreate + (previewSummary (stageRows rows existing)).toUpdate +
    (previewSummary (stageRows rows existing)).unchanged + (previewSummary (stageRows rows existing)).skipped +
    (previewSummary (stageRows rows existing)).errors = rows.length
  alone : (((stageRows rows existing).filter (·.outcome = .pending)).map (·.inventoryNumber)).Nodup
  agreed : ∀ inventoryNumber payload, Agreed rows inventoryNumber payload →
    ∃ first later, rowsOf rows inventoryNumber = first :: later ∧
      ((stageRow rows existing first).outcome = .pending ∧
        (stageRow rows existing first).payload = some payload.payload) ∧
      ∀ row ∈ later, (stageRow rows existing row).outcome = .skipped ∧
        (stageRow rows existing row).previewAction = .skip ∧
        (stageRow rows existing row).safeReason = some ("Identical duplicate of row " ++ toString first.rowIndex)
  disagreed : ∀ row ∈ rows, row.inventoryNumber ≠ "" → (¬ ∃ payload, Agreed rows row.inventoryNumber payload) →
    (stageRow rows existing row).outcome = .failed ∧ (stageRow rows existing row).previewAction = .error
  conflict : ∀ row ∈ rows, row.rowIndex ∈ duplicateConflicts rows →
    (stageRow rows existing row).reasonCode = some "conflicting_duplicate_inventory_number"
  unaffected : ∀ row ∈ rows, ∀ (others : List (ParsedImportRow server)) (existing' : String → Option PointId),
    (others.map (·.rowIndex)).Nodup → rowsOf others row.inventoryNumber = rowsOf rows row.inventoryNumber →
    existing' row.inventoryNumber = existing row.inventoryNumber →
      stageRow others existing' row = stageRow rows existing row

/-- The source rows are grouped by inventory number, in whatever order they come. -/
theorem duplicates_grouped (rows : List (ParsedImportRow server)) (existing : String → Option PointId)
    (distinct : (rows.map (·.rowIndex)).Nodup) :
    Grouped rows existing ∧
      ∀ (others : List (ParsedImportRow server)) (existing' : String → Option PointId),
        (others.map (·.rowIndex)).Nodup →
        (rows.map (·.content)).Perm (others.map (·.content)) →
        (∀ inventoryNumber payload, PendingPayload (stageRows rows existing) inventoryNumber payload ↔
          PendingPayload (stageRows others existing') inventoryNumber payload) ∧
        ∀ inventoryNumber, Conflicting rows inventoryNumber ↔ Conflicting others inventoryNumber := by
  constructor
  · constructor
    · rw [stageRows_eq, List.map_map]
      exact List.map_congr_left fun row _ => stageRow_number
    · exact previewSummary_eq rows existing
    · rw [previewSummary_eq]
      simp only [length_eq_actions, stageRows_eq, List.length_map]
    · exact pending_alone distinct
    · intro inventoryNumber payload agreed
      cases shape : rowsOf rows inventoryNumber with
      | nil =>
          obtain ⟨row, present, number⟩ := agreed.1
          have mine : row ∈ rowsOf rows inventoryNumber := mem_rowsOf.mpr ⟨present, number⟩
          simp [shape] at mine
      | cons first later =>
          have head : (rowsOf rows inventoryNumber).head? = some first := by rw [shape, List.head?_cons]
          obtain ⟨pending, held, _⟩ :=
            @first_pending _ rows first payload inventoryNumber existing distinct agreed head
          exact ⟨first, later, rfl, ⟨pending, held⟩, fun row => later_skipped distinct agreed shape⟩
    · exact fun row present => disagreed_error distinct present
    · exact fun row present => conflict_reason distinct present
    · exact fun row present others existing' distinct' same found =>
        stageRow_local distinct distinct' present same found
  · intro others existing' distinct' permuted
    constructor
    · intro inventoryNumber payload
      rw [pendingPayload_iff distinct, pendingPayload_iff distinct']
      simp only [agreed_permuted permuted]
    · intro inventoryNumber
      rw [conflicting_iff distinct, conflicting_iff distinct', rowsOf_length permuted]
      simp only [agreed_permuted permuted]

/-- Two rows that agree, one without a number and one in between with a number of its own. -/
theorem twice_grouped : ∃ rows : List (ParsedImportRow plainText), rows.length = 4 ∧
    (duplicateSkips rows).length = 1 ∧
    Grouped rows fun _ => none :=
  ⟨[⟨1, .accepted lamp⟩, ⟨2, .refused "L-9" "invalid_coordinates" "Valid latitude and longitude are required"⟩,
    ⟨3, .refused "" "missing_inventory_number" "Missing inventory number"⟩, ⟨4, .accepted lamp⟩], rfl, by decide +kernel,
    (duplicates_grouped _ _ (by decide)).1⟩

end PublicLighting.ImportQueue
