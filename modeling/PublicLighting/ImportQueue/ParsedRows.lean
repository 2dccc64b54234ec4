import Mathlib.Data.List.Dedup
import Mathlib.Data.List.Induction
import Mathlib.Data.List.Lex
import Mathlib.Data.List.Nodup
import Mathlib.Data.List.Sort
import Mathlib.Data.String.Basic
import Mathlib.Logic.Function.Basic
import PublicLighting.Inventory.UpdatePaths

/-! The rows of an import file, and what `buildImportPreview` makes of rows with one inventory number. -/

namespace PublicLighting.ImportQueue

open Inventory
open scoped List

section Slices

variable {α : Type*}

/-- The slices of a loop whose `offset` grows by `size`. -/
def slices (size : Nat) (items : List α) : List (List α) :=
  (List.range ((items.length + size - 1) / size)).map fun k => (items.drop (size * k)).take size

theorem take_slices (size : Nat) (items : List α) (k : Nat) :
    ((List.range k).map fun j => (items.drop (size * j)).take size).flatten = items.take (size * k) := by
  induction k with
  | zero => rfl
  | succ k ih =>
      rw [List.range_succ, List.map_append, List.flatten_append, ih, Nat.mul_succ, List.take_add]
      simp

theorem flatten_slices {size : Nat} (some : 0 < size) (items : List α) : (slices size items).flatten = items := by
  unfold slices
  rw [take_slices]
  apply List.take_of_length_le
  have enough := @Nat.lt_div_mul_add (items.length + size - 1) size some
  rw [Nat.mul_comm]
  omega

end Slices

/-- `ALLOWED_FIELDS`, as `present` lists them. -/
def presentFields : List String :=
  ["inventory_number", "latitude", "longitude", "external_id", "address", "district", "lamp_type", "status"]

/-- A payload that `parseRecord` returns. -/
structure ParsedPayload (server : ServerText) where
  payload : ImportPayload
  canonical : canonicalCheck server payload.inventoryNumber = true
  inRange : geomValidCheck payload.longitude payload.latitude = true
  listed : payload.present.Sublist presentFields
  deriving DecidableEq

/-- A row that is not accepted may still have its inventory number. -/
inductive ParsedContent (server : ServerText)
  | accepted (payload : ParsedPayload server)
  | refused (inventoryNumber errorCode message : String)
  deriving DecidableEq

structure ParsedImportRow (server : ServerText) where
  rowIndex : Nat
  content : ParsedContent server
  deriving DecidableEq

variable {server : ServerText}

namespace ParsedImportRow

def payload (row : ParsedImportRow server) : Option (ParsedPayload server) :=
  match row.content with
  | .accepted payload => some payload
  | .refused .. => none

def inventoryNumber (row : ParsedImportRow server) : String :=
  match row.content with
  | .accepted payload => payload.payload.inventoryNumber
  | .refused inventoryNumber .. => inventoryNumber

end ParsedImportRow

/-- `JSON.stringify` of a payload with `present` sorted. -/
def ParsedPayload.signature (parsed : ParsedPayload server) : ImportPayload :=
  { parsed.payload with
    present := parsed.payload.present.insertionSort (· ≤ ·)
    statusGiven := fun listed => parsed.payload.statusGiven ((List.perm_insertionSort _ _).mem_iff.mp listed) }

def ParsedImportRow.signature (row : ParsedImportRow server) : Option ImportPayload :=
  row.payload.map (·.signature)

structure DuplicateGroup (server : ServerText) where
  first : ParsedImportRow server
  firstSignature : Option ImportPayload
  duplicates : List (ParsedImportRow server)
  conflict : Bool

abbrev DuplicateGroups (server : ServerText) := String → Option (DuplicateGroup server)

def groupRow (groups : DuplicateGroups server) (row : ParsedImportRow server) : DuplicateGroups server :=
  if row.inventoryNumber = "" then groups
  else
    let group : DuplicateGroup server := match groups row.inventoryNumber with
      | none => ⟨row, row.signature, [], row.signature.isNone⟩
      | some group =>
          { group with
            duplicates := group.duplicates ++ [row]
            conflict := group.conflict || (row.signature.isNone || group.firstSignature.isNone ||
              row.signature ≠ group.firstSignature) }
    Function.update groups row.inventoryNumber (some group)

def duplicateGroups (rows : List (ParsedImportRow server)) : DuplicateGroups server :=
  rows.foldl groupRow fun _ => none

def rowsOf (rows : List (ParsedImportRow server)) (inventoryNumber : String) : List (ParsedImportRow server) :=
  rows.filter fun row => row.inventoryNumber = inventoryNumber

/-- The group of some rows with one inventory number. -/
def groupOf : List (ParsedImportRow server) → Option (DuplicateGroup server)
  | [] => none
  | first :: duplicates => some ⟨first, first.signature, duplicates,
      first.signature.isNone || duplicates.any fun row => row.signature.isNone || first.signature.isNone ||
        row.signature ≠ first.signature⟩

theorem duplicateGroups_eq (rows : List (ParsedImportRow server)) {inventoryNumber : String}
    (given : inventoryNumber ≠ "") :
    duplicateGroups rows inventoryNumber = groupOf (rowsOf rows inventoryNumber) := by
  unfold duplicateGroups rowsOf
  induction rows using List.reverseRecOn with
  | nil => rfl
  | append_singleton rows row ih =>
      rw [List.foldl_append, List.filter_append]
      simp only [List.foldl_cons, List.foldl_nil, groupRow]
      by_cases here : row.inventoryNumber = inventoryNumber
      · subst here
        rw [if_neg given, Function.update_self, ih]
        cases found : rows.filter fun other => other.inventoryNumber = row.inventoryNumber with
        | nil => simp [groupOf]
        | cons first duplicates => simp [groupOf, Bool.or_assoc]
      · have others : ([row].filter fun other => other.inventoryNumber = inventoryNumber) = [] := by simp [here]
        rw [others, List.append_nil, ← ih]
        split
        · rfl
        · rw [Function.update_of_ne fun clash => here clash.symm]

def DuplicateGroup.conflicting (group : DuplicateGroup server) : List (ParsedImportRow server) :=
  if group.duplicates ≠ [] ∧ group.conflict = true then group.first :: group.duplicates else []

def DuplicateGroup.repeated (group : DuplicateGroup server) : List (ParsedImportRow server) :=
  if group.duplicates ≠ [] ∧ group.conflict = false then group.duplicates else []

/-- The sets of row numbers that the loop over the groups fills. -/
def duplicateConflicts (rows : List (ParsedImportRow server)) : List Nat :=
  (rows.map (·.inventoryNumber)).dedup.flatMap fun identity =>
    match duplicateGroups rows identity with
    | some group => group.conflicting.map (·.rowIndex)
    | none => []

def duplicateSkips (rows : List (ParsedImportRow server)) : List Nat :=
  (rows.map (·.inventoryNumber)).dedup.flatMap fun identity =>
    match duplicateGroups rows identity with
    | some group => group.repeated.map (·.rowIndex)
    | none => []

/-- The rows with an inventory number all say the same of it. -/
def Agreed (rows : List (ParsedImportRow server)) (inventoryNumber : String)
    (payload : ParsedPayload server) : Prop :=
  (∃ row ∈ rows, row.inventoryNumber = inventoryNumber) ∧
    ∀ row ∈ rows, row.inventoryNumber = inventoryNumber → row.payload = some payload

section Signatures

theorem eq_filter_of_sublist {part whole : List String} (distinct : whole.Nodup) (listed : part.Sublist whole) :
    part = whole.filter (· ∈ part) := by
  induction listed with
  | slnil => rfl
  | @cons part whole skipped listed ih =>
      rw [List.nodup_cons] at distinct
      rw [List.filter_cons_of_neg (by simpa using fun here => distinct.1 (listed.subset here))]
      exact ih distinct.2
  | @cons_cons part whole field listed ih =>
      rw [List.nodup_cons] at distinct
      rw [List.filter_cons_of_pos (by simp)]
      congr 1
      calc part
        _ = whole.filter (· ∈ part) := ih distinct.2
        _ = whole.filter (· ∈ field :: part) := by
            apply List.filter_congr
            intro other member
            have different : other ≠ field := fun same => distinct.1 (same ▸ member)
            simp [different]

theorem sublist_eq_of_perm {one other : List String} (first : one.Sublist presentFields)
    (second : other.Sublist presentFields) (same : one.Perm other) : one = other := by
  have distinct : presentFields.Nodup := by decide
  calc one
    _ = presentFields.filter (· ∈ one) := eq_filter_of_sublist distinct first
    _ = presentFields.filter (· ∈ other) := List.filter_congr fun field _ => by simp [same.mem_iff]
    _ = other := (eq_filter_of_sublist distinct second).symm

theorem signature_injective {one other : ParsedPayload server} (same : one.signature = other.signature) :
    one = other := by
  have present : one.payload.present = other.payload.present := by
    have sorted := congrArg ImportPayload.present same
    simp only [ParsedPayload.signature] at sorted
    apply sublist_eq_of_perm one.listed other.listed
    calc one.payload.present
      _ ~ one.payload.present.insertionSort (· ≤ ·) := (List.perm_insertionSort _ _).symm
      _ ~ other.payload.present.insertionSort (· ≤ ·) := by rw [sorted]
      _ ~ other.payload.present := List.perm_insertionSort _ _
  rcases one with ⟨⟨⟩, _⟩
  rcases other with ⟨⟨⟩, _⟩
  simp only [ParsedPayload.signature, ImportPayload.mk.injEq] at same present
  simp_all

end Signatures

section Groups

variable {rows : List (ParsedImportRow server)} {row other : ParsedImportRow server}

theorem payload_number {payload : ParsedPayload server} (accepted : row.payload = some payload) :
    row.inventoryNumber = payload.payload.inventoryNumber := by
  rcases row with ⟨index, content⟩
  cases content with
  | accepted => cases accepted; rfl
  | refused => cases accepted

theorem ParsedPayload.number_ne (payload : ParsedPayload server) : payload.payload.inventoryNumber ≠ "" := by
  have checked := payload.canonical
  simp only [canonicalCheck, decide_eq_true_eq] at checked
  exact checked.1

theorem mem_rowsOf {inventoryNumber : String} :
    row ∈ rowsOf rows inventoryNumber ↔ row ∈ rows ∧ row.inventoryNumber = inventoryNumber := by
  simp [rowsOf]

theorem duplicateGroups_empty (rows : List (ParsedImportRow server)) : duplicateGroups rows "" = none := by
  unfold duplicateGroups
  induction rows using List.reverseRecOn with
  | nil => rfl
  | append_singleton rows row ih =>
      rw [List.foldl_append]
      simp only [List.foldl_cons, List.foldl_nil, groupRow]
      split
      · exact ih
      · rename_i given
        rw [Function.update_of_ne fun clash => given clash.symm]
        exact ih

theorem signature_eq_iff {payload : ParsedPayload server} :
    row.signature = some payload.signature ↔ row.payload = some payload := by
  constructor
  · intro signed
    obtain ⟨read, accepted, same⟩ := Option.map_eq_some_iff.mp signed
    rw [accepted, signature_injective same]
  · intro accepted
    rw [ParsedImportRow.signature, accepted]
    rfl

theorem conflict_iff {members : List (ParsedImportRow server)} {group : DuplicateGroup server}
    (grouped : groupOf members = some group) :
    group.conflict = false ↔ ∃ payload, ∀ row ∈ members, row.payload = some payload := by
  cases members with
  | nil => cases grouped
  | cons first duplicates =>
      cases grouped
      constructor
      · intro alike
        simp only [Bool.or_eq_false_iff, List.any_eq_false] at alike
        obtain ⟨signed, others⟩ := alike
        cases accepted : first.payload with
        | none => simp [ParsedImportRow.signature, accepted] at signed
        | some payload =>
            refine ⟨payload, fun row member => ?_⟩
            cases member with
            | head => exact accepted
            | tail _ member =>
                have same := others row member
                simp only [Bool.or_eq_true, decide_eq_true_eq, not_or, not_not] at same
                rw [← signature_eq_iff, same.2]
                exact signature_eq_iff.mpr accepted
      · intro agreed
        obtain ⟨payload, agreed⟩ := agreed
        have signed := fun row member => signature_eq_iff.mpr (agreed row member)
        have first := signed first List.mem_cons_self
        simp only [Bool.or_eq_false_iff, List.any_eq_false, first]
        refine ⟨rfl, fun row member => ?_⟩
        rw [signed row (List.mem_cons_of_mem _ member)]
        simp

theorem duplicates_eq {members : List (ParsedImportRow server)} {group : DuplicateGroup server}
    (grouped : groupOf members = some group) : members = group.first :: group.duplicates := by
  cases members with
  | nil => cases grouped
  | cons first duplicates =>
      cases grouped
      rfl

theorem group_members {inventoryNumber : String} {group : DuplicateGroup server}
    (grouped : duplicateGroups rows inventoryNumber = some group) :
    inventoryNumber ≠ "" ∧ groupOf (rowsOf rows inventoryNumber) = some group := by
  have given : inventoryNumber ≠ "" := by
    intro empty
    rw [empty, duplicateGroups_empty] at grouped
    cases grouped
  exact ⟨given, duplicateGroups_eq rows given ▸ grouped⟩

theorem group_member {inventoryNumber : String} {group : DuplicateGroup server}
    (grouped : duplicateGroups rows inventoryNumber = some group) :
    row ∈ group.first :: group.duplicates ↔ row ∈ rows ∧ row.inventoryNumber = inventoryNumber := by
  rw [← duplicates_eq (group_members grouped).2]
  exact mem_rowsOf

variable (distinct : (rows.map (·.rowIndex)).Nodup)

include distinct

theorem row_of_index (member : row ∈ rows) (present : other ∈ rows) (same : row.rowIndex = other.rowIndex) :
    row = other := List.inj_on_of_nodup_map distinct member present same

theorem index_mem {chosen : DuplicateGroup server → List (ParsedImportRow server)}
    (within : ∀ group, ∀ row ∈ chosen group, row ∈ group.first :: group.duplicates) (member : row ∈ rows) :
    (row.rowIndex ∈ (rows.map (·.inventoryNumber)).dedup.flatMap fun identity =>
      match duplicateGroups rows identity with
      | some group => (chosen group).map (·.rowIndex)
      | none => []) ↔
    ∃ group, duplicateGroups rows row.inventoryNumber = some group ∧ row ∈ chosen group := by
  rw [List.mem_flatMap]
  constructor
  · intro listed
    obtain ⟨identity, _, listed⟩ := listed
    cases grouped : duplicateGroups rows identity with
    | none => simp [grouped] at listed
    | some group =>
        simp only [grouped, List.mem_map] at listed
        obtain ⟨other, chosen, same⟩ := listed
        obtain ⟨present, number⟩ := (group_member grouped).mp (within group other chosen)
        cases row_of_index distinct member present same.symm
        rw [number]
        exact ⟨group, grouped, chosen⟩
  · intro own
    obtain ⟨group, grouped, chosen⟩ := own
    refine ⟨row.inventoryNumber, List.mem_dedup.mpr (List.mem_map_of_mem member), ?_⟩
    rw [grouped]
    exact List.mem_map_of_mem chosen

theorem mem_duplicateConflicts (member : row ∈ rows) : row.rowIndex ∈ duplicateConflicts rows ↔
    ∃ group, duplicateGroups rows row.inventoryNumber = some group ∧ row ∈ group.conflicting := by
  apply index_mem distinct _ member
  intro group row chosen
  unfold DuplicateGroup.conflicting at chosen
  split at chosen
  · exact chosen
  · cases chosen

theorem mem_duplicateSkips (member : row ∈ rows) : row.rowIndex ∈ duplicateSkips rows ↔
    ∃ group, duplicateGroups rows row.inventoryNumber = some group ∧ row ∈ group.repeated := by
  apply index_mem distinct _ member
  intro group row chosen
  unfold DuplicateGroup.repeated at chosen
  split at chosen
  · exact List.mem_cons_of_mem _ chosen
  · cases chosen

omit distinct in
theorem rows_nodup (distinct : (rows.map (·.rowIndex)).Nodup) (inventoryNumber : String) :
    (rowsOf rows inventoryNumber).Nodup := (List.Nodup.of_map _ distinct).filter _

theorem chosen_iff (member : row ∈ rows) {payload : ParsedPayload server} (accepted : row.payload = some payload) :
    (row.rowIndex ∉ duplicateConflicts rows ∧ row.rowIndex ∉ duplicateSkips rows) ↔
      Agreed rows row.inventoryNumber payload ∧ (rowsOf rows row.inventoryNumber).head? = some row := by
  have given : row.inventoryNumber ≠ "" := payload_number accepted ▸ payload.number_ne
  have mine : row ∈ rowsOf rows row.inventoryNumber := mem_rowsOf.mpr ⟨member, rfl⟩
  rw [mem_duplicateConflicts distinct member, mem_duplicateSkips distinct member, duplicateGroups_eq rows given]
  cases grouped : groupOf (rowsOf rows row.inventoryNumber) with
  | none =>
      cases shape : rowsOf rows row.inventoryNumber with
      | nil => simp [shape] at mine
      | cons => simp [shape, groupOf] at grouped
  | some group =>
      have shape := duplicates_eq grouped
      have unique := rows_nodup distinct row.inventoryNumber
      rw [shape, List.nodup_cons] at unique
      rw [shape] at mine
      have alike : group.conflict = false ↔ Agreed rows row.inventoryNumber payload := by
        rw [conflict_iff grouped]
        constructor
        · intro agreed
          obtain ⟨read, agreed⟩ := agreed
          have same : read = payload := by
            have here := agreed row (mem_rowsOf.mpr ⟨member, rfl⟩)
            rw [accepted] at here
            exact (Option.some.inj here).symm
          subst same
          exact ⟨⟨row, member, rfl⟩, fun other present number => agreed other (mem_rowsOf.mpr ⟨present, number⟩)⟩
        · intro agreed
          refine ⟨payload, fun other present => ?_⟩
          obtain ⟨present, number⟩ := mem_rowsOf.mp present
          exact agreed.2 other present number
      rw [shape, List.head?_cons, ← alike]
      simp only [Option.some.injEq, exists_eq_left', DuplicateGroup.conflicting, DuplicateGroup.repeated]
      constructor
      · intro chosen
        have calm : group.conflict = false := by
          by_cases alone : group.duplicates = []
          · rw [alike]
            refine ⟨⟨row, member, rfl⟩, fun other present number => ?_⟩
            have there := mem_rowsOf.mpr ⟨present, number⟩
            rw [shape, alone, List.mem_singleton] at there
            rw [alone, List.mem_singleton] at mine
            rw [there, ← mine, accepted]
          · by_contra clash
            rw [Bool.not_eq_false] at clash
            exact chosen.1 (by rw [if_pos ⟨alone, clash⟩]; exact mine)
        refine ⟨calm, ?_⟩
        cases mine with
        | head => rfl
        | tail _ duplicate =>
            have more : group.duplicates ≠ [] := List.ne_nil_of_mem duplicate
            exact absurd (by rw [if_pos ⟨more, calm⟩]; exact duplicate) chosen.2
      · intro first
        obtain ⟨calm, rfl⟩ := first
        rw [if_neg fun clash => by simp [calm] at clash]
        refine ⟨List.not_mem_nil, ?_⟩
        split
        · exact unique.1
        · exact List.not_mem_nil

end Groups

end PublicLighting.ImportQueue
