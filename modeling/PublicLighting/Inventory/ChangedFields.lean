import PublicLighting.Inventory.LightPoint

/-! The change records of inventory audit events, as each writer builds them. -/

namespace PublicLighting.Inventory

/-- The fields whose history the audit events keep. -/
inductive TrackedField
  | inventoryNumber
  | externalId
  | longitude
  | latitude
  | address
  | district
  | lampType
  | status
  deriving DecidableEq, Repr

def TrackedField.name : TrackedField → String
  | inventoryNumber => "inventory_number"
  | externalId => "external_id"
  | longitude => "longitude"
  | latitude => "latitude"
  | address => "address"
  | district => "district"
  | lampType => "lamp_type"
  | status => "status"

/-- In the order of `safeChangedFields`. -/
def TrackedField.all : List TrackedField :=
  [inventoryNumber, externalId, longitude, latitude, address, district, lampType, status]

/-- A value of a JSON member. A numeral is the text of a number, as `ST_X(geom)::text`
and `String(number)` spell it and `Number` reads it. -/
inductive JsonValue
  | null
  | text (value : String)
  | number (value : ℚ)
  | numeral (value : ℚ)
  deriving DecidableEq

def JsonValue.ofText : Option String → JsonValue
  | some value => .text value
  | none => .null

/-- A field of the row, read as a number where it is a coordinate. -/
def LightPoint.value (row : LightPoint) : TrackedField → JsonValue
  | .inventoryNumber => .text row.inventoryNumber
  | .externalId => .ofText row.externalId
  | .longitude => .number row.longitude
  | .latitude => .number row.latitude
  | .address => .ofText row.address
  | .district => .ofText row.district
  | .lampType => .ofText row.lampType
  | .status => .text row.status.text

/-- A field of a `LightPointRow`, whose coordinates are texts. -/
def LightPoint.columnValue (row : LightPoint) (field : TrackedField) : JsonValue :=
  match row.value field with
  | .number value => .numeral value
  | value => value

/-- The members of a change; a missing one is `none`. -/
structure Change where
  before : Option JsonValue
  after : Option JsonValue
  deriving DecidableEq

abbrev ChangedFields := List (String × Change)

def safeChangedFields (before after : LightPoint) : ChangedFields :=
  TrackedField.all.filterMap fun field =>
    if before.value field = after.value field then none
    else some (field.name, ⟨some (before.columnValue field), some (after.columnValue field)⟩)

/-- What `jsonb_strip_nulls` leaves of a member. -/
def JsonValue.stripped : JsonValue → Option JsonValue
  | null => none
  | value => some value

/-- The record of the import worker's UPDATE: `CASE WHEN before IS DISTINCT FROM after`. -/
def importUpdateFields (before after : LightPoint) : ChangedFields :=
  TrackedField.all.filterMap fun field =>
    if before.value field = after.value field then none
    else some (field.name, ⟨(before.value field).stripped, (after.value field).stripped⟩)

def LightPoint.Alike (before after : LightPoint) : Prop :=
  ∀ field, before.value field = after.value field

theorem TrackedField.mem_all (field : TrackedField) : field ∈ all := by
  cases field <;> decide

theorem JsonValue.ofText_injective : Function.Injective ofText := by
  intro one other same
  cases one <;> cases other <;> first | rfl | cases same
  rfl

theorem LightPointStatus.text_injective : Function.Injective text := by
  intro one other same
  cases one <;> cases other <;> first | rfl | exact absurd same (by decide)

instance (before after : LightPoint) : Decidable (before.Alike after) :=
  decidable_of_iff (∀ field ∈ TrackedField.all, before.value field = after.value field)
    ⟨fun same field => same field field.mem_all, fun same field _ => same field⟩

theorem LightPoint.alike_iff {before after : LightPoint} :
    before.Alike after ↔ before.inventoryNumber = after.inventoryNumber ∧
      before.externalId = after.externalId ∧ before.longitude = after.longitude ∧
      before.latitude = after.latitude ∧ before.address = after.address ∧
      before.district = after.district ∧ before.lampType = after.lampType ∧
      before.status = after.status := by
  constructor
  · intro same
    refine ⟨?_, ?_, ?_, ?_, ?_, ?_, ?_, ?_⟩
    · exact JsonValue.text.inj (same .inventoryNumber)
    · exact JsonValue.ofText_injective (same .externalId)
    · exact JsonValue.number.inj (same .longitude)
    · exact JsonValue.number.inj (same .latitude)
    · exact JsonValue.ofText_injective (same .address)
    · exact JsonValue.ofText_injective (same .district)
    · exact JsonValue.ofText_injective (same .lampType)
    · exact LightPointStatus.text_injective (JsonValue.text.inj (same .status))
  · rintro ⟨number, external, longitude, latitude, address, district, lampType, status⟩ field
    cases field <;> simp only [LightPoint.value, number, external, longitude, latitude, address,
      district, lampType, status]

theorem safeChangedFields_eq_nil {before after : LightPoint} :
    safeChangedFields before after = [] ↔ before.Alike after := by
  unfold safeChangedFields
  rw [List.filterMap_eq_nil_iff]
  constructor
  · intro unrecorded field
    by_contra different
    have recorded := unrecorded field field.mem_all
    rw [if_neg different] at recorded
    cases recorded
  · intro alike field _
    rw [if_pos (alike field)]

end PublicLighting.Inventory
