import Mathlib.Data.Rat.Defs
import Mathlib.Tactic.Common
import PublicLighting.Foundations.JavaScriptText

/-! The row of a light point, and which rows PostgreSQL stores. -/

namespace PublicLighting.Inventory

inductive LightPointStatus
  | active
  | inactive
  | maintenance
  deriving DecidableEq, Repr

def LightPointStatus.text : LightPointStatus → String
  | active => "active"
  | inactive => "inactive"
  | maintenance => "maintenance"

/-- A row of `light_points` without its id. Coordinates are the doubles of `geom`, which
are rational numbers. -/
structure LightPoint where
  inventoryNumber : String
  externalId : Option String
  longitude : ℚ
  latitude : ℚ
  address : Option String
  addressGeocodedAt : Option Nat
  district : Option String
  lampType : Option String
  status : LightPointStatus
  updatedAt : Nat
  deriving DecidableEq

/-- The SQLSTATEs that a statement on the inventory can raise. -/
inductive SqlState
  | notNullViolation
  | uniqueViolation
  | checkViolation
  | numericValueOutOfRange
  | invalidTextRepresentation
  | stringDataRightTruncation
  | programLimitExceeded
  | connectionFailure
  deriving DecidableEq, Repr

def SqlState.code : SqlState → String
  | notNullViolation => "23502"
  | uniqueViolation => "23505"
  | checkViolation => "23514"
  | numericValueOutOfRange => "22003"
  | invalidTextRepresentation => "22P02"
  | stringDataRightTruncation => "22001"
  | programLimitExceeded => "54000"
  | connectionFailure => "08006"

/-- What the server decides about texts: NFC, and whether a btree entry has room for one. -/
structure ServerText where
  nfc : String → String
  indexRowFits : String → Bool

def edgeTrimCodePoints : List Nat :=
  [0x0009, 0x000a, 0x000b, 0x000c, 0x000d, 0x0020, 0x00a0, 0x1680, 0x2000, 0x2001, 0x2002, 0x2003,
    0x2004, 0x2005, 0x2006, 0x2007, 0x2008, 0x2009, 0x200a, 0x2028, 0x2029, 0x202f, 0x205f, 0x3000,
    0xfeff]

def isEdgeTrim (c : Char) : Bool := c.toNat ∈ edgeTrimCodePoints

/-- `btrim` with the set of code points. -/
def btrim (text : String) : String :=
  String.ofList ((text.toList.dropWhile isEdgeTrim).reverse.dropWhile isEdgeTrim).reverse

def canonicalizeInventoryNumber (server : ServerText) (value : String) : String :=
  server.nfc (btrim value)

/-- `light_points_inventory_number_canonical_check`. -/
def canonicalCheck (server : ServerText) (inventoryNumber : String) : Bool :=
  inventoryNumber ≠ "" ∧ server.nfc inventoryNumber = inventoryNumber ∧
    inventoryNumber = canonicalizeInventoryNumber server inventoryNumber

/-- `light_points_geom_valid_check`. -/
def geomValidCheck (longitude latitude : ℚ) : Bool :=
  -180 ≤ longitude ∧ longitude ≤ 180 ∧ -90 ≤ latitude ∧ latitude ≤ 90

/-- Assignment to `VARCHAR(length)`, which cuts off nothing but blanks. -/
def varchar (length : Nat) (text : String) : Except SqlState String :=
  if text.length ≤ length then .ok text
  else if (text.toList.drop length).all (· == ' ') then .ok (String.ofList (text.toList.take length))
  else .error .stringDataRightTruncation

def nullable (assign : String → Except SqlState String) : Option String → Except SqlState (Option String)
  | none => .ok none
  | some text => (assign text).map some

/-- The row that an INSERT or UPDATE of a row stores, unless it raises. -/
def LightPoint.store (server : ServerText) (row : LightPoint) : Except SqlState LightPoint := do
  let externalId ← nullable (varchar 50) row.externalId
  let district ← nullable (varchar 100) row.district
  let lampType ← nullable (varchar 100) row.lampType
  if !canonicalCheck server row.inventoryNumber then throw .checkViolation
  if !geomValidCheck row.longitude row.latitude then throw .checkViolation
  if !server.indexRowFits row.inventoryNumber then throw .programLimitExceeded
  return { row with externalId := externalId, district := district, lampType := lampType }

structure StoredLightPoint (server : ServerText) where
  row : LightPoint
  stored : row.store server = .ok row

/-- The payload of an import row, as `payload->>field` reads it: a missing member and a
null are the same. -/
structure ImportPayload where
  inventoryNumber : String
  externalId : Option String
  latitude : ℚ
  longitude : ℚ
  address : Option String
  district : Option String
  lampType : Option String
  status : Option LightPointStatus
  present : List String
  statusGiven : "status" ∈ present → status.isSome
  deriving DecidableEq

/-- `CASE WHEN present ? field THEN payload->>field ELSE p.field END`. -/
def ImportPayload.given (payload : ImportPayload) (field : String) {α : Type} (value kept : α) : α :=
  if field ∈ payload.present then value else kept

/-- The row that `updated` sets, but for `updated_at`. -/
def ImportPayload.replace (payload : ImportPayload) (row : LightPoint) : LightPoint :=
  { row with
    inventoryNumber := payload.inventoryNumber
    externalId := payload.given "external_id" payload.externalId row.externalId
    longitude := payload.longitude
    latitude := payload.latitude
    address := payload.given "address" payload.address row.address
    district := payload.given "district" payload.district row.district
    lampType := payload.given "lamp_type" payload.lampType row.lampType
    status := payload.given "status" (payload.status.getD row.status) row.status }

/-- The row that `inserted` inserts. -/
def ImportPayload.point (payload : ImportPayload) (now : Nat) : LightPoint where
  inventoryNumber := payload.inventoryNumber
  externalId := payload.externalId
  longitude := payload.longitude
  latitude := payload.latitude
  address := payload.address
  addressGeocodedAt := none
  district := payload.district
  lampType := payload.lampType
  status := payload.status.getD .active
  updatedAt := now

section Stored

variable {server : ServerText} {row kept : LightPoint}

theorem store_checks (stored : row.store server = .ok kept) :
    canonicalCheck server row.inventoryNumber = true ∧ geomValidCheck row.longitude row.latitude = true ∧
      server.indexRowFits row.inventoryNumber = true := by
  unfold LightPoint.store at stored
  simp only [bind, Except.bind, pure, Except.pure] at stored
  repeat' split at stored
  all_goals first | contradiction | simp_all

theorem varchar_stored {length : Nat} {text stored : String} (assigned : varchar length text = .ok stored) :
    stored.length ≤ length := by
  unfold varchar at assigned
  split at assigned
  · cases assigned
    assumption
  · split at assigned
    · cases assigned
      rw [String.length_ofList]
      exact List.length_take_le ..
    · cases assigned

theorem varchar_fits {length : Nat} {text : String} (fits : text.length ≤ length) : varchar length text = .ok text :=
  if_pos fits

theorem nullable_stored {length : Nat} {text stored : Option String}
    (assigned : nullable (varchar length) text = .ok stored) : nullable (varchar length) stored = .ok stored := by
  cases text with
  | none =>
      cases assigned
      rfl
  | some text =>
      simp only [nullable] at assigned
      cases fits : varchar length text with
      | error => simp [fits, Except.map] at assigned
      | ok kept =>
          simp only [fits, Except.map, Except.ok.injEq] at assigned
          subst assigned
          simp only [nullable, varchar_fits (varchar_stored fits)]
          rfl

theorem store_columns (stored : row.store server = .ok kept) : ∃ externalId district lampType,
    nullable (varchar 50) row.externalId = .ok externalId ∧ nullable (varchar 100) row.district = .ok district ∧
      nullable (varchar 100) row.lampType = .ok lampType ∧
        kept = { row with externalId := externalId, district := district, lampType := lampType } := by
  unfold LightPoint.store at stored
  cases externalId : nullable (varchar 50) row.externalId with
  | error => simp [externalId, bind, Except.bind] at stored
  | ok externalId' =>
      cases district : nullable (varchar 100) row.district with
      | error => simp [externalId, district, bind, Except.bind] at stored
      | ok district' =>
          cases lampType : nullable (varchar 100) row.lampType with
          | error => simp [externalId, district, lampType, bind, Except.bind] at stored
          | ok lampType' =>
              simp only [externalId, district, lampType, bind, Except.bind, pure, Except.pure] at stored
              repeat' split at stored
              all_goals
                cases stored
                try exact ⟨_, _, _, rfl, rfl, rfl, rfl⟩

theorem store_number (stored : row.store server = .ok kept) : kept.inventoryNumber = row.inventoryNumber := by
  obtain ⟨_, _, _, _, _, _, rfl⟩ := store_columns stored
  rfl

theorem store_of_checks {externalId district lampType : Option String}
    (external : nullable (varchar 50) row.externalId = .ok externalId)
    (quarter : nullable (varchar 100) row.district = .ok district)
    (lamp : nullable (varchar 100) row.lampType = .ok lampType)
    (canonical : canonicalCheck server row.inventoryNumber = true)
    (valid : geomValidCheck row.longitude row.latitude = true)
    (indexed : server.indexRowFits row.inventoryNumber = true) :
    row.store server = .ok { row with externalId := externalId, district := district, lampType := lampType } := by
  simp [LightPoint.store, external, quarter, lamp, canonical, valid, indexed, bind, Except.bind, pure, Except.pure]

theorem store_stored (stored : row.store server = .ok kept) : kept.store server = .ok kept := by
  obtain ⟨canonical, valid, indexed⟩ := store_checks stored
  obtain ⟨_, _, _, external, quarter, lamp, rfl⟩ := store_columns stored
  exact store_of_checks (nullable_stored external) (nullable_stored quarter) (nullable_stored lamp) canonical valid
    indexed

theorem stored_columns (stored : row.store server = .ok row) :
    nullable (varchar 50) row.externalId = .ok row.externalId ∧
      nullable (varchar 100) row.district = .ok row.district ∧
        nullable (varchar 100) row.lampType = .ok row.lampType := by
  obtain ⟨externalId, district, lampType, external, quarter, lamp, same⟩ := store_columns stored
  have first := congrArg LightPoint.externalId same
  have second := congrArg LightPoint.district same
  have third := congrArg LightPoint.lampType same
  dsimp only at first second third
  rw [first] at external ⊢
  rw [second] at quarter ⊢
  rw [third] at lamp ⊢
  exact ⟨external, quarter, lamp⟩

theorem StoredLightPoint.canonical (point : StoredLightPoint server) :
    point.row.inventoryNumber ≠ "" ∧
      canonicalizeInventoryNumber server point.row.inventoryNumber = point.row.inventoryNumber := by
  have checked := (store_checks point.stored).1
  simp only [canonicalCheck, decide_eq_true_eq] at checked
  exact ⟨checked.1, checked.2.2.symm⟩

end Stored

end PublicLighting.Inventory
