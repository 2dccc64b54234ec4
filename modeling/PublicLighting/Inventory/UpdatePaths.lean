import PublicLighting.Inventory.ChangedFields

/-! The two ways to update a stored light point: `updateLightPoint` and the UPDATE of
the import worker. -/

namespace PublicLighting.Inventory

/-- The members that are `undefined` are `none`. -/
structure UpdateLightPointInput where
  inventoryNumber : Option String
  externalId : Option (Option String)
  latitude : Option ℚ
  longitude : Option ℚ
  address : Option (Option String)
  district : Option (Option String)
  lampType : Option (Option String)
  status : Option LightPointStatus
  deriving DecidableEq

inductive UpdateError
  | inventoryNumberRequired
  | sql (state : SqlState)
  deriving DecidableEq, Repr

/-- What an update writes: the row and the change record of its audit event. -/
structure Written where
  row : LightPoint
  changedFields : ChangedFields
  deriving DecidableEq

def normalizeIdentity (server : ServerText) (value : String) : Except UpdateError String :=
  let identity := canonicalizeInventoryNumber server value
  if identity = "" then .error .inventoryNumberRequired else .ok identity

/-- The `next` of `updateLightPoint`. -/
def UpdateLightPointInput.next (server : ServerText) (input : UpdateLightPointInput)
    (existing : LightPoint) : Except UpdateError LightPoint := do
  let inventoryNumber ← match input.inventoryNumber with
    | some value => normalizeIdentity server value
    | none => pure existing.inventoryNumber
  return { existing with
    inventoryNumber := inventoryNumber
    externalId := input.externalId.getD existing.externalId
    latitude := input.latitude.getD existing.latitude
    longitude := input.longitude.getD existing.longitude
    address := input.address.getD existing.address
    district := input.district.getD existing.district
    lampType := input.lampType.getD existing.lampType
    status := input.status.getD existing.status }

def coordsChanged (existing next : LightPoint) : Bool :=
  existing.latitude ≠ next.latitude ∨ existing.longitude ≠ next.longitude

/-- The UPDATE of `updateLightPoint`, which forgets the geocoding of a point that moves. -/
def updatedRow (now : Nat) (existing next : LightPoint) : LightPoint :=
  { next with
    addressGeocodedAt := if coordsChanged existing next then none else existing.addressGeocodedAt
    updatedAt := now }

/-- The transaction of `updateLightPoint` on an existing point; nothing is written when
no field changes. -/
def updateLightPoint (server : ServerText) (now : Nat) (input : UpdateLightPointInput)
    (existing : LightPoint) : Except UpdateError (Option Written) := do
  let next ← input.next server existing
  let changedFields := safeChangedFields existing next
  if changedFields = [] then return none
  match (updatedRow now existing next).store server with
  | .ok row => return some ⟨row, changedFields⟩
  | .error state => throw (.sql state)

/-- `existing` and `updated` for one row, with `update_existing` on. -/
def importUpdate (server : ServerText) (now : Nat) (payload : ImportPayload) (existing : LightPoint) :
    Except SqlState (Option Written) :=
  if existing.Alike (payload.replace existing) then .ok none
  else match { payload.replace existing with updatedAt := now }.store server with
    | .ok row => .ok (some ⟨row, importUpdateFields existing row⟩)
    | .error state => .error state

/-- The input of `updateLightPoint` that represents the same values. -/
def ImportPayload.asUpdate (payload : ImportPayload) : UpdateLightPointInput where
  inventoryNumber := some payload.inventoryNumber
  externalId := if "external_id" ∈ payload.present then some payload.externalId else none
  latitude := some payload.latitude
  longitude := some payload.longitude
  address := if "address" ∈ payload.present then some payload.address else none
  district := if "district" ∈ payload.present then some payload.district else none
  lampType := if "lamp_type" ∈ payload.present then some payload.lampType else none
  status := if "status" ∈ payload.present then payload.status else none

/-- The row after a transaction: a refused one is rolled back. -/
def rowAfter {Error : Type} (existing : LightPoint) : Except Error (Option Written) → LightPoint
  | .ok (some written) => written.row
  | _ => existing

/-- Neither the row changes nor an audit event is written. -/
def IsNoOp {Error : Type} : Except Error (Option Written) → Prop
  | .ok (some _) => False
  | _ => True

/-- Equal in every column except `updated_at`. -/
def LightPoint.SameColumns (one other : LightPoint) : Prop :=
  { one with updatedAt := 0 } = { other with updatedAt := 0 }

section Agreement

variable {server : ServerText} {payload : ImportPayload}

theorem given_getD {field : String} {α : Type} {value kept : α} :
    (if field ∈ payload.present then some value else none).getD kept = payload.given field value kept := by
  unfold ImportPayload.given
  split <;> rfl

theorem given_status {kept : LightPointStatus} :
    (if "status" ∈ payload.present then payload.status else none).getD kept =
      payload.given "status" (payload.status.getD kept) kept := by
  unfold ImportPayload.given
  split <;> rfl

theorem asUpdate_next (point : StoredLightPoint server)
    (same : payload.inventoryNumber = point.row.inventoryNumber) :
    payload.asUpdate.next server point.row = .ok (payload.replace point.row) := by
  obtain ⟨given, canonical⟩ := point.canonical
  have identity : normalizeIdentity server payload.inventoryNumber = .ok payload.inventoryNumber := by
    unfold normalizeIdentity
    rw [same, canonical]
    exact if_neg given
  unfold UpdateLightPointInput.next
  simp only [ImportPayload.asUpdate, identity, given_getD, given_status]
  rfl

theorem store_timestamps (row : LightPoint) (geocoded : Option Nat) (now : Nat) :
    { row with addressGeocodedAt := geocoded, updatedAt := now }.store server =
      (row.store server).map fun kept => { kept with addressGeocodedAt := geocoded, updatedAt := now } := by
  unfold LightPoint.store
  cases nullable (varchar 50) row.externalId <;> try rfl
  cases nullable (varchar 100) row.district <;> try rfl
  cases nullable (varchar 100) row.lampType <;> try rfl
  simp only [bind, Except.bind, pure, Except.pure]
  repeat' split
  all_goals rfl

theorem update_cases (point : StoredLightPoint server) (now later : Nat)
    (same : payload.inventoryNumber = point.row.inventoryNumber) :
    (point.row.Alike (payload.replace point.row) ∧ importUpdate server now payload point.row = .ok none ∧
      updateLightPoint server later payload.asUpdate point.row = .ok none) ∨
    (¬ point.row.Alike (payload.replace point.row) ∧ ∃ state,
      (payload.replace point.row).store server = .error state ∧
      importUpdate server now payload point.row = .error state ∧
      updateLightPoint server later payload.asUpdate point.row = .error (.sql state)) ∨
    ¬ point.row.Alike (payload.replace point.row) ∧ ∃ kept changes changes',
      (payload.replace point.row).store server = .ok kept ∧
      importUpdate server now payload point.row = .ok (some ⟨{ kept with
        addressGeocodedAt := point.row.addressGeocodedAt, updatedAt := now }, changes⟩) ∧
      updateLightPoint server later payload.asUpdate point.row = .ok (some ⟨{ kept with
        addressGeocodedAt := if coordsChanged point.row (payload.replace point.row) then none
          else point.row.addressGeocodedAt
        updatedAt := later }, changes'⟩) := by
  have next := asUpdate_next point same
  have kept : (payload.replace point.row).addressGeocodedAt = point.row.addressGeocodedAt := rfl
  by_cases alike : point.row.Alike (payload.replace point.row)
  · left
    refine ⟨alike, if_pos alike, ?_⟩
    unfold updateLightPoint
    rw [next]
    exact if_pos (safeChangedFields_eq_nil.mpr alike)
  · right
    have changes : safeChangedFields point.row (payload.replace point.row) ≠ [] :=
      fun none => alike (safeChangedFields_eq_nil.mp none)
    have imported := @store_timestamps server (payload.replace point.row)
      point.row.addressGeocodedAt now
    have updated := @store_timestamps server (payload.replace point.row)
      (if coordsChanged point.row (payload.replace point.row) then none
        else point.row.addressGeocodedAt) later
    have first : importUpdate server now payload point.row = match
        { payload.replace point.row with
          addressGeocodedAt := point.row.addressGeocodedAt, updatedAt := now }.store server with
        | .ok row => .ok (some ⟨row, importUpdateFields point.row row⟩)
        | .error state => .error state := if_neg alike
    have second : updateLightPoint server later payload.asUpdate point.row = match
        (updatedRow later point.row (payload.replace point.row)).store server with
        | .ok row => .ok (some ⟨row, safeChangedFields point.row (payload.replace point.row)⟩)
        | .error state => .error (.sql state) := by
      unfold updateLightPoint
      rw [next]
      exact if_neg changes
    rw [first, second, imported, show (updatedRow later point.row (payload.replace point.row)).store server =
      _ from updated]
    cases (payload.replace point.row).store server with
    | error state => exact .inl ⟨alike, state, rfl, rfl, rfl⟩
    | ok row => exact .inr ⟨alike, row, _, _, rfl, rfl, rfl⟩

/-- The two paths leave the same columns, and one writes nothing exactly when the other
does, unless an accepted update moves a geocoded point. -/
theorem update_paths_agree_iff (point : StoredLightPoint server) (now later : Nat)
    (same : payload.inventoryNumber = point.row.inventoryNumber) :
    ((rowAfter point.row (importUpdate server now payload point.row)).SameColumns
        (rowAfter point.row (updateLightPoint server later payload.asUpdate point.row)) ∧
      (IsNoOp (importUpdate server now payload point.row) ↔
        IsNoOp (updateLightPoint server later payload.asUpdate point.row))) ↔
      coordsChanged point.row (payload.replace point.row) = false ∨
        point.row.addressGeocodedAt = none ∨
        ∃ state, (payload.replace point.row).store server = .error state := by
  rcases update_cases point now later same with ⟨alike, first, second⟩ |
    ⟨_, state, refused, first, second⟩ | ⟨_, kept, changes, changes', stored, first, second⟩
  · have unmoved : coordsChanged point.row (payload.replace point.row) = false := by
      obtain ⟨_, _, longitude, latitude, _⟩ := LightPoint.alike_iff.mp alike
      simp [coordsChanged, longitude, latitude]
    rw [first, second]
    exact ⟨fun _ => .inl unmoved, fun _ => ⟨rfl, Iff.rfl⟩⟩
  · rw [first, second]
    exact ⟨fun _ => .inr (.inr ⟨state, refused⟩), fun _ => ⟨rfl, Iff.rfl⟩⟩
  · rw [first, second]
    constructor
    · rintro ⟨columns, _⟩
      have geocoded := congrArg LightPoint.addressGeocodedAt columns
      simp only [rowAfter] at geocoded
      cases moved : coordsChanged point.row (payload.replace point.row) with
      | false => exact .inl rfl
      | true => exact .inr (.inl (by simpa [moved] using geocoded))
    · intro condition
      refine ⟨?_, Iff.rfl⟩
      have kept : (if coordsChanged point.row (payload.replace point.row) then none
          else point.row.addressGeocodedAt) = point.row.addressGeocodedAt := by
        rcases condition with unmoved | ungeocoded | ⟨state, refused⟩
        · simp [unmoved]
        · simp [ungeocoded]
        · rw [stored] at refused
          cases refused
      simp only [rowAfter, LightPoint.SameColumns, kept]

end Agreement

section Divergence

def plainText : ServerText := ⟨id, fun _ => true⟩

/-- A lamp whose address was geocoded where it stands. -/
def geocodedLamp : StoredLightPoint plainText where
  row := ⟨"VO-1", none, 21, 48, some "Hlavná 1", some 100, none, none, .active, 100⟩
  stored := by decide +kernel

def movedRow : ImportPayload where
  inventoryNumber := "VO-1"
  externalId := none
  latitude := 49
  longitude := 21
  address := none
  district := none
  lampType := none
  status := none
  present := ["inventory_number", "latitude", "longitude"]
  statusGiven := by decide

/-- Moving the lamp by an import keeps the timestamp of the old place's geocoding. -/
theorem moved_lamp_diverges :
    (rowAfter geocodedLamp.row (importUpdate plainText 200 movedRow geocodedLamp.row)).addressGeocodedAt =
        some 100 ∧
      (rowAfter geocodedLamp.row
        (updateLightPoint plainText 200 movedRow.asUpdate geocodedLamp.row)).addressGeocodedAt = none := by
  decide +kernel

/-- The lamp stays where it is and gets another address. -/
def readdressedRow : ImportPayload where
  inventoryNumber := "VO-1"
  externalId := none
  latitude := 48
  longitude := 21
  address := some "Hlavná 2"
  district := none
  lampType := none
  status := none
  present := ["inventory_number", "latitude", "longitude", "address"]
  statusGiven := by decide

theorem unmoved_lamp_agrees :
    (rowAfter geocodedLamp.row (importUpdate plainText 200 readdressedRow geocodedLamp.row)).address =
        some "Hlavná 2" ∧
      ((rowAfter geocodedLamp.row (importUpdate plainText 200 readdressedRow geocodedLamp.row)).SameColumns
        (rowAfter geocodedLamp.row (updateLightPoint plainText 300 readdressedRow.asUpdate geocodedLamp.row)) ∧
      (IsNoOp (importUpdate plainText 200 readdressedRow geocodedLamp.row) ↔
        IsNoOp (updateLightPoint plainText 300 readdressedRow.asUpdate geocodedLamp.row))) :=
  have unmoved : coordsChanged geocodedLamp.row (readdressedRow.replace geocodedLamp.row) = false := by
    decide +kernel
  have written : (rowAfter geocodedLamp.row
      (importUpdate plainText 200 readdressedRow geocodedLamp.row)).address = some "Hlavná 2" := by
    decide +kernel
  ⟨written, (update_paths_agree_iff geocodedLamp 200 300 rfl).mpr (.inl unmoved)⟩

end Divergence

end PublicLighting.Inventory
