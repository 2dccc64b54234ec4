import PublicLighting.ImportQueue.Statements

/-! The writers of `light_points` beside the import worker. Their audit events name no batch and are left out. -/

namespace PublicLighting.ImportQueue

open Inventory

/-- The members that are `undefined` or null are `none`. -/
structure CreateLightPointInput where
  inventoryNumber : String
  externalId : Option String
  latitude : ℚ
  longitude : ℚ
  address : Option String
  district : Option String
  lampType : Option String
  status : Option LightPointStatus
  deriving DecidableEq

/-- A point that is there already is given by its number. -/
inductive InventoryWrite
  | createLightPoint (input : CreateLightPointInput)
  | updateLightPoint (inventoryNumber : String) (input : UpdateLightPointInput)
  | deleteLightPoint (inventoryNumber : String)
  | ensureLightPointAddress (inventoryNumber address : String)
  deriving DecidableEq

def CreateLightPointInput.row (server : ServerText) (now : Nat) (input : CreateLightPointInput) :
    Except UpdateError LightPoint := do
  let inventoryNumber ← normalizeIdentity server input.inventoryNumber
  let row : LightPoint :=
    { inventoryNumber := inventoryNumber
      externalId := input.externalId
      longitude := input.longitude
      latitude := input.latitude
      address := input.address
      addressGeocodedAt := none
      district := input.district
      lampType := input.lampType
      status := input.status.getD .active
      updatedAt := now }
  match row.store server with
  | .ok stored => return stored
  | .error state => throw (.sql state)

def geocodedRow (now : Nat) (address : String) (row : LightPoint) : LightPoint :=
  { row with address := some address, addressGeocodedAt := some now, updatedAt := now }

/-- The transaction of a write; `none` is one that ends in an error. -/
def writeInventory (server : ServerText) (db : Database) : InventoryWrite → Option Database
  | .createLightPoint input => do
      let row ← (input.row server db.now).toOption
      if (db.lightPoints row.inventoryNumber).isSome then none
      return { db with
        lightPoints := Function.update db.lightPoints row.inventoryNumber (some ⟨db.nextPointId, row⟩)
        nextPointId := db.nextPointId + 1 }
  | .updateLightPoint inventoryNumber input => do
      let point ← db.lightPoints inventoryNumber
      match ← (updateLightPoint server db.now input point.row).toOption with
      | none => return db
      | some written =>
          let others := Function.update db.lightPoints inventoryNumber none
          if (others written.row.inventoryNumber).isSome then none
          return { db with
            lightPoints := Function.update others written.row.inventoryNumber (some ⟨point.id, written.row⟩) }
  | .deleteLightPoint inventoryNumber => do
      let _ ← db.lightPoints inventoryNumber
      return { db with lightPoints := Function.update db.lightPoints inventoryNumber none }
  | .ensureLightPointAddress inventoryNumber address => do
      let point ← db.lightPoints inventoryNumber
      return { db with
        lightPoints := Function.update db.lightPoints inventoryNumber
          (some ⟨point.id, geocodedRow db.now address point.row⟩) }

inductive InventoryStep (server : ServerText) (db : Database) : Database → Prop
  | kept : InventoryStep server db db
  | created {row : LightPoint} (stored : row.store server = .ok row) : InventoryStep server db { db with
      lightPoints := Function.update db.lightPoints row.inventoryNumber (some ⟨db.nextPointId, row⟩)
      nextPointId := db.nextPointId + 1 }
  | updated {inventoryNumber : String} {point : PointRow} {row : LightPoint}
      (present : db.lightPoints inventoryNumber = some point) (stored : row.store server = .ok row) :
      InventoryStep server db { db with
        lightPoints := Function.update (Function.update db.lightPoints inventoryNumber none) row.inventoryNumber
          (some ⟨point.id, row⟩) }
  | deleted (inventoryNumber : String) :
      InventoryStep server db { db with lightPoints := Function.update db.lightPoints inventoryNumber none }
  | geocoded {inventoryNumber : String} {point : PointRow} (present : db.lightPoints inventoryNumber = some point)
      (address : String) : InventoryStep server db { db with
        lightPoints := Function.update db.lightPoints inventoryNumber
          (some ⟨point.id, geocodedRow db.now address point.row⟩) }

section Steps

variable {server : ServerText} {db next : Database}

theorem ok_of_toOption {ε α : Type} {answer : Except ε α} {value : α} (given : answer.toOption = some value) :
    answer = .ok value := by
  cases answer with
  | error => cases given
  | ok =>
      cases given
      rfl

theorem createRow_stored {now : Nat} {input : CreateLightPointInput} {row : LightPoint}
    (made : input.row server now = .ok row) : row.store server = .ok row := by
  unfold CreateLightPointInput.row at made
  cases named : normalizeIdentity server input.inventoryNumber with
  | error =>
      rw [named] at made
      cases made
  | ok inventoryNumber =>
      rw [named] at made
      simp only [bind, Except.bind] at made
      split at made
      · rename_i kept stored
        cases made
        exact store_stored stored
      · cases made

theorem updateLightPoint_stored {now : Nat} {input : UpdateLightPointInput} {existing : LightPoint}
    {written : Written}
    (done : updateLightPoint server now input existing = .ok (some written)) :
    written.row.store server = .ok written.row := by
  unfold updateLightPoint at done
  cases next : input.next server existing with
  | error =>
      rw [next] at done
      cases done
  | ok next' =>
      rw [next] at done
      simp only [bind, Except.bind] at done
      split at done
      · cases done
      · split at done
        · rename_i stored
          cases done
          exact store_stored stored
        · cases done

theorem geocodedRow_stored {now : Nat} {address : String} {row : LightPoint} (stored : row.store server = .ok row) :
    (geocodedRow now address row).store server = .ok (geocodedRow now address row) := by
  obtain ⟨canonical, valid, indexed⟩ := store_checks stored
  obtain ⟨external, quarter, lamp⟩ := stored_columns stored
  exact @store_of_checks server (geocodedRow now address row) _ _ _ external quarter lamp canonical valid indexed

theorem writeInventory_step {change : InventoryWrite} (done : writeInventory server db change = some next) :
    InventoryStep server db next := by
  cases change with
  | createLightPoint input =>
      obtain ⟨row, made, done⟩ := Option.bind_eq_some_iff.mp done
      simp only [bind, Option.bind] at done
      split at done
      · cases done
      · cases done
        exact .created (createRow_stored (ok_of_toOption made))
  | updateLightPoint inventoryNumber input =>
      obtain ⟨point, present, done⟩ := Option.bind_eq_some_iff.mp done
      obtain ⟨written, ran, done⟩ := Option.bind_eq_some_iff.mp done
      cases written with
      | none =>
          cases done
          exact .kept
      | some written =>
          simp only [bind, Option.bind] at done
          split at done
          · cases done
          · cases done
            exact .updated present (updateLightPoint_stored (ok_of_toOption ran))
  | deleteLightPoint inventoryNumber =>
      obtain ⟨_, _, done⟩ := Option.bind_eq_some_iff.mp done
      cases done
      exact .deleted inventoryNumber
  | ensureLightPointAddress inventoryNumber address =>
      obtain ⟨point, present, done⟩ := Option.bind_eq_some_iff.mp done
      cases done
      exact .geocoded present address

theorem inventoryStep_frame (taken : InventoryStep server db next) : next.batches = db.batches ∧ next.now = db.now ∧
    next.nextBatchId = db.nextBatchId ∧ next.auditEvents = db.auditEvents := by
  cases taken <;> exact ⟨rfl, rfl, rfl, rfl⟩

end Steps

end PublicLighting.ImportQueue
