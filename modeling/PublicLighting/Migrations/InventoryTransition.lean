import Mathlib.Algebra.Group.Nat.Defs
import Mathlib.Data.Option.Basic
import PublicLighting.Foundations.SqlLogic
import PublicLighting.Inventory.LightPoint

/-! The data preflight of the inventory migration, and the migration's data statements. -/

namespace PublicLighting.Migrations

open Foundations
open Inventory (ServerText SqlState LightPointStatus canonicalizeInventoryNumber canonicalCheck)

/-- A value of a `DECIMAL` or of a `double precision` column. -/
inductive Numeric
  | nan
  | value (number : ℚ)
  deriving DecidableEq

/-- How the server turns decimals into doubles: in order, and whole numbers exactly. -/
structure ServerNumbers where
  toDouble : ℚ → ℚ
  monotone : ∀ a b, a ≤ b → toDouble a ≤ toDouble b
  whole : ∀ n : ℤ, n.natAbs ≤ 2 ^ 53 → toDouble n = n

def ServerNumbers.convert (numbers : ServerNumbers) : Numeric → Numeric
  | .nan => .nan
  | .value number => .value (numbers.toDouble number)

/-- `number BETWEEN low AND high`; NaN is above every number. -/
def between (low high : ℚ) : Numeric → Bool
  | .nan => false
  | .value number => low ≤ number ∧ number ≤ high

structure LegacyLightPoint where
  id : Nat
  externalId : Option String
  latitude : Numeric
  longitude : Numeric
  address : Option String
  addressGeocodedAt : Option Nat
  district : Option String
  lampType : Option String
  status : LightPointStatus
  createdAt : Nat
  updatedAt : Nat
  deriving DecidableEq

structure LegacyImportBatch where
  id : Nat
  createdRows : Int
  updatedRows : Int
  createdAt : Nat
  deriving DecidableEq

structure LegacyDatabase where
  lightPoints : List LegacyLightPoint
  importBatches : List LegacyImportBatch
  ids : (lightPoints.map (·.id)).Nodup

structure PreflightSummary where
  rows : Nat
  nullIdentity : Nat
  emptyCanonicalIdentity : Nat
  nonCanonicalIdentity : Nat
  canonicalCollisions : Nat
  invalidCoordinates : Nat
  deriving DecidableEq, Repr

section Preflight

variable (server : ServerText)

/-- `normalize(btrim(external_id::text, …), NFC)`. -/
def candidate (row : LegacyLightPoint) : Option String :=
  row.externalId.map (canonicalizeInventoryNumber server)

def isEmptyCanonical (row : LegacyLightPoint) : SqlLogic.Truth :=
  (candidate server row).map (· = "")

def isNonCanonical (row : LegacyLightPoint) : SqlLogic.Truth :=
  SqlLogic.and (some row.externalId.isSome) (SqlLogic.differs row.externalId (candidate server row))

def hasInvalidCoordinates (row : LegacyLightPoint) : SqlLogic.Truth :=
  SqlLogic.or (SqlLogic.not (some (between (-90) 90 row.latitude)))
    (SqlLogic.not (some (between (-180) 180 row.longitude)))

/-- The aggregates of the three data queries. -/
def preflightSummary (rows : List LegacyLightPoint) : PreflightSummary where
  rows := rows.length
  nullIdentity := rows.countP (·.externalId.isNone)
  emptyCanonicalIdentity := rows.countP fun row => SqlLogic.holds (isEmptyCanonical server row)
  nonCanonicalIdentity := rows.countP fun row => SqlLogic.holds (isNonCanonical server row)
  canonicalCollisions := (SqlLogic.repeated (rows.filterMap (candidate server))).length
  invalidCoordinates := rows.countP fun row => SqlLogic.holds (hasInvalidCoordinates row)

/-- `inspectP3MigrationPreflight`, past the fingerprint of the recognized schema. -/
def inspectP3MigrationPreflight (db : LegacyDatabase) : Except PreflightSummary PreflightSummary :=
  let summary := preflightSummary server db.lightPoints
  if summary.nullIdentity ≠ 0 ∨ summary.emptyCanonicalIdentity ≠ 0 ∨ summary.nonCanonicalIdentity ≠ 0 ∨
      summary.canonicalCollisions ≠ 0 ∨ summary.invalidCoordinates ≠ 0 then .error summary
  else .ok summary

end Preflight

/-- `geometry(Point, 4326)`. -/
structure Point where
  longitude : Numeric
  latitude : Numeric
  deriving DecidableEq

/-- `inventory_number` is nullable until the column is altered. -/
structure InventoryRow where
  id : Nat
  inventoryNumber : Option String
  externalId : Option String
  geom : Point
  address : Option String
  addressGeocodedAt : Option Nat
  district : Option String
  lampType : Option String
  status : LightPointStatus
  createdAt : Nat
  updatedAt : Nat
  deriving DecidableEq

structure InventoryBatch where
  id : Nat
  successfulRows : Int
  appliedRows : Int
  unchangedRows : Int
  queuedAt : Nat
  completedAt : Nat
  deriving DecidableEq

structure InventoryDatabase where
  lightPoints : List InventoryRow
  importBatches : List InventoryBatch
  deriving DecidableEq

section Statements

variable (server : ServerText) (numbers : ServerNumbers)

/-- `UPDATE light_points SET inventory_number = …, external_id = NULL, geom = …`. -/
def transitionRow (row : LegacyLightPoint) : InventoryRow where
  id := row.id
  inventoryNumber := row.externalId.map (canonicalizeInventoryNumber server)
  externalId := none
  geom := ⟨numbers.convert row.longitude, numbers.convert row.latitude⟩
  address := row.address
  addressGeocodedAt := row.addressGeocodedAt
  district := row.district
  lampType := row.lampType
  status := row.status
  createdAt := row.createdAt
  updatedAt := row.updatedAt

/-- `NOT ST_IsEmpty(geom) AND ST_X(geom) BETWEEN … AND ST_Y(geom) BETWEEN …`. -/
def geomCheck (geom : Point) : Bool :=
  !(geom.longitude = .nan ∧ geom.latitude = .nan) && between (-180) 180 geom.longitude &&
    between (-90) 90 geom.latitude

/-- The constraints in the order in which the script adds them. -/
def addConstraints (rows : List InventoryRow) : Except SqlState Unit := do
  if rows.any (·.inventoryNumber.isNone) then throw .notNullViolation
  if rows.any fun row => SqlLogic.refuses (row.inventoryNumber.map (canonicalCheck server)) then
    throw .checkViolation
  if rows.any fun row => !geomCheck row.geom then throw .checkViolation
  if ¬ (rows.map (·.inventoryNumber)).Nodup then throw .uniqueViolation

def fitsInt4 (n : Int) : Bool := -2147483648 ≤ n ∧ n ≤ 2147483647

/-- `UPDATE import_batches SET queued_at = created_at, …`. -/
def transitionBatch (batch : LegacyImportBatch) : Except SqlState InventoryBatch :=
  let applied := batch.createdRows + batch.updatedRows
  if fitsInt4 applied then .ok ⟨batch.id, applied, applied, 0, batch.createdAt, batch.createdAt⟩
  else .error .numericValueOutOfRange

def transitionBatches : List LegacyImportBatch → Except SqlState (List InventoryBatch)
  | [] => .ok []
  | batch :: batches => do return (← transitionBatch batch) :: (← transitionBatches batches)

def dataStatements (db : LegacyDatabase) : Except SqlState InventoryDatabase := do
  let rows := db.lightPoints.map (transitionRow server numbers)
  addConstraints server rows
  let batches ← transitionBatches db.importBatches
  return ⟨rows, batches⟩

inductive Database
  | legacy (db : LegacyDatabase)
  | inventory (db : InventoryDatabase)

inductive TransitionError
  | preflight (summary : PreflightSummary)
  | sql (state : SqlState)
  deriving DecidableEq, Repr

/-- The transaction of `applyRemaining` for migration 0002: an error rolls it back. -/
def applyInventoryMigration (db : LegacyDatabase) : Database × Option TransitionError :=
  match inspectP3MigrationPreflight server db with
  | .error summary => (.legacy db, some (.preflight summary))
  | .ok _ =>
      match dataStatements server numbers db with
      | .error state => (.legacy db, some (.sql state))
      | .ok migrated => (.inventory migrated, none)

end Statements

structure Carried (numbers : ServerNumbers) (legacy : LegacyLightPoint) (row : InventoryRow) : Prop where
  id : row.id = legacy.id
  identity : row.inventoryNumber = legacy.externalId
  cleared : row.externalId = none
  geom : row.geom = ⟨numbers.convert legacy.longitude, numbers.convert legacy.latitude⟩
  columns : row.address = legacy.address ∧ row.addressGeocodedAt = legacy.addressGeocodedAt ∧
    row.district = legacy.district ∧ row.lampType = legacy.lampType ∧ row.status = legacy.status ∧
    row.createdAt = legacy.createdAt ∧ row.updatedAt = legacy.updatedAt

/-- What the constraints of the script ask of the rows. -/
structure Constrained (server : ServerText) (rows : List InventoryRow) : Prop where
  identities : ∀ row ∈ rows, ∃ identity, row.inventoryNumber = some identity ∧
    canonicalCheck server identity = true
  geoms : ∀ row ∈ rows, geomCheck row.geom = true
  unique : (rows.map (·.inventoryNumber)).Nodup

/-- The preflight keeps its promise on the database. -/
structure PreflightSound (server : ServerText) (numbers : ServerNumbers) (db : LegacyDatabase) : Prop where
  accepted : ∀ summary, inspectP3MigrationPreflight server db = .ok summary → ∃ migrated,
    applyInventoryMigration server numbers db = (.inventory migrated, none) ∧
      Constrained server migrated.lightPoints ∧
      List.Forall₂ (Carried numbers) db.lightPoints migrated.lightPoints ∧
      (migrated.lightPoints.map (·.id)).Nodup
  rejected : ∀ summary, inspectP3MigrationPreflight server db = .error summary →
    (applyInventoryMigration server numbers db).1 = .legacy db

section Soundness

variable {server : ServerText} {numbers : ServerNumbers}

/-- What the accepted aggregates say of each row. -/
structure Accepted (server : ServerText) (row : LegacyLightPoint) (identity : String) : Prop where
  given : row.externalId = some identity
  nonempty : identity ≠ ""
  canonical : canonicalizeInventoryNumber server identity = identity
  latitude : between (-90) 90 row.latitude = true
  longitude : between (-180) 180 row.longitude = true

theorem accepted_row {row : LegacyLightPoint} (given : row.externalId.isNone = false)
    (nonempty : SqlLogic.holds (isEmptyCanonical server row) = false)
    (canonical : SqlLogic.holds (isNonCanonical server row) = false)
    (coordinates : SqlLogic.holds (hasInvalidCoordinates row) = false) :
    ∃ identity, Accepted server row identity := by
  cases present : row.externalId with
  | none =>
      rw [present] at given
      cases given
  | some identity =>
      have same : canonicalizeInventoryNumber server identity = identity := by
        simp only [isNonCanonical, candidate, present, SqlLogic.differs] at canonical
        by_contra different
        have changed : identity ≠ canonicalizeInventoryNumber server identity := Ne.symm different
        simp [SqlLogic.and, SqlLogic.holds, changed] at canonical
      have filled : identity ≠ "" := by
        simp only [isEmptyCanonical, candidate, present] at nonempty
        rintro rfl
        simp [SqlLogic.holds, same] at nonempty
      have inside : ¬ (between (-90) 90 row.latitude = false ∨ between (-180) 180 row.longitude = false) := by
        intro outside
        have invalid : SqlLogic.holds (hasInvalidCoordinates row) = true :=
          SqlLogic.holds_or.mpr (outside.imp SqlLogic.holds_not_some.mpr SqlLogic.holds_not_some.mpr)
        rw [invalid] at coordinates
        cases coordinates
      rw [not_or] at inside
      exact ⟨identity, present, filled, same, by simpa using inside.1, by simpa using inside.2⟩

theorem accepted_iff {db : LegacyDatabase} {summary : PreflightSummary}
    (accepted : inspectP3MigrationPreflight server db = .ok summary) :
    (∀ row ∈ db.lightPoints, ∃ identity, Accepted server row identity) ∧
      (db.lightPoints.filterMap (candidate server)).Nodup := by
  simp only [inspectP3MigrationPreflight] at accepted
  split at accepted <;> try contradiction
  rename_i clean
  simp only [not_or, not_not, preflightSummary, List.countP_eq_zero, Bool.not_eq_true,
    List.length_eq_zero_iff] at clean
  obtain ⟨given, nonempty, canonical, unique, coordinates⟩ := clean
  exact ⟨fun row member => accepted_row (given row member) (nonempty row member) (canonical row member)
    (coordinates row member), SqlLogic.repeated_eq_nil.mp unique⟩

theorem between_convert {low high : ℚ} (lowExact : numbers.toDouble low = low)
    (highExact : numbers.toDouble high = high) {number : Numeric}
    (inside : between low high number = true) : between low high (numbers.convert number) = true := by
  cases number with
  | nan => exact inside
  | value number =>
      simp only [between, decide_eq_true_eq, ServerNumbers.convert] at inside ⊢
      constructor
      · calc
          low = numbers.toDouble low := lowExact.symm
          _ ≤ numbers.toDouble number := numbers.monotone _ _ inside.1
      · calc
          numbers.toDouble number ≤ numbers.toDouble high := numbers.monotone _ _ inside.2
          _ = high := highExact

theorem carried (row : LegacyLightPoint) {identity : String} (accepted : Accepted server row identity) :
    Carried numbers row (transitionRow server numbers row) where
  id := rfl
  identity := by simp [transitionRow, accepted.given, accepted.canonical]
  cleared := rfl
  geom := rfl
  columns := ⟨rfl, rfl, rfl, rfl, rfl, rfl, rfl⟩

theorem constrained_row (idempotent : ∀ text, server.nfc (server.nfc text) = server.nfc text)
    {row : LegacyLightPoint} {identity : String} (accepted : Accepted server row identity) :
    (transitionRow server numbers row).inventoryNumber = some identity ∧
      canonicalCheck server identity = true ∧ geomCheck (transitionRow server numbers row).geom = true := by
  have normal : server.nfc identity = identity := by
    have twice := idempotent (Inventory.btrim identity)
    rwa [show server.nfc (Inventory.btrim identity) = identity from accepted.canonical] at twice
  refine ⟨by simp [transitionRow, accepted.given, accepted.canonical], ?_, ?_⟩
  · simp only [canonicalCheck, decide_eq_true_eq]
    exact ⟨accepted.nonempty, normal, accepted.canonical.symm⟩
  · have longitude : between (-180) 180 (numbers.convert row.longitude) = true :=
      between_convert (numbers.whole (-180) (by omega)) (numbers.whole 180 (by omega)) accepted.longitude
    have latitude : between (-90) 90 (numbers.convert row.latitude) = true :=
      between_convert (numbers.whole (-90) (by omega)) (numbers.whole 90 (by omega)) accepted.latitude
    have defined : numbers.convert row.longitude ≠ .nan := by
      intro undefined
      rw [undefined] at longitude
      cases longitude
    simp only [geomCheck, transitionRow, longitude, latitude, Bool.and_true, Bool.not_eq_true']
    exact decide_eq_false fun empty => defined empty.1

theorem addConstraints_ok {rows : List InventoryRow} (constrained : Constrained server rows) :
    addConstraints server rows = .ok () := by
  have given : rows.any (·.inventoryNumber.isNone) = false := by
    rw [List.any_eq_false]
    intro row member
    obtain ⟨identity, same, _⟩ := constrained.identities row member
    simp [same]
  have canonical : (rows.any fun row =>
      SqlLogic.refuses (row.inventoryNumber.map (canonicalCheck server))) = false := by
    rw [List.any_eq_false]
    intro row member
    obtain ⟨identity, same, checked⟩ := constrained.identities row member
    simp [same, checked, SqlLogic.refuses]
  have geoms : (rows.any fun row => !geomCheck row.geom) = false := by
    rw [List.any_eq_false]
    intro row member
    simp [constrained.geoms row member]
  unfold addConstraints
  simp only [given, canonical, geoms, constrained.unique]
  rfl

theorem transitionBatches_ok_iff {batches : List LegacyImportBatch} :
    (∃ migrated, transitionBatches batches = .ok migrated) ↔
      ∀ batch ∈ batches, fitsInt4 (batch.createdRows + batch.updatedRows) = true := by
  induction batches with
  | nil => simp [transitionBatches]
  | cons batch batches ih =>
      rw [List.forall_mem_cons, ← ih]
      cases fits : fitsInt4 (batch.createdRows + batch.updatedRows) <;>
        cases rest : transitionBatches batches <;>
        simp [transitionBatches, transitionBatch, fits, rest, bind, Except.bind, pure, Except.pure]

theorem constrained_rows (idempotent : ∀ text, server.nfc (server.nfc text) = server.nfc text)
    {rows : List LegacyLightPoint} (accepted : ∀ row ∈ rows, ∃ identity, Accepted server row identity)
    (unique : (rows.filterMap (candidate server)).Nodup) :
    Constrained server (rows.map (transitionRow server numbers)) where
  identities := by
    intro migrated member
    obtain ⟨row, present, rfl⟩ := List.mem_map.mp member
    obtain ⟨identity, given⟩ := accepted row present
    obtain ⟨same, checked, _⟩ := @constrained_row server numbers idempotent _ _ given
    exact ⟨identity, same, checked⟩
  geoms := by
    intro migrated member
    obtain ⟨row, present, rfl⟩ := List.mem_map.mp member
    obtain ⟨identity, given⟩ := accepted row present
    exact (constrained_row idempotent given).2.2
  unique := by
    have known : (rows.map (transitionRow server numbers)).map (·.inventoryNumber) =
        (rows.filterMap (candidate server)).map some := by
      clear unique
      induction rows with
      | nil => rfl
      | cons row rows ih =>
          obtain ⟨identity, given⟩ := accepted row (List.mem_cons_self ..)
          have here : candidate server row = some identity := by
            simp [candidate, given.given, given.canonical]
          have rest := ih fun other member => accepted other (List.mem_cons_of_mem _ member)
          rw [List.filterMap_cons_some here, List.map_cons, List.map_cons, List.map_cons, rest]
          exact congrArg (· :: _) here
    rw [known]
    exact unique.map (Option.some_injective _)

theorem dataStatements_ok_iff (idempotent : ∀ text, server.nfc (server.nfc text) = server.nfc text)
    {db : LegacyDatabase} {summary : PreflightSummary}
    (accepted : inspectP3MigrationPreflight server db = .ok summary) :
    (∃ migrated, dataStatements server numbers db = .ok migrated) ↔
      ∀ batch ∈ db.importBatches, fitsInt4 (batch.createdRows + batch.updatedRows) = true := by
  obtain ⟨rows, unique⟩ := accepted_iff accepted
  have constrained := addConstraints_ok (@constrained_rows server numbers idempotent _ rows unique)
  rw [← transitionBatches_ok_iff]
  unfold dataStatements
  simp only [constrained]
  cases transitionBatches db.importBatches with
  | error state => exact ⟨fun ⟨_, same⟩ => (by cases same), fun ⟨_, same⟩ => (by cases same)⟩
  | ok batches => exact ⟨fun _ => ⟨batches, rfl⟩, fun _ => ⟨_, rfl⟩⟩

theorem dataStatements_rows {db : LegacyDatabase} {migrated : InventoryDatabase}
    (done : dataStatements server numbers db = .ok migrated) :
    migrated.lightPoints = db.lightPoints.map (transitionRow server numbers) := by
  unfold dataStatements at done
  simp only [bind, Except.bind, pure, Except.pure] at done
  repeat' split at done
  all_goals
    cases done
    try rfl

/-- An accepted preflight is kept exactly when no batch's sum of counters leaves `INTEGER`. -/
theorem preflight_sound_iff (idempotent : ∀ text, server.nfc (server.nfc text) = server.nfc text)
    (db : LegacyDatabase) :
    PreflightSound server numbers db ↔
      ∀ summary, inspectP3MigrationPreflight server db = .ok summary →
        ∀ batch ∈ db.importBatches, fitsInt4 (batch.createdRows + batch.updatedRows) = true := by
  constructor
  · intro sound summary accepted
    obtain ⟨migrated, applied, _⟩ := sound.accepted summary accepted
    apply (@dataStatements_ok_iff server numbers idempotent _ _ accepted).mp
    unfold applyInventoryMigration at applied
    rw [accepted] at applied
    cases done : dataStatements server numbers db with
    | error state =>
        rw [done] at applied
        cases applied
    | ok migrated => exact ⟨migrated, rfl⟩
  · intro fits
    refine ⟨fun summary accepted => ?_, fun summary rejected => ?_⟩
    · obtain ⟨migrated, done⟩ :=
        (@dataStatements_ok_iff server numbers idempotent _ _ accepted).mpr (fits summary accepted)
      obtain ⟨rows, unique⟩ := accepted_iff accepted
      have same := dataStatements_rows done
      refine ⟨migrated, ?_, ?_, ?_, ?_⟩
      · unfold applyInventoryMigration
        rw [accepted]
        simp only [done]
      · rw [same]
        exact constrained_rows idempotent rows unique
      · rw [same, List.forall₂_map_right_iff, List.forall₂_same]
        intro row member
        obtain ⟨identity, given⟩ := rows row member
        exact carried row given
      · rw [same, List.map_map]
        exact db.ids
    · unfold applyInventoryMigration
      rw [rejected]

end Soundness

section Overflow

def plainServer : ServerText := ⟨id, fun _ => true⟩

def exactNumbers : ServerNumbers := ⟨id, fun _ _ le => le, fun _ _ => rfl⟩

/-- Two lamps, and a batch that created `created` rows and updated one. -/
def legacyLamps (created : Int) : LegacyDatabase where
  lightPoints :=
    [⟨1, some "VO-1", .value 48, .value 21, some "Hlavná 1", none, none, none, .active, 1, 2⟩,
      ⟨2, some "VO-2", .value 49, .value 22, none, none, some "Sever", some "LED", .inactive, 3, 4⟩]
  importBatches := [⟨1, created, 1, 5⟩]
  ids := by decide

/-- The preflight accepts counters whose sum overflows, and the data statements raise. -/
theorem overflow_accepted :
    (∃ summary, inspectP3MigrationPreflight plainServer (legacyLamps 2147483647) = .ok summary) ∧
      (applyInventoryMigration plainServer exactNumbers (legacyLamps 2147483647)).2 =
        some (.sql .numericValueOutOfRange) ∧
      ¬ PreflightSound plainServer exactNumbers (legacyLamps 2147483647) := by
  have accepted : inspectP3MigrationPreflight plainServer (legacyLamps 2147483647) =
      .ok ⟨2, 0, 0, 0, 0, 0⟩ := by decide +kernel
  have raised : (applyInventoryMigration plainServer exactNumbers (legacyLamps 2147483647)).2 =
      some (.sql .numericValueOutOfRange) := by decide +kernel
  refine ⟨⟨_, accepted⟩, raised, fun sound => ?_⟩
  obtain ⟨migrated, applied, _⟩ := sound.accepted _ accepted
  rw [applied] at raised
  cases raised

theorem lamps_sound : PreflightSound plainServer exactNumbers (legacyLamps 12) :=
  (preflight_sound_iff (fun _ => rfl) (legacyLamps 12)).mpr fun _ _ => by decide

end Overflow

end PublicLighting.Migrations
