import Mathlib.Data.Rat.Defs
import PublicLighting.Foundations.Effects
import PublicLighting.Migrations.PackagedChain

/-! The migration runner, statement by statement, on one database connection. -/

namespace PublicLighting.Migrations.Runner

open Foundations

/-- The tables of `LEGACY_TABLES`, in order. -/
def legacyTables : List String :=
  ["admin_activity_logs", "admin_refresh_sessions", "admins", "import_batches", "integration_logs",
    "light_points"]

/-- The parts of the recognized schema, past its tables' names. -/
inductive Fingerprint
  | columns
  | defaults
  | constraints
  | indexes
  | triggers
  | geometry
  deriving DecidableEq, Repr

def Fingerprint.mismatch : Fingerprint → String
  | .columns => "Pre-P3 schema fingerprint did not match the recognized baseline. No changes were made."
  | .defaults => "Pre-P3 column defaults did not match the recognized baseline. No changes were made."
  | .constraints => "Pre-P3 constraints did not match the recognized baseline. No changes were made."
  | .indexes => "Pre-P3 indexes did not match the recognized baseline. No changes were made."
  | .triggers => "Pre-P3 database has unrecognized user triggers. No changes were made."
  | .geometry => "Unexpected geometry column in pre-P3 database. No changes were made."

/-- What the server knows of schemas: a migration's text changes the schema in one way only,
and may raise on the data. -/
structure ServerSchemas (Schema Data : Type) where
  encoding : String
  empty : Schema
  tables : Schema → List String
  none : tables empty = []
  shows : Fingerprint → Schema → Bool
  unsafeRows : Data → Nat
  collisions : Data → Nat
  effect : String → Schema → Schema
  execute : String → Schema → Data → Except String Data

structure Database (Schema Data : Type) where
  ledger : Option (List AppliedMigration)
  schema : Schema
  data : Data

inductive Session (Schema Data : Type)
  | idle
  | working (work : Database Schema Data)
  | aborted

/-- The server as the runner's connection sees it, with the migration texts sent so far. -/
structure Server (Schema Data : Type) where
  committed : Database Schema Data
  session : Session Schema Data
  sent : List String

inductive RunnerError
  | migration (message : String)
  | preflight (message : String)
  | sql (message : String)
  deriving DecidableEq, Repr

inductive PreflightState
  | empty
  | recognizedPreP3
  deriving DecidableEq, Repr

section Statements

variable {Schema Data α : Type}

/-- A statement that raises aborts the transaction it stands in. -/
def refuse (server : Server Schema Data) : Server Schema Data :=
  match server.session with
  | .working _ => { server with session := .aborted }
  | _ => server

/-- The server drops what a lost connection had not committed. -/
def lose (server : Server Schema Data) : Server Schema Data := { server with session := .idle }

/-- On its own a statement commits at once, in a transaction it stays in the transaction's work. -/
def statement (effect : Database Schema Data → Except String (α × Database Schema Data))
    (server : Server Schema Data) : Except RunnerError α × Server Schema Data :=
  match server.session with
  | .idle =>
      match effect server.committed with
      | .ok (value, db) => (.ok value, { server with committed := db })
      | .error message => (.error (.sql message), server)
  | .working work =>
      match effect work with
      | .ok (value, db) => (.ok value, { server with session := .working db })
      | .error message => (.error (.sql message), refuse server)
  | .aborted => (.error (.sql "current transaction is aborted"), server)

abbrev Task (Schema Data α : Type) := Program (Program.Scheduled (Server Schema Data)) RunnerError α

def query (effect : Database Schema Data → Except String (α × Database Schema Data)) : Task Schema Data α :=
  Program.await (.sql "query failed") refuse lose (statement effect)

def select (f : Database Schema Data → α) : Task Schema Data α := query fun db => .ok (f db, db)

/-- A `BEGIN` inside a transaction only warns. -/
def sqlBegin : Task Schema Data Unit :=
  Program.await (.sql "query failed") refuse lose fun server =>
    match server.session with
    | .idle => (.ok (), { server with session := .working server.committed })
    | .working _ => (.ok (), server)
    | .aborted => (.error (.sql "current transaction is aborted"), server)

/-- The `COMMIT` of an aborted transaction rolls it back, and a refused one does too. -/
def sqlCommit : Task Schema Data Unit :=
  Program.await (.sql "query failed") lose lose fun server =>
    match server.session with
    | .working work => (.ok (), { server with committed := work, session := .idle })
    | _ => (.ok (), { server with session := .idle })

def sqlRollback : Task Schema Data Unit :=
  Program.await (.sql "query failed") refuse lose fun server => (.ok (), { server with session := .idle })

/-- `.catch(() => undefined)`. -/
def ignoring (task : Task Schema Data Unit) : Task Schema Data Unit :=
  Program.catching task fun _ => pure ()

def require (holds : Bool) (error : RunnerError) : Task Schema Data Unit :=
  if holds then pure () else Program.throw error

end Statements

section Preflight

variable {Schema Data : Type} (schemas : ServerSchemas Schema Data)

def assertP3MigrationPreflightEncoding : Task Schema Data Unit := do
  let encoding ← select fun _ => schemas.encoding
  require (encoding.toList.map Char.toUpper == "UTF8".toList)
    (.preflight s!"P3 requires UTF8 server_encoding; found {encoding}. No changes were made.")

/-- `applicationTables` of the runner, and `currentSchemaTables` of the preflight. -/
def applicationTables : Task Schema Data (List String) := select fun db => schemas.tables db.schema

def assertRecognizedLegacySchema (tables : List String) : Task Schema Data Unit := do
  require (tables == legacyTables)
    (.preflight "Database schema is not the recognized pre-P3 schema. No changes were made.")
  -- One query answers for the columns and for their defaults.
  let shown ← select fun db => (schemas.shows .columns db.schema, schemas.shows .defaults db.schema)
  require shown.1 (.preflight Fingerprint.columns.mismatch)
  require shown.2 (.preflight Fingerprint.defaults.mismatch)
  Program.forEach (fun part => do
    let shown ← select fun db => schemas.shows part db.schema
    require shown (.preflight part.mismatch)) [.constraints, .indexes, .triggers, .geometry]

/-- Past the table names, the queries count PostGIS, the rows, their aggregates and collisions. -/
def inspectRecognized (tables : List String) : Task Schema Data PreflightState := do
  assertRecognizedLegacySchema schemas tables
  select fun _ => ()
  select fun _ => ()
  let unsafeRows ← select fun db => schemas.unsafeRows db.data
  let collisions ← select fun db => schemas.collisions db.data
  require (unsafeRows == 0 && collisions == 0) (.preflight
    "P3 read-only data preflight found unsafe identity or coordinate rows. No changes were made.")
  return .recognizedPreP3

def inspectP3MigrationPreflight : Task Schema Data PreflightState := do
  assertP3MigrationPreflightEncoding schemas
  let tables ← applicationTables schemas
  if tables.length = 0 then do
    select fun _ => ()
    return .empty
  else inspectRecognized schemas tables

end Preflight

section Runner

variable {Schema Data : Type} (schemas : ServerSchemas Schema Data)

def hasMigrationLedger : Task Schema Data Bool := select fun db => db.ledger.isSome

/-- `CREATE TABLE IF NOT EXISTS schema_migrations`. -/
def createLedger : Task Schema Data Unit :=
  query fun db => .ok ((), { db with ledger := some (db.ledger.getD []) })

/-- `ORDER BY version`. -/
def byVersion (rows : List AppliedMigration) : List AppliedMigration :=
  rows.mergeSort fun a b => decide (a.version ≤ b.version)

def readApplied : Task Schema Data (List AppliedMigration) :=
  query fun db =>
    match db.ledger with
    | none => .error "relation \"schema_migrations\" does not exist"
    | some rows => .ok (byVersion rows, db)

/-- `INSERT INTO schema_migrations`; the version is the table's key. -/
def recordMigration (migration : Migration) : Task Schema Data Unit :=
  query fun db =>
    match db.ledger with
    | none => .error "relation \"schema_migrations\" does not exist"
    | some rows =>
        if rows.any (·.version = migration.version) then
          .error "duplicate key value violates unique constraint \"schema_migrations_pkey\""
        else .ok ((), { db with ledger := some (rows ++ [migration.row]) })

/-- `LOCK TABLE light_points IN ACCESS EXCLUSIVE MODE`. -/
def lockLightPoints : Task Schema Data Unit :=
  query fun db =>
    if "light_points" ∈ schemas.tables db.schema then .ok ((), db)
    else .error "relation \"light_points\" does not exist"

/-- `client.query(migration.sql)`. -/
def executeMigration (migration : Migration) : Task Schema Data Unit := do
  Program.update fun w => { w with state := { w.state with sent := w.state.sent ++ [migration.sql] } }
  query fun db => do
    let data ← schemas.execute migration.sql db.schema db.data
    return ((), { db with schema := schemas.effect migration.sql db.schema, data := data })

def preflightOf (migration : Migration) : Task Schema Data Unit :=
  if migration.version = "0002" then do
    lockLightPoints schemas
    let _ ← inspectP3MigrationPreflight schemas
    return ()
  else return ()

/-- The body of the loop of `applyRemaining`. -/
def applyMigration (migration : Migration) : Task Schema Data Unit :=
  Program.catching (do
    sqlBegin
    preflightOf schemas migration
    executeMigration schemas migration
    recordMigration migration
    sqlCommit) fun _ => do
  ignoring sqlRollback
  Program.throw (.migration s!"Database migration {migration.filename} failed; HTTP startup is blocked.")

def matchesPackaged (migrations : List Migration) (row : AppliedMigration) : Bool :=
  match migrations.find? fun candidate => candidate.version = row.version with
  | none => false
  | some migration => migration.name = row.name ∧ migration.checksum = row.checksum

def applyRemaining (migrations : List Migration) : Task Schema Data Unit := do
  createLedger
  let applied ← readApplied
  Program.forEach (fun row => require (matchesPackaged migrations row)
    (.migration s!"Applied migration checksum/name mismatch at version {row.version}.")) applied
  require (applied.isEmpty || applied.any (·.version = "0001"))
    (.migration "Migration ledger does not contain the canonical baseline.")
  Program.forEach (fun migration =>
    if applied.any (·.version = migration.version) then pure ()
    else applyMigration schemas migration) migrations

/-- The client goes back to its pool at the end, with the session as it then is. -/
def withMigrationLock (run : Task Schema Data Unit) : Task Schema Data Unit := do
  Program.await (.sql "connection failed") id id fun server => (.ok (), server)
  select fun _ => ()
  Program.ending run (ignoring (select fun _ => ()))

def runUnversioned (migrations : List Migration) : Task Schema Data Unit := do
  let tables ← applicationTables schemas
  require (tables.length == 0) (.migration
    "Unversioned non-empty database detected. Run the explicit read-only preflight and approved adoption command.")
  createLedger
  applyRemaining schemas migrations

def runUnderLock (migrations : List Migration) : Task Schema Data Unit := do
  assertP3MigrationPreflightEncoding schemas
  let ledgerExists ← hasMigrationLedger
  if ledgerExists then applyRemaining schemas migrations else runUnversioned schemas migrations

def runMigrations (package : Package) : Task Schema Data Unit :=
  match loadMigrations package with
  | .error message => Program.throw (.migration message)
  | .ok migrations => withMigrationLock (runUnderLock schemas migrations)

def inspectReadOnly : Task Schema Data PreflightState := do
  sqlBegin
  Program.catching (do
    let preflight ← inspectP3MigrationPreflight schemas
    sqlCommit
    return preflight) fun error => do
  ignoring sqlRollback
  Program.throw error

def stampBaseline (baseline : Migration) : Task Schema Data Unit :=
  Program.catching (do
    sqlBegin
    createLedger
    recordMigration baseline
    sqlCommit) fun _ => do
  ignoring sqlRollback
  Program.throw (.migration
    "Could not atomically record the recognized pre-P3 baseline; adoption can be retried.")

def adoptUnderLock (migrations : List Migration) (baseline : Migration) : Task Schema Data Unit := do
  assertP3MigrationPreflightEncoding schemas
  let ledgerExists ← hasMigrationLedger
  require (!ledgerExists) (.migration
    "Database already has a migration ledger; use the normal runner instead of adoption.")
  let preflight ← inspectReadOnly schemas
  require (preflight == .recognizedPreP3) (.migration
    "Adoption requires the recognized pre-P3 schema, not an empty database.")
  stampBaseline baseline
  applyRemaining schemas migrations

def adoptRecognizedPreP3Database (package : Package) : Task Schema Data Unit :=
  match loadMigrations package with
  | .error message => Program.throw (.migration message)
  | .ok migrations =>
      match migrations.find? fun migration => migration.version = "0001" with
      | none => Program.throw (.migration "Canonical baseline migration 0001 is missing.")
      | some baseline => withMigrationLock (adoptUnderLock schemas migrations baseline)

end Runner

section CurrencyCheck

variable {Schema Data : Type}

/-- `Number.isSafeInteger`. -/
def isSafeInteger (number : ℚ) : Bool := number.den = 1 ∧ number.num.natAbs ≤ 2 ^ 53 - 1

end CurrencyCheck

inductive Command
  | runMigrations
  | adoptRecognizedPreP3Database
  deriving DecidableEq, Repr

/-- A call of the runner: how its awaits go, whether its client is a new connection, and the data
that the application has left in the tables before it. -/
structure Call (Data : Type) where
  command : Command
  faults : Nat → Program.Fault
  reconnected : Bool
  data : Data

section Calls

variable {Schema Data : Type} (schemas : ServerSchemas Schema Data) (package : Package)

def Command.task : Command → Task Schema Data Unit
  | .runMigrations => Runner.runMigrations schemas package
  | .adoptRecognizedPreP3Database => Runner.adoptRecognizedPreP3Database schemas package

def Call.begin (call : Call Data) (server : Server Schema Data) : Server Schema Data :=
  { server with
    committed := { server.committed with data := call.data }
    session := if call.reconnected then .idle else server.session }

def Call.outcome (call : Call Data) (server : Server Schema Data) :
    Outcome RunnerError Unit × Server Schema Data :=
  let (outcome, w) := call.command.task schemas package ⟨call.begin server, call.faults, 0⟩
  match outcome with
  -- The connection of a dead process is closed.
  | .died => (.died, lose w.state)
  | outcome => (outcome, w.state)

def calls (server : Server Schema Data) (call : Call Data) (after : Server Schema Data) : Prop :=
  (call.outcome schemas package server).2 = after

end Calls

end PublicLighting.Migrations.Runner
