import PublicLighting.BackupScheduler.JournalRecords

/-! What a backup leaves in the object storage: the identities of its objects and its manifest. -/

namespace PublicLighting.Backup

open Foundations Foundations.Json
open Foundations.WireText (utf8)
open BackupScheduler.Records (consists isVersion isSha256)

structure MigrationLedgerRow where
  version : String
  name : String
  checksum : String
  deriving DecidableEq, Repr

/-- `/^[a-z0-9_-]+$/`. -/
def isLedgerName (text : String) : Bool :=
  text.toList ≠ [] && text.toList.all fun c => c.isLower || c.isDigit || c == '_' || c == '-'

def MigrationLedgerRow.isValid (row : MigrationLedgerRow) : Bool :=
  isVersion row.version && isLedgerName row.name && isSha256 row.checksum

/-- The loop of `validateMigrationLedger`, as whether it runs to its end. -/
def ledgerFrom (previous : Option String) : List MigrationLedgerRow → Bool
  | [] => true
  | row :: rows => row.isValid && !previous.any (row.version ≤ ·) && ledgerFrom (some row.version) rows

def validateMigrationLedger (rows : List MigrationLedgerRow) : Bool := ledgerFrom none rows

structure ExactObjectIdentity where
  storageNamespaceId : String
  key : String
  providerVersionId : String
  deriving DecidableEq, Repr

structure ObjectIntegrity where
  identity : ExactObjectIdentity
  bytes : Nat
  algorithm : String
  value : String
  deriving DecidableEq, Repr

structure ManifestSource where
  logicalDatabaseId : String
  postgresServerVersion : String
  postgisVersion : String
  appBuildSha : String
  migrationLedger : List MigrationLedgerRow
  deriving DecidableEq, Repr

structure ManifestTimes where
  runStartedAt : String
  snapshotStartedAt : String
  dumpFinishedAt : String
  encryptionFinishedAt : String
  archiveUploadCompletedAt : String
  manifestPublishStartedAt : String
  deriving DecidableEq, Repr

structure ManifestArchive where
  objectKey : String
  providerVersionId : String
  encryptedBytes : Nat
  encryptedSha256 : String
  checksumAlgorithm : String
  checksumValue : String
  deriving DecidableEq, Repr

structure BackupManifestV1 where
  manifestId : String
  runId : String
  storageNamespaceId : String
  source : ManifestSource
  timesUtc : ManifestTimes
  pgDumpVersion : String
  recipientKeyIds : List String
  archive : ManifestArchive
  deriving DecidableEq, Repr

section Writing

def MigrationLedgerRow.toJson (row : MigrationLedgerRow) : Json :=
  .object [("version", .string row.version), ("name", .string row.name), ("checksum", .string row.checksum)]

def ManifestSource.toJson (source : ManifestSource) : Json :=
  .object [("logical_database_id", .string source.logicalDatabaseId),
    ("postgres_server_version", .string source.postgresServerVersion),
    ("postgis_version", .string source.postgisVersion),
    ("app_build_sha", .string source.appBuildSha),
    ("migration_ledger", .array (source.migrationLedger.map MigrationLedgerRow.toJson))]

def ManifestTimes.toJson (times : ManifestTimes) : Json :=
  .object [("run_started_at", .string times.runStartedAt), ("snapshot_started_at", .string times.snapshotStartedAt),
    ("dump_finished_at", .string times.dumpFinishedAt), ("encryption_finished_at", .string times.encryptionFinishedAt),
    ("archive_upload_completed_at", .string times.archiveUploadCompletedAt),
    ("manifest_publish_started_at", .string times.manifestPublishStartedAt)]

def dumpJson (pgDumpVersion : String) : Json :=
  .object [("format", .string "pg_dump-custom"), ("pg_dump_version", .string pgDumpVersion), ("no_owner", .bool true),
    ("no_privileges", .bool true), ("result", .string "success")]

def encryptionJson (recipientKeyIds : List String) : Json :=
  .object [("format", .string "age-v1"), ("recipient_key_ids", .array (recipientKeyIds.map .string)),
    ("result", .string "success"), ("private_identity_available_to_writer", .bool false)]

def ManifestArchive.toJson (archive : ManifestArchive) : Json :=
  .object [("object_key", .string archive.objectKey), ("provider_version_id", .string archive.providerVersionId),
    ("encrypted_bytes", .number archive.encryptedBytes), ("encrypted_sha256", .string archive.encryptedSha256),
    ("provider_checksum",
      .object [("algorithm", .string archive.checksumAlgorithm), ("value", .string archive.checksumValue)]),
    ("upload_result", .string "success"), ("remote_integrity_result", .string "verified")]

def BackupManifestV1.toJson (manifest : BackupManifestV1) : Json :=
  .object [("schema_version", .number 1), ("manifest_id", .string manifest.manifestId),
    ("run_id", .string manifest.runId),
    ("storage_namespace_id", .string manifest.storageNamespaceId), ("source", manifest.source.toJson),
    ("times_utc", manifest.timesUtc.toJson), ("dump", dumpJson manifest.pgDumpVersion),
    ("encryption", encryptionJson manifest.recipientKeyIds), ("archive", manifest.archive.toJson),
    ("structural_archive_check", .string "deferred_to_controlled_verifier"), ("completion_state", .string "complete")]

/-- `Buffer.from(JSON.stringify(manifest), 'utf8')`. -/
def BackupManifestV1.bytes (manifest : BackupManifestV1) : List UInt8 := utf8 (stringify manifest.toJson).toList

end Writing

def archiveKeyOf (runId : String) : String := "backups/v1/runs/" ++ runId ++ "/database.pgdump.age"

def manifestKeyOf (runId : String) : String := "backups/v1/runs/" ++ runId ++ "/manifest.json"

end PublicLighting.Backup
