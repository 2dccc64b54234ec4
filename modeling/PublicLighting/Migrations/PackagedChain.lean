import Mathlib.Data.String.Basic
import PublicLighting.Foundations.DecimalText

/-! The packaged chain of migrations, as the runner loads it from its directory. -/

namespace PublicLighting.Migrations

open Foundations

structure Migration where
  version : String
  name : String
  filename : String
  checksum : String
  sql : String
  deriving DecidableEq, Repr

/-- A row of `schema_migrations`. -/
structure AppliedMigration where
  version : String
  name : String
  checksum : String
  deriving DecidableEq, Repr

def Migration.row (migration : Migration) : AppliedMigration :=
  ⟨migration.version, migration.name, migration.checksum⟩

/-- The directory of the package, with the digest of `createHash('sha256')` in hexadecimal. -/
structure Package where
  directory : String
  files : Option (List (String × String))
  sha256 : String → String

/-- `replace(/\r\n?/g, '\n')`. -/
def lineFeeds : List Char → List Char
  | [] => []
  | '\r' :: '\n' :: text => '\n' :: lineFeeds text
  | '\r' :: text => '\n' :: lineFeeds text
  | c :: text => c :: lineFeeds text

def canonicalizeMigrationSql (sql : String) : String := String.ofList (lineFeeds sql.toList)

def migrationChecksum (package : Package) (sql : String) : String :=
  package.sha256 (canonicalizeMigrationSql sql)

/-- `[a-z0-9_-]`. -/
def isNameCharacter (c : Char) : Bool := c.isLower || c.isDigit || c == '_' || c == '-'

/-- `/^\d{4}_[a-z0-9_-]+\.sql$/`. -/
def isMigrationFilename (filename : String) : Bool :=
  match filename.toList with
  | a :: b :: c :: d :: '_' :: rest =>
      let name := rest.take (rest.length - 4)
      DecimalText.isDigits [a, b, c, d] && !name.isEmpty && name.all isNameCharacter &&
        rest.drop (rest.length - 4) == ".sql".toList
  | _ => false

/-- The text up to the first underscore is the version, the text after it the name. -/
def migrationOf (package : Package) : String × String → Migration
  | (filename, sql) =>
      let stem := filename.toList.take (filename.toList.length - 4)
      { version := String.ofList (stem.takeWhile (· != '_'))
        name := String.ofList ((stem.dropWhile (· != '_')).drop 1)
        filename := filename
        checksum := migrationChecksum package sql
        sql := sql }

/-- `Number(version)`, of a version of four digits. -/
def versionNumber (migration : Migration) : Nat := Nat.ofDigitChars 10 migration.version.toList 0

def checkSequence : Migration → List Migration → Except String Unit
  | _, [] => .ok ()
  | previous, migration :: migrations =>
      if versionNumber migration ≠ versionNumber previous + 1 then
        .error s!"Migration sequence gap before {migration.filename}."
      else checkSequence migration migrations

def readMigrations (package : Package) (files : List (String × String)) : List Migration :=
  ((files.filter fun (filename, _) => isMigrationFilename filename).mergeSort
    fun a b => decide (a.1 ≤ b.1)).map (migrationOf package)

def loadMigrations (package : Package) : Except String (List Migration) :=
  match package.files with
  | none => .error s!"Migration directory missing: {package.directory}"
  | some files =>
      match readMigrations package files with
      | [] => .error "Canonical migration chain must begin at 0001."
      | first :: rest =>
          if first.version ≠ "0001" then .error "Canonical migration chain must begin at 0001."
          else (checkSequence first rest).map fun _ => first :: rest

/-- What the loader has checked: versions in the order of their texts, from the baseline on. -/
structure Packaged (chain : List Migration) : Prop where
  sorted : chain.Pairwise fun a b => a.version < b.version
  baseline : ∃ first rest, chain = first :: rest ∧ first.version = "0001"

def HasVersion (migration : Migration) : Prop :=
  DecimalText.isDigits migration.version.toList = true ∧ migration.version.toList.length = 4

theorem migrationOf_version {package : Package} {filename sql : String}
    (matched : isMigrationFilename filename = true) : HasVersion (migrationOf package (filename, sql)) := by
  unfold isMigrationFilename at matched
  split at matched
  · rename_i a b c d rest text
    simp only [Bool.and_eq_true] at matched
    obtain ⟨⟨⟨digits, named⟩, -⟩, suffix⟩ := matched
    have long : 4 ≤ rest.length := by
      by_contra short
      have everything : rest.length - 4 = 0 := by omega
      rw [everything] at named
      cases named
    have stem : filename.toList.take (filename.toList.length - 4) =
        a :: b :: c :: d :: '_' :: rest.take (rest.length - 4) := by
      rw [text]
      have count : (a :: b :: c :: d :: '_' :: rest).length - 4 = rest.length - 4 + 5 := by
        simp only [List.length_cons]
        omega
      rw [count]
      rfl
    have each : ∀ x ∈ [a, b, c, d], (x != '_') = true := by
      intro x found
      have digit := List.all_eq_true.mp digits x found
      by_contra underscore
      have same : x = '_' := by simpa using underscore
      rw [same] at digit
      exact absurd digit (by decide)
    have version : (migrationOf package (filename, sql)).version.toList = [a, b, c, d] := by
      simp only [migrationOf, stem, String.toList_ofList]
      have walk : (a :: b :: c :: d :: '_' :: rest.take (rest.length - 4)) =
          [a, b, c, d] ++ '_' :: rest.take (rest.length - 4) := rfl
      rw [walk, List.takeWhile_append_of_pos each, List.takeWhile_cons_of_neg (by decide)]
      rfl
    exact ⟨version ▸ digits, version ▸ rfl⟩
  · cases matched

theorem readMigrations_version {package : Package} {files : List (String × String)} :
    ∀ migration ∈ readMigrations package files, HasVersion migration := by
  intro migration read
  obtain ⟨⟨filename, sql⟩, found, same⟩ := List.mem_map.mp read
  have kept := (List.mem_filter.mp (List.mem_mergeSort.mp found)).2
  exact same ▸ migrationOf_version kept

theorem checkSequence_sorted {previous : Migration} {migrations : List Migration}
    (versions : ∀ migration ∈ previous :: migrations, HasVersion migration)
    (checked : checkSequence previous migrations = .ok ()) :
    (previous :: migrations).Pairwise fun a b => a.version < b.version := by
  induction migrations generalizing previous with
  | nil => exact List.pairwise_singleton _ _
  | cons migration migrations ih =>
      rw [checkSequence] at checked
      split at checked
      · cases checked
      · rename_i consecutive
        have later := ih (fun m found => versions m (List.mem_cons_of_mem _ found)) checked
        have next : previous.version < migration.version := by
          have before := versions previous List.mem_cons_self
          have after := versions migration (List.mem_cons_of_mem _ List.mem_cons_self)
          apply DecimalText.lt_of_ofDigitChars_lt before.1 after.1 (before.2.trans after.2.symm)
          change versionNumber previous < versionNumber migration
          omega
        refine List.pairwise_cons.mpr ⟨?_, later⟩
        intro m found
        cases found with
        | head => exact next
        | tail _ deeper => exact String.lt_trans next ((List.pairwise_cons.mp later).1 m deeper)

theorem loadMigrations_packaged {package : Package} {chain : List Migration}
    (loaded : loadMigrations package = .ok chain) : Packaged chain := by
  unfold loadMigrations at loaded
  split at loaded
  · cases loaded
  · rename_i files present
    have versions := @readMigrations_version package files
    split at loaded
    · cases loaded
    · rename_i first rest read
      rw [read] at versions
      split at loaded
      · cases loaded
      · rename_i begins
        cases checked : checkSequence first rest with
        | error message =>
            rw [checked] at loaded
            cases loaded
        | ok =>
            rw [checked] at loaded
            cases loaded
            exact ⟨checkSequence_sorted versions checked, first, rest, rfl, not_not.mp begins⟩

end PublicLighting.Migrations
