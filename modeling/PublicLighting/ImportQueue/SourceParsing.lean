import PublicLighting.Exchange.CsvRecords
import PublicLighting.Foundations.JavaScriptNumbers
import PublicLighting.ImportQueue.Statements
import PublicLighting.Inventory.Identity

/-! `parseImportSource`: the rows of an import file. -/

namespace PublicLighting.ImportQueue

open Inventory Foundations
open Foundations.JavaScriptNumbers (toNumber isFinite)
open Foundations.JavaScriptText (trim)

def maxImportFileBytes : Nat := 16 * 1024 * 1024

def maxImportRows : Nat := 50000

/-- What the server's NFC promises. -/
structure LawfulText (server : ServerText) : Prop where
  idempotent : ∀ text, server.nfc (server.nfc text) = server.nfc text
  edges : KeepsEdges server.nfc

structure RowError where
  errorCode : String
  message : String
  deriving DecidableEq

section Records

/-- `undefined` is `none`. -/
def asOptionalText : Json → Option (Option String)
  | .null => some none
  | .string text => some (if text = "" then none else some text)
  | .number value => if isFinite value then some (some (String.ofList (Doubles.numberText value))) else none
  | _ => none

def firstOwn (record : Json) (keys : List String) : Option Json := keys.findSome? record.get?

def parseNumber : Json → Option ℚ
  | .number value => if isFinite value then some value else none
  | .string text => if trim text = "" then none else (toNumber text).filter fun value => isFinite value
  | _ => none

structure Coordinates where
  latitude : ℚ
  longitude : ℚ
  inRange : geomValidCheck longitude latitude = true

def parseCoordinates (record : Json) (coordinates : Option (List Json)) : Except RowError Coordinates :=
  let (longitudeField, latitudeField) := match coordinates with
    | some geo => (geo[0]?, geo[1]?)
    | none => (firstOwn record ["longitude", "lon", "lng"], firstOwn record ["latitude", "lat"])
  match latitudeField.bind parseNumber, longitudeField.bind parseNumber with
  | some latitude, some longitude =>
      if outside : latitude < -90 ∨ 90 < latitude ∨ longitude < -180 ∨ 180 < longitude then
        .error ⟨"invalid_coordinates", "Coordinates are outside the valid range"⟩
      else .ok {
        latitude := latitude
        longitude := longitude
        inRange := by
          simp only [not_or, not_lt] at outside
          exact decide_eq_true ⟨outside.2.2.1, outside.2.2.2, outside.1, outside.2.1⟩ }
  | _, _ => .error ⟨"invalid_coordinates", "Valid latitude and longitude are required"⟩

def optionalField (record : Json) (aliases : List String) (error : RowError) :
    Except RowError (Option (Option String)) :=
  match firstOwn record aliases with
  | none => .ok none
  | some value => match asOptionalText value with
    | none => .error error
    | some text => .ok (some text)

def textField (record : Json) (target : String) (aliases : List String) : Except RowError (Option (Option String)) :=
  optionalField record aliases ⟨"invalid_" ++ target, target ++ " must be text or null"⟩

def parseStatus (record : Json) : Except RowError (Option LightPointStatus) :=
  match firstOwn record ["status"] with
  | none => .ok none
  | some (.string "active") => .ok (some .active)
  | some (.string "inactive") => .ok (some .inactive)
  | some (.string "maintenance") => .ok (some .maintenance)
  | some _ => .error ⟨"invalid_status", "Status must be active, inactive, or maintenance"⟩

structure RecordFields where
  coordinates : Coordinates
  externalId : Option (Option String)
  address : Option (Option String)
  district : Option (Option String)
  lampType : Option (Option String)
  status : Option LightPointStatus

def parseFields (record : Json) (coordinates : Option (List Json)) : Except RowError RecordFields := do
  let coordinates ← parseCoordinates record coordinates
  let externalId ← optionalField record ["external_id", "externalId"]
    ⟨"invalid_external_id", "External ID must be text or null"⟩
  let address ← textField record "address" ["address"]
  let district ← textField record "district" ["district"]
  let lampType ← textField record "lamp_type" ["lamp_type", "lampType"]
  let status ← parseStatus record
  return ⟨coordinates, externalId, address, district, lampType, status⟩

def pushed (found : Bool) (field : String) : List String := if found then [field] else []

/-- The fields in the order in which they are pushed. -/
def RecordFields.present (fields : RecordFields) : List String :=
  ["inventory_number", "latitude", "longitude"] ++ pushed fields.externalId.isSome "external_id" ++
    pushed fields.address.isSome "address" ++ pushed fields.district.isSome "district" ++
    pushed fields.lampType.isSome "lamp_type" ++ pushed fields.status.isSome "status"

theorem pushed_sublist (found : Bool) (field : String) : (pushed found field).Sublist [field] := by
  cases found
  · exact List.nil_sublist _
  · exact List.Sublist.refl _

theorem present_listed (fields : RecordFields) : fields.present.Sublist presentFields :=
  ((((List.Sublist.refl ["inventory_number", "latitude", "longitude"]).append (pushed_sublist _ _)).append
    (pushed_sublist _ _)).append (pushed_sublist _ _)).append (pushed_sublist _ _) |>.append (pushed_sublist _ _)

theorem present_status (fields : RecordFields) (listed : "status" ∈ fields.present) : fields.status.isSome = true := by
  have other : ∀ {found : Bool} {field : String}, "status" ∈ pushed found field → found = true ∧ field = "status" := by
    intro found field member
    cases found
    · cases member
    · exact ⟨rfl, (List.mem_singleton.mp member).symm⟩
  simp only [RecordFields.present, List.mem_append] at listed
  rcases listed with ((((listed | listed) | listed) | listed) | listed) | listed
  · exact absurd listed (by decide)
  · exact absurd (other listed).2 (by decide)
  · exact absurd (other listed).2 (by decide)
  · exact absurd (other listed).2 (by decide)
  · exact absurd (other listed).2 (by decide)
  · exact (other listed).1

variable {server : ServerText} (lawful : LawfulText server)

include lawful in
theorem canonical_checked {value : String} (given : Identity.canonicalizeInventoryNumber server value ≠ "") :
    canonicalCheck server (Identity.canonicalizeInventoryNumber server value) = true :=
  (check_iff lawful.idempotent lawful.edges _).mpr ⟨given, value, (identity_eq value).symm⟩

def RecordFields.payload (fields : RecordFields) {value : String}
    (given : Identity.canonicalizeInventoryNumber server value ≠ "") : ParsedPayload server where
  payload := {
    inventoryNumber := Identity.canonicalizeInventoryNumber server value
    externalId := fields.externalId.join
    latitude := fields.coordinates.latitude
    longitude := fields.coordinates.longitude
    address := fields.address.join
    district := fields.district.join
    lampType := fields.lampType.join
    status := fields.status
    present := fields.present
    statusGiven := present_status fields }
  canonical := canonical_checked lawful given
  inRange := fields.coordinates.inRange
  listed := present_listed fields

def rawIdentity (record : Json) : String :=
  match firstOwn record ["inventory_number", "inventoryNumber"] with
  | some (.string value) => value
  | _ => ""

def parseRecord (raw : Json) (rowIndex : Nat) (coordinates : Option (List Json)) : ParsedImportRow server :=
  match raw with
  | .object _ =>
      if given : Identity.canonicalizeInventoryNumber server (rawIdentity raw) ≠ "" then
        match parseFields raw coordinates with
        | .ok fields => ⟨rowIndex, .accepted (fields.payload lawful given)⟩
        | .error error =>
            ⟨rowIndex, .refused (Identity.canonicalizeInventoryNumber server (rawIdentity raw)) error.errorCode
              error.message⟩
      else ⟨rowIndex, .refused "" "missing_inventory_number" "Missing inventory number"⟩
  | _ => ⟨rowIndex, .refused "" "invalid_row" "Row must be an object"⟩

end Records

section Sources

variable {server : ServerText} (lawful : LawfulText server)

def numberedRows {α : Type} (parse : α → Nat → ParsedImportRow server) (items : List α) :
    Except AppError (List (ParsedImportRow server)) :=
  if maxImportRows < items.length then .error ⟨413, "Import file exceeds the 50000 row limit"⟩
  else .ok ((items.zipIdx 1).map fun (item, rowIndex) => parse item rowIndex)

/-- A feature that is no object has no properties either. -/
def parseFeature (feature : Json) (rowIndex : Nat) : ParsedImportRow server :=
  match feature with
  | .object _ | .array _ =>
      let geometry := feature.get? "geometry"
      match geometry.bind (·.get? "type"), geometry.bind (·.get? "coordinates") with
      | some (.string "Point"), some (.array coordinates) =>
          parseRecord lawful ((feature.get? "properties").getD .null) rowIndex (some coordinates)
      | _, _ =>
          ⟨rowIndex, .refused "" "invalid_geometry" "GeoJSON feature must contain a Point geometry"⟩
  | _ => parseRecord lawful .null rowIndex none

def parseJson (parsed : Json) : Except AppError (List (ParsedImportRow server)) :=
  match parsed with
  | .array items => numberedRows (fun item rowIndex => parseRecord lawful item rowIndex none) items
  | .object _ => match parsed.get? "features" with
    | some (.array features) => numberedRows (parseFeature lawful) features
    | some _ => .error ⟨400, "GeoJSON FeatureCollection requires a features array"⟩
    | none => .ok [parseRecord lawful parsed 1 none]
  | _ => .error ⟨400, "Unsupported JSON import structure"⟩

def parseCsvRow (headers values : List String) (rowIndex : Nat) : ParsedImportRow server :=
  if values.length ≠ headers.length then
    ⟨rowIndex, .refused "" "malformed_record" "CSV row has a different number of fields than its header"⟩
  else parseRecord lawful (.object (headers.zip (values.map .string))) rowIndex none

def parseCsv (records : List (List String)) : Except AppError (List (ParsedImportRow server)) :=
  match records with
  | [] | [_] => .error ⟨400, "Import file has no data records"⟩
  | header :: records =>
      let headers := header.map trim
      let finds (aliases : List String) : Bool := headers.any (· ∈ aliases)
      if maxImportRows < records.length then .error ⟨413, "Import file exceeds the 50000 row limit"⟩
      else if ¬ headers.Nodup then .error ⟨400, "CSV header contains duplicate fields"⟩
      else if finds ["inventory_number", "inventoryNumber"] && finds ["latitude", "lat"] &&
          finds ["longitude", "lon", "lng"] then
        numberedRows (parseCsvRow lawful headers) records
      else .error ⟨400, "CSV requires inventory number, latitude, and longitude columns"⟩

def csvUnits (text : String) : Exchange.Units :=
  match text.toList with
  | '\uFEFF' :: characters => characters.flatMap Json.unitsOf
  | characters => characters.flatMap Json.unitsOf

/-- `isJson` is what the MIME type and the name of the file say. -/
def parseImportSource (byteLength : Nat) (text : String) (isJson : Bool) :
    Except AppError (List (ParsedImportRow server)) :=
  if maxImportFileBytes < byteLength then .error ⟨413, "Import file exceeds the 16 MiB limit"⟩
  else if trim text = "" then .error ⟨400, "Import file is empty"⟩
  else if isJson then
    match Json.parse text with
    | none => .error ⟨400, "Import file is not valid JSON"⟩
    | some parsed => parseJson lawful parsed
  else match Exchange.parseCsvRecords (csvUnits text) with
    | .error error => .error ⟨error.status, error.message⟩
    | .ok records => parseCsv lawful (records.map (·.map fun cell => String.ofList (Json.ofUnits cell)))

theorem parseRecord_index (raw : Json) (rowIndex : Nat) (coordinates : Option (List Json)) :
    (parseRecord lawful raw rowIndex coordinates).rowIndex = rowIndex := by
  unfold parseRecord
  repeat' split
  all_goals rfl

theorem parseFeature_index (feature : Json) (rowIndex : Nat) :
    (parseFeature lawful feature rowIndex).rowIndex = rowIndex := by
  unfold parseFeature
  dsimp only
  repeat' split
  all_goals first | rfl | exact parseRecord_index lawful ..

theorem parseCsvRow_index (headers values : List String) (rowIndex : Nat) :
    (parseCsvRow lawful headers values rowIndex).rowIndex = rowIndex := by
  unfold parseCsvRow
  split
  · rfl
  · exact parseRecord_index lawful ..

/-- Rows numbered from one on, as many as a batch may have. -/
def Numbered (rows : List (ParsedImportRow server)) : Prop :=
  rows.map (·.rowIndex) = List.range' 1 rows.length ∧ rows.length ≤ maxImportRows

omit lawful in
theorem numberedRows_numbered {α : Type} {parse : α → Nat → ParsedImportRow server} {items : List α}
    {rows : List (ParsedImportRow server)} (index : ∀ item rowIndex, (parse item rowIndex).rowIndex = rowIndex)
    (read : numberedRows parse items = .ok rows) : Numbered rows := by
  unfold numberedRows at read
  split at read
  · cases read
  · rename_i within
    cases read
    refine ⟨?_, by simpa using within⟩
    rw [List.map_map, List.length_map, List.length_zipIdx, ← List.zipIdx_map_snd 1 items]
    exact List.map_congr_left fun item _ => index item.1 item.2

/-- Whatever the format, the rows of a file that is accepted are numbered as they stand there. -/
theorem parseImportSource_numbered {byteLength : Nat} {text : String} {isJson : Bool}
    {rows : List (ParsedImportRow server)} (read : parseImportSource lawful byteLength text isJson = .ok rows) :
    Numbered rows := by
  unfold parseImportSource at read
  split at read
  · cases read
  split at read
  · cases read
  split at read
  · split at read
    · cases read
    · unfold parseJson at read
      split at read
      · exact numberedRows_numbered (fun _ _ => parseRecord_index lawful ..) read
      · split at read
        · exact numberedRows_numbered (parseFeature_index lawful) read
        · cases read
        · cases read
          exact ⟨congrArg (· :: []) (parseRecord_index lawful ..), Nat.succ_le_succ (Nat.zero_le _)⟩
      · cases read
  · split at read
    · cases read
    · unfold parseCsv at read
      split at read
      · cases read
      · cases read
      · dsimp only at read
        split at read
        · cases read
        split at read
        · cases read
        split at read
        · exact numberedRows_numbered (parseCsvRow_index lawful _) read
        · cases read

/-- A file that is accepted can be staged under a new confirmation key. -/
theorem accepted_source_staged {byteLength : Nat} {text : String} {isJson : Bool}
    {rows : List (ParsedImportRow server)}
    {adminId : AdminId} {uploaderUsername : Option String} {previewId : Uuid} {existing : String → Option PointId}
    {db : Database} (read : parseImportSource lawful byteLength text isJson = .ok rows)
    (new : findBatch db previewId = none) :
    ∃ next, buildImportPreview adminId uploaderUsername previewId rows existing db = .ok next := by
  obtain ⟨numbers, _⟩ := parseImportSource_numbered lawful read
  unfold buildImportPreview
  rw [new, numbers, if_neg (by simp), if_neg (not_not.mpr (List.nodup_range' ..)), if_neg (by simp)]
  exact ⟨_, rfl⟩

theorem plain_lawful : LawfulText plainText := ⟨fun _ => rfl, plain_keepsEdges⟩

example : ((parseJson plain_lawful (.array [
      .object [("inventoryNumber", .string " VO-1"), ("lat", .number (97 / 2)), ("lon", .string "0x15")],
      .object [("inventory_number", .string "VO-2")]])).toOption.map (·.map fun row =>
        (row.rowIndex, row.inventoryNumber, row.payload.map fun read =>
          (read.payload.latitude, read.payload.longitude)))) =
    some [(1, "VO-1", some (97 / 2, 21)), (2, "VO-2", none)] := by
  decide +kernel

end Sources

end PublicLighting.ImportQueue
