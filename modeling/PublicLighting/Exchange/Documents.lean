import PublicLighting.Exchange.Rows
import PublicLighting.Exchange.WrittenBytes

/-! The documents of the export: what is written for each row, and the one text that
all of it makes. -/

namespace PublicLighting.Exchange

open Foundations (Json)
open Foundations.Doubles (IsDouble infinity numberText)
open Foundations.Json (escaped quoted ofUnits unitsOf)
open Foundations.WireText

inductive ExportFormat
  | csv
  | json
  | geojson
  deriving DecidableEq, Repr

def csvHeader : Units := textUnits
  "id,inventory_number,external_id,longitude,latitude,address,district,lamp_type,status,created_at,updated_at\r\n"

def opening : ExportFormat → Units
  | .csv => csvHeader
  | .json => textUnits "\x7b\"schemaVersion\":1,\"items\":["
  | .geojson => textUnits "\x7b\"type\":\"FeatureCollection\",\"schemaVersion\":1,\"features\":["

def closing : ExportFormat → List Units
  | .csv => []
  | .json => [textUnits "]\x7d"]
  | .geojson => [textUnits "]\x7d"]

def featureFields (row : ExportRow) : ExportFields :=
  (itemFields row).filter fun field => field.1 ≠ textUnits "longitude" ∧ field.1 ≠ textUnits "latitude"

def writeFeature (row : ExportRow) : List Units :=
  [textUnits "\x7b\"type\":\"Feature\",\"geometry\":\x7b\"type\":\"Point\",\"coordinates\":[",
    unitsOfText (numberText row.longitude ++ ',' :: numberText row.latitude),
    textUnits "]\x7d,\"properties\":"] ++ writeJsonItem (featureFields row) ++ [textUnits "\x7d"]

def writeRow (format : ExportFormat) (first : Bool) (row : ExportRow) : List Units :=
  let separator := if first then [] else [textUnits ","]
  match format with
  | .csv => writeCsvRow (itemFields row)
  | .json => separator ++ writeJsonItem (itemFields row)
  | .geojson => separator ++ writeFeature row

/-- `first` behind a row. -/
def stillFirst (format : ExportFormat) (first : Bool) : Bool :=
  match format with
  | .csv => first
  | .json => false
  | .geojson => false

def writeRows (format : ExportFormat) (first : Bool) : List ExportRow → List Units
  | [] => []
  | row :: rows => writeRow format first row ++ writeRows format (stillFirst format first) rows

def documentWrites (format : ExportFormat) (rows : List ExportRow) : List Units :=
  opening format :: writeRows format true rows ++ closing format

/-- `first` behind some rows. -/
def firstBehind (format : ExportFormat) (first : Bool) : List ExportRow → Bool
  | [] => first
  | _ :: rows => firstBehind format (stillFirst format first) rows

theorem writeRows_append (format : ExportFormat) (first : Bool) (front back : List ExportRow) :
    writeRows format first (front ++ back) =
      writeRows format first front ++ writeRows format (firstBehind format first front) back := by
  induction front generalizing first with
  | nil => rfl
  | cons row front ih => rw [List.cons_append, writeRows, ih, writeRows, List.append_assoc, firstBehind]

section Json

theorem jsonChunks_flatten (value : Units) (offset : Nat) :
    (jsonChunks value offset).flatten = escapedUnits (value.drop offset) := by
  induction gap : value.length - offset using Nat.strongRecOn generalizing offset with
  | ind gap ih =>
      subst gap
      rw [jsonChunks]
      by_cases inside : offset < value.length
      · have further := lt_chunkEnd inside
        have whole : ¬ Cuts (slice value offset (chunkEnd value offset)) (value.drop (chunkEnd value offset)) := by
          intro cut
          rw [Cuts, slice_last further inside] at cut
          exact chunkEnd_whole inside cut
        rw [if_pos inside, List.flatten_cons, ih _ (by omega) _ rfl, ← escapedUnits_append whole,
          slice_append value further.le]
      · rw [if_neg inside, List.drop_of_length_le (not_lt.mp inside)]
        rfl

theorem unitsOfText_append (front back : List Char) :
    unitsOfText (front ++ back) = unitsOfText front ++ unitsOfText back :=
  List.flatMap_append

theorem writeJsonString_flatten (text : String) :
    (writeJsonString (textUnits text)).flatten = unitsOfText (quoted text) := by
  have shape : quoted text = ['"'] ++ text.toList.flatMap escaped ++ ['"'] := rfl
  rw [writeJsonString, List.cons_append, List.flatten_cons, List.flatten_append, jsonChunks_flatten, List.drop_zero,
    textUnits, escapedUnits_text, shape, unitsOfText_append, unitsOfText_append, List.append_assoc]
  rfl

def exportValue : Json → ExportValue
  | .string value => .text (textUnits value)
  | .number value => .number value
  | _ => .null

def IsScalar : Json → Prop
  | .string _ => True
  | .number value => |value| < infinity
  | .null => True
  | _ => False

def exportFields (members : List (String × Json)) : ExportFields :=
  members.map fun member => (textUnits member.1, exportValue member.2)

theorem writeJsonValue_flatten {json : Json} (scalar : IsScalar json) :
    (writeJsonValue (exportValue json)).flatten = unitsOfText json.write := by
  cases json with
  | null => rfl
  | bool => cases scalar
  | number value =>
      have finite : |value| < infinity := scalar
      rw [exportValue, writeJsonValue, Json.write, if_pos finite, List.flatten_singleton]
  | string value => exact writeJsonString_flatten value
  | array => cases scalar
  | object => cases scalar

theorem writeJsonMembers_flatten {members : List (String × Json)} (scalars : ∀ member ∈ members, IsScalar member.2) :
    (writeJsonMembers (exportFields members)).flatten = unitsOfText (Json.writeMembers members) := by
  induction members with
  | nil => rfl
  | cons member members ih =>
      obtain ⟨name, value⟩ := member
      have here := writeJsonValue_flatten (scalars _ List.mem_cons_self)
      have rest := ih fun other inside => scalars other (List.mem_cons_of_mem _ inside)
      cases members with
      | nil =>
          have text : Json.writeMembers [(name, value)] = quoted name ++ ([':'] ++ value.write) := rfl
          have written : writeJsonMembers (exportFields [(name, value)]) =
              writeJsonString (textUnits name) ++ unitsOfText [':'] :: writeJsonValue (exportValue value) := rfl
          rw [text, unitsOfText_append, unitsOfText_append, ← here, ← writeJsonString_flatten, written,
            List.flatten_append, List.flatten_cons]
      | cons next members =>
          have text : Json.writeMembers ((name, value) :: next :: members) =
              quoted name ++ ([':'] ++ (value.write ++ ([','] ++ Json.writeMembers (next :: members)))) := by
            rw [Json.writeMembers]
            rfl
          have written : writeJsonMembers (exportFields ((name, value) :: next :: members)) =
              (writeJsonString (textUnits name) ++ unitsOfText [':'] :: writeJsonValue (exportValue value)) ++
                unitsOfText [','] :: writeJsonMembers (exportFields (next :: members)) := rfl
          rw [text, unitsOfText_append, unitsOfText_append, unitsOfText_append, unitsOfText_append, ← rest, ← here,
            ← writeJsonString_flatten, written]
          simp only [List.flatten_append, List.flatten_cons, List.append_assoc]

theorem writeJsonItem_flatten {members : List (String × Json)} (scalars : ∀ member ∈ members, IsScalar member.2) :
    (writeJsonItem (exportFields members)).flatten = unitsOfText (Json.object members).write := by
  have shape : (Json.object members).write = ['\x7b'] ++ (Json.writeMembers members ++ ['\x7d']) := by
    rw [Json.write]
    rfl
  rw [writeJsonItem, List.cons_append, List.flatten_cons, List.flatten_append,
    writeJsonMembers_flatten scalars, shape,
    unitsOfText_append, unitsOfText_append]
  rfl

end Json

section JsonDocuments

def nullableJson : Option String → Json
  | some text => .string text
  | none => .null

def timestampJson (value : ℤ) : Json := .string (String.ofList (Foundations.Instants.toISOString value))

def jsonMembers (row : ExportRow) : List (String × Json) :=
  [("id", .number row.id), ("inventory_number", .string row.inventoryNumber),
    ("external_id", nullableJson row.externalId), ("longitude", .number row.longitude),
    ("latitude", .number row.latitude), ("address", nullableJson row.address), ("district", nullableJson row.district),
    ("lamp_type", nullableJson row.lampType), ("status", .string row.status.text),
    ("created_at", timestampJson row.createdAt), ("updated_at", timestampJson row.updatedAt)]

def featureMembers (row : ExportRow) : List (String × Json) :=
  (jsonMembers row).filter fun member => member.1 ≠ "longitude" ∧ member.1 ≠ "latitude"

def jsonItem (row : ExportRow) : Json := .object (jsonMembers row)

def jsonFeature (row : ExportRow) : Json :=
  .object [("type", .string "Feature"),
    ("geometry", .object [("type", .string "Point"),
      ("coordinates", .array [.number row.longitude, .number row.latitude])]),
    ("properties", .object (featureMembers row))]

def jsonDocument (rows : List ExportRow) : Json :=
  .object [("schemaVersion", .number 1), ("items", .array (rows.map jsonItem))]

def featureCollection (rows : List ExportRow) : Json :=
  .object [("type", .string "FeatureCollection"), ("schemaVersion", .number 1),
    ("features", .array (rows.map jsonFeature))]

theorem exportValue_nullable (text : Option String) : exportValue (nullableJson text) = nullableText text := by
  cases text with
  | none => rfl
  | some text => rfl

theorem exportValue_timestamp (value : ℤ) : exportValue (timestampJson value) = .text (formatTimestamp value) := by
  rw [timestampJson, exportValue, textUnits, String.toList_ofList, formatTimestamp]

theorem itemFields_eq (row : ExportRow) : itemFields row = exportFields (jsonMembers row) := by
  simp only [itemFields, exportFields, jsonMembers, List.map_cons, List.map_nil, exportValue_nullable,
    exportValue_timestamp]
  rfl

theorem textUnits_inj {one other : String} : textUnits one = textUnits other ↔ one = other := by
  constructor
  · intro same
    have read := congrArg ofUnits same
    rw [textUnits, textUnits, unitsOfText, unitsOfText, Json.ofUnits_flatMap, Json.ofUnits_flatMap] at read
    exact String.toList_inj.mp read
  · exact congrArg textUnits

theorem featureFields_eq (row : ExportRow) : featureFields row = exportFields (featureMembers row) := by
  rw [featureFields, itemFields_eq, exportFields, List.filter_map, featureMembers, exportFields]
  apply congrArg
  apply List.filter_congr
  intro member _
  simp only [Function.comp_apply, textUnits_inj, ne_eq]

theorem idDouble (row : ExportRow) : IsDouble row.id := by
  have bounds := row.idInteger
  apply Foundations.Doubles.isDouble_safe
  rw [Foundations.Doubles.isSafeInteger, decide_eq_true_eq]
  refine ⟨Rat.den_intCast _, ?_⟩
  rw [abs_le]
  constructor
  · have low : ((-9007199254740991 : ℤ) : ℚ) ≤ row.id := by
      exact_mod_cast (by decide : (-9007199254740991 : ℤ) ≤ -2147483648).trans bounds.1
    exact_mod_cast low
  · exact_mod_cast bounds.2.trans (by decide)

theorem members_every (row : ExportRow) : ∀ member ∈ jsonMembers row, IsScalar member.2 ∧ member.2.Finite := by
  have text (value : String) : IsScalar (.string value) ∧ (Json.string value).Finite := ⟨trivial, trivial⟩
  have nullable (value : Option String) : IsScalar (nullableJson value) ∧ (nullableJson value).Finite := by
    cases value with
    | none => exact ⟨trivial, trivial⟩
    | some value => exact ⟨trivial, trivial⟩
  have number {value : ℚ} (double : IsDouble value) : IsScalar (.number value) ∧ (Json.number value).Finite :=
    ⟨double.1, double⟩
  simp only [jsonMembers, List.forall_mem_cons]
  exact ⟨number (idDouble row), text _, nullable _, number row.longitudeDouble,
    number row.latitudeDouble, nullable _,
    nullable _, nullable _, text _, text _, text _, nofun⟩

theorem featureMembers_every (row : ExportRow) : ∀ member ∈ featureMembers row, IsScalar member.2 ∧
    member.2.Finite :=
  fun member inside => members_every row member (List.mem_of_mem_filter inside)

theorem writeItem_flatten (row : ExportRow) :
    (writeJsonItem (itemFields row)).flatten = unitsOfText (jsonItem row).write := by
  rw [itemFields_eq]
  exact writeJsonItem_flatten fun member inside => (members_every row member inside).1

theorem feature_write (longitude latitude properties : Json) :
    (Json.object [("type", .string "Feature"),
      ("geometry", .object [("type", .string "Point"),
      ("coordinates", .array [longitude, latitude])]),
      ("properties", properties)]).write =
      "\x7b\"type\":\"Feature\",\"geometry\":\x7b\"type\":\"Point\",\"coordinates\":[".toList ++
        ((longitude.write ++ ',' :: latitude.write) ++ ("]\x7d,\"properties\":".toList ++
          (properties.write ++ "\x7d".toList))) := by
  have front : "\x7b\"type\":\"Feature\",\"geometry\":\x7b\"type\":\"Point\",\"coordinates\":[".toList =
      '\x7b' :: (quoted "type" ++ ':' :: (quoted "Feature" ++ ',' :: (quoted "geometry" ++ ':' :: '\x7b' ::
        (quoted "type" ++ ':' :: (quoted "Point" ++ ',' :: (quoted "coordinates" ++ [':', '['])))))) := rfl
  have middle : "]\x7d,\"properties\":".toList = ']' :: '\x7d' :: ',' :: (quoted "properties" ++ [':']) := rfl
  have back : "\x7d".toList = ['\x7d'] := rfl
  rw [front, middle, back]
  simp only [Json.write, Json.writeMembers, Json.writeItems, List.append_assoc, List.cons_append, List.nil_append]

theorem writeFeature_flatten (row : ExportRow) :
    (writeFeature row).flatten = unitsOfText (jsonFeature row).write := by
  have properties := writeJsonItem_flatten fun member inside => (featureMembers_every row member inside).1
  have longitude : (Json.number row.longitude).write = numberText row.longitude := by
    rw [Json.write, if_pos row.longitudeDouble.1]
  have latitude : (Json.number row.latitude).write = numberText row.latitude := by
    rw [Json.write, if_pos row.latitudeDouble.1]
  rw [jsonFeature, feature_write, longitude, latitude, unitsOfText_append, unitsOfText_append,
    unitsOfText_append _ (_ ++ "\x7d".toList),
    unitsOfText_append _ "\x7d".toList, ← properties, writeFeature, featureFields_eq]
  simp only [List.flatten_append, List.flatten_cons, List.flatten_nil, List.append_nil, textUnits,
    List.cons_append, List.nil_append]

theorem writeItems_cons (item next : Json) (items : List Json) :
    Json.writeItems (item :: next :: items) = item.write ++ ([','] ++ Json.writeItems (next :: items)) := by
  rw [Json.writeItems]
  rfl

theorem writeRows_flatten {format : ExportFormat} {item : ExportRow → Json}
    (later : ∀ first, stillFirst format first = false)
    (separated : ∀ row, (writeRow format false row).flatten = textUnits "," ++ unitsOfText (item row).write)
    (alone : ∀ row, (writeRow format true row).flatten = unitsOfText (item row).write) (rows : List ExportRow) :
    (writeRows format true rows).flatten = unitsOfText (Json.writeItems (rows.map item)) := by
  have tail (rows : List ExportRow) : (writeRows format false rows).flatten =
      if rows = [] then [] else textUnits "," ++ unitsOfText (Json.writeItems (rows.map item)) := by
    induction rows with
    | nil => rfl
    | cons row rows ih =>
        rw [writeRows, later, List.flatten_append, ih, separated, if_neg (List.cons_ne_nil _ _)]
        cases rows with
        | nil => simp [Json.writeItems]
        | cons next rows =>
            rw [if_neg (List.cons_ne_nil _ _), List.map_cons, List.map_cons, List.map_cons,
              writeItems_cons, unitsOfText_append, unitsOfText_append, List.append_assoc]
            rfl
  cases rows with
  | nil => rfl
  | cons row rows =>
      rw [writeRows, later, List.flatten_append, tail, alone]
      cases rows with
      | nil => simp [Json.writeItems]
      | cons next rows =>
          rw [if_neg (List.cons_ne_nil _ _), List.map_cons, List.map_cons, List.map_cons, writeItems_cons,
            unitsOfText_append,
            unitsOfText_append]
          rfl

theorem version_write : (Json.number 1).write = ['1'] := by
  have small : |(1 : ℚ)| < infinity := by
    rw [abs_one]
    exact one_lt_pow₀ one_lt_two (by decide)
  rw [Json.write, if_pos small]
  decide +kernel

theorem json_document (rows : List ExportRow) :
    (documentWrites .json rows).flatten = textUnits (Json.stringify (jsonDocument rows)) := by
  have items := @writeRows_flatten .json jsonItem (fun _ => rfl)
    (fun row => by rw [← writeItem_flatten]; rfl) (fun row => by rw [← writeItem_flatten]; rfl) rows
  have shape : (jsonDocument rows).write = "\x7b\"schemaVersion\":1,\"items\":[".toList ++
      (Json.writeItems (rows.map jsonItem) ++ "]\x7d".toList) := by
    have front : "\x7b\"schemaVersion\":1,\"items\":[".toList =
        '\x7b' :: (quoted "schemaVersion" ++ [':', '1', ','] ++ quoted "items" ++ [':', '[']) := rfl
    have back : "]\x7d".toList = [']', '\x7d'] := rfl
    rw [front, back]
    simp only [jsonDocument, Json.write.eq_def (.object _), Json.write.eq_def (.array _), Json.writeMembers,
      version_write,
      List.append_assoc, List.cons_append, List.nil_append]
  rw [documentWrites, List.cons_append, List.flatten_cons, List.flatten_append, items, textUnits, Json.stringify,
    String.toList_ofList, shape, unitsOfText_append, unitsOfText_append]
  rfl

theorem geojson_document (rows : List ExportRow) :
    (documentWrites .geojson rows).flatten = textUnits (Json.stringify (featureCollection rows)) := by
  have features := @writeRows_flatten .geojson jsonFeature (fun _ => rfl)
    (fun row => by rw [← writeFeature_flatten]; rfl) (fun row => by rw [← writeFeature_flatten]; rfl) rows
  have shape : (featureCollection rows).write =
      "\x7b\"type\":\"FeatureCollection\",\"schemaVersion\":1,\"features\":[".toList ++
        (Json.writeItems (rows.map jsonFeature) ++ "]\x7d".toList) := by
    have front : "\x7b\"type\":\"FeatureCollection\",\"schemaVersion\":1,\"features\":[".toList =
        '\x7b' :: (quoted "type" ++ ':' :: quoted "FeatureCollection" ++ ',' :: quoted "schemaVersion" ++
          [':', '1', ','] ++ quoted "features" ++ [':', '[']) := rfl
    have back : "]\x7d".toList = [']', '\x7d'] := rfl
    rw [front, back]
    simp only [featureCollection, Json.write.eq_def (.object _), Json.write.eq_def (.array _),
      Json.write.eq_def (.string _), Json.writeMembers, version_write, List.append_assoc, List.cons_append,
      List.nil_append]
  rw [documentWrites, List.cons_append, List.flatten_cons, List.flatten_append, features, textUnits, Json.stringify,
    String.toList_ofList, shape, unitsOfText_append, unitsOfText_append]
  rfl

theorem jsonItem_finite (row : ExportRow) : (jsonItem row).Finite := by
  rw [Json.Finite, jsonItem, Json.Every, Json.everyMember_iff]
  exact fun member inside => (members_every row member inside).2

theorem jsonFeature_finite (row : ExportRow) : (jsonFeature row).Finite := by
  have properties : (Json.object (featureMembers row)).Finite := by
    rw [Json.Finite, Json.Every, Json.everyMember_iff]
    exact fun member inside => (featureMembers_every row member inside).2
  exact ⟨trivial, ⟨trivial, ⟨row.longitudeDouble, row.latitudeDouble, trivial⟩, trivial⟩, properties, trivial⟩

theorem one_double : IsDouble 1 := Foundations.Doubles.isDouble_safe (by decide)

theorem jsonDocument_finite (rows : List ExportRow) : (jsonDocument rows).Finite := by
  refine ⟨one_double, ?_, trivial⟩
  rw [Json.Every, Json.everyItem_iff]
  intro item member
  obtain ⟨row, -, same⟩ := List.mem_map.mp member
  rw [← same]
  exact jsonItem_finite row

theorem featureCollection_finite (rows : List ExportRow) : (featureCollection rows).Finite := by
  refine ⟨trivial, one_double, ?_, trivial⟩
  rw [Json.Every, Json.everyItem_iff]
  intro item member
  obtain ⟨row, -, same⟩ := List.mem_map.mp member
  rw [← same]
  exact jsonFeature_finite row

end JsonDocuments

section CsvDocuments

theorem writeCsvFields_values {values : List ExportValue} (given : values ≠ []) :
    CsvRow (writeCsvFields values).flatten (values.map ExportValue.toText) := by
  have field (value : ExportValue) : CsvField (writeCsvField value).flatten value.toText := by
    rw [writeCsvField_flatten]
    split
    · rename_i null
      rw [null]
      exact .bare ⟨by simp, by simp⟩
    · exact csvField_field value.toText
  induction values with
  | nil => exact absurd rfl given
  | cons value values ih =>
      cases values with
      | nil => exact .single (field value)
      | cons next values =>
          rw [List.map_cons, List.map_cons, writeCsvFields, List.flatten_append, List.flatten_cons,
            List.singleton_append]
          · exact .cons (field value) (ih (List.cons_ne_nil _ _))
          · exact List.cons_ne_nil _ _

def csvCells (row : ExportRow) : List Units := (itemFields row).map fun field => field.2.toText

def csvNames : List Units :=
  ["id", "inventory_number", "external_id", "longitude", "latitude", "address", "district", "lamp_type", "status",
    "created_at", "updated_at"].map textUnits

theorem csvRows_text (first : Bool) (rows : List ExportRow) :
    CsvText (writeRows .csv first rows).flatten (rows.map csvCells) := by
  induction rows generalizing first with
  | nil => exact .empty
  | cons row rows ih =>
      have fields : CsvRow (writeCsvFields ((itemFields row).map (·.2))).flatten (csvCells row) := by
        have values := @writeCsvFields_values ((itemFields row).map (·.2)) (List.cons_ne_nil _ _)
        rw [List.map_map] at values
        exact values
      have whole : kept (csvCells row) = [csvCells row] := rfl
      have text := CsvText.line fields LineEnd.crlf (ih (stillFirst .csv first))
      rw [whole] at text
      rw [writeRows, List.flatten_append, writeRow, writeCsvRow, List.flatten_append]
      simpa using text

theorem joined_row {cells : List Units} (given : cells ≠ []) (bare : ∀ cell ∈ cells, IsBare cell) :
    CsvRow ([commaUnit].intercalate cells) cells := by
  induction cells with
  | nil => exact absurd rfl given
  | cons cell cells ih =>
      have first : CsvField cell cell := .bare (bare cell List.mem_cons_self)
      cases cells with
      | nil =>
          rw [List.intercalate_singleton]
          exact .single first
      | cons next cells =>
          have rest := ih (List.cons_ne_nil _ _) fun other member => bare other (List.mem_cons_of_mem _ member)
          rw [List.intercalate_cons_cons, List.append_assoc]
          exact .cons first rest

theorem csvNames_bare : ∀ cell ∈ csvNames, IsBare cell := by
  have test : ∀ cell ∈ csvNames, cell.head? ≠ some quoteUnit ∧
      cell.all (fun unit => unit ≠ commaUnit ∧ unit ≠ crUnit ∧ unit ≠ lfUnit) = true := by
    decide +kernel
  intro cell member
  refine ⟨(test cell member).1, fun unit inside => ?_⟩
  exact of_decide_eq_true (List.all_eq_true.mp (test cell member).2 unit inside)

theorem csvHeader_eq : csvHeader = [commaUnit].intercalate csvNames ++ [crUnit, lfUnit] := by decide +kernel

theorem csv_document (rows : List ExportRow) :
    CsvText (documentWrites .csv rows).flatten (csvNames :: rows.map csvCells) := by
  have header : CsvText (csvHeader ++ (writeRows .csv true rows).flatten) (csvNames :: rows.map csvCells) := by
    have whole : kept csvNames = [csvNames] := rfl
    have given : csvNames ≠ [] := List.cons_ne_nil _ _
    have text := CsvText.line (joined_row given csvNames_bare) LineEnd.crlf (csvRows_text true rows)
    rw [whole] at text
    rw [csvHeader_eq]
    exact text
  rw [documentWrites, List.cons_append, List.flatten_cons, List.flatten_append]
  simpa [opening, closing] using header

end CsvDocuments

end PublicLighting.Exchange
