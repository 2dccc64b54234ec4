import Mathlib.Data.List.ReduceOption
import PublicLighting.Exchange.Writers
import PublicLighting.Foundations.Instants
import PublicLighting.Inventory.LightPoint

/-! The rows that the inventory lists and exports. -/

namespace PublicLighting.Exchange

open Foundations.Doubles (IsDouble)
open Inventory (LightPointStatus)

def IsClean (text : String) : Prop := '\x00' ∉ text.toList

/-- A row of `light_points` as the driver hands it over. Instants are in milliseconds. -/
structure ExportRow where
  id : ℤ
  inventoryNumber : String
  externalId : Option String
  longitude : ℚ
  latitude : ℚ
  address : Option String
  district : Option String
  lampType : Option String
  status : LightPointStatus
  createdAt : ℤ
  updatedAt : ℤ
  idInteger : -2147483648 ≤ id ∧ id ≤ 2147483647
  longitudeDouble : IsDouble longitude
  latitudeDouble : IsDouble latitude
  clean : ∀ text ∈ [some inventoryNumber, externalId, address, district, lampType].reduceOption, IsClean text
  deriving DecidableEq

/-- A text of the database as JavaScript holds it. -/
def textUnits (text : String) : Units := unitsOfText text.toList

def nullableText : Option String → ExportValue
  | some text => .text (textUnits text)
  | none => .null

def formatTimestamp (value : ℤ) : Units := unitsOfText (Foundations.Instants.toISOString value)

def itemFields (row : ExportRow) : ExportFields :=
  [(textUnits "id", .number row.id), (textUnits "inventory_number", .text (textUnits row.inventoryNumber)),
    (textUnits "external_id", nullableText row.externalId), (textUnits "longitude", .number row.longitude),
    (textUnits "latitude", .number row.latitude), (textUnits "address", nullableText row.address),
    (textUnits "district", nullableText row.district), (textUnits "lamp_type", nullableText row.lampType),
    (textUnits "status", .text (textUnits row.status.text)),
    (textUnits "created_at", .text (formatTimestamp row.createdAt)),
    (textUnits "updated_at", .text (formatTimestamp row.updatedAt))]

end PublicLighting.Exchange
