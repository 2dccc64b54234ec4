import PublicLighting.Exchange.Rows
import PublicLighting.Foundations.LikePatterns

/-! The filters of the inventory list, of its export and of the report analytics, as
the rows that their conditions keep. A condition that is unknown keeps no row. -/

namespace PublicLighting.Exchange

open Foundations (Json)
open Foundations.DecimalText (isDigits)
open Foundations.Json (ofUnits)
open Foundations.LikePatterns (IsSpecial like)
open Inventory (LightPointStatus)

def WellFormed (text : Units) : Prop := unitsOfText (ofUnits text) = text

instance (text : Units) : Decidable (WellFormed text) := inferInstanceAs (Decidable (_ = _))

def statusSearchLabel : LightPointStatus → String
  | .active => "Aktívny"
  | .inactive => "Neaktívny"
  | .maintenance => "Údržba"

/-- Characters that have no other case and carry no mark. -/
def IsFixed (c : Char) : Prop := IsSpecial c ∨ c.isDigit = true ∨ c = '\x00'

/-- The server's lower case of a character, and the steps of `normalizeSearch`. A unit of a
fixed character and a lone surrogate come through them, and the labels become ASCII. -/
structure SearchText where
  lower : Char → Char
  normalizeNFD : Units → Units
  withoutDiacritics : Units → Units
  toLocaleLowerCase : Units → Units
  lowerFixed : ∀ c fixed, IsFixed fixed → (lower c = fixed ↔ c = fixed)
  keepsFixed : ∀ text fixed, IsFixed fixed → fixed.toNat ∈ text →
    fixed.toNat ∈ toLocaleLowerCase (withoutDiacritics (normalizeNFD text))
  keepsLone : ∀ text, ¬ WellFormed text →
    ∃ unit ∈ toLocaleLowerCase (withoutDiacritics (normalizeNFD text)), 0x80 ≤ unit
  codes : ∀ status : LightPointStatus,
    toLocaleLowerCase (withoutDiacritics (normalizeNFD (textUnits status.text))) = textUnits status.text
  labels : ∀ status, toLocaleLowerCase (withoutDiacritics (normalizeNFD (textUnits (statusSearchLabel status)))) =
    textUnits (match status with
      | .active => "aktivny"
      | .inactive => "neaktivny"
      | .maintenance => "udrzba")

def trimText (value : Units) : Units :=
  Foundations.Trimming.trim (fun unit => Foundations.JavaScriptText.isTrimmed (Char.ofNat unit)) value

/-- `search?.trim().slice(0, 100) ?? ''`. -/
def searchTerm (search : Option Units) : Units := slice (trimText (search.getD [])) 0 100

section Search

variable (texts : SearchText)

def normalizeSearch (value : Units) : Units :=
  texts.toLocaleLowerCase (texts.withoutDiacritics (texts.normalizeNFD value))

/-- `includes`. -/
def includes (text part : Units) : Bool := part <:+: text

def matchingInventoryStatuses (value : Units) : List LightPointStatus :=
  let normalized := normalizeSearch texts value
  [LightPointStatus.active, .inactive, .maintenance].filter fun status =>
    includes (normalizeSearch texts (textUnits status.text)) normalized ||
      includes (normalizeSearch texts (textUnits (statusSearchLabel status))) normalized

def ilike (pattern : List Char) (field : Option String) : Bool :=
  field.any fun text => like (pattern.map texts.lower) (text.toList.map texts.lower)

/-- The parameter `%search%` on the wire. -/
def likePattern (search : Units) : List Char := ofUnits (unitsOfText ['%'] ++ search ++ unitsOfText ['%'])

/-- `/^\d+$/.test(search) && Number(search) <= 2_147_483_647`, with the number. -/
def searchedId (search : Units) : Option ℚ :=
  let digits := ofUnits search
  if search ≠ [] ∧ search.all (fun unit => 0x30 ≤ unit ∧ unit ≤ 0x39) then
    let number := Foundations.Doubles.toDouble (Nat.ofDigitChars 10 digits 0)
    if number ≤ 2147483647 then some number else none
  else none

/-- The alternatives of the search. The server refuses a parameter with a NUL. -/
def searchCondition (search : Units) (row : ExportRow) : Bool :=
  let pattern := likePattern search
  let statusMatches := matchingInventoryStatuses texts search
  0 ∉ search &&
    (ilike texts pattern (some row.inventoryNumber) || ilike texts pattern row.externalId ||
      ilike texts pattern row.address || ilike texts pattern row.district || ilike texts pattern row.lampType ||
      (!statusMatches.isEmpty && row.status ∈ statusMatches) || (searchedId search).any fun id => (row.id : ℚ) = id)

end Search

structure StreetLightFilters where
  search : Option Units
  status : Option Units
  district : Option Units
  districtMissing : Bool
  lampType : Option Units
  lampTypeMissing : Bool
  deriving DecidableEq

inductive FilterError
  | invalidStatus
  | invalidPeriod
  | invalidOrder
  deriving DecidableEq, Repr

def FilterError.status : FilterError → Nat := fun _ => 400

def FilterError.message : FilterError → String
  | invalidStatus => "Invalid status filter"
  | invalidPeriod => "Invalid analytics period"
  | invalidOrder => "Invalid report-count order"

def parseStatus (value : Units) : Option LightPointStatus :=
  [LightPointStatus.active, .inactive, .maintenance].find? fun status => textUnits status.text = value

/-- The condition of a status filter that is given and not empty. -/
def statusCondition (status : Option Units) : Except FilterError (ExportRow → Bool) :=
  match status with
  | none | some [] => .ok fun _ => true
  | some value =>
      match parseStatus value with
      | none => .error .invalidStatus
      | some status => .ok fun row => row.status = status

/-- `BTRIM(column)`. -/
def sqlBtrim (text : String) : List Char := Foundations.Trimming.trim (fun c => c = ' ') text.toList

/-- `column IS NULL OR BTRIM(column) = ''`. -/
def isMissing (column : Option String) : Bool := column.all fun text => sqlBtrim text = []

/-- `BTRIM(column) = $n` for a trimmed filter. -/
def columnIs (value : Units) (column : Option String) : Bool :=
  0 ∉ value && column.any fun text => sqlBtrim text = ofUnits (trimText value)

def districtCondition (filters : StreetLightFilters) (row : ExportRow) : Bool :=
  if filters.districtMissing then isMissing row.district
  else if trimText (filters.district.getD []) ≠ [] then columnIs (filters.district.getD []) row.district
  else true

def lampTypeCondition (filters : StreetLightFilters) (row : ExportRow) : Bool :=
  if trimText (filters.lampType.getD []) ≠ [] then columnIs (filters.lampType.getD []) row.lampType
  else if filters.lampTypeMissing then isMissing row.lampType
  else true

/-- The rows that the `WHERE` of the filters keeps. -/
def buildStreetLightFilters (texts : SearchText) (filters : StreetLightFilters) :
    Except FilterError (ExportRow → Bool) := do
  let search := searchTerm filters.search
  let status ← statusCondition filters.status
  return fun row => (search = [] || searchCondition texts search row) && status row && districtCondition filters row &&
    lampTypeCondition filters row

structure ListReportAnalyticsQuery where
  period : String
  search : Option Units
  status : Option Units
  order : Option Units
  deriving DecidableEq

def periodSeconds (period : String) : Option Nat :=
  match period with
  | "24h" => some 86400
  | "7d" => some 604800
  | "30d" => some 2592000
  | "90d" => some 7776000
  | _ => none

/-- The light points that the list of the analytics keeps. -/
def listReportAnalytics (texts : SearchText) (query : ListReportAnalyticsQuery) :
    Except FilterError (ExportRow → Bool) := do
  if (periodSeconds query.period).isNone then throw .invalidPeriod
  let status ← statusCondition query.status
  if (query.order.getD []) ∉ [[], textUnits "asc", textUnits "desc"] then throw .invalidOrder
  let search := searchTerm query.search
  return fun row => (search = [] || searchCondition texts search row) && status row

end PublicLighting.Exchange
