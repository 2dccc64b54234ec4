import Mathlib.Data.Prod.Lex
import PublicLighting.Exchange.Export
import PublicLighting.Foundations.Joins
import PublicLighting.Foundations.Keyset

/-! The two views of the reports that an administrator has: the figures of a period, and
the light points with the reports about each. -/

namespace PublicLighting.Analytics

open Exchange (ExportRow FilterError ListReportAnalyticsQuery SearchText Units periodSeconds searchTerm textUnits)
open Foundations.Joins (groups leftJoin)

inductive TargetKind
  | lightPoint
  | custom
  | device
  | manual
  deriving DecidableEq, Repr

/-- A row of `fault_report_history`. Only a report about a light point names one. The instant
is in microseconds. -/
structure HistoryRow where
  id : ℤ
  submittedAt : ℤ
  targetKind : TargetKind
  lightPointId : Option ℤ
  named : targetKind = .lightPoint ↔ lightPointId.isSome

/-- The inventory and the history of the reports, which outlives the points it names. The reports about one point are
not more than `COUNT(…)::integer` takes. -/
structure Database where
  points : List ExportRow
  history : List HistoryRow
  distinct : (points.map ExportRow.id).Nodup
  counted : ∀ id : ℤ, (history.countP fun report => report.lightPointId = some id) ≤ 2147483647

inductive AnalyticsError
  | rejected (error : FilterError)
  | nul
  deriving DecidableEq, Repr

/-- The half-open period in microseconds, for a reference time in milliseconds. -/
structure Bounds where
  periodStart : ℤ
  periodEnd : ℤ
  deriving DecidableEq, Repr

def boundsOf (seconds : Nat) (referenceTime : ℤ) : Bounds :=
  ⟨referenceTime * 1000 - seconds * 1000000, referenceTime * 1000⟩

def Bounds.holds (bounds : Bounds) (report : HistoryRow) : Bool :=
  bounds.periodStart ≤ report.submittedAt ∧ report.submittedAt < bounds.periodEnd

def validatePeriod (period : String) : Except AnalyticsError Nat :=
  match periodSeconds period with
  | some seconds => .ok seconds
  | none => .error (.rejected .invalidPeriod)

section Summary

structure Summary where
  period : String
  periodStart : List Char
  periodEnd : List Char
  totalLocalReports : Nat
  assignedToInventoryPoints : Nat
  customOrManualReports : Nat
  reportsForDeletedPoints : Nat
  deriving DecidableEq

def isAssigned (report : HistoryRow) : Bool := report.targetKind = .lightPoint

/-- `bounds LEFT JOIN fault_report_history LEFT JOIN light_points`. -/
def summaryRows (db : Database) (bounds : Bounds) : List ((Bounds × Option HistoryRow) × Option ExportRow) :=
  leftJoin (leftJoin [bounds] db.history fun bounds report => bounds.holds report) db.points fun joined point =>
    joined.2.any fun report => isAssigned report && report.lightPointId = some point.id

def getReportAnalyticsSummary (db : Database) (period : String) (referenceTime : ℤ) :
    Except AnalyticsError Summary := do
  let seconds ← validatePeriod period
  let bounds := boundsOf seconds referenceTime
  let row := (groups (fun joined => joined.1.1) (summaryRows db bounds)).headD []
  return {
    period := period
    periodStart := Foundations.Instants.toISOString (bounds.periodStart / 1000)
    periodEnd := Foundations.Instants.toISOString (bounds.periodEnd / 1000)
    totalLocalReports := row.countP fun joined => joined.1.2.isSome
    assignedToInventoryPoints := row.countP fun joined => joined.1.2.any isAssigned
    customOrManualReports := row.countP fun joined => joined.1.2.any fun report => !isAssigned report
    reportsForDeletedPoints := row.countP fun joined => joined.1.2.any isAssigned && joined.2.isNone }

end Summary

section List

/-- A row of the common table `counts`. -/
structure CountRow where
  point : ExportRow
  reportCount : Nat
  lastReport : Option ℤ

structure ReportItem where
  id : ℤ
  inventoryNumber : String
  address : Option String
  district : Option String
  status : Inventory.LightPointStatus
  reportCount : Nat
  lastReport : Option ℤ
  deriving DecidableEq

structure Pagination where
  page : Nat
  limit : Nat
  total : Nat
  totalPages : Nat
  deriving DecidableEq, Repr

structure ReportPage where
  items : List ReportItem
  pagination : Pagination
  deriving DecidableEq

/-- `Number.isSafeInteger`, with the integer. What is no finite number is `none`. -/
def safeInteger (value : Option ℚ) : Option ℤ :=
  value.bind fun number => if number.den = 1 ∧ |number.num| ≤ 9007199254740991 then some number.num else none

def pageOf (page : Option ℚ) : Nat :=
  match safeInteger page with
  | some number => if 0 < number then number.toNat else 1
  | none => 1

def limitOf (limit : Option ℚ) : Nat := (min 100 (max 1 ((safeInteger limit).getD 25))).toNat

/-- `light_points LEFT JOIN fault_report_history … GROUP BY point.id`. -/
def countRows (db : Database) (bounds : Bounds) : List CountRow :=
  let joined := leftJoin db.points db.history fun point report =>
    report.lightPointId = some point.id && isAssigned report && bounds.holds report
  (groups (fun pair => pair.1.id) joined).filterMap fun group =>
    group.head?.map fun pair =>
      { point := pair.1
        reportCount := group.countP fun pair => pair.2.isSome
        lastReport := ((group.filterMap Prod.snd).map (·.submittedAt)).max? }

/-- `ORDER BY report_count, inventory_number COLLATE "C", id`. -/
def sortKey (ascending : Bool) (row : CountRow) : ℤ ×ₗ List Nat ×ₗ ℤ :=
  toLex (if ascending then (row.reportCount : ℤ) else -row.reportCount, Exchange.sortKey row.point)

def itemOf (row : CountRow) : ReportItem :=
  ⟨row.point.id, row.point.inventoryNumber, row.point.address, row.point.district, row.point.status, row.reportCount,
    row.lastReport⟩

/-- The filter and the length of the period. The server refuses a search with a NUL. -/
def checkedQuery (texts : SearchText) (query : ListReportAnalyticsQuery) :
    Except AnalyticsError ((ExportRow → Bool) × Nat) := do
  let keeps ← (Exchange.listReportAnalytics texts query).mapError AnalyticsError.rejected
  let seconds ← validatePeriod query.period
  if 0 ∈ searchTerm query.search then throw .nul
  return (keeps, seconds)

def listReportAnalytics (texts : SearchText) (db : Database) (query : ListReportAnalyticsQuery)
    (page limit : Option ℚ)
    (referenceTime : ℤ) : Except AnalyticsError ReportPage := do
  let (keeps, seconds) ← checkedQuery texts query
  let page := pageOf page
  let limit := limitOf limit
  let offset := (page - 1) * limit
  let ascending := query.order = some (textUnits "asc")
  let filtered := (countRows db (boundsOf seconds referenceTime)).filter fun row => keeps row.point
  let items := (Foundations.Keyset.offsetPage (sortKey ascending) limit offset filtered).map itemOf
  let total := filtered.length
  return ⟨items, page, limit, total, max 1 ((total + (limit - 1)) / limit)⟩

def allPages (texts : SearchText) (db : Database) (query : ListReportAnalyticsQuery) (limit : Option ℚ)
    (referenceTime : ℤ) :
    Except AnalyticsError (List ReportItem) := do
  let first ← listReportAnalytics texts db query (some 1) limit referenceTime
  let pages ← (List.range first.pagination.totalPages).mapM fun (number : Nat) =>
    listReportAnalytics texts db query (some ((number : ℚ) + 1)) limit referenceTime
  return pages.flatMap (·.items)

end List

end PublicLighting.Analytics
