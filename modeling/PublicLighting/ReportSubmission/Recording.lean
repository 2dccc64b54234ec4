import PublicLighting.ReportSubmission.Store

/-! What `recordSubmission` reads of a target and of the history, and what it writes about them. -/

namespace PublicLighting.ReportSubmission

open Foundations.JavaScriptText

inductive ServiceAreaClassification
  | inside
  | outside
  | invalidCoordinate
  | unavailable
  deriving DecidableEq, Repr

structure ReportTargetError where
  status : Nat
  code : String
  deriving DecidableEq, Repr

/-- `light_points.id`, as `Number.isSafeInteger` and the sign let it through. -/
abbrev LightPointId := Nat

def lightPointIdOf (lightPointId : ℚ) : Option LightPointId :=
  if lightPointId.den = 1 ∧ 0 < lightPointId.num ∧ lightPointId.num ≤ 9007199254740991 then
    some lightPointId.num.toNat
  else none

def validateCoordinates (latitude longitude : ℚ) : Except ReportTargetError Unit :=
  if latitude < -90 ∨ 90 < latitude ∨ longitude < -180 ∨ 180 < longitude then
    .error ⟨400, "invalid_coordinates"⟩
  else .ok ()

def requireInside : ServiceAreaClassification → Except ReportTargetError Unit
  | .inside => .ok ()
  | .unavailable => .error ⟨503, "service_area_unavailable"⟩
  | .invalidCoordinate => .error ⟨400, "invalid_coordinates"⟩
  | .outside => .error ⟨422, "outside_service_area"⟩

section Resolve

variable (classifyArea : ℚ → ℚ → ServiceAreaClassification)

/-- `resolveAndValidateReportTarget` past the lookup, of the kinds that `recordSubmission` resolves. -/
def resolvePlace (kind : String) (latitude longitude : ℚ) (lightPointId : Option ℚ) :
    Except ReportTargetError ResolvedReportTarget := do
  validateCoordinates latitude longitude
  requireInside (classifyArea latitude longitude)
  return ⟨kind, some latitude, some longitude, lightPointId⟩

def resolveLightPoint (lightPointId : ℚ) : Option (ℚ × ℚ) → Except ReportTargetError ResolvedReportTarget
  | none => .error ⟨404, "light_point_not_found"⟩
  | some (latitude, longitude) => resolvePlace classifyArea "light-point" latitude longitude (some lightPointId)

end Resolve

/-- The columns of `fault_report_history`. -/
structure FaultReport where
  id : HistoryId
  submittedAt : Int
  locality : String
  locationBlockCode : Option String
  faultTypeCode : Option String
  target : ResolvedReportTarget
  automaticNotes : List String
  deriving DecidableEq

def ResolvedReportTarget.point (target : ResolvedReportTarget) : Option LightPointId :=
  if target.kind = "light-point" then target.lightPointId.bind lightPointIdOf else none

def FaultReport.lightPointId (report : FaultReport) : Option LightPointId := report.target.point

structure PreviousFaultSummary where
  recentCount : Nat
  recurringCount : Nat
  latestPreviousAt : Option Int
  latestPreviousWithinDays : Option Bool
  deriving DecidableEq

/-- `interval '1 hour'`, in microseconds. -/
def hour : Int := 60 * 60 * 1000000

/-- The rows that `FAULT_HISTORY_SUMMARY_SQL` reads. -/
def previousFaults (history : List FaultReport) (lightPointId : LightPointId) (submittedAt : Int) :
    List FaultReport :=
  history.filter fun report => report.lightPointId = some lightPointId ∧
    submittedAt - 720 * hour ≤ report.submittedAt ∧ report.submittedAt < submittedAt

def faultHistorySummary (history : List FaultReport) (lightPointId : LightPointId) (submittedAt : Int) :
    PreviousFaultSummary :=
  let rows := previousFaults history lightPointId submittedAt
  let latest := (rows.map (·.submittedAt)).max?
  { recentCount := rows.countP fun report => submittedAt - 72 * hour ≤ report.submittedAt
    recurringCount := rows.countP fun report => submittedAt - 720 * hour ≤ report.submittedAt
    latestPreviousAt := latest
    latestPreviousWithinDays := latest.map fun previous => submittedAt - 168 * hour ≤ previous }

def noPreviousFaults : PreviousFaultSummary := ⟨0, 0, none, some false⟩

def recentDays : Nat := 3
def recentMinimum : Nat := 2
def recurringDays : Nat := 30
def recurringMinimum : Nat := 5
def previousDays : Nat := 7

/-- A `Date` keeps milliseconds. -/
def dateOf (timestamp : Int) : Int := timestamp / 1000

def formatPreviousCount (count : Nat) : String := toString count ++ " predchádzajúcich hlásení"

section Notes

variable (formatOperatorTimestamp : Int → String)

def buildAutomaticFaultNotes (summary : PreviousFaultSummary) (submittedAt : Int)
    (target : Option LightPointId) : List String :=
  match target with
  | none => []
  | some lightPointId =>
      let targetLabel := "na evidovanom svietidle #" ++ toString lightPointId
      if recurringMinimum ≤ summary.recurringCount then
        let recentClause := if recentMinimum ≤ summary.recentCount then
          ", z toho " ++ toString summary.recentCount ++ " za posledné " ++ toString recentDays ++ " dni" else ""
        ["Opakované hlásenia " ++ targetLabel ++ ": " ++ toString summary.recurringCount ++
          " predchádzajúcich hlásení za posledných " ++ toString recurringDays ++ " dní" ++ recentClause ++ "."]
      else if recentMinimum ≤ summary.recentCount then
        [formatPreviousCount summary.recentCount ++ " " ++ targetLabel ++ " za posledné " ++
          toString recentDays ++ " dni."]
      else
        match summary.latestPreviousAt with
        | none => []
        | some latest =>
            let ageMs := submittedAt - dateOf latest
            let isWithinPreviousDays := summary.latestPreviousWithinDays.getD
              (0 ≤ ageMs ∧ ageMs ≤ previousDays * 24 * 60 * 60 * 1000)
            if isWithinPreviousDays then
              ["Posledné predchádzajúce hlásenie " ++ targetLabel ++ ": " ++
                formatOperatorTimestamp (dateOf latest) ++ "."]
            else []

end Notes

/-- The summary that a submission at a time reads of the history that it sees. -/
def summaryOf (history : List FaultReport) (target : ResolvedReportTarget) (submittedAt : Int) :
    PreviousFaultSummary :=
  match target.point with
  | some lightPointId => faultHistorySummary history lightPointId submittedAt
  | none => noPreviousFaults

def reportOf (id : HistoryId) (submission : Submission) (target : ResolvedReportTarget) (submittedAt : Int)
    (automaticNotes : List String) : FaultReport :=
  { id := id
    submittedAt := submittedAt
    locality := submission.input.locality
    locationBlockCode := submission.input.locationBlockCode
    faultTypeCode := submission.input.faultTypeCode
    target := target
    automaticNotes := automaticNotes }

end PublicLighting.ReportSubmission
