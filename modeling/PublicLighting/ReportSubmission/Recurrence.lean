import PublicLighting.Foundations.Runs
import PublicLighting.Foundations.Updates
import PublicLighting.ReportSubmission.Recording

/-! Concurrent submissions at read committed, as far as the notes about recurring faults go: the lock
on the light point, the clock, the summary and the INSERT are statements of their own. -/

namespace PublicLighting.ReportSubmission.Recurrence

open Foundations
open EmailVerification (CallId)

/-- The statement a call has to run next. -/
inductive Call
  | idle
  | resolving (submission : Submission)
  | authorizing (submission : Submission) (target : ResolvedReportTarget)
  | summarizing (submission : Submission) (target : ResolvedReportTarget) (submittedAt : Int)
  | inserting (submission : Submission) (target : ResolvedReportTarget) (submittedAt : Int)
      (summary : PreviousFaultSummary)
  | committing (report : FaultReport) (summary : PreviousFaultSummary)
  | ended
  deriving DecidableEq

/-- `recorded` is no part of the database: what has been committed by the calls, with the summaries. -/
structure State where
  now : Int
  locks : LightPointId → Option CallId
  history : List FaultReport
  nextId : HistoryId
  calls : CallId → Call
  recorded : List (FaultReport × PreviousFaultSummary)

inductive Label
  | recordSubmission (call : CallId) (input : FaultHistorySubmissionInput)
  | resolveTarget (call : CallId)
  | stamp (call : CallId) (elapsed : Nat)
  | summarize (call : CallId)
  | insert (call : CallId)
  | commit (call : CallId)
  | rollback (call : CallId)

def State.setCall (s : State) (call : CallId) (next : Call) : State :=
  { s with calls := Function.update s.calls call next }

def State.released (s : State) (call : CallId) (lightPointId : LightPointId) : Option CallId :=
  if s.locks lightPointId = some call then none else s.locks lightPointId

def State.rollback (s : State) (call : CallId) : State :=
  { s with locks := s.released call }.setCall call .ended

def Call.underway : Call → Bool
  | .idle => false
  | .ended => false
  | _ => true

section Steps

variable (options : FormOptions) (findCoordinates : LightPointId → Option (ℚ × ℚ))
variable (classifyArea : ℚ → ℚ → ServiceAreaClassification) (formatOperatorTimestamp : Int → String)

def State.resolved (s : State) (call : CallId) (submission : Submission)
    (outcome : Except ReportTargetError ResolvedReportTarget) : State :=
  match outcome with
  | .ok target => s.setCall call (.authorizing submission target)
  | .error _ => s.rollback call

/-- The lookup locks the light point to the end of the transaction. -/
def resolveTarget (s : State) (call : CallId) (submission : Submission) : Option State :=
  match submission.input.reportTarget with
  | .lightPoint given =>
      match lightPointIdOf given with
      | none => some (s.rollback call)
      | some lightPointId =>
          match findCoordinates lightPointId with
          | none => some (s.rollback call)
          | some found =>
              if s.locks lightPointId = none then
                some ({ s with locks := Function.update s.locks lightPointId (some call) }.resolved call
                  submission (resolveLightPoint classifyArea given (some found)))
              else none
  | .custom latitude longitude =>
      some (s.resolved call submission (resolvePlace classifyArea "custom" latitude longitude none))
  | .device latitude longitude =>
      some (s.resolved call submission (resolvePlace classifyArea "device" latitude longitude none))
  | .manual => some (s.resolved call submission (.ok ⟨"manual", none, none, none⟩))
  | .other => some (s.rollback call)

def step (s : State) : Label → Option State
  | .recordSubmission call input =>
      match s.calls call with
      | .idle =>
          match acceptSubmission options input with
          | .error _ => some (s.setCall call .ended)
          | .ok submission => some (s.setCall call (.resolving submission))
      | _ => none
  | .resolveTarget call =>
      match s.calls call with
      | .resolving submission => resolveTarget findCoordinates classifyArea s call submission
      | _ => none
  | .stamp call elapsed =>
      match s.calls call with
      | .authorizing submission target =>
          -- `clock_timestamp()` never shows one time twice.
          let now := s.now + elapsed + 1
          some ({ s with now := now }.setCall call (.summarizing submission target now))
      | _ => none
  | .summarize call =>
      match s.calls call with
      | .summarizing submission target submittedAt =>
          some (s.setCall call (.inserting submission target submittedAt
            (summaryOf s.history target submittedAt)))
      | _ => none
  | .insert call =>
      match s.calls call with
      | .inserting submission target submittedAt summary =>
          let automaticNotes := buildAutomaticFaultNotes formatOperatorTimestamp summary (dateOf submittedAt)
            target.point
          some ({ s with nextId := s.nextId + 1 }.setCall call
            (.committing (reportOf s.nextId submission target submittedAt automaticNotes) summary))
      | _ => none
  | .commit call =>
      match s.calls call with
      | .committing report summary =>
          some ({ s with
            history := s.history ++ [report]
            recorded := s.recorded ++ [(report, summary)]
            locks := s.released call }.setCall call .ended)
      | _ => none
  -- A failure, a refusal by `authorize` or a receipt that is there already.
  | .rollback call => if (s.calls call).underway then some (s.rollback call) else none

def steps (s : State) (label : Label) (t : State) : Prop :=
  step options findCoordinates classifyArea formatOperatorTimestamp s label = some t

end Steps

end PublicLighting.ReportSubmission.Recurrence
