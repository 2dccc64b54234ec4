import PublicLighting.ReportSubmission.Recurrence

/-! However the submissions of a light point interleave, they note what they would have noted one after
another. -/

namespace PublicLighting.ReportSubmission.Recurrence

open Foundations
open EmailVerification (CallId)

def pointRows (lightPointId : LightPointId) (history : List FaultReport) : List FaultReport :=
  history.filter fun report => report.lightPointId = some lightPointId

section Serial

variable (formatOperatorTimestamp : Int → String)

def notesOf (history : List FaultReport) (target : ResolvedReportTarget) (submittedAt : Int) : List String :=
  buildAutomaticFaultNotes formatOperatorTimestamp (summaryOf history target submittedAt) (dateOf submittedAt)
    target.point

def submitAfter (history : List FaultReport) (report : FaultReport) : List FaultReport :=
  let automaticNotes := notesOf formatOperatorTimestamp history report.target report.submittedAt
  history ++ [{ report with automaticNotes := automaticNotes }]

def serially (history reports : List FaultReport) : List FaultReport :=
  reports.foldl (submitAfter formatOperatorTimestamp) history

end Serial

variable {history : List FaultReport} {lightPointId : LightPointId} {submittedAt : Int}

theorem previousFaults_append {report : FaultReport}
    (apart : report.lightPointId = some lightPointId → submittedAt ≤ report.submittedAt) :
    previousFaults (history ++ [report]) lightPointId submittedAt =
      previousFaults history lightPointId submittedAt := by
  have later : ¬(report.lightPointId = some lightPointId ∧
      submittedAt - 720 * hour ≤ report.submittedAt ∧ report.submittedAt < submittedAt) := by
    intro ⟨same, _, before⟩
    exact Int.not_lt.mpr (apart same) before
  unfold previousFaults
  rw [List.filter_append, List.filter_singleton, decide_eq_false later]
  exact List.append_nil _

theorem summaryOf_append {report : FaultReport} {target : ResolvedReportTarget}
    (apart : ∀ lightPointId, target.point = some lightPointId → report.lightPointId = some lightPointId →
      submittedAt ≤ report.submittedAt) :
    summaryOf (history ++ [report]) target submittedAt = summaryOf history target submittedAt := by
  unfold summaryOf
  cases point : target.point with
  | none => rfl
  | some lightPointId =>
      simp only [faultHistorySummary, previousFaults_append (apart lightPointId point)]

/-- The summary reads the rows of its light point alone. -/
theorem summaryOf_pointRows {target : ResolvedReportTarget} (point : target.point = some lightPointId) :
    summaryOf (pointRows lightPointId history) target submittedAt = summaryOf history target submittedAt := by
  have same : previousFaults (pointRows lightPointId history) lightPointId submittedAt =
      previousFaults history lightPointId submittedAt := by
    unfold previousFaults pointRows
    rw [List.filter_filter]
    apply List.filter_congr
    intro report _
    by_cases here : report.lightPointId = some lightPointId <;> simp [here]
  unfold summaryOf
  simp only [point, faultHistorySummary, same]

def Call.point : Call → Option LightPointId
  | .idle => none
  | .resolving _ => none
  | .authorizing _ target => target.point
  | .summarizing _ target _ => target.point
  | .inserting _ target _ _ => target.point
  | .committing report _ => report.lightPointId
  | .ended => none

variable {formatOperatorTimestamp : Int → String}

/-- A time after everything that is committed about the target. -/
structure Latest (history : List FaultReport) (now : Int) (target : ResolvedReportTarget) (submittedAt : Int) :
    Prop where
  past : submittedAt ≤ now
  last : ∀ lightPointId, target.point = some lightPointId → ∀ report ∈ history,
    report.lightPointId = some lightPointId → report.submittedAt < submittedAt

def Ready (formatOperatorTimestamp : Int → String) (history : List FaultReport) (now : Int) : Call → Prop
  | .summarizing _ target submittedAt => Latest history now target submittedAt
  | .inserting _ target submittedAt summary => Latest history now target submittedAt ∧
      summary = summaryOf history target submittedAt
  | .committing report summary => Latest history now report.target report.submittedAt ∧
      summary = summaryOf history report.target report.submittedAt ∧
      report.automaticNotes = notesOf formatOperatorTimestamp history report.target report.submittedAt
  | _ => True

structure Inv (formatOperatorTimestamp : Int → String) (old : List FaultReport) (s : State) : Prop where
  held : ∀ call lightPointId, (s.calls call).point = some lightPointId → s.locks lightPointId = some call
  history : s.history = old ++ s.recorded.map (·.1)
  past : ∀ report ∈ s.history, report.submittedAt ≤ s.now
  ready : ∀ call, Ready formatOperatorTimestamp s.history s.now (s.calls call)
  ordered : ∀ lightPointId, (pointRows lightPointId (s.recorded.map (·.1))).Pairwise fun earlier later =>
    earlier.submittedAt < later.submittedAt
  follows : ∀ earlier ∈ old, ∀ later ∈ s.recorded, earlier.lightPointId = later.1.lightPointId →
    later.1.lightPointId ≠ none → earlier.submittedAt < later.1.submittedAt
  noted : ∀ recorded ∈ s.recorded,
    recorded.2 = summaryOf s.history recorded.1.target recorded.1.submittedAt ∧
    recorded.1.automaticNotes = notesOf formatOperatorTimestamp s.history recorded.1.target recorded.1.submittedAt
  serial : ∀ lightPointId, pointRows lightPointId s.history =
    serially formatOperatorTimestamp (pointRows lightPointId old)
      (pointRows lightPointId (s.recorded.map (·.1)))

/-- A call's part of the invariant, when rows are committed about other light points only. -/
theorem Ready.kept {history grown : List FaultReport} {before now : Int} {call : Call}
    (ready : Ready formatOperatorTimestamp history before call) (later : before ≤ now)
    (rows : grown = history ∨ ∃ report, grown = history ++ [report] ∧
      ∀ lightPointId, call.point = some lightPointId → report.lightPointId ≠ some lightPointId) :
    Ready formatOperatorTimestamp grown now call := by
  have summary : ∀ {target : ResolvedReportTarget} {submittedAt : Int}, call.point = target.point →
      summaryOf grown target submittedAt = summaryOf history target submittedAt := by
    intro target submittedAt point
    rcases rows with same | ⟨report, added, apart⟩
    · rw [same]
    · rw [added]
      apply summaryOf_append
      intro lightPointId here there
      exact absurd there (apart lightPointId (point.trans here))
  have latest : ∀ {target : ResolvedReportTarget} {submittedAt : Int}, call.point = target.point →
      Latest history before target submittedAt → Latest grown now target submittedAt := by
    intro target submittedAt point latest
    refine ⟨Int.le_trans latest.past later, ?_⟩
    intro lightPointId here report member there
    rcases rows with same | ⟨added, more, apart⟩
    · rw [same] at member
      exact latest.last lightPointId here report member there
    · rw [more] at member
      rcases List.mem_append.mp member with before | last
      · exact latest.last lightPointId here report before there
      · rw [List.mem_singleton.mp last] at there
        exact absurd there (apart lightPointId (point.trans here))
  cases call with
  | idle => trivial
  | resolving submission => trivial
  | authorizing submission target => trivial
  | summarizing submission target submittedAt => exact latest rfl ready
  | inserting submission target submittedAt found => exact ⟨latest rfl ready.1, by rw [summary rfl]; exact ready.2⟩
  | committing report found =>
      refine ⟨latest rfl ready.1, ?_, ?_⟩
      · rw [summary rfl]
        exact ready.2.1
      · rw [notesOf, summary rfl]
        exact ready.2.2
  | ended => trivial

variable {old : List FaultReport} {s t : State}

theorem inv_setCall (inv : Inv formatOperatorTimestamp old s) {call : CallId} {next : Call} {now : Int}
    {nextId : HistoryId} {locks : LightPointId → Option CallId} (later : s.now ≤ now)
    (kept : ∀ other lightPointId, other ≠ call → s.locks lightPointId = some other →
      locks lightPointId = some other)
    (holds : ∀ lightPointId, next.point = some lightPointId → locks lightPointId = some call)
    (ready : Ready formatOperatorTimestamp s.history now next) :
    Inv formatOperatorTimestamp old
      ({ s with now := now, nextId := nextId, locks := locks }.setCall call next) where
  held := by
    apply update_all (fun other (state : Call) => ∀ lightPointId, state.point = some lightPointId →
      locks lightPointId = some other) holds
    intro other elsewhere lightPointId here
    exact kept other lightPointId elsewhere (inv.held other lightPointId here)
  history := inv.history
  past report member := Int.le_trans (inv.past report member) later
  ready := by
    apply update_all (fun _ (state : Call) => Ready formatOperatorTimestamp s.history now state) ready
    intro other _
    exact (inv.ready other).kept later (Or.inl rfl)
  ordered := inv.ordered
  follows := inv.follows
  noted := inv.noted
  serial := inv.serial

theorem released_other {call other : CallId} {lightPointId : LightPointId} (different : other ≠ call)
    (held : s.locks lightPointId = some other) : s.released call lightPointId = some other := by
  unfold State.released
  rw [held, if_neg fun same => different (Option.some.inj same)]

theorem inv_rollback (inv : Inv formatOperatorTimestamp old s) (call : CallId) :
    Inv formatOperatorTimestamp old (s.rollback call) :=
  inv_setCall inv (Int.le_refl _) (fun _ _ different held => released_other different held) nofun trivial

theorem resolvePlace_point {classifyArea : ℚ → ℚ → ServiceAreaClassification} {kind : String}
    {latitude longitude : ℚ} {given : Option ℚ} {target : ResolvedReportTarget}
    (resolved : resolvePlace classifyArea kind latitude longitude given = .ok target) :
    target.point = if kind = "light-point" then given.bind lightPointIdOf else none := by
  unfold resolvePlace at resolved
  simp only [bind, Except.bind, pure, Except.pure] at resolved
  split at resolved
  · cases resolved
  · split at resolved
    · cases resolved
    · cases resolved
      rfl

variable {findCoordinates : LightPointId → Option (ℚ × ℚ)}
variable {classifyArea : ℚ → ℚ → ServiceAreaClassification}

theorem inv_resolved (inv : Inv formatOperatorTimestamp old s) {call : CallId} {submission : Submission}
    {outcome : Except ReportTargetError ResolvedReportTarget}
    (holds : ∀ target lightPointId, outcome = .ok target → target.point = some lightPointId →
      s.locks lightPointId = some call) :
    Inv formatOperatorTimestamp old (s.resolved call submission outcome) := by
  unfold State.resolved
  cases outcome with
  | error error => exact inv_rollback inv call
  | ok target =>
      exact inv_setCall inv (Int.le_refl _) (fun _ _ _ held => held)
        (fun lightPointId point => holds target lightPointId rfl point) trivial

theorem inv_lock (inv : Inv formatOperatorTimestamp old s) {call : CallId} {lightPointId : LightPointId}
    (free : s.locks lightPointId = none) :
    Inv formatOperatorTimestamp old
      { s with locks := Function.update s.locks lightPointId (some call) } where
  held other point here := by
    have held := inv.held other point here
    have elsewhere : point ≠ lightPointId := by
      intro same
      rw [same, free] at held
      cases held
    exact (Function.update_of_ne elsewhere ..).trans held
  history := inv.history
  past := inv.past
  ready := inv.ready
  ordered := inv.ordered
  follows := inv.follows
  noted := inv.noted
  serial := inv.serial

theorem inv_resolveTarget (inv : Inv formatOperatorTimestamp old s) {call : CallId} {submission : Submission}
    (step : resolveTarget findCoordinates classifyArea s call submission = some t) :
    Inv formatOperatorTimestamp old t := by
  unfold resolveTarget at step
  split at step
  · rename_i given _
    split at step
    · cases step
      exact inv_rollback inv call
    · rename_i lightPointId known
      split at step
      · cases step
        exact inv_rollback inv call
      · rename_i found _
        split at step
        · rename_i free
          cases step
          apply inv_resolved (inv_lock inv free)
          intro target point resolved here
          have same : target.point = some lightPointId := by
            rw [resolvePlace_point resolved, if_pos rfl]
            exact known
          rw [same] at here
          cases here
          exact Function.update_self ..
        · cases step
  · cases step
    apply inv_resolved inv
    intro target point resolved here
    rw [resolvePlace_point resolved] at here
    cases here
  · cases step
    apply inv_resolved inv
    intro target point resolved here
    rw [resolvePlace_point resolved] at here
    cases here
  · cases step
    apply inv_resolved inv
    intro target point resolved here
    cases resolved
    cases here
  · cases step
    exact inv_rollback inv call

theorem pointRows_append (history : List FaultReport) (report : FaultReport) (lightPointId : LightPointId) :
    pointRows lightPointId (history ++ [report]) = pointRows lightPointId history ++
      if report.lightPointId = some lightPointId then [report] else [] := by
  unfold pointRows
  rw [List.filter_append, List.filter_singleton]
  by_cases here : report.lightPointId = some lightPointId <;> simp [here]

/-- The report of the newest submission is what it would be alone after the others. -/
theorem serially_append {reports : List FaultReport} {report : FaultReport}
    (here : report.lightPointId = some lightPointId)
    (serial : pointRows lightPointId history = serially formatOperatorTimestamp (pointRows lightPointId old) reports)
    (noted : report.automaticNotes =
      notesOf formatOperatorTimestamp history report.target report.submittedAt) :
    pointRows lightPointId history ++ [report] =
      serially formatOperatorTimestamp (pointRows lightPointId old) (reports ++ [report]) := by
  have alone : notesOf formatOperatorTimestamp (pointRows lightPointId history) report.target report.submittedAt =
      report.automaticNotes := by
    rw [noted, notesOf, notesOf, summaryOf_pointRows here]
  calc pointRows lightPointId history ++ [report]
    _ = submitAfter formatOperatorTimestamp (pointRows lightPointId history) report := by
        unfold submitAfter
        rw [alone]
    _ = submitAfter formatOperatorTimestamp
          (serially formatOperatorTimestamp (pointRows lightPointId old) reports) report := by rw [serial]
    _ = serially formatOperatorTimestamp (pointRows lightPointId old) (reports ++ [report]) := by
        rw [serially, serially, List.foldl_append]
        rfl

theorem inv_commit (inv : Inv formatOperatorTimestamp old s) {call : CallId} {report : FaultReport}
    {summary : PreviousFaultSummary} (committing : s.calls call = .committing report summary) :
    Inv formatOperatorTimestamp old
      ({ s with
        history := s.history ++ [report]
        recorded := s.recorded ++ [(report, summary)]
        locks := s.released call }.setCall call .ended) := by
  have ready := inv.ready call
  rw [committing] at ready
  obtain ⟨latest, summarized, noted⟩ := ready
  have point : (s.calls call).point = report.lightPointId := by
    rw [committing]
    rfl
  have member : ∀ recorded ∈ s.recorded, recorded.1 ∈ s.history := by
    intro recorded here
    rw [inv.history]
    exact List.mem_append_right _ (List.mem_map_of_mem here)
  have rows : (s.recorded ++ [(report, summary)]).map (·.1) = s.recorded.map (·.1) ++ [report] := List.map_append
  refine ⟨?_, ?_, ?_, ?_, ?_, ?_, ?_, ?_⟩
  · refine update_all (fun other (state : Call) => ∀ lightPointId, state.point = some lightPointId →
      s.released call lightPointId = some other) (fun _ none => nomatch none) ?_
    intro other different lightPointId here
    exact released_other different (inv.held other lightPointId here)
  · change s.history ++ [report] = old ++ (s.recorded ++ [(report, summary)]).map (·.1)
    rw [rows, inv.history, List.append_assoc]
  · intro row here
    rcases List.mem_append.mp here with before | last
    · exact inv.past row before
    · rw [List.mem_singleton.mp last]
      exact latest.past
  · refine update_all (fun _ (state : Call) => Ready formatOperatorTimestamp (s.history ++ [report]) s.now state)
      (by trivial) ?_
    intro other different
    apply (inv.ready other).kept (Int.le_refl _)
    refine Or.inr ⟨report, rfl, ?_⟩
    intro lightPointId there same
    -- Two calls do not hold one light point.
    have mine := inv.held call lightPointId (point.trans same)
    rw [inv.held other lightPointId there] at mine
    exact different (Option.some.inj mine)
  · intro lightPointId
    change (pointRows lightPointId ((s.recorded ++ [(report, summary)]).map (·.1))).Pairwise _
    rw [rows, pointRows_append]
    split
    · rename_i here
      rw [List.pairwise_append]
      refine ⟨inv.ordered lightPointId, List.pairwise_singleton .., ?_⟩
      intro earlier present later last
      rw [List.mem_singleton.mp last]
      obtain ⟨recorded, there⟩ := List.mem_filter.mp present
      obtain ⟨entry, listed, same⟩ := List.mem_map.mp recorded
      exact latest.last lightPointId here earlier (same ▸ member entry listed) (of_decide_eq_true there)
    · rw [List.append_nil]
      exact inv.ordered lightPointId
  · intro earlier before later here same some
    rcases List.mem_append.mp here with recorded | last
    · exact inv.follows earlier before later recorded same some
    · rw [List.mem_singleton.mp last] at same some ⊢
      obtain ⟨lightPointId, known⟩ := Option.ne_none_iff_exists'.mp some
      apply latest.last lightPointId known earlier
      · rw [inv.history]
        exact List.mem_append_left _ before
      · exact same.trans known
  · intro recorded here
    have kept : summaryOf (s.history ++ [report]) recorded.1.target recorded.1.submittedAt =
        summaryOf s.history recorded.1.target recorded.1.submittedAt := by
      apply summaryOf_append
      intro lightPointId mine known
      rcases List.mem_append.mp here with before | last
      · exact Int.le_of_lt (latest.last lightPointId known recorded.1 (member recorded before) mine)
      · cases List.mem_singleton.mp last
        exact Int.le_refl _
    change recorded.2 = summaryOf (s.history ++ [report]) recorded.1.target recorded.1.submittedAt ∧
      recorded.1.automaticNotes =
        notesOf formatOperatorTimestamp (s.history ++ [report]) recorded.1.target recorded.1.submittedAt
    rw [notesOf, kept]
    rcases List.mem_append.mp here with before | last
    · exact inv.noted recorded before
    · rw [List.mem_singleton.mp last]
      exact ⟨summarized, noted⟩
  · intro lightPointId
    change pointRows lightPointId (s.history ++ [report]) = serially formatOperatorTimestamp
      (pointRows lightPointId old) (pointRows lightPointId ((s.recorded ++ [(report, summary)]).map (·.1)))
    rw [rows, pointRows_append, pointRows_append]
    split
    · rename_i here
      exact serially_append here (inv.serial lightPointId) noted
    · rw [List.append_nil, List.append_nil]
      exact inv.serial lightPointId

variable {options : FormOptions}

theorem inv_step (inv : Inv formatOperatorTimestamp old s) {label : Label}
    (taken : steps options findCoordinates classifyArea formatOperatorTimestamp s label t) :
    Inv formatOperatorTimestamp old t := by
  unfold steps at taken
  cases label with
  | recordSubmission call input =>
      simp only [step] at taken
      split at taken
      · split at taken
        · cases taken
          exact inv_setCall inv (Int.le_refl _) (fun _ _ _ held => held) nofun trivial
        · cases taken
          exact inv_setCall inv (Int.le_refl _) (fun _ _ _ held => held) nofun trivial
      · cases taken
  | resolveTarget call =>
      simp only [step] at taken
      split at taken
      · exact inv_resolveTarget inv taken
      · cases taken
  | stamp call elapsed =>
      simp only [step] at taken
      split at taken
      · rename_i submission target here
        cases taken
        have holds := inv.held call
        rw [here] at holds
        have later : s.now < s.now + elapsed + 1 := by omega
        refine inv_setCall inv (Int.le_of_lt later) (fun _ _ _ held => held) ?_ ⟨Int.le_refl _, ?_⟩
        · exact holds
        intro lightPointId _ report member _
        exact Int.lt_of_le_of_lt (inv.past report member) later
      · cases taken
  | summarize call =>
      simp only [step] at taken
      split at taken
      · rename_i submission target submittedAt here
        cases taken
        have holds := inv.held call
        have ready := inv.ready call
        rw [here] at holds ready
        exact inv_setCall inv (Int.le_refl _) (fun _ _ _ held => held) holds ⟨ready, rfl⟩
      · cases taken
  | insert call =>
      simp only [step] at taken
      split at taken
      · rename_i submission target submittedAt summary here
        cases taken
        have holds := inv.held call
        have ready := inv.ready call
        rw [here] at holds ready
        refine inv_setCall inv (Int.le_refl _) (fun _ _ _ held => held) ?_ ⟨ready.1, ready.2, ?_⟩
        · exact holds
        · rw [ready.2]
          rfl
      · cases taken
  | commit call =>
      simp only [step] at taken
      split at taken
      · rename_i report summary here
        cases taken
        exact inv_commit inv here
      · cases taken
  | rollback call =>
      simp only [step] at taken
      split at taken
      · cases taken
        exact inv_rollback inv call
      · cases taken

/-- Before the first of the submissions. -/
structure Initial (old : List FaultReport) (s : State) : Prop where
  idle : ∀ call, s.calls call = .idle
  unlocked : ∀ lightPointId, s.locks lightPointId = none
  history : s.history = old
  recorded : s.recorded = []
  past : ∀ report ∈ old, report.submittedAt ≤ s.now

theorem Initial.inv (start : Initial old s) : Inv formatOperatorTimestamp old s where
  held call lightPointId here := by
    rw [start.idle call] at here
    cases here
  history := by
    rw [start.history, start.recorded, List.map_nil, List.append_nil]
  past := by
    rw [start.history]
    exact start.past
  ready call := by
    rw [start.idle call]
    trivial
  ordered lightPointId := by
    rw [start.recorded]
    exact List.Pairwise.nil
  follows earlier before later here := by
    rw [start.recorded] at here
    cases here
  noted recorded here := by
    rw [start.recorded] at here
    cases here
  serial lightPointId := by
    rw [start.history, start.recorded]
    rfl

/-- The committed reports of a light point from a number of hours before a time up to it. -/
def reportsSince (history : List FaultReport) (lightPointId : LightPointId) (hours : Int) (submittedAt : Int) :
    List FaultReport :=
  history.filter fun report => report.lightPointId = some lightPointId ∧
    submittedAt - hours * hour ≤ report.submittedAt ∧ report.submittedAt < submittedAt

theorem recurringCount_eq (history : List FaultReport) (lightPointId : LightPointId) (submittedAt : Int) :
    (faultHistorySummary history lightPointId submittedAt).recurringCount =
      (reportsSince history lightPointId 720 submittedAt).length := by
  change (previousFaults history lightPointId submittedAt).countP _ = _
  apply List.countP_eq_length.mpr
  intro report member
  have inside := of_decide_eq_true (List.mem_filter.mp member).2
  exact decide_eq_true inside.2.1

theorem recentCount_eq (history : List FaultReport) (lightPointId : LightPointId) (submittedAt : Int) :
    (faultHistorySummary history lightPointId submittedAt).recentCount =
      (reportsSince history lightPointId 72 submittedAt).length := by
  change (previousFaults history lightPointId submittedAt).countP _ = _
  rw [List.countP_eq_length_filter, previousFaults, List.filter_filter, reportsSince]
  congr 1
  apply List.filter_congr
  intro report _
  have wider : submittedAt - 720 * hour ≤ submittedAt - 72 * hour := by
    have positive : 0 < hour := by decide
    omega
  rw [← Bool.decide_and, decide_eq_decide]
  constructor
  · intro ⟨recent, here, _, before⟩
    exact ⟨here, recent, before⟩
  · intro ⟨here, recent, before⟩
    exact ⟨recent, here, Int.le_trans wider recent, before⟩

/-- What concurrent submissions have committed since a history. -/
structure Serializable (formatOperatorTimestamp : Int → String) (old : List FaultReport) (s : State) : Prop where
  history : s.history = old ++ s.recorded.map (·.1)
  ordered : ∀ lightPointId, (pointRows lightPointId (s.recorded.map (·.1))).Pairwise fun earlier later =>
    earlier.submittedAt < later.submittedAt
  follows : ∀ earlier ∈ old, ∀ later ∈ s.recorded, earlier.lightPointId = later.1.lightPointId →
    later.1.lightPointId ≠ none → earlier.submittedAt < later.1.submittedAt
  serial : ∀ lightPointId, pointRows lightPointId s.history =
    serially formatOperatorTimestamp (pointRows lightPointId old)
      (pointRows lightPointId (s.recorded.map (·.1)))
  counted : ∀ report summary lightPointId, (report, summary) ∈ s.recorded →
    report.lightPointId = some lightPointId →
      summary.recentCount = (reportsSince s.history lightPointId 72 report.submittedAt).length ∧
      summary.recurringCount = (reportsSince s.history lightPointId 720 report.submittedAt).length ∧
      summary.latestPreviousAt =
        ((reportsSince s.history lightPointId 720 report.submittedAt).map (·.submittedAt)).max? ∧
      report.automaticNotes = buildAutomaticFaultNotes formatOperatorTimestamp summary
        (dateOf report.submittedAt) (some lightPointId)

theorem Inv.serializable (inv : Inv formatOperatorTimestamp old s) :
    Serializable formatOperatorTimestamp old s where
  history := inv.history
  ordered := inv.ordered
  follows := inv.follows
  serial := inv.serial
  counted report summary lightPointId recorded here := by
    obtain ⟨summarized, noted⟩ := inv.noted (report, summary) recorded
    have point : report.target.point = some lightPointId := here
    have read : summaryOf s.history report.target report.submittedAt =
        faultHistorySummary s.history lightPointId report.submittedAt := by
      unfold summaryOf
      simp only [point]
    simp only [notesOf, read, point] at summarized noted
    rw [summarized]
    exact ⟨recentCount_eq .., recurringCount_eq .., rfl, noted⟩

/-- Summaries of recurring faults are serializable, however the submissions interleave. -/
theorem recurrence_serializable (start : Initial old s) {labels : List Label}
    (run : Run (steps options findCoordinates classifyArea formatOperatorTimestamp) s labels t) :
    Serializable formatOperatorTimestamp old t := by
  have inv : Inv formatOperatorTimestamp old t :=
    run.invariant (fun _ _ _ inv taken => inv_step inv taken) start.inv
  exact inv.serializable

def oneLamp : FaultHistorySubmissionInput :=
  ⟨none, "Juh", none, none, none, none, .lightPoint 7⟩

def emptyDatabase : State := ⟨0, fun _ => none, [], 1, fun _ => .idle, []⟩

def twoReports : List Label :=
  [.recordSubmission 0 oneLamp, .recordSubmission 1 oneLamp, .resolveTarget 0, .stamp 0 5, .summarize 0, .insert 0,
    .commit 0, .resolveTarget 1, .stamp 1 5, .summarize 1, .insert 1, .commit 1]

theorem twoReports_serializable : ∃ s : State, Run (steps ⟨["Juh"], [], []⟩ (fun _ => some (48, 21))
    (fun _ _ => .inside) toString) emptyDatabase twoReports s ∧
      Serializable toString [] s ∧ s.history.map (·.automaticNotes.length) = [0, 1] := by
  have replayed : (twoReports.foldlM (step ⟨["Juh"], [], []⟩ (fun _ => some (48, 21)) (fun _ _ => .inside) toString)
      emptyDatabase).any (fun s => s.history.map (·.automaticNotes.length) = [0, 1]) = true := by decide +kernel
  obtain ⟨s, folded, noted⟩ := (Option.any_eq_true _ _).mp replayed
  have run : Run (steps ⟨["Juh"], [], []⟩ (fun _ => some (48, 21)) (fun _ _ => .inside) toString) emptyDatabase
      twoReports s := .of_foldlM folded
  exact ⟨s, run, recurrence_serializable ⟨fun _ => rfl, fun _ => rfl, rfl, rfl, nofun⟩ run, of_decide_eq_true noted⟩

end PublicLighting.ReportSubmission.Recurrence
