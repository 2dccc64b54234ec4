import Mathlib.Data.List.Nodup
import Mathlib.Tactic.Common
import Mathlib.Tactic.IntervalCases

/-! The scheduler's journal and what it says of each backup slot.

Times are milliseconds since the epoch. `toISOString` and `Date.parse` are inverse
to each other on them, so a timestamp text is modelled by the value it spells. -/

namespace PublicLighting.BackupScheduler

abbrev RunId := String

def backupScheduleUtcHours : List Nat := [0, 6, 12, 18]
def backupRetryDelayMs : Nat := 15 * 60 * 1000
def backupMaxAttemptsPerSlot : Nat := 2

def msPerHour : Nat := 60 * 60 * 1000
def msPerDay : Nat := 24 * msPerHour

/-- `Date.prototype.getUTCHours`. -/
def utcHours (now : Nat) : Nat := now % msPerDay / msPerHour

/-- `setUTCHours(hour, 0, 0, 0)`. -/
def setUtcHours (now : Nat) (hour : Nat) : Nat := now / msPerDay * msPerDay + hour * msPerHour

def latestDueBackupSlot (now : Nat) : Except String Nat :=
  match backupScheduleUtcHours.reverse.find? (· ≤ utcHours now) with
  | none => .error "scheduler_slot_not_found"
  | some hour => .ok (setUtcHours now hour)

inductive BackupState
  | complete
  | skippedOverlapping
  | blockedByMigration
  | preflightRejected
  | incomplete
  deriving DecidableEq, Repr

/-- The members of `BackupResult` that the scheduler reads. -/
structure BackupResult where
  runId : RunId
  state : BackupState
  exitCode : Int
  reasonCode : String
  deriving DecidableEq, Repr

structure AttemptStarted where
  slotId : Nat
  attempt : Nat
  runId : RunId
  startedAtUtc : Nat
  deriving DecidableEq, Repr

structure AttemptFinished where
  slotId : Nat
  attempt : Nat
  runId : RunId
  finishedAtUtc : Nat
  state : BackupState
  exitCode : Int
  reasonCode : String
  retryAtUtc : Option Nat
  backupResult : Option BackupResult
  deriving DecidableEq, Repr

inductive SchedulerJournalEvent
  | started (event : AttemptStarted)
  | finished (event : AttemptFinished)
  deriving DecidableEq, Repr

namespace SchedulerJournalEvent

def slotId : SchedulerJournalEvent → Nat
  | started event => event.slotId
  | finished event => event.slotId

def runId : SchedulerJournalEvent → RunId
  | started event => event.runId
  | finished event => event.runId

def started? : SchedulerJournalEvent → Option AttemptStarted
  | started event => some event
  | finished _ => none

def finished? : SchedulerJournalEvent → Option AttemptFinished
  | started _ => none
  | finished event => some event

end SchedulerJournalEvent

abbrev Journal := List SchedulerJournalEvent

def isRetryable (state : BackupState) : Bool := state == .incomplete || state == .blockedByMigration

def starts (events : Journal) : List AttemptStarted := events.filterMap (·.started?)

def finishes (events : Journal) : List AttemptFinished := events.filterMap (·.finished?)

@[simp] theorem starts_append (events more : Journal) :
    starts (events ++ more) = starts events ++ starts more := List.filterMap_append

@[simp] theorem finishes_append (events more : Journal) :
    finishes (events ++ more) = finishes events ++ finishes more := List.filterMap_append

@[simp] theorem starts_started (event : AttemptStarted) : starts [.started event] = [event] := rfl

@[simp] theorem starts_finished (event : AttemptFinished) : starts [.finished event] = [] := rfl

@[simp] theorem finishes_started (event : AttemptStarted) : finishes [.started event] = [] := rfl

@[simp] theorem finishes_finished (event : AttemptFinished) :
    finishes [.finished event] = [event] := rfl

def finishedForSlot (events : Journal) (slotId : Nat) : List AttemptFinished :=
  (finishes events).filter fun event => event.slotId == slotId

def startedWithoutFinish (events : Journal) : List AttemptStarted :=
  (starts events).filter fun event => event.runId ∉ (finishes events).map (·.runId)

/-- What a later invocation appends for an attempt that it finds unfinished. -/
def reconcile (abandoned : AttemptStarted) (now : Nat) : AttemptFinished where
  slotId := abandoned.slotId
  attempt := abandoned.attempt
  runId := abandoned.runId
  finishedAtUtc := now
  state := .incomplete
  exitCode := 1
  reasonCode := "scheduler_crash_reconciled"
  retryAtUtc :=
    if abandoned.attempt < backupMaxAttemptsPerSlot then
      some (abandoned.startedAtUtc + backupRetryDelayMs) else none
  backupResult := none

/-- What the attempt itself appends. `none` is an `executeBackup` that threw, and a
result that names another run counts as one. -/
def finish (start : AttemptStarted) (now : Nat) (answer : Option BackupResult) : AttemptFinished :=
  let result := answer.filter fun result => result.runId == start.runId
  let state := (result.map (·.state)).getD .incomplete
  { slotId := start.slotId
    attempt := start.attempt
    runId := start.runId
    finishedAtUtc := now
    state := state
    exitCode := (result.map (·.exitCode)).getD 1
    reasonCode := (result.map (·.reasonCode)).getD "scheduler_executor_failed"
    retryAtUtc :=
      if start.attempt < backupMaxAttemptsPerSlot ∧ isRetryable state then
        some (now + backupRetryDelayMs) else none
    backupResult := result }

inductive Decision
  | alreadyFinal (state : BackupState) (exitCode : Int)
  | retryNotDue (state : BackupState) (retryAtUtc : Nat)
  | attempt (number : Nat)
  deriving DecidableEq, Repr

def dueDecision (events : Journal) (slotId dueNow : Nat) : Decision :=
  match (finishedForSlot events slotId).getLast? with
  | none => .attempt 1
  | some latest =>
      if latest.state = .complete ∨ backupMaxAttemptsPerSlot ≤ latest.attempt ∨
          isRetryable latest.state = false then
        .alreadyFinal latest.state latest.exitCode
      else
        let retryAt := latest.retryAtUtc.getD (latest.finishedAtUtc + backupRetryDelayMs)
        if dueNow < retryAt then .retryNotDue latest.state retryAt else .attempt (latest.attempt + 1)

/-- `/^[a-f0-9-]{16,64}$/i`. -/
def validRunId (runId : RunId) : Bool :=
  runId.toList.all (fun c => c.isDigit || c == '-' || ('a' ≤ c && c ≤ 'f') || ('A' ≤ c && c ≤ 'F')) &&
    16 ≤ runId.toList.length && runId.toList.length ≤ 64

theorem latestDueBackupSlot_eq (now : Nat) :
    latestDueBackupSlot now = .ok (now - now % (6 * msPerHour)) := by
  have hours : utcHours now < 24 := by
    unfold utcHours msPerDay msPerHour
    omega
  have found : backupScheduleUtcHours.reverse.find? (· ≤ utcHours now) =
      some (utcHours now / 6 * 6) := by
    generalize utcHours now = hour at hours ⊢
    interval_cases hour <;> rfl
  have slot : setUtcHours now (utcHours now / 6 * 6) = now - now % (6 * msPerHour) := by
    simp only [setUtcHours, utcHours, msPerDay, msPerHour]
    omega
  rw [latestDueBackupSlot, found, ← slot]

/-! The journal, slot by slot. -/

section Journal

def slotEvents (events : Journal) (slotId : Nat) : Journal :=
  events.filter fun event => event.slotId == slotId

/-- The two ways in which a started attempt comes to its `attempt_finished`. -/
inductive Answers (start : AttemptStarted) : AttemptFinished → Prop
  | reconciled (now : Nat) : Answers start (reconcile start now)
  | finished (now : Nat) (answer : Option BackupResult) : Answers start (finish start now answer)

/-- The second attempt starts after a retryable first one, and not before its retry time. -/
structure Retries (first : AttemptFinished) (start : AttemptStarted) : Prop where
  attempt : start.attempt = 2
  retryable : isRetryable first.state = true
  due : first.retryAtUtc.getD (first.finishedAtUtc + backupRetryDelayMs) ≤ start.startedAtUtc

/-- All that a journal can say about one slot. -/
inductive SlotHistory : Journal → Prop
  | untouched : SlotHistory []
  | first {start : AttemptStarted} : start.attempt = 1 → SlotHistory [.started start]
  | firstFinished {start : AttemptStarted} {event : AttemptFinished} :
      start.attempt = 1 → Answers start event → SlotHistory [.started start, .finished event]
  | second {start again : AttemptStarted} {event : AttemptFinished} :
      start.attempt = 1 → Answers start event → Retries event again →
      SlotHistory [.started start, .finished event, .started again]
  | secondFinished {start again : AttemptStarted} {event last : AttemptFinished} :
      start.attempt = 1 → Answers start event → Retries event again → Answers again last →
      SlotHistory [.started start, .finished event, .started again, .finished last]

theorem Answers.runId {start : AttemptStarted} {event : AttemptFinished}
    (answers : Answers start event) : event.runId = start.runId := by
  cases answers <;> rfl

theorem Answers.slotId {start : AttemptStarted} {event : AttemptFinished}
    (answers : Answers start event) : event.slotId = start.slotId := by
  cases answers <;> rfl

theorem Answers.attempt {start : AttemptStarted} {event : AttemptFinished}
    (answers : Answers start event) : event.attempt = start.attempt := by
  cases answers <;> rfl

structure JournalInv (events : Journal) : Prop where
  histories : ∀ slotId, SlotHistory (slotEvents events slotId)
  startIds : ((starts events).map (·.runId)).Nodup
  finishIds : ((finishes events).map (·.runId)).Nodup

theorem mem_starts {events : Journal} {start : AttemptStarted} :
    start ∈ starts events ↔ .started start ∈ events := by
  rw [starts, List.mem_filterMap]
  constructor
  · rintro ⟨event, member, same⟩
    cases event with
    | started event => cases same; exact member
    | finished event => cases same
  · exact fun member => ⟨_, member, rfl⟩

theorem mem_finishes {events : Journal} {event : AttemptFinished} :
    event ∈ finishes events ↔ .finished event ∈ events := by
  rw [finishes, List.mem_filterMap]
  constructor
  · rintro ⟨event, member, same⟩
    cases event with
    | started event => cases same
    | finished event => cases same; exact member
  · exact fun member => ⟨_, member, rfl⟩

theorem mem_slotEvents {events : Journal} {event : SchedulerJournalEvent} {slotId : Nat} :
    event ∈ slotEvents events slotId ↔ event ∈ events ∧ event.slotId = slotId := by
  rw [slotEvents, List.mem_filter, beq_iff_eq]

theorem mem_startedWithoutFinish {events : Journal} {start : AttemptStarted} :
    start ∈ startedWithoutFinish events ↔
      .started start ∈ events ∧ ∀ event, .finished event ∈ events → event.runId ≠ start.runId := by
  simp only [startedWithoutFinish, List.mem_filter, mem_starts, decide_eq_true_eq, List.mem_map,
    mem_finishes, not_exists, not_and, ne_eq]

theorem finishedForSlot_eq (events : Journal) (slotId : Nat) :
    finishedForSlot events slotId = finishes (slotEvents events slotId) := by
  rw [finishedForSlot, finishes, finishes, slotEvents, List.filter_filterMap, List.filterMap_filter]
  congr 1
  funext event
  cases event with
  | started event => simp [SchedulerJournalEvent.finished?]
  | finished event =>
      by_cases same : event.slotId = slotId <;>
        simp [Option.filter, SchedulerJournalEvent.slotId, SchedulerJournalEvent.finished?, same]

theorem slotEvents_append (events : Journal) (event : SchedulerJournalEvent) (slotId : Nat) :
    slotEvents (events ++ [event]) slotId =
      if event.slotId = slotId then slotEvents events slotId ++ [event]
      else slotEvents events slotId := by
  by_cases same : event.slotId = slotId <;> simp [slotEvents, same]

theorem startedWithoutFinish_started {events : Journal} {start : AttemptStarted}
    (fresh : start.runId ∉ events.map (·.runId)) :
    startedWithoutFinish (events ++ [.started start]) = startedWithoutFinish events ++ [start] := by
  have kept : start.runId ∉ (finishes events).map (·.runId) := by
    intro member
    obtain ⟨event, inside, same⟩ := List.mem_map.mp member
    exact fresh (List.mem_map.mpr ⟨_, mem_finishes.mp inside, same⟩)
  rw [startedWithoutFinish, starts_append, finishes_append, finishes_started, List.append_nil,
    List.filter_append, startedWithoutFinish, starts_started]
  exact congrArg _ (List.filter_eq_self.mpr (by simpa using kept))

theorem startedWithoutFinish_finished (events : Journal) (event : AttemptFinished) :
    startedWithoutFinish (events ++ [.finished event]) =
      (startedWithoutFinish events).filter fun start => start.runId ≠ event.runId := by
  rw [startedWithoutFinish, starts_append, finishes_append, starts_finished, finishes_finished,
    List.append_nil, startedWithoutFinish, List.filter_filter]
  apply List.filter_congr
  intro start _
  rw [Bool.eq_iff_iff]
  simp only [List.map_append, List.map_cons, List.map_nil, decide_eq_true_eq, List.mem_append,
    List.mem_singleton, Bool.and_eq_true, not_or, ne_eq, and_comm]

variable {events : Journal}

theorem JournalInv.sameStart (inv : JournalInv events) {one other : AttemptStarted}
    (first : .started one ∈ events) (second : .started other ∈ events)
    (same : one.runId = other.runId) : one = other :=
  List.inj_on_of_nodup_map inv.startIds (mem_starts.mpr first) (mem_starts.mpr second) same

theorem SlotHistory.answered {history : Journal} (shape : SlotHistory history)
    {event : AttemptFinished} (member : .finished event ∈ history) :
    ∃ start, .started start ∈ history ∧ Answers start event := by
  cases shape with
  | untouched => cases member
  | first _ => simp at member
  | @firstFinished start done _ answers =>
      simp only [List.mem_cons, reduceCtorEq, SchedulerJournalEvent.finished.injEq,
        List.not_mem_nil, or_false, false_or] at member
      exact ⟨start, by simp, member ▸ answers⟩
  | @second start again done _ answers _ =>
      simp only [List.mem_cons, reduceCtorEq, SchedulerJournalEvent.finished.injEq,
        List.not_mem_nil, or_false, false_or] at member
      exact ⟨start, by simp, member ▸ answers⟩
  | @secondFinished start again done last _ answers _ closes =>
      simp only [List.mem_cons, reduceCtorEq, SchedulerJournalEvent.finished.injEq,
        List.not_mem_nil, or_false, false_or] at member
      rcases member with same | same
      · exact ⟨start, by simp, same ▸ answers⟩
      · exact ⟨again, by simp, same ▸ closes⟩

theorem SlotHistory.append_finished {history : Journal} (shape : SlotHistory history)
    {start : AttemptStarted} {event : AttemptFinished} (member : .started start ∈ history)
    (unfinished : ∀ done, .finished done ∈ history → done.runId ≠ start.runId)
    (answers : Answers start event) : SlotHistory (history ++ [.finished event]) := by
  cases shape with
  | untouched => cases member
  | first attempt =>
      simp only [List.mem_singleton, SchedulerJournalEvent.started.injEq] at member
      subst member
      exact .firstFinished attempt answers
  | @firstFinished one done attempt before =>
      simp only [List.mem_cons, reduceCtorEq, SchedulerJournalEvent.started.injEq,
        List.not_mem_nil, or_false] at member
      subst member
      exact absurd before.runId (unfinished done (by simp))
  | @second one again done attempt before retries =>
      simp only [List.mem_cons, reduceCtorEq, SchedulerJournalEvent.started.injEq,
        List.not_mem_nil, or_false, false_or] at member
      rcases member with rfl | rfl
      · exact absurd before.runId (unfinished done (by simp))
      · exact .secondFinished attempt before retries answers
  | @secondFinished one again done last attempt before retries closes =>
      simp only [List.mem_cons, reduceCtorEq, SchedulerJournalEvent.started.injEq,
        List.not_mem_nil, or_false, false_or] at member
      rcases member with rfl | rfl
      · exact absurd before.runId (unfinished done (by simp))
      · exact absurd closes.runId (unfinished last (by simp))

/-- Every `attempt_finished` of the journal answers an `attempt_started` of it. -/
theorem JournalInv.answered (inv : JournalInv events) {event : AttemptFinished}
    (member : .finished event ∈ events) :
    ∃ start, .started start ∈ events ∧ Answers start event := by
  have inside : .finished event ∈ slotEvents events event.slotId :=
    mem_slotEvents.mpr ⟨member, rfl⟩
  obtain ⟨start, found, answers⟩ := (inv.histories event.slotId).answered inside
  exact ⟨start, (mem_slotEvents.mp found).1, answers⟩

theorem JournalInv.append_finished (inv : JournalInv events) {start : AttemptStarted}
    {event : AttemptFinished} (unfinished : start ∈ startedWithoutFinish events)
    (answers : Answers start event) : JournalInv (events ++ [.finished event]) := by
  obtain ⟨member, fresh⟩ := mem_startedWithoutFinish.mp unfinished
  exact {
    histories := by
      intro slotId
      rw [slotEvents_append]
      split
      · rename_i same
        rw [SchedulerJournalEvent.slotId, answers.slotId] at same
        exact (inv.histories slotId).append_finished (mem_slotEvents.mpr ⟨member, same⟩)
          (fun done found => fresh done (mem_slotEvents.mp found).1) answers
      · exact inv.histories slotId
    startIds := by
      simpa only [starts_append, starts_finished, List.append_nil] using inv.startIds
    finishIds := by
      rw [finishes_append, finishes_finished, List.map_append, List.map_singleton, List.nodup_append]
      refine ⟨inv.finishIds, List.nodup_singleton _, ?_⟩
      intro runId before other last
      obtain ⟨done, found, rfl⟩ := List.mem_map.mp before
      rw [List.mem_singleton.mp last, answers.runId]
      exact fresh done (mem_finishes.mp found) }

theorem JournalInv.append_started (inv : JournalInv events) {start : AttemptStarted}
    (fresh : start.runId ∉ events.map (·.runId))
    (shape : SlotHistory (slotEvents events start.slotId ++ [.started start])) :
    JournalInv (events ++ [.started start]) where
  histories := by
    intro slotId
    rw [slotEvents_append]
    split
    · rename_i same
      rw [← same]
      exact shape
    · exact inv.histories slotId
  startIds := by
    rw [starts_append, starts_started, List.map_append, List.map_singleton, List.nodup_append]
    refine ⟨inv.startIds, List.nodup_singleton _, ?_⟩
    intro runId before other last same
    obtain ⟨earlier, found, rfl⟩ := List.mem_map.mp before
    rw [List.mem_singleton.mp last] at same
    exact fresh (List.mem_map.mpr ⟨_, mem_starts.mp found, same⟩)
  finishIds := by
    simpa only [finishes_append, finishes_started, List.append_nil] using inv.finishIds

theorem startedWithoutFinish_answered (inv : JournalInv events) {start : AttemptStarted}
    {rest : List AttemptStarted} {event : AttemptFinished}
    (unfinished : startedWithoutFinish events = start :: rest) (answers : Answers start event) :
    startedWithoutFinish (events ++ [.finished event]) = rest := by
  rw [startedWithoutFinish_finished, unfinished, answers.runId]
  have distinct : ((startedWithoutFinish events).map (·.runId)).Nodup :=
    inv.startIds.sublist (List.filter_sublist.map _)
  rw [unfinished, List.map_cons, List.nodup_cons] at distinct
  rw [List.filter_cons_of_neg (by simp), List.filter_eq_self]
  intro other member
  rw [decide_eq_true_eq]
  exact fun same => distinct.1 (List.mem_map.mpr ⟨other, member, same⟩)

theorem JournalInv.decided (inv : JournalInv events) {slotId dueNow now number : Nat} {runId : RunId}
    (settled : startedWithoutFinish events = []) (after : dueNow ≤ now)
    (decision : dueDecision events slotId dueNow = .attempt number) :
    SlotHistory (slotEvents events slotId ++ [.started ⟨slotId, number, runId, now⟩]) := by
  have finished : ∀ start, .started start ∈ slotEvents events slotId →
      ∃ event, .finished event ∈ slotEvents events slotId ∧ Answers start event := by
    intro start member
    obtain ⟨inside, slot⟩ := mem_slotEvents.mp member
    by_contra open_
    have unfinished : start ∈ startedWithoutFinish events := by
      refine mem_startedWithoutFinish.mpr ⟨inside, fun event found same => open_ ?_⟩
      obtain ⟨other, present, answers⟩ := inv.answered found
      cases inv.sameStart present inside (answers.runId.symm.trans same)
      exact ⟨event, mem_slotEvents.mpr ⟨found, answers.slotId.trans slot⟩, answers⟩
    rw [settled] at unfinished
    cases unfinished
  rw [dueDecision, finishedForSlot_eq] at decision
  have shape := inv.histories slotId
  generalize slotEvents events slotId = history at *
  cases shape with
  | untouched =>
      cases decision
      exact .first rfl
  | @first start _ =>
      obtain ⟨event, member, _⟩ := finished start (by simp)
      simp at member
  | @firstFinished start event attempt answers =>
      have last : (finishes [.started start, .finished event]).getLast? = some event := rfl
      simp only [last] at decision
      split at decision
      · cases decision
      · rename_i retry
        simp only [not_or] at retry
        split at decision <;> cases decision
        rename_i due
        refine .second attempt answers ⟨?_, ?_, ?_⟩
        · rw [answers.attempt, attempt]
        · simpa using retry.2.2
        · exact (Nat.le_of_not_lt due).trans after
  | @second start again event attempt answers retries =>
      obtain ⟨done, member, closes⟩ := finished again (by simp)
      simp at member
      subst member
      have number := retries.attempt
      have one := answers.attempt
      have two := closes.attempt
      omega
  | @secondFinished start again event last attempt answers retries closes =>
      have latest : (finishes [.started start, .finished event, .started again,
        .finished last]).getLast? = some last := rfl
      have two : backupMaxAttemptsPerSlot ≤ last.attempt := by
        rw [closes.attempt, retries.attempt]
        rfl
      simp only [latest, two, true_or, or_true, if_true] at decision
      cases decision

end Journal

end PublicLighting.BackupScheduler
