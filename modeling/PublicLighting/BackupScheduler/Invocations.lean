import Mathlib.Data.List.Perm.Subperm
import PublicLighting.Foundations.Runs
import PublicLighting.BackupScheduler.Journal

/-! Scheduler invocations under one advisory lock, with a crash or a thrown error
possible at every `await`. -/

namespace PublicLighting.BackupScheduler

open Foundations

abbrev InvocationId := Nat

inductive SchedulerInvocation
  | attempted (slot : Nat) (event : AttemptFinished)
  | alreadyFinal (slot : Nat) (state : BackupState) (exitCode : Int)
  | skippedOverlapping (slot : Nat)
  | retryNotDue (slot : Nat) (state : BackupState) (retryAtUtc : Nat)
  deriving DecidableEq, Repr

/-- The `await` at which an invocation stands. -/
inductive Invocation
  | idle
  | locking (slot : Nat)
  | reading
  | reconciling (abandoned : AttemptStarted) (event : AttemptFinished) (rest : List AttemptStarted)
  | deciding (slot dueNow : Nat)
  | starting (start : AttemptStarted)
  | executing (start : AttemptStarted)
  | running (start : AttemptStarted)
  | finishing (start : AttemptStarted) (event : AttemptFinished)
  | releasing (outcome : Except String SchedulerInvocation)
  | ended (outcome : Except String SchedulerInvocation)
  | crashed

/-- `append` may throw with its event stored (a failed `fsync`) or without. -/
inductive AppendAnswer
  | returned
  | threw (stored : Bool) (error : String)
  deriving DecidableEq, Repr

/-- A started `executeBackup`, kept beside the journal: no code reads it. -/
structure Execution where
  start : AttemptStarted
  time : Nat
  deriving DecidableEq, Repr

structure State where
  now : Nat
  journal : Journal
  lock : Option InvocationId
  invocations : InvocationId → Invocation
  executions : List Execution

inductive Label
  | tick
  | invoke (id : InvocationId)
  | acquireLock (id : InvocationId)
  | lockFailed (id : InvocationId) (error : String)
  | readEvents (id : InvocationId)
  | appendReconciled (id : InvocationId) (answer : AppendAnswer)
  | decide (id : InvocationId) (runId : RunId)
  | readFailed (id : InvocationId) (error : String)
  | appendStarted (id : InvocationId) (answer : AppendAnswer)
  | executeBackup (id : InvocationId)
  | backupSettled (id : InvocationId) (answer : Option BackupResult)
  | appendFinished (id : InvocationId) (answer : AppendAnswer)
  | release (id : InvocationId) (confirmed : Bool)
  | crash (id : InvocationId)
  deriving DecidableEq, Repr

def State.setInvocation (s : State) (id : InvocationId) (next : Invocation) : State :=
  { s with invocations := Function.update s.invocations id next }

/-- `journal.append(event)`, after which the invocation goes on to `next`. -/
def State.append (s : State) (id : InvocationId) (event : SchedulerJournalEvent)
    (next : Invocation) : AppendAnswer → State
  | .returned => { s with journal := s.journal ++ [event] }.setInvocation id next
  | .threw true error =>
      { s with journal := s.journal ++ [event] }.setInvocation id (.releasing (.error error))
  | .threw false error => s.setInvocation id (.releasing (.error error))

/-- The lock ends with its session, so a crash and a discarded client give it back too. -/
def State.unlock (s : State) (id : InvocationId) : State :=
  { s with lock := if s.lock = some id then none else s.lock }

/-- The reconciliation loop up to its next `append`, or past its end to the second read. -/
def reconcileNext (now : Nat) : List AttemptStarted → Invocation
  | abandoned :: rest => .reconciling abandoned (reconcile abandoned now) rest
  | [] =>
      match latestDueBackupSlot now with
      | .ok slot => .deciding slot now
      | .error error => .releasing (.error error)

/-- From the second read to the next `append`. -/
def decideNext (events : Journal) (slot dueNow now : Nat) (runId : RunId) : Invocation :=
  match dueDecision events slot dueNow with
  | .alreadyFinal state exitCode => .releasing (.ok (.alreadyFinal slot state exitCode))
  | .retryNotDue state retryAt => .releasing (.ok (.retryNotDue slot state retryAt))
  | .attempt number =>
      if validRunId runId then .starting ⟨slot, number, runId, now⟩
      else .releasing (.error "scheduler_run_id_invalid")

def step (s : State) : Label → Option State
  | .tick => some { s with now := s.now + 1 }
  | .invoke id =>
      match s.invocations id with
      | .idle =>
          match latestDueBackupSlot s.now with
          | .ok slot => some (s.setInvocation id (.locking slot))
          | .error error => some (s.setInvocation id (.ended (.error error)))
      | _ => none
  | .acquireLock id =>
      match s.invocations id with
      | .locking slot =>
          if s.lock = none then some ({ s with lock := some id }.setInvocation id .reading)
          else some (s.setInvocation id (.ended (.ok (.skippedOverlapping slot))))
      | _ => none
  | .lockFailed id error =>
      match s.invocations id with
      | .locking _ => some (s.setInvocation id (.ended (.error error)))
      | _ => none
  | .readEvents id =>
      match s.invocations id with
      | .reading => some (s.setInvocation id (reconcileNext s.now (startedWithoutFinish s.journal)))
      | _ => none
  | .appendReconciled id answer =>
      match s.invocations id with
      | .reconciling _ event rest =>
          some (s.append id (.finished event) (reconcileNext s.now rest) answer)
      | _ => none
  | .decide id runId =>
      match s.invocations id with
      | .deciding slot dueNow =>
          -- Run ids are random, so one that the journal already knows is never drawn.
          if runId ∈ s.journal.map (·.runId) then none else
            some (s.setInvocation id (decideNext s.journal slot dueNow s.now runId))
      | _ => none
  | .readFailed id error =>
      match s.invocations id with
      | .reading => some (s.setInvocation id (.releasing (.error error)))
      | .deciding _ _ => some (s.setInvocation id (.releasing (.error error)))
      | _ => none
  | .appendStarted id answer =>
      match s.invocations id with
      | .starting start => some (s.append id (.started start) (.executing start) answer)
      | _ => none
  | .executeBackup id =>
      match s.invocations id with
      | .executing start =>
          some ({ s with
            executions := s.executions ++ [(⟨start, s.now⟩ : Execution)] }.setInvocation id
              (.running start))
      | _ => none
  | .backupSettled id answer =>
      match s.invocations id with
      | .running start => some (s.setInvocation id (.finishing start (finish start s.now answer)))
      | _ => none
  | .appendFinished id answer =>
      match s.invocations id with
      | .finishing start event =>
          some (s.append id (.finished event)
            (.releasing (.ok (.attempted start.slotId event))) answer)
      | _ => none
  | .release id confirmed =>
      match s.invocations id with
      | .releasing outcome =>
          some ((s.unlock id).setInvocation id
            (.ended (if confirmed then outcome else .error "operations_advisory_unlock_failed")))
      | _ => none
  | .crash id => some ((s.unlock id).setInvocation id .crashed)

structure Initial (s : State) : Prop where
  empty : s.journal = []
  quiet : ∀ id, s.invocations id = .idle
  unlocked : s.lock = none
  none : s.executions = []

/-! Every reachable state. -/

section Reachable

def Invocation.underLock : Invocation → Bool
  | .idle => false
  | .locking _ => false
  | .ended _ => false
  | .crashed => false
  | _ => true

/-- What holds of the journal while an invocation waits at an `await`. -/
def Place (s : State) : Invocation → Prop
  | .reconciling abandoned event rest =>
      startedWithoutFinish s.journal = abandoned :: rest ∧ Answers abandoned event
  | .deciding slot dueNow =>
      startedWithoutFinish s.journal = [] ∧ dueNow ≤ s.now ∧ latestDueBackupSlot dueNow = .ok slot
  | .starting start =>
      startedWithoutFinish s.journal = [] ∧ start.startedAtUtc ≤ s.now ∧
        start.runId ∉ s.journal.map (·.runId) ∧
        SlotHistory (slotEvents s.journal start.slotId ++ [.started start])
  | .executing start =>
      startedWithoutFinish s.journal = [start] ∧ start.startedAtUtc ≤ s.now ∧
        ∀ execution ∈ s.executions, execution.start.runId ≠ start.runId
  | .running start => startedWithoutFinish s.journal = [start]
  | .finishing start event => startedWithoutFinish s.journal = [start] ∧ Answers start event
  | _ => True

structure Inv (s : State) : Prop where
  locked : ∀ id, (s.invocations id).underLock = true → s.lock = some id
  journal : JournalInv s.journal
  executions : ∀ execution ∈ s.executions, .started execution.start ∈ s.journal
  executedOnce : (s.executions.map (·.start.runId)).Nodup
  place : ∀ id, Place s (s.invocations id)

theorem Initial.inv {s : State} (initial : Initial s) : Inv s where
  locked := by
    intro id held
    rw [initial.quiet] at held
    cases held
  journal := by
    rw [initial.empty]
    exact ⟨fun _ => .untouched, List.nodup_nil, List.nodup_nil⟩
  executions := by simp [initial.none]
  executedOnce := by simp [initial.none]
  place := by
    intro id
    rw [initial.quiet]
    trivial

variable {s : State}

theorem place_free {next : Invocation} (free : next.underLock = false) : Place s next := by
  cases next <;> trivial

theorem Inv.alone (inv : Inv s) {id other : InvocationId}
    (held : (s.invocations id).underLock = true) (different : other ≠ id) :
    (s.invocations other).underLock = false := by
  by_contra also
  rw [Bool.not_eq_false] at also
  have same := (inv.locked id held).symm.trans (inv.locked other also)
  exact different (Option.some.inj same).symm

theorem setInvocation_cases (P : InvocationId → Invocation → Prop) {id : InvocationId}
    {next : Invocation} (moved : P id next)
    (rest : ∀ other, other ≠ id → P other (s.invocations other)) (other : InvocationId) :
    P other ((s.setInvocation id next).invocations other) := by
  simp only [State.setInvocation]
  by_cases same : other = id
  · subst same
    rw [Function.update_self]
    exact moved
  · rw [Function.update_of_ne same]
    exact rest other same

theorem inv_setInvocation (inv : Inv s) {id : InvocationId} {next : Invocation}
    (held : next.underLock = true → s.lock = some id) (placed : Place s next) :
    Inv (s.setInvocation id next) where
  locked := setInvocation_cases (fun id next => next.underLock = true → s.lock = some id) held
    fun other _ => inv.locked other
  journal := inv.journal
  executions := inv.executions
  executedOnce := inv.executedOnce
  place := setInvocation_cases (fun _ next => Place s next) placed fun other _ => inv.place other

theorem inv_append (inv : Inv s) {id : InvocationId} {event : SchedulerJournalEvent}
    {next : Invocation} (held : (s.invocations id).underLock = true)
    (stored : JournalInv (s.journal ++ [event]))
    (placed : Place { s with journal := s.journal ++ [event] } next) (answer : AppendAnswer) :
    Inv (s.append id event next answer) := by
  have written : ∀ after, Place { s with journal := s.journal ++ [event] } after →
      Inv ({ s with journal := s.journal ++ [event] }.setInvocation id after) := by
    intro after here
    exact {
      locked := setInvocation_cases (fun id next => next.underLock = true → s.lock = some id)
        (fun _ => inv.locked id held) fun other _ => inv.locked other
      journal := stored
      executions := fun execution member =>
        List.mem_append_left _ (inv.executions execution member)
      executedOnce := inv.executedOnce
      place := @setInvocation_cases { s with journal := s.journal ++ [event] }
        (fun _ next => Place { s with journal := s.journal ++ [event] } next) id after here
        fun other different => place_free (inv.alone held different) }
  cases answer with
  | returned => exact written next placed
  | threw kept error =>
      cases kept with
      | true => exact written _ trivial
      | false => exact inv_setInvocation inv (fun _ => inv.locked id held) trivial

theorem inv_unlock (inv : Inv s) {id : InvocationId} {next : Invocation}
    (free : next.underLock = false) : Inv ((s.unlock id).setInvocation id next) where
  locked := by
    refine setInvocation_cases (fun other next => next.underLock = true →
      (s.unlock id).lock = some other) (fun held => ?_) (fun other different held => ?_)
    · rw [free] at held
      cases held
    · have owner := inv.locked other held
      simp [State.unlock, owner, different]
  journal := inv.journal
  executions := inv.executions
  executedOnce := inv.executedOnce
  place := setInvocation_cases (fun _ next => Place s next) (place_free free)
    fun other _ => inv.place other

theorem place_reconcileNext {pending : List AttemptStarted}
    (unfinished : startedWithoutFinish s.journal = pending) :
    Place s (reconcileNext s.now pending) := by
  cases pending with
  | nil =>
      rw [reconcileNext, latestDueBackupSlot_eq]
      exact ⟨unfinished, le_refl _, latestDueBackupSlot_eq _⟩
  | cons abandoned rest => exact ⟨unfinished, .reconciled s.now⟩

theorem place_decideNext (inv : Inv s) {slot dueNow : Nat} {runId : RunId}
    (here : Place s (.deciding slot dueNow)) (fresh : runId ∉ s.journal.map (·.runId)) :
    Place s (decideNext s.journal slot dueNow s.now runId) := by
  unfold decideNext
  split
  · trivial
  · trivial
  · rename_i number decision
    split
    · exact ⟨here.1, le_refl _, fresh, inv.journal.decided here.1 here.2.1 decision⟩
    · trivial

theorem place_tick {next : Invocation} (here : Place s next) :
    Place { s with now := s.now + 1 } next := by
  cases next with
  | deciding slot dueNow => exact ⟨here.1, Nat.le_succ_of_le here.2.1, here.2.2⟩
  | starting start => exact ⟨here.1, Nat.le_succ_of_le here.2.1, here.2.2⟩
  | executing start => exact ⟨here.1, Nat.le_succ_of_le here.2.1, here.2.2⟩
  | _ => exact here

theorem inv_step {label : Label} {t : State} (inv : Inv s) (taken : step s label = some t) :
    Inv t := by
  cases label with
  | tick =>
      cases taken
      exact { inv with place := fun id => place_tick (inv.place id) }
  | invoke id =>
      simp only [step, latestDueBackupSlot_eq] at taken
      split at taken <;> cases taken
      exact inv_setInvocation inv (fun held => by cases held) trivial
  | acquireLock id =>
      simp only [step] at taken
      split at taken <;> try contradiction
      split at taken <;> cases taken
      · rename_i free
        have nobody : ∀ other, (s.invocations other).underLock = false := by
          intro other
          by_contra held
          rw [Bool.not_eq_false] at held
          have owner := inv.locked other held
          rw [free] at owner
          cases owner
        exact {
          locked := setInvocation_cases (fun other next => next.underLock = true →
            some id = some other) (fun _ => rfl) (fun other _ held => by
              rw [nobody other] at held
              cases held)
          journal := inv.journal
          executions := inv.executions
          executedOnce := inv.executedOnce
          place := setInvocation_cases (fun _ next => Place s next) trivial
            fun other _ => inv.place other }
      · exact inv_setInvocation inv (fun held => by cases held) trivial
  | lockFailed id error =>
      simp only [step] at taken
      split at taken <;> cases taken
      exact inv_setInvocation inv (fun held => by cases held) trivial
  | readEvents id =>
      simp only [step] at taken
      split at taken <;> cases taken
      rename_i reading
      have held : s.lock = some id := inv.locked id (by rw [reading]; rfl)
      exact inv_setInvocation inv (fun _ => held) (place_reconcileNext rfl)
  | appendReconciled id answer =>
      simp only [step] at taken
      split at taken <;> cases taken
      rename_i abandoned event rest reconciling
      have here := inv.place id
      rw [reconciling] at here
      obtain ⟨unfinished, answers⟩ := here
      refine inv_append inv (by rw [reconciling]; rfl)
        (inv.journal.append_finished (by rw [unfinished]; simp) answers) ?_ answer
      exact @place_reconcileNext { s with journal := s.journal ++ [.finished event] } rest
        (startedWithoutFinish_answered inv.journal unfinished answers)
  | decide id runId =>
      simp only [step] at taken
      split at taken <;> try contradiction
      rename_i slot dueNow deciding
      split at taken <;> cases taken
      rename_i fresh
      have here := inv.place id
      rw [deciding] at here
      have held : s.lock = some id := inv.locked id (by rw [deciding]; rfl)
      exact inv_setInvocation inv (fun _ => held) (place_decideNext inv here fresh)
  | readFailed id error =>
      simp only [step] at taken
      split at taken <;> cases taken <;> rename_i waiting <;>
        exact inv_setInvocation inv (fun _ => inv.locked id (by rw [waiting]; rfl)) trivial
  | appendStarted id answer =>
      simp only [step] at taken
      split at taken <;> cases taken
      rename_i start starting
      have here := inv.place id
      rw [starting] at here
      obtain ⟨settled, began, fresh, history⟩ := here
      have placed : Place { s with journal := s.journal ++ [.started start] } (.executing start) := by
        refine ⟨?_, began, ?_⟩
        · rw [startedWithoutFinish_started fresh, settled]
          rfl
        · intro execution member same
          exact fresh (List.mem_map.mpr ⟨_, inv.executions execution member, same⟩)
      exact inv_append inv (by rw [starting]; rfl) (inv.journal.append_started fresh history)
        placed answer
  | executeBackup id =>
      simp only [step] at taken
      split at taken <;> cases taken
      rename_i start executing
      have here := inv.place id
      rw [executing] at here
      obtain ⟨unfinished, _, first⟩ := here
      have member : .started start ∈ s.journal :=
        (mem_startedWithoutFinish.mp (by rw [unfinished]; simp)).1
      have held : (s.invocations id).underLock = true := by rw [executing]; rfl
      exact {
        locked := setInvocation_cases (fun id next => next.underLock = true → s.lock = some id)
          (fun _ => inv.locked id held) fun other _ => inv.locked other
        journal := inv.journal
        executions := by
          intro execution found
          rcases List.mem_append.mp found with before | now
          · exact inv.executions execution before
          · rw [List.mem_singleton.mp now]
            exact member
        executedOnce := by
          simp only [State.setInvocation, List.map_append, List.map_singleton, List.nodup_append]
          refine ⟨inv.executedOnce, List.nodup_singleton _, ?_⟩
          intro runId before other last
          obtain ⟨execution, found, rfl⟩ := List.mem_map.mp before
          rw [List.mem_singleton.mp last]
          exact first execution found
        place := @setInvocation_cases
          { s with executions := s.executions ++ [(⟨start, s.now⟩ : Execution)] }
          (fun _ next => Place
            { s with executions := s.executions ++ [(⟨start, s.now⟩ : Execution)] } next)
          id _ unfinished fun other different => place_free (inv.alone held different) }
  | backupSettled id answer =>
      simp only [step] at taken
      split at taken <;> cases taken
      rename_i start running
      have here := inv.place id
      rw [running] at here
      exact inv_setInvocation inv (fun _ => inv.locked id (by rw [running]; rfl))
        ⟨here, .finished s.now answer⟩
  | appendFinished id answer =>
      simp only [step] at taken
      split at taken <;> cases taken
      rename_i start event finishing
      have here := inv.place id
      rw [finishing] at here
      obtain ⟨unfinished, answers⟩ := here
      have stored := inv.journal.append_finished (by rw [unfinished]; simp) answers
      have placed : Place { s with journal := s.journal ++ [.finished event] }
          (.releasing (.ok (.attempted start.slotId event))) := trivial
      exact inv_append inv (by rw [finishing]; rfl) stored placed answer
  | release id confirmed =>
      simp only [step] at taken
      split at taken <;> cases taken
      exact inv_unlock inv rfl
  | crash id =>
      cases taken
      exact inv_unlock inv rfl

end Reachable

/-! Retry safety. -/

section Safety

/-- The second attempt of a slot keeps its distance from the first: from its finish,
or from its start where a later invocation had to finish it. -/
def KeepsDelay (first : AttemptStarted) (event : AttemptFinished) (now : Nat) : Prop :=
  (∃ seen, event = reconcile first seen ∧ first.startedAtUtc + backupRetryDelayMs ≤ now) ∨
    ∃ answer, event = finish first event.finishedAtUtc answer ∧
      event.finishedAtUtc + backupRetryDelayMs ≤ now

/-- What is known when `executeBackup` is called for `start`. -/
structure ExecutionSafe (s : State) (start : AttemptStarted) : Prop where
  durable : .started start ∈ s.journal
  notFinal : ∀ event, .finished event ∈ s.journal → event.slotId = start.slotId →
    event.state ≠ .complete ∧ isRetryable event.state = true
  attempt : start.attempt = 1 ∨ start.attempt = 2
  repeated : (∃ execution ∈ s.executions, execution.start.slotId = start.slotId) →
    start.attempt = 2
  delayed : start.attempt = 2 → ∃ first event, .started first ∈ s.journal ∧
    first.slotId = start.slotId ∧ first.attempt = 1 ∧ .finished event ∈ s.journal ∧
    event.runId = first.runId ∧ KeepsDelay first event s.now

structure DecisionSafe (s : State) (slot dueNow : Nat) : Prop where
  due : latestDueBackupSlot dueNow = .ok slot
  finished : ∀ start, .started start ∈ s.journal →
    ∃ event, .finished event ∈ s.journal ∧ event.runId = start.runId
  ownEvents : dueDecision s.journal slot dueNow = dueDecision (slotEvents s.journal slot) slot dueNow
  untouched : (∀ event ∈ s.journal, event.slotId ≠ slot) →
    dueDecision s.journal slot dueNow = .attempt 1

structure RetrySafe (s : State) : Prop where
  atMostTwice : ∀ slotId, (s.executions.countP fun execution => execution.start.slotId == slotId) ≤ 2
  finishedOnce : ((finishes s.journal).map (·.runId)).Nodup
  executed : ∀ label t, step s label = some t → t.executions = s.executions ∨
    ∃ start, t.executions = s.executions ++ [⟨start, s.now⟩] ∧ ExecutionSafe s start
  decided : ∀ id slot dueNow, s.invocations id = .deciding slot dueNow → DecisionSafe s slot dueNow
  reconciled : ∀ id abandoned event rest answer t,
    s.invocations id = .reconciling abandoned event rest →
    step s (.appendReconciled id answer) = some t →
    ∀ slotId, slotId ≠ abandoned.slotId → slotEvents t.journal slotId = slotEvents s.journal slotId

variable {s : State}

theorem SlotHistory.starts_le {history : Journal} (shape : SlotHistory history) :
    (starts history).length ≤ 2 := by
  cases shape <;> simp [starts, SchedulerJournalEvent.started?]

theorem Inv.atMostTwice (inv : Inv s) (slotId : Nat) :
    (s.executions.countP fun execution => execution.start.slotId == slotId) ≤ 2 := by
  have distinct : (s.executions.map (·.start)).Nodup :=
    List.Nodup.of_map (·.runId) (by rw [List.map_map]; exact inv.executedOnce)
  have here : ((s.executions.filter fun execution => execution.start.slotId == slotId).map
      (·.start)).Nodup := distinct.sublist (List.filter_sublist.map _)
  have inside : (s.executions.filter fun execution => execution.start.slotId == slotId).map
      (·.start) ⊆ starts (slotEvents s.journal slotId) := by
    intro start member
    obtain ⟨execution, found, rfl⟩ := List.mem_map.mp member
    obtain ⟨present, same⟩ := List.mem_filter.mp found
    rw [beq_iff_eq] at same
    exact mem_starts.mpr (mem_slotEvents.mpr ⟨inv.executions execution present, same⟩)
  have bound := (here.subperm inside).length_le
  rw [List.length_map, ← List.countP_eq_length_filter] at bound
  exact bound.trans (inv.journal.histories slotId).starts_le

theorem Inv.running_history (inv : Inv s) {start : AttemptStarted}
    (unfinished : startedWithoutFinish s.journal = [start]) :
    (slotEvents s.journal start.slotId = [.started start] ∧ start.attempt = 1) ∨
      ∃ first event, slotEvents s.journal start.slotId =
          [.started first, .finished event, .started start] ∧
        first.attempt = 1 ∧ Answers first event ∧ Retries event start := by
  obtain ⟨member, open_⟩ := mem_startedWithoutFinish.mp
    (show start ∈ startedWithoutFinish s.journal by rw [unfinished]; simp)
  have inside : .started start ∈ slotEvents s.journal start.slotId :=
    mem_slotEvents.mpr ⟨member, rfl⟩
  have unanswered : ∀ event, .finished event ∈ slotEvents s.journal start.slotId →
      event.runId ≠ start.runId := fun event found => open_ event (mem_slotEvents.mp found).1
  have shape := inv.journal.histories start.slotId
  generalize slotEvents s.journal start.slotId = history at *
  cases shape with
  | untouched => cases inside
  | first attempt =>
      simp only [List.mem_singleton, SchedulerJournalEvent.started.injEq] at inside
      subst inside
      exact .inl ⟨rfl, attempt⟩
  | @firstFinished first event _ answers =>
      simp only [List.mem_cons, reduceCtorEq, SchedulerJournalEvent.started.injEq,
        List.not_mem_nil, or_false] at inside
      subst inside
      exact absurd answers.runId (unanswered event (by simp))
  | @second first again event attempt answers retries =>
      simp only [List.mem_cons, reduceCtorEq, SchedulerJournalEvent.started.injEq,
        List.not_mem_nil, or_false, false_or] at inside
      rcases inside with rfl | rfl
      · exact absurd answers.runId (unanswered event (by simp))
      · exact .inr ⟨first, event, rfl, attempt, answers, retries⟩
  | @secondFinished first again event last attempt answers retries closes =>
      simp only [List.mem_cons, reduceCtorEq, SchedulerJournalEvent.started.injEq,
        List.not_mem_nil, or_false, false_or] at inside
      rcases inside with rfl | rfl
      · exact absurd answers.runId (unanswered event (by simp))
      · exact absurd closes.runId (unanswered last (by simp))

theorem Retries.keepsDelay {first start : AttemptStarted} {event : AttemptFinished} {now : Nat}
    (attempt : first.attempt = 1) (answers : Answers first event) (retries : Retries event start)
    (began : start.startedAtUtc ≤ now) : KeepsDelay first event now := by
  have due := retries.due.trans began
  have retryable := retries.retryable
  cases answers with
  | reconciled seen =>
      refine .inl ⟨seen, rfl, ?_⟩
      simpa [reconcile, attempt, backupMaxAttemptsPerSlot] using due
  | finished at_ answer =>
      refine .inr ⟨answer, rfl, ?_⟩
      simp only [finish] at retryable
      simpa [finish, attempt, backupMaxAttemptsPerSlot, retryable] using due

theorem Inv.executionSafe (inv : Inv s) {start : AttemptStarted}
    (here : Place s (.executing start)) : ExecutionSafe s start := by
  obtain ⟨unfinished, began, first⟩ := here
  have durable : .started start ∈ s.journal :=
    (mem_startedWithoutFinish.mp (by rw [unfinished]; simp)).1
  rcases inv.running_history unfinished with ⟨alone, one⟩ | ⟨before, event, three, one, answers, retries⟩
  · exact {
      durable := durable
      notFinal := by
        intro event member same
        have inside := mem_slotEvents.mpr ⟨member, same⟩
        simp [alone] at inside
      attempt := .inl one
      repeated := by
        rintro ⟨execution, member, same⟩
        have inside := mem_slotEvents.mpr ⟨inv.executions execution member, same⟩
        simp only [alone, List.mem_singleton, SchedulerJournalEvent.started.injEq] at inside
        exact absurd (congrArg (·.runId) inside) (first execution member)
      delayed := by
        intro two
        omega }
  · have earlier : .started before ∈ s.journal ∧ before.slotId = start.slotId :=
      mem_slotEvents.mp (by rw [three]; simp)
    have closed : .finished event ∈ s.journal ∧ event.slotId = start.slotId :=
      mem_slotEvents.mp (by rw [three]; simp)
    exact {
      durable := durable
      notFinal := by
        intro done member same
        have inside := mem_slotEvents.mpr ⟨member, same⟩
        simp only [three, List.mem_cons, reduceCtorEq, SchedulerJournalEvent.finished.injEq,
          List.not_mem_nil, or_false, false_or] at inside
        subst inside
        refine ⟨fun complete => ?_, retries.retryable⟩
        have retryable := retries.retryable
        rw [complete] at retryable
        cases retryable
      attempt := .inr retries.attempt
      repeated := fun _ => retries.attempt
      delayed := fun _ => ⟨before, event, earlier.1, earlier.2, one, closed.1, answers.runId,
        retries.keepsDelay one answers began⟩ }

theorem decisionSafe {slot dueNow : Nat} (here : Place s (.deciding slot dueNow)) :
    DecisionSafe s slot dueNow := by
  obtain ⟨settled, _, due⟩ := here
  exact {
    due := due
    finished := by
      intro start member
      by_contra open_
      have unfinished : start ∈ startedWithoutFinish s.journal :=
        mem_startedWithoutFinish.mpr ⟨member, fun event found same => open_ ⟨event, found, same⟩⟩
      rw [settled] at unfinished
      cases unfinished
    ownEvents := by
      have twice : slotEvents (slotEvents s.journal slot) slot = slotEvents s.journal slot := by
        simp [slotEvents]
      rw [dueDecision, dueDecision, finishedForSlot_eq, finishedForSlot_eq, twice]
    untouched := by
      intro other
      have empty : slotEvents s.journal slot = [] := by
        rw [List.eq_nil_iff_forall_not_mem]
        intro event member
        exact other event (mem_slotEvents.mp member).1 (mem_slotEvents.mp member).2
      rw [dueDecision, finishedForSlot_eq, empty]
      rfl }

theorem step_executions {label : Label} {t : State} (taken : step s label = some t) :
    t.executions = s.executions ∨ ∃ id start, s.invocations id = .executing start ∧
      t.executions = s.executions ++ [⟨start, s.now⟩] := by
  have appended : ∀ id event next (answer : AppendAnswer),
      (s.append id event next answer).executions = s.executions := by
    intro id event next answer
    cases answer with
    | returned => rfl
    | threw kept error => cases kept <;> rfl
  cases label with
  | executeBackup id =>
      simp only [step] at taken
      split at taken <;> cases taken
      exact .inr ⟨id, _, by assumption, rfl⟩
  | appendReconciled id answer =>
      simp only [step] at taken
      split at taken <;> cases taken
      exact .inl (appended ..)
  | appendStarted id answer =>
      simp only [step] at taken
      split at taken <;> cases taken
      exact .inl (appended ..)
  | appendFinished id answer =>
      simp only [step] at taken
      split at taken <;> cases taken
      exact .inl (appended ..)
  | acquireLock id =>
      simp only [step] at taken
      split at taken <;> try contradiction
      split at taken <;> cases taken <;> exact .inl rfl
  | decide id runId =>
      simp only [step] at taken
      split at taken <;> try contradiction
      split at taken <;> cases taken
      exact .inl rfl
  | invoke id =>
      simp only [step, latestDueBackupSlot_eq] at taken
      split at taken <;> cases taken
      exact .inl rfl
  | tick => cases taken; exact .inl rfl
  | crash id => cases taken; exact .inl rfl
  | lockFailed id error => simp only [step] at taken; split at taken <;> cases taken; exact .inl rfl
  | readEvents id => simp only [step] at taken; split at taken <;> cases taken; exact .inl rfl
  | readFailed id error =>
      simp only [step] at taken
      split at taken <;> cases taken <;> exact .inl rfl
  | backupSettled id answer =>
      simp only [step] at taken
      split at taken <;> cases taken
      exact .inl rfl
  | release id confirmed => simp only [step] at taken; split at taken <;> cases taken; exact .inl rfl

/-- Finishing an abandoned attempt leaves the events of every other slot as they were. -/
theorem Inv.reconciles (inv : Inv s) {id : InvocationId} {abandoned : AttemptStarted}
    {event : AttemptFinished} {rest : List AttemptStarted} {answer : AppendAnswer} {t : State}
    (reconciling : s.invocations id = .reconciling abandoned event rest)
    (taken : step s (.appendReconciled id answer) = some t) {slotId : Nat}
    (other : slotId ≠ abandoned.slotId) : slotEvents t.journal slotId = slotEvents s.journal slotId := by
  have here := inv.place id
  rw [reconciling] at here
  have elsewhere : slotEvents (s.journal ++ [.finished event]) slotId = slotEvents s.journal slotId := by
    rw [slotEvents_append, if_neg]
    rw [SchedulerJournalEvent.slotId, here.2.slotId]
    exact other.symm
  simp only [step, reconciling, Option.some.injEq] at taken
  subst taken
  cases answer with
  | returned => exact elsewhere
  | threw kept error =>
      cases kept with
      | true => exact elsewhere
      | false => rfl

/-- Every reachable state of the scheduler is retry safe, whatever crashes and throws. -/
theorem scheduler_retry_safe {start : State} {labels : List Label} (initial : Initial start)
    (run : Run (fun s label t => step s label = some t) start labels s) : RetrySafe s := by
  have inv : Inv s := run.invariant (fun _ _ _ inv taken => inv_step inv taken) initial.inv
  exact {
    atMostTwice := inv.atMostTwice
    finishedOnce := inv.journal.finishIds
    executed := by
      intro label t taken
      rcases step_executions taken with same | ⟨id, begun, executing, grown⟩
      · exact .inl same
      · exact .inr ⟨begun, grown, inv.executionSafe (executing ▸ inv.place id)⟩
    decided := by
      intro id slot dueNow deciding
      exact decisionSafe (deciding ▸ inv.place id)
    reconciled := by
      intro id abandoned event rest answer t reconciling taken slotId other
      exact inv.reconciles reconciling taken other }

def dayOne : State where
  now := 0
  journal := []
  lock := none
  invocations := fun _ => .idle
  executions := []

def firstRunId : RunId := "aaaaaaaa-aaaa-4aaa-8aaa-aaaaaaaaaaaa"

/-- The first attempt crashes, and a second invocation finds it. -/
def crashedAttempt : List Label :=
  [.invoke 0, .acquireLock 0, .readEvents 0, .decide 0 firstRunId, .appendStarted 0 .returned,
    .executeBackup 0, .crash 0, .invoke 1, .acquireLock 1, .readEvents 1,
    .appendReconciled 1 .returned]

theorem crashedAttempt_safe :
    ∃ s, Run (fun s label t => step s label = some t) dayOne crashedAttempt s ∧ RetrySafe s ∧
      s.executions.length = 1 ∧ s.journal.length = 2 := by
  obtain ⟨s, folded, one, two⟩ : ∃ s, crashedAttempt.foldlM step dayOne = some s ∧
      s.executions.length = 1 ∧ s.journal.length = 2 := ⟨_, rfl, by decide, by decide⟩
  exact ⟨s, .of_foldlM folded,
    scheduler_retry_safe ⟨rfl, fun _ => rfl, rfl, rfl⟩ (.of_foldlM folded), one, two⟩

end Safety

end PublicLighting.BackupScheduler
