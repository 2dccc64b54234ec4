import PublicLighting.AddressSuggestion.Admission

/-! What one event may do to the controller. -/

namespace PublicLighting.AddressSuggestion.Controller

variable {Key Value : Type}

/-- The fields of an entry in each of its states, between two events. -/
structure Life (entry : QueueEntry Key) : Prop where
  timeout : entry.timeoutTimer = true ↔ entry.work = .pending
  state : match entry.state with
    | .queued => entry.expiryTimer = true ∧ entry.work = .unstarted ∧ entry.subscribers ≠ [] ∧
        entry.controllerAborted = false
    | .starting => False
    | .running => entry.work = .pending ∧ entry.subscribers ≠ [] ∧ entry.controllerAborted = false
    | .settled => entry.subscribers = []

def promisesOf (entry : QueueEntry Key) : List PromiseId := entry.subscribers.map (·.promise)

/-- An entry whose `executeEntry` has not ended holds one of the active slots. -/
def holdsSlot (entry : QueueEntry Key) : Bool := entry.work = .pending ∨ entry.work = .held

def settledEntry (entry : QueueEntry Key) : QueueEntry Key :=
  { entry with state := .settled, expiryTimer := false, subscribers := [] }

theorem life_settled {entry : QueueEntry Key} (timeout : entry.timeoutTimer = true ↔ entry.work = .pending) :
    Life (settledEntry entry) := ⟨timeout, rfl⟩

/-- Who else listens to an entry does not matter as long as somebody does. -/
theorem Life.resubscribed {entry : QueueEntry Key} (life : Life entry) (unsettled : entry.state ≠ .settled)
    {subscribers : List QueueSubscriber} (some : subscribers ≠ []) :
    Life { entry with subscribers := subscribers } := by
  refine ⟨life.timeout, ?_⟩
  have fields := life.state
  rcases entry with ⟨_, _, _, _, _, _, state, _⟩
  cases state with
  | queued => exact ⟨fields.1, fields.2.1, some, fields.2.2.2⟩
  | starting => exact fields
  | running => exact ⟨fields.1, some, fields.2.2⟩
  | settled => exact absurd rfl unsettled

theorem owed_all (entry : QueueEntry Key) (outcome : Settlement Value) :
    (promisesOf entry).Perm
      ((entry.subscribers.map fun subscriber => (subscriber.promise, outcome)).map (·.1) ++ []) := by
  rw [List.append_nil, List.map_map]
  exact List.Perm.refl _

theorem alike_all (entry : QueueEntry Key) (outcome : Settlement Value) :
    ∃ given : Settlement Value, (entry.subscribers.map fun subscriber => (subscriber.promise, outcome)) =
      (promisesOf entry).map fun promise => (promise, given) := by
  refine ⟨outcome, ?_⟩
  rw [promisesOf, List.map_map]
  rfl

theorem not_queued {entry : QueueEntry Key} (life : Life entry) (called : entry.work ≠ .unstarted) :
    entry.state ≠ .queued := by
  intro queued
  have fields := life.state
  rw [queued] at fields
  exact called fields.2.1

theorem unsettled_of_mem {entry : QueueEntry Key} (life : Life entry) {subscriber : QueueSubscriber}
    (member : subscriber ∈ entry.subscribers) : entry.state ≠ .settled := by
  intro settled
  have none := life.state
  rw [settled] at none
  rw [none] at member
  cases member

theorem single_of_erase {subscribers : List QueueSubscriber} {subscriber : QueueSubscriber}
    (member : subscriber ∈ subscribers) (alone : subscribers.erase subscriber = []) :
    subscribers = [subscriber] := by
  have perm := List.perm_cons_erase member
  rw [alone] at perm
  exact List.perm_singleton.mp perm

theorem owed_one {entry : QueueEntry Key} {promise : PromiseId} (member : ⟨promise, true⟩ ∈ entry.subscribers)
    (outcome : Settlement Value) : (promisesOf entry).Perm ([(promise, outcome)].map (·.1) ++
      promisesOf { entry with subscribers := entry.subscribers.erase ⟨promise, true⟩ }) :=
  (List.perm_cons_erase member).map QueueSubscriber.promise

variable [DecidableEq Key]

section Known

variable (s : Controller Key Value)

/-- The entries, the queue and the map of keys agree. -/
structure Entries : Prop where
  known : ∀ id, (∃ entry, s.entries id = some entry) ↔ id < s.counters.accepted
  life : ∀ id entry, s.entries id = some entry → Life entry
  queued : ∀ id entry, s.entries id = some entry → (entry.state = .queued ↔ id ∈ s.queue)
  flying : ∀ id entry, s.entries id = some entry → entry.state ≠ .settled → s.inFlight entry.key = some id
  flight : ∀ key id, s.inFlight key = some id →
    ∃ entry, s.entries id = some entry ∧ entry.key = key ∧ entry.state ≠ .settled
  sorted : s.queue.Pairwise (· < ·)
  present : ∀ id ∈ s.queue, id < s.counters.accepted

/-- One entry changes, and what it owes is told to the subscribers that it loses. -/
structure Change (t : Controller Key Value) (id : EntryId) (before after : QueueEntry Key)
    (told : List (PromiseId × Settlement Value)) : Prop where
  found : s.entries id = some before
  entries : t.entries = Function.update s.entries id (some after)
  key : after.key = before.key
  expiresAt : after.expiresAt = before.expiresAt
  life : Life after
  forward : (before.state = .settled → after.state = .settled) ∧
    (after.state = .queued → before.state = .queued)
  queue : t.queue = if before.state = .queued ∧ after.state ≠ .queued then s.queue.erase id else s.queue
  inFlight : t.inFlight = if before.state ≠ .settled ∧ after.state = .settled then
    Function.update s.inFlight before.key none else s.inFlight
  settlements : t.settlements = s.settlements ++ told
  owed : (promisesOf before).Perm (told.map (·.1) ++ promisesOf after)
  alike : before.state ≠ .settled → after.state = .settled → ∃ outcome,
    told = (promisesOf before).map fun promise => (promise, outcome)
  promises : t.promises = s.promises
  accepted : t.counters.accepted = s.counters.accepted
  now : t.now = s.now
  active : t.active + (holdsSlot before).toNat = s.active + (holdsSlot after).toNat
  pump : t.pumpRunning = true ∨
    t.pumpRunning = s.pumpRunning ∧ t.queue = s.queue ∧ t.active = s.active
  spacing : t.spacingTimer = s.spacingTimer

structure Unstarted (t : Controller Key Value) (before after : QueueEntry Key) : Prop where
  work : after.work = .unstarted ↔ before.work = .unstarted
  slot : holdsSlot after = true → holdsSlot before = true
  starts : t.starts = s.starts
  next : t.nextStartAt = s.nextStartAt

variable (settings : ReportAddressAdmissionSettings) (isoDate : Int → String)

structure Started (t : Controller Key Value) (id : EntryId) (before after : QueueEntry Key) : Prop where
  first : ∃ rest, s.queue = id :: rest
  queued : before.state = .queued
  running : after.state = .running
  slot : s.active < settings.maxActive
  unexpired : s.now < before.expiresAt
  spaced : s.nextStartAt ≤ s.now
  starts : t.starts = s.starts ++ [(id, s.now)]
  next : t.nextStartAt = s.now + settings.minStartIntervalMs
  allowed : (s.consumeBudget settings isoDate).1 = true
  budget : (t.dailyBudgetDate, t.dailyBudgetUsed) = (s.consumeBudget settings isoDate).2

/-- The budget stays as it is, or its date is moved on without a start. -/
def BudgetKept (t : Controller Key Value) : Prop :=
  (t.dailyBudgetDate, t.dailyBudgetUsed) = (s.dailyBudgetDate, s.dailyBudgetUsed) ∨
    (s.consumeBudget settings isoDate).1 = false ∧
      (t.dailyBudgetDate, t.dailyBudgetUsed) = (s.consumeBudget settings isoDate).2

inductive Move (t : Controller Key Value) : Prop
  | rejected (error : ReportAddressSuggestionError) (counters : ReportAddressSuggestionCounters)
      (same : t = { s with
        counters := counters
        promises := s.promises + 1
        settlements := s.settlements ++ [(s.promises, .rejected error)] })
      (accepted : counters.accepted = s.counters.accepted)
  | subscribed (id : EntryId) (entry : QueueEntry Key) (signal : Bool)
      (counters : ReportAddressSuggestionCounters) (found : s.entries id = some entry)
      (unsettled : entry.state ≠ .settled)
      (same : t = { s with
        counters := counters
        entries := Function.update s.entries id
          (some { entry with subscribers := entry.subscribers ++ [⟨s.promises, signal⟩] })
        promises := s.promises + 1 })
      (accepted : counters.accepted = s.counters.accepted)
  | accepted (key : Key) (signal : Bool) (free : s.inFlight key = none)
      (room : (s.active < settings.maxActive ∧ s.queue.length = 0 ∧ s.nextStartAt ≤ s.now) ∨
        (s.queue.length : Int) < settings.maxPending)
      (same : t = { s with
        counters := { s.counters with accepted := s.counters.accepted + 1 }
        entries := Function.update s.entries s.counters.accepted
          (some ⟨key, [⟨s.promises, signal⟩], false, s.now + settings.queueExpiryMs, true, false, .queued,
            .unstarted⟩)
        inFlight := Function.update s.inFlight key (some s.counters.accepted)
        queue := s.queue ++ [s.counters.accepted]
        promises := s.promises + 1
        pumpRunning := true })
  | changed (id : EntryId) (before after : QueueEntry Key) (told : List (PromiseId × Settlement Value))
      (change : Change s t id before after told) (unstarted : Unstarted s t before after)
      (budget : BudgetKept s settings isoDate t)
  | started (id : EntryId) (before after : QueueEntry Key) (change : Change s t id before after [])
      (start : Started s settings isoDate t id before after)
  | paused (spacing : Bool)
      (reason : s.queue = [] ∨ ¬ s.active < settings.maxActive ∨ s.now < s.nextStartAt ∧ spacing = true)
      (kept : s.spacingTimer = true → spacing = true)
      (same : t = { s with pumpRunning := false, spacingTimer := spacing })
  | woken (same : t = { s with pumpRunning := true, spacingTimer := false })
  | idle (same : t = s)
  | ticked (now : Int) (forward : s.now ≤ now) (resting : s.pumpRunning = false)
      (same : t = { s with now := now })

end Known

variable {s t : Controller Key Value} {settings : ReportAddressAdmissionSettings} {isoDate : Int → String}

theorem move_run (entries : Entries s) (key : Key) (signal : Signal) (policyAdmits : Option Bool) :
    Move s settings isoDate (s.run settings key signal policyAdmits) := by
  unfold run
  split
  · exact .rejected cancellationError _ rfl rfl
  · split
    · rename_i id present
      obtain ⟨entry, found, -, unsettled⟩ := entries.flight key id present
      simp only [found]
      exact .subscribed id entry _ _ found unsettled rfl rfl
    · rename_i free
      split
      · exact .rejected admissionRejected _ rfl rfl
      · simp only
        split
        · exact .rejected queueFull _ rfl rfl
        · rename_i admitted
          refine .accepted key (decide (signal = Signal.live)) free ?_ rfl
          by_contra full
          rw [not_or] at full
          exact admitted ⟨full.1, Int.not_lt.mp full.2⟩

theorem settle_eq {id : EntryId} {entry : QueueEntry Key} (found : s.entries id = some entry)
    (unsettled : entry.state ≠ .settled) (flying : s.inFlight entry.key = some id) (outcome : Settlement Value) :
    s.settle id outcome = { s with
      entries := Function.update s.entries id
        (some { entry with state := .settled, expiryTimer := false, subscribers := [] })
      inFlight := Function.update s.inFlight entry.key none
      settlements := s.settlements ++ entry.subscribers.map fun subscriber => (subscriber.promise, outcome) } := by
  have kept : (s.setEntry id { entry with state := .settled, expiryTimer := false, subscribers := [] }).inFlight
      entry.key = some id := flying
  unfold settle forget
  simp only [found, if_neg unsettled, if_pos kept]
  rfl

theorem move_expireQueued (entries : Entries s) (id : EntryId) :
    Move s settings isoDate (s.expireQueued id) := by
  unfold expireQueued
  split
  · exact .idle rfl
  · rename_i entry found
    split
    · exact .idle rfl
    · rename_i queued
      have queued := not_not.mp queued
      have unsettled : entry.state ≠ .settled := by
        rw [queued]
        decide
      have life := entries.life id entry found
      have flying := entries.flying id entry found unsettled
      simp only [@settle_eq _ _ _ { s with queue := s.queue.erase id } _ _ found unsettled flying]
      refine .changed id entry (settledEntry entry) _ ⟨found, rfl, rfl, rfl, life_settled life.timeout,
        ⟨fun _ => rfl, nofun⟩, ?_, ?_, rfl, owed_all _ _, fun _ _ => alike_all _ _, rfl, rfl, rfl, rfl,
        Or.inl rfl, rfl⟩ ⟨Iff.rfl, fun held => held, rfl, rfl⟩ (Or.inl rfl)
      · exact (if_pos ⟨queued, nofun⟩).symm
      · exact (if_pos ⟨unsettled, rfl⟩).symm

theorem abort_stranger {id : EntryId} {promise : PromiseId}
    (stranger : ∀ entry, s.entries id = some entry → ⟨promise, true⟩ ∉ entry.subscribers) :
    s.abort id promise = s := by
  unfold abort
  split
  · rfl
  · rename_i entry found
    exact if_neg (stranger entry found)

theorem abort_stays {id : EntryId} {promise : PromiseId} {entry : QueueEntry Key}
    (found : s.entries id = some entry) (member : ⟨promise, true⟩ ∈ entry.subscribers)
    (others : entry.subscribers.erase ⟨promise, true⟩ ≠ []) :
    s.abort id promise = { s with
      entries := Function.update s.entries id
        (some { entry with subscribers := entry.subscribers.erase ⟨promise, true⟩ })
      settlements := s.settlements ++ [(promise, .rejected cancellationError)] } := by
  unfold abort
  simp only [found, if_pos member, cancelWhenUnobserved, setEntry, Function.update_self]
  exact if_pos (Or.inl others)

theorem abort_last {id : EntryId} {promise : PromiseId} {entry : QueueEntry Key}
    (found : s.entries id = some entry) (member : ⟨promise, true⟩ ∈ entry.subscribers)
    (alone : entry.subscribers.erase ⟨promise, true⟩ = []) (unsettled : entry.state ≠ .settled)
    (flying : s.inFlight entry.key = some id) :
    s.abort id promise = { s with
      queue := if entry.state = .queued then s.queue.erase id else s.queue
      inFlight := Function.update s.inFlight entry.key none
      entries := Function.update s.entries id (some { settledEntry entry with
        controllerAborted := if entry.state = .queued then entry.controllerAborted else true })
      settlements := s.settlements ++ [(promise, .rejected cancellationError)]
      pumpRunning := true } := by
  have unobserved : ¬(entry.subscribers.erase ⟨promise, true⟩ ≠ [] ∨ entry.state = .settled) := by
    rw [not_or]
    exact ⟨not_not.mpr alone, unsettled⟩
  unfold abort
  simp only [found, if_pos member, cancelWhenUnobserved, setEntry, Function.update_self, if_neg unobserved]
  unfold forget
  by_cases queued : entry.state = .queued
  · simp only [if_pos queued, flying, if_true, Function.update_idem, alone]
    rfl
  · simp only [if_neg queued, flying, if_true, Function.update_idem, alone]
    rfl

theorem move_abort (entries : Entries s) (id : EntryId) (promise : PromiseId) :
    Move s settings isoDate (s.abort id promise) := by
  by_cases present : ∃ entry, s.entries id = some entry ∧ ⟨promise, true⟩ ∈ entry.subscribers
  · obtain ⟨entry, found, member⟩ := present
    have life := entries.life id entry found
    have unsettled := unsettled_of_mem life member
    by_cases others : entry.subscribers.erase ⟨promise, true⟩ = []
    · have single := single_of_erase member others
      rw [abort_last found member others unsettled (entries.flying id entry found unsettled)]
      refine .changed id entry { settledEntry entry with
          controllerAborted := if entry.state = .queued then entry.controllerAborted else true }
        [(promise, .rejected cancellationError)] ⟨found, rfl, rfl, rfl, ⟨life.timeout, rfl⟩,
        ⟨fun _ => rfl, nofun⟩, ?_, ?_, rfl, ?_, ?_, rfl, rfl, rfl, rfl, Or.inl rfl, rfl⟩
        ⟨Iff.rfl, fun held => held, rfl, rfl⟩ (Or.inl rfl)
      · by_cases queued : entry.state = .queued
        · exact (if_pos queued).trans (if_pos ⟨queued, nofun⟩).symm
        · exact (if_neg queued).trans (if_neg fun ⟨waiting, _⟩ => queued waiting).symm
      · exact (if_pos ⟨unsettled, rfl⟩).symm
      · rw [promisesOf, single]
        exact List.Perm.refl _
      · intro _ _
        refine ⟨.rejected cancellationError, ?_⟩
        rw [promisesOf, single]
        rfl
    · rw [abort_stays found member others]
      refine .changed id entry { entry with subscribers := entry.subscribers.erase ⟨promise, true⟩ }
        [(promise, .rejected cancellationError)] ⟨found, rfl, rfl, rfl, ?_, ⟨fun h => h, fun h => h⟩, ?_, ?_,
        rfl, owed_one member _, fun u v => absurd v u, rfl, rfl, rfl, rfl, Or.inr ⟨rfl, rfl, rfl⟩, rfl⟩
        ⟨Iff.rfl, fun held => held, rfl, rfl⟩ (Or.inl rfl)
      · exact life.resubscribed unsettled others
      · exact (if_neg fun ⟨queued, other⟩ => other queued).symm
      · exact (if_neg fun ⟨_, settled⟩ => unsettled settled).symm
  · rw [abort_stranger fun entry found member => present ⟨entry, found, member⟩]
    exact .idle rfl

theorem move_startEntry (entries : Entries s) (running : s.pumpRunning = true) {id : EntryId}
    {rest : List EntryId} (first : s.queue = id :: rest) {entry : QueueEntry Key}
    (found : s.entries id = some entry) (slot : s.active < settings.maxActive)
    (unexpired : s.now < entry.expiresAt) (spaced : s.nextStartAt ≤ s.now) :
    Move s settings isoDate (s.startEntry settings isoDate id entry) := by
  have queued : entry.state = .queued := by
    rw [entries.queued id entry found, first]
    exact List.mem_cons_self
  have unsettled : entry.state ≠ .settled := by
    rw [queued]
    decide
  have flying := entries.flying id entry found unsettled
  have life := entries.life id entry found
  have fields := life.state
  rw [queued] at fields
  obtain ⟨timer, work, subscribed, unaborted⟩ := fields
  have erased : s.queue.tail = s.queue.erase id := by
    rw [first, List.erase_cons_head]
    rfl
  have free : holdsSlot entry = false := by simp [holdsSlot, work]
  unfold startEntry
  simp only [if_neg (Int.not_le.mpr unexpired)]
  by_cases allowed : (s.consumeBudget settings isoDate).1 = true
  · rw [if_pos allowed]
    let after : QueueEntry Key :=
      { entry with expiryTimer := false, state := .running, work := .pending, timeoutTimer := true }
    refine .started id entry after ⟨found, ?_, rfl, rfl, ⟨by simp [after], rfl, subscribed, unaborted⟩,
      ⟨fun settled => absurd settled unsettled, nofun⟩, ?_, ?_, (List.append_nil _).symm, List.Perm.refl _,
      nofun, rfl, rfl, rfl, ?_, Or.inl running, rfl⟩
      ⟨⟨rest, first⟩, queued, rfl, slot, unexpired, spaced, rfl, rfl, allowed, rfl⟩
    · exact Function.update_idem ..
    · exact erased.trans (if_pos ⟨queued, nofun⟩).symm
    · exact (if_neg fun ⟨_, settled⟩ => nomatch settled).symm
    · rw [free]
      exact Int.add_zero (s.active + 1)
  · rw [if_neg allowed]
    have denied : (s.consumeBudget settings isoDate).1 = false := Bool.eq_false_iff.mpr allowed
    let starting : QueueEntry Key := { entry with expiryTimer := false, state := .starting }
    let released : Controller Key Value := { s.setEntry id starting with
      queue := s.queue.tail
      dailyBudgetDate := (s.consumeBudget settings isoDate).2.1
      dailyBudgetUsed := (s.consumeBudget settings isoDate).2.2 }
    have present : released.entries id = some starting := Function.update_self ..
    have told := settle_eq present nofun flying (.rejected dailyBudgetExceeded)
    change Move s settings isoDate (released.settle id (.rejected dailyBudgetExceeded)).countRejected
    rw [told]
    refine .changed id entry (settledEntry entry) _ ⟨found, ?_, rfl, rfl, life_settled life.timeout,
      ⟨fun _ => rfl, nofun⟩, ?_, ?_, rfl, owed_all _ _, fun _ _ => alike_all _ _, rfl, rfl, rfl, rfl,
      Or.inl running, rfl⟩ ⟨Iff.rfl, fun held => held, rfl, rfl⟩ (Or.inr ⟨denied, rfl⟩)
    · exact Function.update_idem ..
    · exact erased.trans (if_pos ⟨queued, nofun⟩).symm
    · exact (if_pos ⟨unsettled, rfl⟩).symm

theorem move_pumpTurn (entries : Entries s) (running : s.pumpRunning = true)
    (turn : s.pumpTurn settings isoDate = some t) : Move s settings isoDate t := by
  unfold pumpTurn at turn
  split at turn
  · rename_i slot
    split at turn
    · rename_i empty
      cases turn
      exact .paused s.spacingTimer (Or.inl empty) id rfl
    · rename_i id rest first
      split at turn
      · cases turn
      · rename_i entry found
        split at turn
        · cases turn
          exact move_expireQueued entries id
        · rename_i unexpired
          split at turn
          · rename_i early
            cases turn
            exact .paused true (Or.inr (Or.inr ⟨Int.sub_pos.mp early, rfl⟩)) (fun _ => rfl) rfl
          · rename_i spaced
            cases turn
            have spaced : s.nextStartAt ≤ s.now := by omega
            exact move_startEntry entries running first found slot (Int.not_le.mp unexpired) spaced
  · rename_i full
    cases turn
    exact .paused s.spacingTimer (Or.inr (Or.inl full)) id rfl

theorem move_finish (entries : Entries s) {id : EntryId} {entry : QueueEntry Key}
    (found : s.entries id = some entry) (settled : entry.state = .settled) (held : holdsSlot entry = true) :
    Move s settings isoDate (s.finish id) := by
  have life := entries.life id entry found
  have fields := life.state
  rw [settled] at fields
  have called : entry.work ≠ .unstarted := by
    intro unstarted
    simp [holdsSlot, unstarted] at held
  unfold finish
  simp only [found]
  refine .changed id entry { entry with timeoutTimer := false, work := .finished } [] ⟨found, rfl, rfl, rfl,
    ⟨by simp, ?_⟩, ⟨fun h => h, fun h => h⟩, ?_, ?_, (List.append_nil _).symm, List.Perm.refl _,
    fun unsettled => absurd settled unsettled, rfl, rfl, rfl, ?_, Or.inl rfl, rfl⟩
    ⟨by simp [called], nofun, rfl, rfl⟩ (Or.inl rfl)
  · simp only [settled]
    exact fields
  · exact (if_neg fun ⟨queued, other⟩ => other queued).symm
  · exact (if_neg fun ⟨unsettled, _⟩ => unsettled settled).symm
  · rw [held]
    change s.active - 1 + 1 = s.active + 0
    omega

theorem move_answer (entries : Entries s) {id : EntryId} {entry : QueueEntry Key}
    (found : s.entries id = some entry) (unsettled : entry.state ≠ .settled) (pending : entry.work = .pending)
    (outcome : Settlement Value) (counters : ReportAddressSuggestionCounters)
    (accepted : counters.accepted = s.counters.accepted) :
    Move s settings isoDate (({ s with counters := counters }.settle id outcome).finish id) := by
  have life := entries.life id entry found
  have called : entry.work ≠ .unstarted := by
    rw [pending]
    decide
  have flying := entries.flying id entry found unsettled
  have told := @settle_eq _ _ _ { s with counters := counters } id entry found unsettled flying outcome
  rw [told]
  unfold finish
  simp only [Function.update_self]
  let after : QueueEntry Key := { settledEntry entry with timeoutTimer := false, work := .finished }
  refine .changed id entry after _ ⟨found, ?_, rfl, rfl, ⟨by simp [after], rfl⟩, ⟨fun _ => rfl, nofun⟩, ?_, ?_,
    rfl, owed_all _ outcome, fun _ _ => alike_all _ _, rfl, accepted, rfl, ?_, Or.inl rfl, rfl⟩
    ⟨by simp [after, called], nofun, rfl, rfl⟩ (Or.inl rfl)
  · exact Function.update_idem ..
  · exact (if_neg fun ⟨queued, _⟩ => not_queued life called queued).symm
  · exact (if_pos ⟨unsettled, rfl⟩).symm
  · have held : holdsSlot entry = true := by simp [holdsSlot, pending]
    rw [held]
    change s.active - 1 + 1 = s.active + 0
    omega

theorem move_providerSettles (entries : Entries s) {id : EntryId} {entry : QueueEntry Key}
    (found : s.entries id = some entry) (result : Except ProviderFailure (Option Value))
    (settles : s.providerSettles id entry result = some t) : Move s settings isoDate t := by
  have life := entries.life id entry found
  unfold providerSettles at settles
  split at settles
  · rename_i held
    cases settles
    have settled : entry.state = .settled := by
      have fields := life.state
      cases state : entry.state <;> simp_all
    exact move_finish entries found settled (by simp [holdsSlot, held])
  · rename_i pending
    have slot : holdsSlot entry = true := by simp [holdsSlot, pending]
    split at settles
    · cases settles
      by_cases settled : entry.state = .settled
      · have same : s.settle id (settlementOf ‹Option Value›) = s := by
          unfold settle
          simp only [found, if_pos settled]
        rw [same]
        exact move_finish entries found settled slot
      · exact move_answer entries found settled pending _ s.counters rfl
    · split at settles
      · rename_i settled
        cases settles
        exact move_finish entries found settled slot
      · rename_i unsettled
        cases settles
        exact move_answer entries found unsettled pending _ _ rfl
  · cases settles

theorem move_providerTimeout (entries : Entries s) {id : EntryId} {entry : QueueEntry Key}
    (found : s.entries id = some entry) (fires : s.providerTimeout id entry = some t) :
    Move s settings isoDate t := by
  have life := entries.life id entry found
  unfold providerTimeout at fires
  split at fires
  · rename_i armed
    have pending := life.timeout.mp armed
    have called : entry.work ≠ .unstarted := by
      rw [pending]
      decide
    have slot : holdsSlot entry = true := by simp [holdsSlot, pending]
    cases fires
    let held : QueueEntry Key := { entry with controllerAborted := true, timeoutTimer := false, work := .held }
    let fired : Controller Key Value := { s.setEntry id held with
      counters := { s.counters with timeout := s.counters.timeout + 1 } }
    change Move s settings isoDate (fired.settle id (.rejected addressProviderTimeout))
    have present : fired.entries id = some held := Function.update_self ..
    by_cases settled : entry.state = .settled
    · have same : fired.settle id (.rejected addressProviderTimeout) = fired := by
        unfold settle
        have stays : held.state = .settled := settled
        simp only [present, if_pos stays]
      have fields := life.state
      rw [settled] at fields
      rw [same]
      refine .changed id entry held [] ⟨found, rfl, rfl, rfl, ⟨by simp [held], ?_⟩, ⟨fun h => h, fun h => h⟩,
        ?_, ?_, (List.append_nil _).symm, List.Perm.refl _, fun unsettled => absurd settled unsettled, rfl, rfl,
        rfl, ?_, Or.inr ⟨rfl, rfl, rfl⟩, rfl⟩ ⟨by simp [held, called], fun _ => slot, rfl, rfl⟩ (Or.inl rfl)
      · simp only [held, settled]
        exact fields
      · exact (if_neg fun ⟨queued, other⟩ => other queued).symm
      · exact (if_neg fun ⟨unsettled, _⟩ => unsettled settled).symm
      · rw [slot]
        rfl
    · have flying := entries.flying id entry found settled
      rw [settle_eq present settled flying]
      refine .changed id entry (settledEntry held) _ ⟨found, ?_, rfl, rfl, life_settled (by simp [held]),
        ⟨fun _ => rfl, nofun⟩, ?_, ?_, rfl, owed_all _ (.rejected addressProviderTimeout),
        fun _ _ => alike_all _ _, rfl, rfl, rfl, ?_, Or.inr ⟨rfl, rfl, rfl⟩, rfl⟩
        ⟨by simp [settledEntry, held, called], fun _ => slot, rfl, rfl⟩ (Or.inl rfl)
      · exact Function.update_idem ..
      · exact (if_neg fun ⟨queued, _⟩ => not_queued life called queued).symm
      · exact (if_pos ⟨settled, rfl⟩).symm
      · rw [slot]
        rfl
  · cases fires

/-- Every event of the controller is one of the moves. -/
theorem step_move (entries : Entries s) {event : Event Key Value} (step : steps settings isoDate s event t) :
    Move s settings isoDate t := by
  cases event with
  | submit key signal policyAdmits =>
      cases step
      exact move_run entries key signal policyAdmits
  | abort id promise =>
      cases step
      exact move_abort entries id promise
  | pumpTurn =>
      simp only [steps, Controller.step] at step
      split at step
      · exact move_pumpTurn entries ‹_› step
      · cases step
  | expiryTimer id =>
      simp only [steps, Controller.step, Option.bind_eq_bind, Option.bind_eq_some_iff] at step
      obtain ⟨entry, found, fires⟩ := step
      split at fires
      · cases fires
        exact move_expireQueued entries id
      · cases fires
  | spacingTimer =>
      simp only [steps, Controller.step] at step
      split at step
      · cases step
        exact .woken rfl
      · cases step
  | providerSettles id result =>
      simp only [steps, Controller.step, Option.bind_eq_bind, Option.bind_eq_some_iff] at step
      obtain ⟨entry, found, settles⟩ := step
      split at settles
      · cases settles
      · exact move_providerSettles entries found result settles
  | providerTimeout id =>
      simp only [steps, Controller.step, Option.bind_eq_bind, Option.bind_eq_some_iff] at step
      obtain ⟨entry, found, fires⟩ := step
      split at fires
      · cases fires
      · exact move_providerTimeout entries found fires
  | tick now =>
      simp only [steps, Controller.step] at step
      split at step
      · rename_i later
        cases step
        exact .ticked now later.2 (Bool.eq_false_iff.mpr later.1) rfl
      · cases step

end PublicLighting.AddressSuggestion.Controller
