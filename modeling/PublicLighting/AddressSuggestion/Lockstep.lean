import PublicLighting.AddressSuggestion.Safety

/-! The controller takes the same steps whether or not one more caller waits with an entry. -/

namespace PublicLighting.AddressSuggestion.Controller

open PublicLighting.Foundations

variable {Key Value : Type}

variable (promise : PromiseId)

def deaf (entry : QueueEntry Key) : QueueEntry Key :=
  { entry with subscribers := entry.subscribers.filter fun subscriber => subscriber.promise ≠ promise }

def without (s : Controller Key Value) : Controller Key Value :=
  { s with
    entries := fun id => (s.entries id).map (deaf promise)
    settlements := s.settlements.filter fun settlement => settlement.1 ≠ promise }

variable {promise} {s : Controller Key Value}

theorem without_none (promise : PromiseId) {id : EntryId} (found : s.entries id = none) :
    (s.without promise).entries id = none := congrArg (Option.map (deaf promise)) found

theorem without_some (promise : PromiseId) {id : EntryId} {entry : QueueEntry Key}
    (found : s.entries id = some entry) : (s.without promise).entries id = some (deaf promise entry) :=
  congrArg (Option.map (deaf promise)) found

theorem without_setEntry (id : EntryId) (entry : QueueEntry Key) :
    (s.setEntry id entry).without promise = (s.without promise).setEntry id (deaf promise entry) := by
  have entries : (fun other => (Function.update s.entries id (some entry) other).map (deaf promise)) =
      Function.update (fun other => (s.entries other).map (deaf promise)) id (some (deaf promise entry)) := by
    funext other
    exact Function.apply_update (fun _ held => Option.map (deaf promise) held) s.entries id (some entry) other
  unfold without setEntry
  simp only [entries]

theorem told_without (subscribers : List QueueSubscriber) (outcome : Settlement Value) :
    (subscribers.map fun subscriber => (subscriber.promise, outcome)).filter
        (fun settlement => settlement.1 ≠ promise) =
      (subscribers.filter fun subscriber => subscriber.promise ≠ promise).map
        fun subscriber => (subscriber.promise, outcome) := by
  rw [List.filter_map]
  rfl

theorem without_left {id : EntryId} {entry : QueueEntry Key} (found : s.entries id = some entry)
    (promise : PromiseId) (signal : Bool) : without promise { s with
      entries := Function.update s.entries id
        (some { entry with subscribers := entry.subscribers.erase ⟨promise, signal⟩ })
      settlements := s.settlements ++ [(promise, .rejected cancellationError)] } = s.without promise := by
  let left : QueueEntry Key := { entry with subscribers := entry.subscribers.erase ⟨promise, signal⟩ }
  have gone : deaf promise left = deaf promise entry := by
    have erased : (entry.subscribers.erase ⟨promise, signal⟩).filter (fun other => other.promise ≠ promise) =
        entry.subscribers.filter fun other => other.promise ≠ promise := by
      rw [← List.erase_filter, List.erase_eq_self_iff.mpr]
      simp
    simp only [deaf, left, erased]
  have told : (s.settlements ++ [(promise, Settlement.rejected cancellationError)]).filter
      (fun settlement => settlement.1 ≠ promise) = (s.without promise).settlements := by
    rw [List.filter_append]
    simp [without]
  have still : (s.without promise).setEntry id (deaf promise entry) = s.without promise := by
    unfold setEntry
    rw [← without_some promise found, Function.update_eq_self]
  change { (s.setEntry id left).without promise with
    settlements := (s.settlements ++ [(promise, Settlement.rejected cancellationError)]).filter
      fun settlement => settlement.1 ≠ promise } = _
  rw [without_setEntry, gone, told, still]

theorem without_reject (fresh : s.promises ≠ promise) (error : ReportAddressSuggestionError) :
    (s.reject error).without promise = (s.without promise).reject error := by
  have kept : (s.settlements ++ [(s.promises, Settlement.rejected error)]).filter
        (fun settlement => settlement.1 ≠ promise) =
      (s.without promise).settlements ++ [(s.promises, .rejected error)] := by
    rw [List.filter_append]
    simp [fresh, without]
  unfold reject
  rw [without]
  simp only [kept]
  rfl

theorem without_subscribe (fresh : s.promises ≠ promise) (id : EntryId) (entry : QueueEntry Key) (signal : Bool) :
    (s.subscribe id entry signal).without promise =
      (s.without promise).subscribe id (deaf promise entry) signal := by
  have joined : deaf promise { entry with subscribers := entry.subscribers ++ [⟨s.promises, signal⟩] } =
      { deaf promise entry with
        subscribers := (deaf promise entry).subscribers ++ [⟨s.promises, signal⟩] } := by
    simp [deaf, List.filter_append, fresh]
  unfold subscribe
  change { (s.setEntry id { entry with subscribers := entry.subscribers ++ [⟨s.promises, signal⟩] }).without
    promise with promises := s.promises + 1 } = _
  rw [without_setEntry, joined]
  rfl

theorem without_finish (id : EntryId) : (s.finish id).without promise = (s.without promise).finish id := by
  unfold finish
  cases found : s.entries id with
  | none =>
      have none := without_none promise found
      simp only [none]
  | some entry =>
      have here := without_some promise found
      simp only [here]
      exact congrArg (fun c : Controller Key Value => { c with active := s.active - 1 }.pump)
        (without_setEntry id { entry with timeoutTimer := false, work := .finished })

variable [DecidableEq Key]

theorem without_forget (id : EntryId) (entry : QueueEntry Key) :
    (s.forget id entry).without promise = (s.without promise).forget id (deaf promise entry) := by
  unfold forget
  by_cases here : s.inFlight entry.key = some id
  · have kept : (s.without promise).inFlight (deaf promise entry).key = some id := here
    rw [if_pos here, if_pos kept]
    rfl
  · have kept : ¬ (s.without promise).inFlight (deaf promise entry).key = some id := here
    rw [if_neg here, if_neg kept]

theorem without_settle (id : EntryId) (outcome : Settlement Value) :
    (s.settle id outcome).without promise = (s.without promise).settle id outcome := by
  unfold settle
  cases found : s.entries id with
  | none =>
      have none := without_none promise found
      simp only [none]
  | some entry =>
      have here := without_some promise found
      simp only [here]
      by_cases settled : entry.state = .settled
      · have still : (deaf promise entry).state = .settled := settled
        rw [if_pos settled, if_pos still]
      · have still : ¬ (deaf promise entry).state = .settled := settled
        rw [if_neg settled, if_neg still]
        have cleared : deaf promise { entry with state := .settled, expiryTimer := false, subscribers := [] } =
            { deaf promise entry with state := .settled, expiryTimer := false, subscribers := [] } := rfl
        let quiet : QueueEntry Key := { entry with state := .settled, expiryTimer := false, subscribers := [] }
        change { ((s.setEntry id quiet).forget id entry).without promise with
          settlements := (s.settlements ++ entry.subscribers.map fun subscriber : QueueSubscriber =>
            (subscriber.promise, outcome)).filter fun settlement => settlement.1 ≠ promise } = _
        rw [without_forget, without_setEntry, List.filter_append, told_without]
        rfl

theorem without_cancel {id : EntryId} {entry : QueueEntry Key} (found : s.entries id = some entry)
    (observed : entry.subscribers = [] ↔ (deaf promise entry).subscribers = []) :
    (s.cancelWhenUnobserved id).without promise = (s.without promise).cancelWhenUnobserved id := by
  have here := without_some promise found
  have state : (deaf promise entry).state = entry.state := rfl
  unfold cancelWhenUnobserved
  simp only [found, here, state]
  by_cases kept : entry.subscribers ≠ [] ∨ entry.state = .settled
  · have still : (deaf promise entry).subscribers ≠ [] ∨ entry.state = .settled :=
      kept.imp_left fun some none => some (observed.mpr none)
    rw [if_pos kept, if_pos still]
  · have still : ¬((deaf promise entry).subscribers ≠ [] ∨ entry.state = .settled) :=
      fun other => kept (other.imp_left fun some none => some (observed.mp none))
    rw [if_neg kept, if_neg still]
    by_cases queued : entry.state = .queued
    · simp only [if_pos queued]
      exact congrArg pump ((without_forget id entry).trans
        (congrArg (fun s => forget s id (deaf promise entry)) (without_setEntry id _)))
    · simp only [if_neg queued]
      exact congrArg pump ((without_forget id entry).trans
        (congrArg (fun s => forget s id (deaf promise entry)) (without_setEntry id _)))

def Observed (promise : PromiseId) (entry : QueueEntry Key) (other : PromiseId) : Prop :=
  entry.subscribers.erase ⟨other, true⟩ = [] ↔ (deaf promise entry).subscribers.erase ⟨other, true⟩ = []

theorem without_abort {id : EntryId} {other : PromiseId} (different : other ≠ promise)
    (observed : ∀ entry, s.entries id = some entry → ⟨other, true⟩ ∈ entry.subscribers →
      Observed promise entry other) : (s.abort id other).without promise = (s.without promise).abort id other := by
  unfold abort
  cases found : s.entries id with
  | none =>
      have none := without_none promise found
      simp only [none]
  | some entry =>
      have here := without_some promise found
      have member : ⟨other, true⟩ ∈ (deaf promise entry).subscribers ↔ ⟨other, true⟩ ∈ entry.subscribers := by
        simp [deaf, different]
      simp only [here, member]
      split
      · rename_i waits
        have observed := observed entry found waits
        have erased : (deaf promise entry).subscribers.erase ⟨other, true⟩ =
            (entry.subscribers.erase ⟨other, true⟩).filter fun subscriber => subscriber.promise ≠ promise :=
          List.erase_filter
        let left : QueueEntry Key := { entry with subscribers := entry.subscribers.erase ⟨other, true⟩ }
        have cut : deaf promise left = { deaf promise entry with
            subscribers := (deaf promise entry).subscribers.erase ⟨other, true⟩ } := by
          rw [erased]
          rfl
        let rejected : Controller Key Value := { s.setEntry id left with
          settlements := s.settlements ++ [(other, .rejected cancellationError)] }
        have present : rejected.entries id = some left := Function.update_self ..
        have cancelled := without_cancel present (by rw [cut]; exact observed)
        have same : rejected.without promise = { (s.without promise).setEntry id (deaf promise left) with
            settlements := (s.without promise).settlements ++ [(other, .rejected cancellationError)] } := by
          change { (s.setEntry id left).without promise with
            settlements := (s.settlements ++ [(other, Settlement.rejected cancellationError)]).filter
              fun settlement => settlement.1 ≠ promise } = _
          rw [without_setEntry, List.filter_append]
          simp [different, without]
        rw [same, cut] at cancelled
        exact cancelled
      · rfl

variable (settings : ReportAddressAdmissionSettings) (isoDate : Int → String)

theorem without_run (fresh : s.promises ≠ promise) (key : Key) (signal : Signal) (policyAdmits : Option Bool) :
    (s.run settings key signal policyAdmits).without promise =
      (s.without promise).run settings key signal policyAdmits := by
  unfold run
  by_cases aborted : signal = .aborted
  · rw [if_pos aborted, if_pos aborted]
    exact without_reject fresh _
  · rw [if_neg aborted, if_neg aborted]
    have flight : (s.without promise).inFlight key = s.inFlight key := rfl
    rw [flight]
    cases s.inFlight key with
    | some id =>
        cases found : s.entries id with
        | none =>
            have none := without_none promise found
            simp only [none, found]
        | some entry =>
            have here := without_some promise found
            simp only [here, found]
            exact @without_subscribe _ _ promise { s with counters :=
              { s.counters with coalesced := s.counters.coalesced + 1 } } fresh id entry _
    | none =>
        by_cases refused : policyAdmits = some false
        · simp only [if_pos refused]
          exact @without_reject _ _ promise s.countRejected fresh _
        · simp only [if_neg refused]
          have queue : (s.without promise).queue = s.queue := rfl
          have active : (s.without promise).active = s.active := rfl
          have next : (s.without promise).nextStartAt = s.nextStartAt := rfl
          have now : (s.without promise).now = s.now := rfl
          rw [queue, active, next, now]
          split
          · exact @without_reject _ _ promise s.countRejected fresh _
          · let accepted : Controller Key Value := { s with
              counters := { s.counters with accepted := s.counters.accepted + 1 }
              inFlight := Function.update s.inFlight key (some s.counters.accepted) }
            let entry : QueueEntry Key := ⟨key, [], false, s.now + settings.queueExpiryMs, true, false, .queued,
              .unstarted⟩
            have subscribed := @without_subscribe _ _ promise accepted fresh s.counters.accepted entry
              (decide (signal = Signal.live))
            exact congrArg (fun c : Controller Key Value => { c with
              queue := s.queue ++ [s.counters.accepted] }.pump)
              subscribed

theorem without_expireQueued (id : EntryId) :
    (s.expireQueued id).without promise = (s.without promise).expireQueued id := by
  unfold expireQueued
  cases found : s.entries id with
  | none =>
      have none := without_none promise found
      simp only [none]
  | some entry =>
      have here := without_some promise found
      have state : (deaf promise entry).state = entry.state := rfl
      simp only [here, state]
      split
      · rfl
      · exact congrArg (fun c : Controller Key Value => c.countRejected.pump)
          (@without_settle _ _ promise { s with queue := s.queue.erase id } _ id _)

theorem without_startEntry (id : EntryId) (entry : QueueEntry Key) :
    (s.startEntry settings isoDate id entry).without promise =
      (s.without promise).startEntry settings isoDate id (deaf promise entry) := by
  have expires : (deaf promise entry).expiresAt = entry.expiresAt := rfl
  have now : (s.without promise).now = s.now := rfl
  have consumed : (s.without promise).consumeBudget settings isoDate = s.consumeBudget settings isoDate := rfl
  unfold startEntry
  simp only [expires, now, consumed]
  let starting : QueueEntry Key := { entry with expiryTimer := false, state := .starting }
  have shifted : (s.setEntry id starting).without promise =
      (s.without promise).setEntry id (deaf promise starting) := without_setEntry id starting
  split
  · let released : Controller Key Value := { s.setEntry id starting with queue := s.queue.tail }
    have settled := @without_settle _ _ promise released _ id (.rejected queueExpired)
    have same : released.without promise = { (s.without promise).setEntry id (deaf promise starting) with
        queue := s.queue.tail } :=
      congrArg (fun c : Controller Key Value => { c with queue := s.queue.tail }) shifted
    rw [same] at settled
    exact congrArg countRejected settled
  · split
    · let running : QueueEntry Key := { starting with state := .running, work := .pending, timeoutTimer := true }
      let counted : Controller Key Value := { s.setEntry id starting with
        queue := s.queue.tail
        active := s.active + 1
        dailyBudgetDate := (s.consumeBudget settings isoDate).2.1
        dailyBudgetUsed := (s.consumeBudget settings isoDate).2.2
        nextStartAt := s.now + settings.minStartIntervalMs
        starts := s.starts ++ [(id, s.now)] }
      have same : counted.without promise = { (s.without promise).setEntry id (deaf promise starting) with
          queue := s.queue.tail
          active := s.active + 1
          dailyBudgetDate := (s.consumeBudget settings isoDate).2.1
          dailyBudgetUsed := (s.consumeBudget settings isoDate).2.2
          nextStartAt := s.now + settings.minStartIntervalMs
          starts := s.starts ++ [(id, s.now)] } :=
        congrArg (fun c : Controller Key Value => { c with
          queue := s.queue.tail
          active := s.active + 1
          dailyBudgetDate := (s.consumeBudget settings isoDate).2.1
          dailyBudgetUsed := (s.consumeBudget settings isoDate).2.2
          nextStartAt := s.now + settings.minStartIntervalMs
          starts := s.starts ++ [(id, s.now)] }) shifted
      have executed := @without_setEntry _ _ promise counted id running
      rw [same] at executed
      exact executed
    · let released : Controller Key Value := { s.setEntry id starting with
        queue := s.queue.tail
        dailyBudgetDate := (s.consumeBudget settings isoDate).2.1
        dailyBudgetUsed := (s.consumeBudget settings isoDate).2.2 }
      have settled := @without_settle _ _ promise released _ id (.rejected dailyBudgetExceeded)
      have same : released.without promise = { (s.without promise).setEntry id (deaf promise starting) with
          queue := s.queue.tail
          dailyBudgetDate := (s.consumeBudget settings isoDate).2.1
          dailyBudgetUsed := (s.consumeBudget settings isoDate).2.2 } :=
        congrArg (fun c : Controller Key Value => { c with
          queue := s.queue.tail
          dailyBudgetDate := (s.consumeBudget settings isoDate).2.1
          dailyBudgetUsed := (s.consumeBudget settings isoDate).2.2 }) shifted
      rw [same] at settled
      exact congrArg countRejected settled

theorem without_pumpTurn :
    ((s.pumpTurn settings isoDate).map (without promise)) = (s.without promise).pumpTurn settings isoDate := by
  have queue : (s.without promise).queue = s.queue := rfl
  have active : (s.without promise).active = s.active := rfl
  have next : (s.without promise).nextStartAt = s.nextStartAt := rfl
  have now : (s.without promise).now = s.now := rfl
  unfold pumpTurn
  rw [queue, active, next, now]
  split
  · cases s.queue with
    | nil => rfl
    | cons id rest =>
        cases found : s.entries id with
        | none =>
            have none := without_none promise found
            simp only [none, found, Option.map_none]
        | some entry =>
            have here := without_some promise found
            have expires : (deaf promise entry).expiresAt = entry.expiresAt := rfl
            simp only [here, found, expires]
            split
            · rw [Option.map_some, without_expireQueued]
            · split
              · rfl
              · rw [Option.map_some, without_startEntry]
  · rfl

theorem without_providerSettles (id : EntryId) (entry : QueueEntry Key)
    (result : Except ProviderFailure (Option Value)) :
    (s.providerSettles id entry result).map (without promise) =
      (s.without promise).providerSettles id (deaf promise entry) result := by
  have work : (deaf promise entry).work = entry.work := rfl
  have state : (deaf promise entry).state = entry.state := rfl
  unfold providerSettles
  rw [work, state]
  cases entry.work with
  | unstarted => rfl
  | finished => rfl
  | held => exact congrArg some (without_finish id)
  | pending =>
      cases result with
      | ok value => exact congrArg some ((without_finish id).trans (congrArg (fun c => finish c id)
          (without_settle id _)))
      | error failure =>
          simp only
          split
          · exact congrArg some (without_finish id)
          · exact congrArg some ((without_finish id).trans (congrArg (fun c => finish c id)
              (@without_settle _ _ promise s.countProviderFailure _ id _)))

theorem without_providerTimeout (id : EntryId) (entry : QueueEntry Key) :
    (s.providerTimeout id entry).map (without promise) =
      (s.without promise).providerTimeout id (deaf promise entry) := by
  have timer : (deaf promise entry).timeoutTimer = entry.timeoutTimer := rfl
  unfold providerTimeout
  rw [timer]
  split
  · let held : QueueEntry Key := { entry with controllerAborted := true, timeoutTimer := false, work := .held }
    let counted : Controller Key Value := { s.setEntry id held with
      counters := { s.counters with timeout := s.counters.timeout + 1 } }
    have settled := @without_settle _ _ promise counted _ id (.rejected addressProviderTimeout)
    have same : counted.without promise = { (s.without promise).setEntry id (deaf promise held) with
        counters := { s.counters with timeout := s.counters.timeout + 1 } } :=
      congrArg (fun c : Controller Key Value => { c with
        counters := { s.counters with timeout := s.counters.timeout + 1 } }) (without_setEntry id held)
    rw [same] at settled
    exact congrArg some settled
  · rfl

/-- An event that neither is the promise's own abort nor leaves it alone with its entry. -/
def Unnoticed (promise : PromiseId) (s : Controller Key Value) : Event Key Value → Prop
  | .abort id other => other ≠ promise ∧ ∀ entry, s.entries id = some entry →
      ⟨other, true⟩ ∈ entry.subscribers → Observed promise entry other
  | _ => True

/-- The controller takes the same step whether or not somebody waits with the promise. -/
theorem without_step (given : promise < s.promises) {event : Event Key Value}
    (unnoticed : Unnoticed promise s event) :
    (s.step settings isoDate event).map (without promise) = (s.without promise).step settings isoDate event := by
  have fresh : s.promises ≠ promise := (Nat.ne_of_lt given).symm
  have running : (s.without promise).pumpRunning = s.pumpRunning := rfl
  have entries : ∀ id, (s.without promise).entries id = (s.entries id).map (deaf promise) := fun _ => rfl
  cases event with
  | submit key signal policyAdmits => exact congrArg some (without_run settings fresh key signal policyAdmits)
  | abort id other => exact congrArg some (without_abort unnoticed.1 unnoticed.2)
  | pumpTurn =>
      simp only [step, running]
      split
      · exact without_pumpTurn settings isoDate
      · rfl
  | expiryTimer id =>
      simp only [step, running, entries]
      cases found : s.entries id with
      | none => rfl
      | some entry =>
          have timer : (deaf promise entry).expiryTimer = entry.expiryTimer := rfl
          simp only [Option.map_some, Option.bind_eq_bind, Option.bind_some, timer]
          split
          · exact congrArg some (without_expireQueued id)
          · rfl
  | spacingTimer =>
      have timer : (s.without promise).spacingTimer = s.spacingTimer := rfl
      simp only [step, running, timer]
      split <;> rfl
  | providerSettles id result =>
      simp only [step, running, entries]
      cases found : s.entries id with
      | none => rfl
      | some entry =>
          simp only [Option.map_some, Option.bind_eq_bind, Option.bind_some]
          split
          · rfl
          · exact without_providerSettles id entry result
  | providerTimeout id =>
      simp only [step, running, entries]
      cases found : s.entries id with
      | none => rfl
      | some entry =>
          simp only [Option.map_some, Option.bind_eq_bind, Option.bind_some]
          split
          · rfl
          · exact without_providerTimeout id entry
  | tick now =>
      have clock : (s.without promise).now = s.now := rfl
      simp only [step, running, clock]
      split <;> rfl

end PublicLighting.AddressSuggestion.Controller
