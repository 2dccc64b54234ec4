import Mathlib.Data.List.Pairwise
import PublicLighting.AddressSuggestion.Lockstep

/-! What becomes of the promises that the controller gives out. -/

namespace PublicLighting.AddressSuggestion.Controller

open PublicLighting.Foundations

variable {Key Value : Type} {s t : Controller Key Value}

theorem mem_waiting (entries : Entries s) {promise : PromiseId} :
    promise ∈ s.waiting ↔ ∃ id entry, s.entries id = some entry ∧ promise ∈ promisesOf entry := by
  rw [waiting, List.mem_flatMap]
  constructor
  · intro listed
    obtain ⟨id, below, member⟩ := listed
    obtain ⟨entry, found⟩ := (entries.known id).mpr (List.mem_range.mp below)
    rw [entryPromises_of found] at member
    exact ⟨id, entry, found, member⟩
  · intro held
    obtain ⟨id, entry, found, member⟩ := held
    refine ⟨id, List.mem_range.mpr (entries.below found), ?_⟩
    rw [entryPromises_of found]
    exact member

namespace Promises

variable (promises : Promises s)

include promises

theorem distinct : (s.settlements.map (·.1) ++ s.waiting).Nodup := promises.nodup_iff.mpr List.nodup_range

theorem once : (s.settlements.map (·.1)).Nodup := promises.distinct.of_append_left

theorem apart {promise : PromiseId} (settled : promise ∈ s.settlements.map (·.1)) : promise ∉ s.waiting :=
  (List.disjoint_of_nodup_append promises.distinct) settled

theorem given {promise : PromiseId} : promise < s.promises ↔
    promise ∈ s.settlements.map (·.1) ∨ promise ∈ s.waiting := by
  rw [← List.mem_append, promises.mem_iff, List.mem_range]

theorem outcome {promise : PromiseId} {outcome other : Settlement Value}
    (told : (promise, outcome) ∈ s.settlements) (again : (promise, other) ∈ s.settlements) : outcome = other :=
  (Prod.mk.inj (List.inj_on_of_nodup_map promises.once told again rfl)).2

theorem alone (entries : Entries s) {promise : PromiseId} {id other : EntryId} {entry rival : QueueEntry Key}
    (found : s.entries id = some entry) (here : promise ∈ promisesOf entry)
    (present : s.entries other = some rival) (there : promise ∈ promisesOf rival) : id = other := by
  by_contra different
  have disjoint := (List.nodup_flatMap.mp promises.distinct.of_append_right).2
  have symmetric : Std.Symm (Function.onFun List.Disjoint s.entryPromises) :=
    ⟨fun _ _ apart _ left right => apart right left⟩
  have apart := disjoint.forall (List.mem_range.mpr (entries.below found))
    (List.mem_range.mpr (entries.below present)) different
  change List.Disjoint (s.entryPromises id) (s.entryPromises other) at apart
  rw [entryPromises_of found, entryPromises_of present] at apart
  exact apart here there

end Promises

theorem armed (entries : Entries s) {promise : PromiseId} {id : EntryId} {entry : QueueEntry Key}
    (found : s.entries id = some entry) (here : promise ∈ promisesOf entry) :
    entry.state = .queued ∧ entry.expiryTimer = true ∨ entry.state = .running ∧ entry.timeoutTimer = true := by
  have life := entries.life id entry found
  have fields := life.state
  cases state : entry.state with
  | queued =>
      rw [state] at fields
      exact Or.inl ⟨rfl, fields.1⟩
  | starting =>
      rw [state] at fields
      exact fields.elim
  | running =>
      rw [state] at fields
      exact Or.inr ⟨rfl, life.timeout.mpr fields.1⟩
  | settled =>
      rw [state] at fields
      rw [promisesOf, fields] at here
      cases here

section Signals

variable (s t) in
def Quiet : Prop := ∀ id entry, t.entries id = some entry → entry.controllerAborted = true →
  ∃ before, s.entries id = some before ∧ before.controllerAborted = true

theorem Quiet.refl : Quiet s s := fun _ entry found aborted => ⟨entry, found, aborted⟩

theorem Quiet.trans {u : Controller Key Value} (first : Quiet s t) (second : Quiet t u) : Quiet s u := by
  intro id entry found aborted
  obtain ⟨before, present, earlier⟩ := second id entry found aborted
  exact first id before present earlier

theorem quiet_setEntry {id : EntryId} {entry : QueueEntry Key} (same : entry.controllerAborted = true →
    ∃ before, s.entries id = some before ∧ before.controllerAborted = true) : Quiet s (s.setEntry id entry) :=
  update_some (fun id (entry : QueueEntry Key) => entry.controllerAborted = true →
    ∃ before, s.entries id = some before ∧ before.controllerAborted = true) same
    fun _ held _ found aborted => ⟨held, found, aborted⟩

theorem quiet_finish (id : EntryId) : Quiet s (s.finish id) := by
  unfold finish
  cases found : s.entries id with
  | none => exact Quiet.refl
  | some entry => exact quiet_setEntry fun aborted => ⟨entry, found, aborted⟩

variable [DecidableEq Key]

theorem forget_entries (id : EntryId) (entry : QueueEntry Key) : (s.forget id entry).entries = s.entries := by
  unfold forget
  split <;> rfl

theorem quiet_settle (id : EntryId) (outcome : Settlement Value) : Quiet s (s.settle id outcome) := by
  unfold settle
  cases found : s.entries id with
  | none => exact Quiet.refl
  | some entry =>
      simp only
      split
      · exact Quiet.refl
      · have set : Quiet s (s.setEntry id { entry with
          state := .settled, expiryTimer := false, subscribers := [] }) :=
          quiet_setEntry fun aborted => ⟨entry, found, aborted⟩
        intro other held present
        simp only [forget_entries] at present
        exact set other held present

theorem quiet_expireQueued (id : EntryId) : Quiet s (s.expireQueued id) := by
  unfold expireQueued
  cases found : s.entries id with
  | none => exact Quiet.refl
  | some entry =>
      simp only
      split
      · exact Quiet.refl
      · exact @quiet_settle _ _ { s with queue := s.queue.erase id } _ id _

variable {settings : ReportAddressAdmissionSettings} {isoDate : Int → String}

theorem quiet_startEntry {id : EntryId} {entry : QueueEntry Key} (found : s.entries id = some entry) :
    Quiet s (s.startEntry settings isoDate id entry) := by
  let starting : QueueEntry Key := { entry with expiryTimer := false, state := .starting }
  let shifted : Controller Key Value := { s.setEntry id starting with queue := s.queue.tail }
  have set : Quiet s shifted := quiet_setEntry fun aborted => ⟨entry, found, aborted⟩
  unfold startEntry
  simp only
  split
  · exact set.trans (quiet_settle id (.rejected queueExpired))
  · split
    · have running : Quiet shifted (shifted.setEntry id { starting with
          state := .running, work := .pending, timeoutTimer := true }) :=
        quiet_setEntry fun aborted => ⟨starting, Function.update_self .., aborted⟩
      exact set.trans running
    · let counted : Controller Key Value := { shifted with
        dailyBudgetDate := (s.consumeBudget settings isoDate).2.1
        dailyBudgetUsed := (s.consumeBudget settings isoDate).2.2 }
      have settled : Quiet counted (counted.settle id (.rejected dailyBudgetExceeded)) := quiet_settle id _
      exact set.trans settled

theorem quiet_run (key : Key) (signal : Signal) (policyAdmits : Option Bool) :
    Quiet s (s.run settings key signal policyAdmits) := by
  unfold run
  split
  · exact Quiet.refl
  · split
    · rename_i id flight
      split
      · rename_i entry found
        exact quiet_setEntry fun aborted => ⟨entry, found, aborted⟩
      · exact Quiet.refl
    · split
      · exact Quiet.refl
      · simp only
        split
        · exact Quiet.refl
        · exact quiet_setEntry nofun

theorem quiet_pumpTurn (turn : s.pumpTurn settings isoDate = some t) : Quiet s t := by
  unfold pumpTurn at turn
  split at turn
  · split at turn
    · cases turn
      exact Quiet.refl
    · split at turn
      · cases turn
      · rename_i entry found
        split at turn
        · cases turn
          exact quiet_expireQueued _
        · split at turn
          · cases turn
            exact Quiet.refl
          · cases turn
            exact quiet_startEntry found
  · cases turn
    exact Quiet.refl

theorem quiet_providerSettles {id : EntryId} {entry : QueueEntry Key}
    {result : Except ProviderFailure (Option Value)} (settles : s.providerSettles id entry result = some t) :
    Quiet s t := by
  unfold providerSettles at settles
  split at settles
  · cases settles
    exact quiet_finish id
  · split at settles
    · cases settles
      exact (quiet_settle id _).trans (quiet_finish id)
    · split at settles
      · cases settles
        exact quiet_finish id
      · cases settles
        have settled : Quiet s.countProviderFailure (s.countProviderFailure.settle id
          (.rejected (publicProviderError ‹ProviderFailure›))) := quiet_settle id _
        exact settled.trans (quiet_finish id)
  · cases settles

theorem providerTimeout_elsewhere {id other : EntryId} {entry : QueueEntry Key}
    (fires : s.providerTimeout id entry = some t) (elsewhere : other ≠ id) : t.entries other = s.entries other := by
  unfold providerTimeout at fires
  split at fires
  · cases fires
    unfold settle
    split
    · exact Function.update_of_ne elsewhere ..
    · simp only
      split
      · exact Function.update_of_ne elsewhere ..
      · simp only [forget_entries]
        exact (Function.update_of_ne elsewhere ..).trans (Function.update_of_ne elsewhere ..)
  · cases fires

/-- Only a timeout or the last caller to leave aborts the signal of a provider call. -/
theorem signal_step (entries : Entries s) {event : Event Key Value} (step : steps settings isoDate s event t)
    {id : EntryId} {before after : QueueEntry Key} (found : s.entries id = some before)
    (next : t.entries id = some after) (unaborted : before.controllerAborted = false)
    (aborted : after.controllerAborted = true) :
    event = .providerTimeout id ∨ after.subscribers = [] ∧
      ∃ promise, event = .abort id promise ∧ before.subscribers = [⟨promise, true⟩] := by
  have loud : ¬Quiet s t := by
    intro quiet
    obtain ⟨earlier, present, already⟩ := quiet id after next aborted
    rw [found] at present
    cases present
    rw [unaborted] at already
    cases already
  cases event with
  | submit key signal policyAdmits =>
      cases step
      exact absurd (quiet_run key signal policyAdmits) loud
  | abort other promise =>
      cases step
      apply Or.inr
      by_cases present : ∃ entry, s.entries other = some entry ∧ ⟨promise, true⟩ ∈ entry.subscribers
      · obtain ⟨entry, here, member⟩ := present
        by_cases others : entry.subscribers.erase ⟨promise, true⟩ = []
        · have awake := unsettled_of_mem (entries.life other entry here) member
          rw [abort_last here member others awake (entries.flying other entry here awake)] at next
          by_cases same : id = other
          · subst same
            simp only [Function.update_self, Option.some.injEq] at next
            rw [here] at found
            cases found
            subst next
            exact ⟨rfl, promise, rfl, single_of_erase member others⟩
          · simp only [Function.update_of_ne same, found, Option.some.injEq] at next
            subst next
            rw [unaborted] at aborted
            cases aborted
        · rw [abort_stays here member others] at loud
          have stays : Quiet s (s.setEntry other { entry with
              subscribers := entry.subscribers.erase ⟨promise, true⟩ }) :=
            quiet_setEntry fun already => ⟨entry, here, already⟩
          exact absurd stays loud
      · rw [abort_stranger fun entry here member => present ⟨entry, here, member⟩] at loud
        exact absurd Quiet.refl loud
  | pumpTurn =>
      apply absurd _ loud
      simp only [steps, Controller.step] at step
      split at step
      · exact quiet_pumpTurn step
      · cases step
  | expiryTimer other =>
      apply absurd _ loud
      simp only [steps, Controller.step, Option.bind_eq_bind, Option.bind_eq_some_iff] at step
      obtain ⟨entry, present, fires⟩ := step
      split at fires
      · cases fires
        exact quiet_expireQueued other
      · cases fires
  | spacingTimer =>
      apply absurd _ loud
      simp only [steps, Controller.step] at step
      split at step
      · cases step
        exact Quiet.refl
      · cases step
  | providerSettles other result =>
      apply absurd _ loud
      simp only [steps, Controller.step, Option.bind_eq_bind, Option.bind_eq_some_iff] at step
      obtain ⟨entry, present, settles⟩ := step
      split at settles
      · cases settles
      · exact quiet_providerSettles settles
  | providerTimeout other =>
      apply Or.inl
      simp only [steps, Controller.step, Option.bind_eq_bind, Option.bind_eq_some_iff] at step
      obtain ⟨entry, present, fires⟩ := step
      split at fires
      · cases fires
      · by_contra different
        have elsewhere : id ≠ other := fun same => different (congrArg Event.providerTimeout same.symm)
        have still := providerTimeout_elsewhere fires elsewhere
        rw [next, found] at still
        cases still
        rw [unaborted] at aborted
        cases aborted
  | tick now =>
      apply absurd _ loud
      simp only [steps, Controller.step] at step
      split at step
      · cases step
        exact Quiet.refl
      · cases step

end Signals

variable [DecidableEq Key] {settings : ReportAddressAdmissionSettings} {isoDate : Int → String}

/-- Who waits with an entry is told an outcome or goes on waiting with it. -/
theorem waits_step (entries : Entries s) {event : Event Key Value} (step : steps settings isoDate s event t)
    {promise : PromiseId} {id : EntryId} {entry : QueueEntry Key} (found : s.entries id = some entry)
    (here : promise ∈ promisesOf entry) : promise ∈ t.settlements.map (·.1) ∨
      ∃ after, t.entries id = some after ∧ promise ∈ promisesOf after := by
  have still : t.entries id = s.entries id → ∃ after, t.entries id = some after ∧ promise ∈ promisesOf after :=
    fun same => ⟨entry, same.trans found, here⟩
  have changed : ∀ {other before after told}, Change s t other before after told →
      promise ∈ t.settlements.map (·.1) ∨ ∃ after, t.entries id = some after ∧ promise ∈ promisesOf after := by
    intro other before after told change
    by_cases same : id = other
    · rw [same, change.found] at found
      cases found
      rcases List.mem_append.mp (change.owed.mem_iff.mp here) with settled | waiting
      · apply Or.inl
        rw [change.settlements, List.map_append]
        exact List.mem_append_right _ settled
      · exact Or.inr ⟨after, by rw [change.entries, same, Function.update_self], waiting⟩
    · exact Or.inr (still (by rw [change.entries]; exact Function.update_of_ne same ..))
  cases step_move entries step with
  | rejected error counters same accepted => exact Or.inr (still (by rw [same]))
  | subscribed other held signal counters present unsettled same accepted =>
      apply Or.inr
      by_cases mine : id = other
      · rw [mine, present] at found
        cases found
        refine ⟨{ entry with subscribers := entry.subscribers ++ [⟨s.promises, signal⟩] }, ?_, ?_⟩
        · rw [same, mine]
          exact Function.update_self ..
        · rw [promisesOf, List.map_append]
          exact List.mem_append_left _ here
      · exact still (by rw [same]; exact Function.update_of_ne mine ..)
  | accepted key signal free room same =>
      have different := Nat.ne_of_lt (entries.below found)
      exact Or.inr (still (by rw [same]; exact Function.update_of_ne different ..))
  | changed other before after told change => exact changed change
  | started other before after change => exact changed change
  | paused spacing reason kept same => exact Or.inr (still (by rw [same]))
  | woken same => exact Or.inr (still (by rw [same]))
  | idle same => exact Or.inr (still (by rw [same]))
  | ticked now forward resting same => exact Or.inr (still (by rw [same]))

theorem alike_step (entries : Entries s) {event : Event Key Value} (step : steps settings isoDate s event t)
    {id : EntryId} {before after : QueueEntry Key} (found : s.entries id = some before)
    (next : t.entries id = some after) (unsettled : before.state ≠ .settled) (settled : after.state = .settled) :
    ∃ outcome, t.settlements = s.settlements ++ (promisesOf before).map fun promise => (promise, outcome) := by
  have still : t.entries id ≠ s.entries id := by
    intro same
    rw [same, found] at next
    cases next
    exact unsettled settled
  have changed : ∀ {other old new told}, Change s t other old new told →
      ∃ outcome, t.settlements = s.settlements ++ (promisesOf before).map fun promise => (promise, outcome) := by
    intro other old new told change
    by_cases same : id = other
    · rw [same, change.found] at found
      rw [change.entries, same, Function.update_self] at next
      cases found
      cases next
      obtain ⟨outcome, told⟩ := change.alike unsettled settled
      exact ⟨outcome, by rw [change.settlements, told]⟩
    · exact absurd (by rw [change.entries]; exact Function.update_of_ne same ..) still
  cases step_move entries step with
  | rejected error counters same accepted => exact absurd (by rw [same]) still
  | subscribed other held signal counters present awake same accepted =>
      by_cases mine : id = other
      · simp only [same, mine, Function.update_self, Option.some.injEq] at next
        rw [← next] at settled
        exact absurd settled awake
      · exact absurd (by rw [same]; exact Function.update_of_ne mine ..) still
  | accepted key signal free room same =>
      have different := Nat.ne_of_lt (entries.below found)
      exact absurd (by rw [same]; exact Function.update_of_ne different ..) still
  | changed other old new told change => exact changed change
  | started other old new change => exact changed change
  | paused spacing reason kept same => exact absurd (by rw [same]) still
  | woken same => exact absurd (by rw [same]) still
  | idle same => exact absurd (by rw [same]) still
  | ticked now forward resting same => exact absurd (by rw [same]) still

theorem settlements_step (entries : Entries s) {event : Event Key Value} (step : steps settings isoDate s event t)
    {settled : PromiseId × Settlement Value} (member : settled ∈ s.settlements) : settled ∈ t.settlements := by
  cases step_move entries step with
  | rejected error counters same accepted =>
      rw [same]
      exact List.mem_append_left _ member
  | subscribed id entry signal counters found unsettled same accepted => exact same ▸ member
  | accepted key signal free room same => exact same ▸ member
  | changed id before after told change =>
      rw [change.settlements]
      exact List.mem_append_left _ member
  | started id before after change =>
      rw [change.settlements]
      exact List.mem_append_left _ member
  | paused spacing reason kept same => exact same ▸ member
  | woken same => exact same ▸ member
  | idle same => exact same ▸ member
  | ticked now forward resting same => exact same ▸ member

theorem settlements_run (usable : Usable settings) (inv : Invariant s settings isoDate)
    {events : List (Event Key Value)} (run : Run (steps settings isoDate) s events t)
    {settled : PromiseId × Settlement Value} (member : settled ∈ s.settlements) : settled ∈ t.settlements := by
  have both : Invariant t settings isoDate ∧ settled ∈ t.settlements :=
    @Run.invariant _ _ _ (fun s => Invariant s settings isoDate ∧ settled ∈ s.settlements) _ _ _
      (fun _ _ _ held step => ⟨invariant_step usable held.1 step, settlements_step held.1.entries step held.2⟩)
      run ⟨inv, member⟩
  exact both.2

/-- Two controllers that differ by one caller, who has left the first. Another caller waits in both,
with the only entry that the second may still know the first caller by. -/
structure Paired (settings : ReportAddressAdmissionSettings) (isoDate : Int → String)
    (promise other : PromiseId) (left stayed : Controller Key Value) : Prop where
  same : left.without promise = stayed.without promise
  invariant : Invariant left settings isoDate
  counterpart : Invariant stayed settings isoDate
  gone : promise ∈ left.settlements.map (·.1)
  different : other ≠ promise
  waits : ∃ id entry, stayed.entries id = some entry ∧ other ∈ promisesOf entry ∧
    ∀ rival held, stayed.entries rival = some held → promise ∈ promisesOf held → rival = id

def aborts (promise : PromiseId) : Event Key Value → Bool
  | .abort _ other => other = promise
  | _ => false

omit [DecidableEq Key] in
theorem Paired.settled {promise other : PromiseId} {left stayed : Controller Key Value}
    (same : left.without promise = stayed.without promise) (different : other ≠ promise)
    (outcome : Settlement Value) : (other, outcome) ∈ left.settlements ↔ (other, outcome) ∈ stayed.settlements := by
  have lists : (other, outcome) ∈ (left.without promise).settlements ↔
      (other, outcome) ∈ (stayed.without promise).settlements := by rw [same]
  simpa [without, different] using lists

omit [DecidableEq Key] in
theorem Paired.unheard {promise other : PromiseId} {left stayed : Controller Key Value}
    (paired : Paired settings isoDate promise other left stayed) {id : EntryId} {entry : QueueEntry Key}
    (found : left.entries id = some entry) : deaf promise entry = entry := by
  have absent := paired.invariant.promises.apart paired.gone
  have strangers : ∀ subscriber ∈ entry.subscribers, decide (subscriber.promise ≠ promise) = true := by
    intro subscriber member
    apply decide_eq_true
    intro same
    apply absent
    rw [mem_waiting paired.invariant.entries]
    exact ⟨id, entry, found, List.mem_map.mpr ⟨subscriber, member, same⟩⟩
  unfold deaf
  rw [List.filter_eq_self.mpr strangers]

omit [DecidableEq Key] in
theorem Paired.entry {promise other : PromiseId} {left stayed : Controller Key Value}
    (paired : Paired settings isoDate promise other left stayed) {id : EntryId} {entry : QueueEntry Key}
    (found : stayed.entries id = some entry) :
    ∃ alike, left.entries id = some alike ∧ deaf promise alike = deaf promise entry := by
  have same : (left.without promise).entries id = some (deaf promise entry) := by
    rw [paired.same]
    exact without_some promise found
  exact Option.map_eq_some_iff.mp same

omit [DecidableEq Key] in
theorem Paired.only {promise other leaver : PromiseId} {left stayed : Controller Key Value}
    (paired : Paired settings isoDate promise other left stayed) {id : EntryId} {entry : QueueEntry Key}
    (found : stayed.entries id = some entry) (member : ⟨leaver, true⟩ ∈ entry.subscribers)
    (own : leaver ≠ promise) (last : ¬Observed promise entry leaver) :
    leaver = other ∧ (deaf promise entry).subscribers = [⟨leaver, true⟩] ∧
      entry.subscribers.erase ⟨leaver, true⟩ ≠ [] := by
  have erased : (deaf promise entry).subscribers.erase ⟨leaver, true⟩ =
      (entry.subscribers.erase ⟨leaver, true⟩).filter fun subscriber => subscriber.promise ≠ promise :=
    List.erase_filter
  have others : entry.subscribers.erase ⟨leaver, true⟩ ≠ [] := by
    intro none
    rw [Observed, erased, none] at last
    exact last (by simp)
  have lonely : (deaf promise entry).subscribers.erase ⟨leaver, true⟩ = [] := by
    by_contra some
    exact last ⟨fun none => absurd none others, fun none => absurd none some⟩
  have kept : ⟨leaver, true⟩ ∈ (deaf promise entry).subscribers := by
    simp [deaf, member, own]
  have single := single_of_erase kept lonely
  refine ⟨?_, single, others⟩
  -- Whoever is left without the leaver waits with the first caller's promise.
  have mine : promise ∈ promisesOf entry := by
    obtain ⟨rest, here⟩ := List.exists_mem_of_ne_nil _ others
    rw [erased, List.filter_eq_nil_iff] at lonely
    have named := lonely rest here
    simp only [ne_eq, decide_not, Bool.not_eq_true', decide_eq_false_iff_not, not_not] at named
    exact List.mem_map.mpr ⟨rest, List.mem_of_mem_erase here, named⟩
  obtain ⟨waiting, held, present, there, only⟩ := paired.waits
  cases only id entry found mine
  rw [found] at present
  cases present
  obtain ⟨subscriber, joined, named⟩ := List.mem_map.mp there
  have listed : subscriber ∈ (deaf promise entry).subscribers := by
    simp [deaf, joined, named, paired.different]
  rw [single, List.mem_singleton] at listed
  rw [← named, listed]

/-- What a step of the first controller is in the second: the same step, nothing, or the step by which
the other caller leaves as well. -/
theorem Paired.step {promise other : PromiseId} {left stayed next : Controller Key Value}
    (paired : Paired settings isoDate promise other left stayed) {event : Event Key Value}
    (step : steps settings isoDate left event next) :
    (aborts promise event = false ∧ ∃ follow, steps settings isoDate stayed event follow ∧
      next.without promise = follow.without promise) ∨
    (aborts promise event = true ∧ next = left) ∨
    (aborts promise event = false ∧ next.settlements = left.settlements ++ [(other, .rejected cancellationError)] ∧
      ∃ follow, steps settings isoDate stayed event follow ∧
        (other, .rejected cancellationError) ∈ follow.settlements) := by
  have given : promise < left.promises := paired.invariant.promises.given.mpr (Or.inl paired.gone)
  have issued : promise < (stayed.without promise).promises := by
    rw [← paired.same]
    exact given
  by_cases unnoticed : Unnoticed promise stayed event
  · apply Or.inl
    have unseen : Unnoticed promise left event := by
      cases event with
      | abort id leaver =>
          refine ⟨unnoticed.1, ?_⟩
          intro entry found _
          rw [Observed, paired.unheard found]
      | _ => trivial
    have quiet : aborts promise event = false := by
      cases event with
      | abort id leaver => exact decide_eq_false unnoticed.1
      | _ => rfl
    refine ⟨quiet, ?_⟩
    have first := without_step settings isoDate given unseen
    have second := @without_step _ _ promise stayed _ settings isoDate issued event unnoticed
    have taken : left.step settings isoDate event = some next := step
    rw [paired.same, ← second, taken, Option.map_some] at first
    obtain ⟨follow, followed, same⟩ := Option.map_eq_some_iff.mp first.symm
    exact ⟨follow, followed, same.symm⟩
  · apply Or.inr
    cases event with
    | abort id leaver =>
        cases step
        by_cases own : leaver = promise
        · apply Or.inl
          refine ⟨decide_eq_true own, abort_stranger fun entry found member => ?_⟩
          have clean := paired.unheard found
          rw [← clean, deaf, List.mem_filter, own] at member
          simp at member
        · apply Or.inr
          have unlike : ¬∀ entry, stayed.entries id = some entry → ⟨leaver, true⟩ ∈ entry.subscribers →
              Observed promise entry leaver := fun observed => unnoticed ⟨own, observed⟩
          push Not at unlike
          obtain ⟨entry, found, member, last⟩ := unlike
          obtain ⟨named, single, others⟩ := paired.only found member own last
          subst named
          refine ⟨decide_eq_false own, ?_, stayed.abort id leaver, rfl, ?_⟩
          · obtain ⟨alike, present, same⟩ := paired.entry found
            have subscribers : alike.subscribers = [⟨leaver, true⟩] := by
              rw [← paired.unheard present, same, single]
            have here : ⟨leaver, true⟩ ∈ alike.subscribers := by simp [subscribers]
            have alone : alike.subscribers.erase ⟨leaver, true⟩ = [] := by simp [subscribers]
            have entries := paired.invariant.entries
            have awake := unsettled_of_mem (entries.life id alike present) here
            rw [abort_last present here alone awake (entries.flying id alike present awake)]
          · rw [abort_stays found member others]
            exact List.mem_append_right _ (List.mem_singleton.mpr rfl)
    | _ => exact absurd trivial unnoticed

theorem Paired.lockstep (usable : Usable settings) {promise other : PromiseId}
    {left stayed next follow : Controller Key Value} (paired : Paired settings isoDate promise other left stayed)
    {event : Event Key Value} (step : steps settings isoDate left event next)
    (followed : steps settings isoDate stayed event follow)
    (same : next.without promise = follow.without promise)
    (unsettled : other ∉ follow.settlements.map (·.1)) : Paired settings isoDate promise other next follow where
  same := same
  invariant := invariant_step usable paired.invariant step
  counterpart := invariant_step usable paired.counterpart followed
  gone := by
    obtain ⟨settled, member, named⟩ := List.mem_map.mp paired.gone
    exact List.mem_map.mpr ⟨settled, settlements_step paired.invariant.entries step member, named⟩
  different := paired.different
  waits := by
    have before := paired.counterpart
    have after := invariant_step usable before followed
    obtain ⟨id, entry, found, here, only⟩ := paired.waits
    obtain ⟨held, present, still⟩ :=
      (waits_step before.entries followed found here).resolve_left unsettled
    refine ⟨id, held, present, still, ?_⟩
    intro rival known there mine
    have waiting : promise ∉ follow.settlements.map (·.1) := fun settled =>
      after.promises.apart settled ((mem_waiting after.entries).mpr ⟨rival, known, there, mine⟩)
    have given : promise < stayed.promises := by
      have issued := paired.invariant.promises.given.mpr (Or.inl paired.gone)
      change promise < (stayed.without promise).promises
      rw [← paired.same]
      exact issued
    rcases before.promises.given.mp given with settled | waited
    · obtain ⟨told, member, named⟩ := List.mem_map.mp settled
      have kept := settlements_step before.entries followed member
      exact absurd (List.mem_map.mpr ⟨told, kept, named⟩) waiting
    · obtain ⟨place, entry, stored, inside⟩ := (mem_waiting before.entries).mp waited
      obtain ⟨moved, placed, inside⟩ :=
        (waits_step before.entries followed stored inside).resolve_left waiting
      cases only place entry stored (by assumption)
      exact after.promises.alone after.entries there mine placed inside

/-- The other caller is told in the second controller what it is told in the first, unless the second
controller leaves out the first caller's own abort. -/
theorem Paired.told (usable : Usable settings) {promise other : PromiseId}
    {left stayed last : Controller Key Value} (paired : Paired settings isoDate promise other left stayed)
    {later : List (Event Key Value)} (run : Run (steps settings isoDate) left later last)
    {outcome : Settlement Value} (told : (other, outcome) ∈ last.settlements) :
    ∃ front back follow, later = front ++ back ∧
      Run (steps settings isoDate) stayed (front.filter fun event => !aborts promise event) follow ∧
      (other, outcome) ∈ follow.settlements := by
  have waiting : ∀ {left stayed : Controller Key Value}, Paired settings isoDate promise other left stayed →
      ∀ given : Settlement Value, (other, given) ∉ stayed.settlements := by
    intro left stayed paired given settled
    obtain ⟨id, entry, found, here, -⟩ := paired.waits
    exact paired.counterpart.promises.apart (List.mem_map.mpr ⟨_, settled, rfl⟩)
      ((mem_waiting paired.counterpart.entries).mpr ⟨id, entry, found, here⟩)
  induction later generalizing left stayed with
  | nil =>
      cases run.nil_eq
      exact absurd ((Paired.settled paired.same paired.different outcome).mp told) (waiting paired outcome)
  | cons event later ih =>
      obtain ⟨next, step, rest⟩ := run.cons_inv
      have invariant := invariant_step usable paired.invariant step
      have final := (invariant_after usable invariant rest).promises
      rcases paired.step step with ⟨unlike, follow, followed, same⟩ | ⟨alike, same⟩ |
        ⟨unlike, settled, follow, followed, member⟩
      · by_cases unsettled : other ∉ follow.settlements.map (·.1)
        · obtain ⟨front, back, end_, shape, onward, heard⟩ :=
            ih (paired.lockstep usable step followed same unsettled) rest
          refine ⟨event :: front, back, end_, by rw [shape]; rfl, ?_, heard⟩
          rw [List.filter_cons, if_pos (by simp [unlike])]
          exact onward.cons followed
        · obtain ⟨⟨_, given⟩, member, rfl⟩ := List.mem_map.mp (not_not.mp unsettled)
          have before := (Paired.settled same paired.different given).mpr member
          cases final.outcome told (settlements_run usable invariant rest before)
          refine ⟨[event], later, follow, rfl, ?_, member⟩
          rw [List.filter_cons, if_pos (by simp [unlike])]
          exact .single followed
      · subst same
        obtain ⟨front, back, end_, shape, onward, heard⟩ := ih paired rest
        refine ⟨event :: front, back, end_, by rw [shape]; rfl, ?_, heard⟩
        rw [List.filter_cons, if_neg (by simp [alike])]
        exact onward
      · have before : (other, Settlement.rejected cancellationError) ∈ next.settlements := by
          rw [settled]
          exact List.mem_append_right _ (List.mem_singleton.mpr rfl)
        cases final.outcome told (settlements_run usable invariant rest before)
        refine ⟨[event], later, follow, rfl, ?_, member⟩
        rw [List.filter_cons, if_pos (by simp [unlike])]
        exact .single followed

/-- What becomes of the promises of a controller, now and in its next step. -/
structure SettledOnce (s : Controller Key Value) (settings : ReportAddressAdmissionSettings)
    (isoDate : Int → String) : Prop where
  once : (s.settlements.map (·.1)).Nodup
  owned : ∀ promise < s.promises, promise ∉ s.settlements.map (·.1) → ∃ id entry,
    s.entries id = some entry ∧ promise ∈ promisesOf entry ∧
      (entry.state = .queued ∧ entry.expiryTimer = true ∨ entry.state = .running ∧ entry.timeoutTimer = true)
  alike : ∀ event t, steps settings isoDate s event t → ∀ id before after, s.entries id = some before →
    t.entries id = some after → before.state ≠ .settled → after.state = .settled →
      ∃ outcome, t.settlements = s.settlements ++ (promisesOf before).map fun promise => (promise, outcome)
  signal : ∀ event t, steps settings isoDate s event t → ∀ id before after, s.entries id = some before →
    t.entries id = some after → before.controllerAborted = false → after.controllerAborted = true →
      event = .providerTimeout id ∨ after.subscribers = [] ∧
        ∃ promise, event = .abort id promise ∧ before.subscribers = [⟨promise, true⟩]
  leaves : ∀ id entry promise, s.entries id = some entry → ⟨promise, true⟩ ∈ entry.subscribers →
    (s.abort id promise).settlements = s.settlements ++ [(promise, .rejected cancellationError)]
  unnoticed : ∀ id entry promise other, s.entries id = some entry → ⟨promise, true⟩ ∈ entry.subscribers →
    other ∈ promisesOf entry → other ≠ promise → ∀ later t outcome,
      Run (steps settings isoDate) (s.abort id promise) later t → (other, outcome) ∈ t.settlements →
        ∃ front back u, later = front ++ back ∧
          Run (steps settings isoDate) s (front.filter fun event => !aborts promise event) u ∧
          (other, outcome) ∈ u.settlements

theorem leaves (entries : Entries s) {id : EntryId} {entry : QueueEntry Key} {promise : PromiseId}
    (found : s.entries id = some entry) (member : ⟨promise, true⟩ ∈ entry.subscribers) :
    (s.abort id promise).settlements = s.settlements ++ [(promise, .rejected cancellationError)] := by
  have awake := unsettled_of_mem (entries.life id entry found) member
  by_cases others : entry.subscribers.erase ⟨promise, true⟩ = []
  · rw [abort_last found member others awake (entries.flying id entry found awake)]
  · rw [abort_stays found member others]

theorem paired (usable : Usable settings) (inv : Invariant s settings isoDate) {id : EntryId}
    {entry : QueueEntry Key} {promise other : PromiseId} (found : s.entries id = some entry)
    (member : ⟨promise, true⟩ ∈ entry.subscribers) (waits : other ∈ promisesOf entry)
    (different : other ≠ promise) : Paired settings isoDate promise other (s.abort id promise) s where
  same := by
    obtain ⟨subscriber, joined, named⟩ := List.mem_map.mp waits
    have others : entry.subscribers.erase ⟨promise, true⟩ ≠ [] := by
      apply List.ne_nil_of_mem
      apply (List.mem_erase_of_ne _).mpr joined
      intro same
      rw [same] at named
      exact different named.symm
    rw [abort_stays found member others]
    exact without_left found promise true
  invariant := @invariant_step _ _ s _ settings isoDate _ usable inv (.abort id promise) rfl
  counterpart := inv
  gone := by
    rw [leaves inv.entries found member]
    simp
  different := different
  waits := by
    refine ⟨id, entry, found, waits, ?_⟩
    intro rival held present mine
    exact inv.promises.alone inv.entries present mine found (List.mem_map.mpr ⟨_, member, rfl⟩)

/-- Every promise of the controller is settled once, over every sequence of events. -/
theorem subscribers_settled_once (valid : validateSettings settings = true) {now : Int}
    {events : List (Event Key Value)} (run : Run (steps settings isoDate) (initial now) events s) :
    SettledOnce s settings isoDate := by
  have usable := usable valid
  have inv := invariant_run usable run
  refine ⟨inv.promises.once, ?_, ?_, ?_, ?_, ?_⟩
  · intro promise given unsettled
    have waiting := (inv.promises.given.mp given).resolve_left unsettled
    obtain ⟨id, entry, found, here⟩ := (mem_waiting inv.entries).mp waiting
    exact ⟨id, entry, found, here, armed inv.entries found here⟩
  · intro event t step id before after found next unsettled settled
    exact alike_step inv.entries step found next unsettled settled
  · intro event t step id before after found next unaborted aborted
    exact signal_step inv.entries step found next unaborted aborted
  · intro id entry promise found member
    exact leaves inv.entries found member
  · intro id entry promise other found member waits different later t outcome after told
    exact (paired usable inv found member waits different).told usable after told

def oneOfTwoLeaves : List (Event Nat Unit) :=
  [.submit 7 .live none, .submit 7 .live none, .pumpTurn, .abort 0 0]

theorem oneOfTwoLeaves_settled_once : validateSettings halfACall = true ∧ ∃ s : Controller Nat Unit,
    Run (steps halfACall epochDate) (initial 0) oneOfTwoLeaves s ∧
      SettledOnce s halfACall epochDate ∧ s.settlements = [(0, .rejected cancellationError)] := by
  have replayed : (oneOfTwoLeaves.foldlM (step halfACall epochDate) (initial 0)).any
      (fun s => s.settlements = [(0, .rejected cancellationError)]) = true := by decide +kernel
  obtain ⟨s, folded, told⟩ := (Option.any_eq_true _ _).mp replayed
  have valid : validateSettings halfACall = true := by decide
  have run : Run (steps halfACall epochDate) (initial 0) oneOfTwoLeaves s := .of_foldlM folded
  exact ⟨valid, s, run, subscribers_settled_once valid run, of_decide_eq_true told⟩

end PublicLighting.AddressSuggestion.Controller
