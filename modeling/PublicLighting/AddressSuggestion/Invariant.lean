import PublicLighting.AddressSuggestion.Moves
import PublicLighting.Foundations.Updates

/-! What every move keeps: the entries, the promises and the active slots. -/

namespace PublicLighting.AddressSuggestion.Controller

open PublicLighting.Foundations
open scoped List

variable {Key Value : Type} {s t : Controller Key Value} {settings : ReportAddressAdmissionSettings}
  {isoDate : Int → String}

theorem Entries.below (entries : Entries s) {id : EntryId} {entry : QueueEntry Key}
    (found : s.entries id = some entry) : id < s.counters.accepted :=
  (entries.known id).mp ⟨entry, found⟩

theorem entries_initial (now : Int) : Entries (initial now : Controller Key Value) where
  known id := ⟨fun ⟨_, found⟩ => (nomatch found), fun below => absurd below (Nat.not_lt_zero id)⟩
  life _ _ := nofun
  queued _ _ := nofun
  flying _ _ := nofun
  flight _ _ := nofun
  sorted := List.Pairwise.nil
  present _ member := (nomatch member)

theorem entries_subscribed (entries : Entries s) {id : EntryId} {entry : QueueEntry Key}
    (found : s.entries id = some entry) (unsettled : entry.state ≠ .settled)
    {subscribers : List QueueSubscriber} (listened : subscribers ≠ [])
    (counters : ReportAddressSuggestionCounters) (accepted : counters.accepted = s.counters.accepted)
    (promises : Nat) :
    Entries { s with
      counters := counters
      entries := Function.update s.entries id (some { entry with subscribers := subscribers })
      promises := promises } where
  known other := by
    rw [accepted, ← entries.known other]
    exact update_present found other
  life := update_some (fun _ (entry : QueueEntry Key) => Life entry)
    ((entries.life id entry found).resubscribed unsettled listened)
    fun other held _ => entries.life other held
  queued := update_some (fun id (entry : QueueEntry Key) => entry.state = .queued ↔ id ∈ s.queue)
    (by exact entries.queued id entry found) fun other held _ => entries.queued other held
  flying := update_some (fun id (entry : QueueEntry Key) => entry.state ≠ .settled → s.inFlight entry.key = some id)
    (by exact entries.flying id entry found) fun other held _ => entries.flying other held
  flight key other present := by
    obtain ⟨held, stored, same, awake⟩ := entries.flight key other present
    by_cases here : other = id
    · subst here
      cases Option.some.inj (stored.symm.trans found)
      exact ⟨_, Function.update_self .., same, awake⟩
    · exact ⟨held, (Function.update_of_ne here ..).trans stored, same, awake⟩
  sorted := entries.sorted
  present other member := by
    rw [accepted]
    exact entries.present other member

section Given

variable (s)

def entryPromises (id : EntryId) : List PromiseId :=
  match s.entries id with
  | some entry => promisesOf entry
  | none => []

def waiting : List PromiseId := (List.range s.counters.accepted).flatMap s.entryPromises

/-- Each promise given out is settled once or waits for one entry once. -/
def Promises : Prop := (s.settlements.map (·.1) ++ s.waiting).Perm (List.range s.promises)

def slotOf (id : EntryId) : Bool :=
  match s.entries id with
  | some entry => holdsSlot entry
  | none => false

def slots : Nat := (List.range s.counters.accepted).countP s.slotOf

end Given

theorem entryPromises_of {id : EntryId} {entry : QueueEntry Key} (found : s.entries id = some entry) :
    s.entryPromises id = promisesOf entry := by
  unfold entryPromises
  rw [found]

theorem slotOf_of {id : EntryId} {entry : QueueEntry Key} (found : s.entries id = some entry) :
    s.slotOf id = holdsSlot entry := by
  unfold slotOf
  rw [found]

theorem waiting_update (entries : Entries s) {id : EntryId} {before after : QueueEntry Key}
    (found : s.entries id = some before) (changed : t.entries = Function.update s.entries id (some after))
    (accepted : t.counters.accepted = s.counters.accepted) :
    (t.waiting ++ promisesOf before).Perm (s.waiting ++ promisesOf after) := by
  have here : t.entries id = some after := by
    rw [changed]
    exact Function.update_self ..
  rw [← entryPromises_of found, ← entryPromises_of here, waiting, waiting, accepted]
  apply flatMap_change List.nodup_range (List.mem_range.mpr (entries.below found))
  intro other _ elsewhere
  simp only [entryPromises, changed, Function.update_of_ne elsewhere]

theorem slots_update (entries : Entries s) {id : EntryId} {before after : QueueEntry Key}
    (found : s.entries id = some before) (changed : t.entries = Function.update s.entries id (some after))
    (accepted : t.counters.accepted = s.counters.accepted) :
    t.slots + (holdsSlot before).toNat = s.slots + (holdsSlot after).toNat := by
  have here : t.entries id = some after := by
    rw [changed]
    exact Function.update_self ..
  rw [← slotOf_of found, ← slotOf_of here, slots, slots, accepted]
  apply countP_change List.nodup_range (List.mem_range.mpr (entries.below found))
  intro other _ elsewhere
  simp only [slotOf, changed, Function.update_of_ne elsewhere]

theorem waiting_accepted {entry : QueueEntry Key} (count : t.counters.accepted = s.counters.accepted + 1)
    (added : t.entries = Function.update s.entries s.counters.accepted (some entry)) :
    t.waiting = s.waiting ++ promisesOf entry := by
  have last : t.entries s.counters.accepted = some entry := by
    rw [added]
    exact Function.update_self ..
  have others : (List.range s.counters.accepted).flatMap t.entryPromises = s.waiting := by
    apply List.flatMap_congr
    intro id member
    have different := Nat.ne_of_lt (List.mem_range.mp member)
    simp only [entryPromises, added, Function.update_of_ne different]
  rw [waiting, count, List.range_succ, List.flatMap_append, others, List.flatMap_singleton,
    entryPromises_of last]

theorem slots_accepted {entry : QueueEntry Key} (count : t.counters.accepted = s.counters.accepted + 1)
    (added : t.entries = Function.update s.entries s.counters.accepted (some entry))
    (free : holdsSlot entry = false) : t.slots = s.slots := by
  have last : t.entries s.counters.accepted = some entry := by
    rw [added]
    exact Function.update_self ..
  have others : (List.range s.counters.accepted).countP t.slotOf = s.slots := by
    apply List.countP_congr
    intro id member
    have different := Nat.ne_of_lt (List.mem_range.mp member)
    simp only [slotOf, added, Function.update_of_ne different]
  rw [slots, count, List.range_succ, List.countP_append, others, List.countP_singleton, slotOf_of last, free]
  rfl

theorem promises_joined (promises : Promises s) (joined : t.waiting.Perm (s.waiting ++ [s.promises]))
    (settlements : t.settlements = s.settlements) (given : t.promises = s.promises + 1) : Promises t := by
  unfold Promises
  rw [settlements, given, List.range_succ]
  calc s.settlements.map (·.1) ++ t.waiting
    _ ~ s.settlements.map (·.1) ++ (s.waiting ++ [s.promises]) := joined.append_left _
    _ = s.settlements.map (·.1) ++ s.waiting ++ [s.promises] := (List.append_assoc ..).symm
    _ ~ List.range s.promises ++ [s.promises] := promises.append_right _

variable [DecidableEq Key]

theorem entries_accepted (entries : Entries s) (key : Key) (signal : Bool) (free : s.inFlight key = none)
    (expiresAt : Int) :
    Entries { s with
      counters := { s.counters with accepted := s.counters.accepted + 1 }
      entries := Function.update s.entries s.counters.accepted
        (some ⟨key, [⟨s.promises, signal⟩], false, expiresAt, true, false, .queued, .unstarted⟩)
      inFlight := Function.update s.inFlight key (some s.counters.accepted)
      queue := s.queue ++ [s.counters.accepted]
      promises := s.promises + 1
      pumpRunning := true } where
  known other := by
    by_cases here : other = s.counters.accepted
    · simp [here]
    · simp only [Function.update_of_ne here, entries.known other, Nat.lt_succ_iff_lt_or_eq, here, or_false]
  life := update_some (fun _ (entry : QueueEntry Key) => Life entry)
    ⟨by simp, rfl, rfl, nofun, rfl⟩ fun other held _ => entries.life other held
  queued := update_some (fun id (entry : QueueEntry Key) => entry.state = .queued ↔
    id ∈ s.queue ++ [s.counters.accepted]) (by simp)
    fun other held elsewhere present => by
    simp only [List.mem_append, List.mem_singleton, elsewhere, or_false]
    exact entries.queued other held present
  flying := update_some (fun id (entry : QueueEntry Key) => entry.state ≠ .settled →
      Function.update s.inFlight key (some s.counters.accepted) entry.key = some id)
      (fun _ => Function.update_self ..) fun other held _ present awake => by
    have flying := entries.flying other held present awake
    have different : held.key ≠ key := by
      intro same
      rw [same, free] at flying
      cases flying
    rw [Function.update_of_ne different]
    exact flying
  flight other id present := by
    by_cases here : other = key
    · subst here
      simp only [Function.update_self, Option.some.injEq] at present
      subst present
      exact ⟨_, Function.update_self .., rfl, nofun⟩
    · simp only [Function.update_of_ne here] at present
      obtain ⟨held, stored, same, awake⟩ := entries.flight other id present
      have below := entries.below stored
      exact ⟨held, (Function.update_of_ne (Nat.ne_of_lt below) ..).trans stored, same, awake⟩
  sorted := by
    rw [List.pairwise_append]
    refine ⟨entries.sorted, List.pairwise_singleton .., ?_⟩
    intro id member other last
    rw [List.mem_singleton.mp last]
    exact entries.present id member
  present id member := by
    rcases List.mem_append.mp member with waiting | last
    · exact Nat.lt_succ_of_lt (entries.present id waiting)
    · rw [List.mem_singleton.mp last]
      exact Nat.lt_succ_self _

theorem entries_change (entries : Entries s) {id : EntryId} {before after : QueueEntry Key}
    {told : List (PromiseId × Settlement Value)} (change : Change s t id before after told) : Entries t where
  known other := by
    rw [change.accepted, ← entries.known other, change.entries]
    exact update_present change.found other
  life := by
    rw [change.entries]
    exact update_some _ change.life fun other held _ => entries.life other held
  queued := by
    rw [change.entries, change.queue]
    have here := entries.queued id before change.found
    refine update_some _ ?_ fun other held elsewhere present => ?_
    · by_cases left : before.state = .queued ∧ after.state ≠ .queued
      · rw [if_pos left]
        have distinct : s.queue.Nodup := entries.sorted.imp Nat.ne_of_lt
        have gone : id ∉ s.queue.erase id := distinct.not_mem_erase
        simp [left.2, gone]
      · rw [if_neg left, ← here]
        exact ⟨change.forward.2, fun queued => not_not.mp fun other => left ⟨queued, other⟩⟩
    · rw [entries.queued other held present]
      split
      · exact (List.mem_erase_of_ne elsewhere).symm
      · exact Iff.rfl
  flying := by
    rw [change.entries, change.inFlight]
    refine update_some _ ?_ fun other held elsewhere present awake => ?_
    · intro awake
      rw [if_neg fun left => awake left.2, change.key]
      exact entries.flying id before change.found fun settled => awake (change.forward.1 settled)
    · have flying := entries.flying other held present awake
      split
      · rename_i left
        have kept := entries.flying id before change.found left.1
        have different : held.key ≠ before.key := by
          intro same
          rw [same, kept] at flying
          exact elsewhere (Option.some.inj flying).symm
        rw [Function.update_of_ne different]
        exact flying
      · exact flying
  flight key other present := by
    rw [change.inFlight] at present
    have flight : s.inFlight key = some other ∧
        ¬(before.state ≠ .settled ∧ after.state = .settled ∧ key = before.key) := by
      split at present
      · rename_i left
        by_cases same : key = before.key
        · subst same
          rw [Function.update_self] at present
          cases present
        · rw [Function.update_of_ne same] at present
          exact ⟨present, fun clash => same clash.2.2⟩
      · rename_i kept
        exact ⟨present, fun clash => kept ⟨clash.1, clash.2.1⟩⟩
    obtain ⟨held, stored, same, awake⟩ := entries.flight key other flight.1
    rw [change.entries]
    by_cases here : other = id
    · subst here
      cases Option.some.inj (stored.symm.trans change.found)
      refine ⟨after, Function.update_self .., change.key.trans same, ?_⟩
      intro settled
      exact flight.2 ⟨awake, settled, same.symm⟩
    · exact ⟨held, (Function.update_of_ne here ..).trans stored, same, awake⟩
  sorted := by
    rw [change.queue]
    split
    · exact entries.sorted.erase id
    · exact entries.sorted
  present other member := by
    rw [change.accepted]
    rw [change.queue] at member
    split at member
    · exact entries.present other (List.mem_of_mem_erase member)
    · exact entries.present other member

theorem entries_move (entries : Entries s) (move : Move s settings isoDate t) : Entries t := by
  cases move with
  | rejected error counters same accepted =>
      subst same
      exact ⟨by rw [accepted]; exact entries.known, entries.life, entries.queued, entries.flying,
        entries.flight, entries.sorted, by rw [accepted]; exact entries.present⟩
  | subscribed id entry signal counters found unsettled same accepted =>
      subst same
      have listened : entry.subscribers ++ [⟨s.promises, signal⟩] ≠ [] := by simp
      exact entries_subscribed entries found unsettled listened counters accepted _
  | accepted key signal free room same =>
      subst same
      exact entries_accepted entries key signal free _
  | changed id before after told change => exact entries_change entries change
  | started id before after change => exact entries_change entries change
  | paused spacing reason kept same =>
      subst same
      exact ⟨entries.known, entries.life, entries.queued, entries.flying, entries.flight, entries.sorted,
        entries.present⟩
  | woken same =>
      subst same
      exact ⟨entries.known, entries.life, entries.queued, entries.flying, entries.flight, entries.sorted,
        entries.present⟩
  | idle same => exact same ▸ entries
  | ticked now forward resting same =>
      subst same
      exact ⟨entries.known, entries.life, entries.queued, entries.flying, entries.flight, entries.sorted,
        entries.present⟩

theorem promises_change (entries : Entries s) (promises : Promises s) {id : EntryId}
    {before after : QueueEntry Key} {told : List (PromiseId × Settlement Value)}
    (change : Change s t id before after told) : Promises t := by
  have moved := waiting_update entries change.found change.entries change.accepted
  have kept : (t.settlements.map (·.1) ++ t.waiting ++ promisesOf before).Perm
      (s.settlements.map (·.1) ++ s.waiting ++ promisesOf before) := by
    rw [change.settlements, List.map_append]
    calc s.settlements.map (·.1) ++ told.map (·.1) ++ t.waiting ++ promisesOf before
      _ = s.settlements.map (·.1) ++ told.map (·.1) ++ (t.waiting ++ promisesOf before) := List.append_assoc ..
      _ ~ s.settlements.map (·.1) ++ told.map (·.1) ++ (s.waiting ++ promisesOf after) := moved.append_left _
      _ = s.settlements.map (·.1) ++ (told.map (·.1) ++ (s.waiting ++ promisesOf after)) := List.append_assoc ..
      _ ~ s.settlements.map (·.1) ++ (s.waiting ++ (told.map (·.1) ++ promisesOf after)) :=
          (List.perm_append_comm_assoc ..).append_left _
      _ ~ s.settlements.map (·.1) ++ (s.waiting ++ promisesOf before) :=
          (change.owed.symm.append_left _).append_left _
      _ = s.settlements.map (·.1) ++ s.waiting ++ promisesOf before := (List.append_assoc ..).symm
  unfold Promises
  rw [change.promises]
  exact ((List.perm_append_right_iff _).mp kept).trans promises

theorem promises_move (entries : Entries s) (promises : Promises s) (move : Move s settings isoDate t) :
    Promises t := by
  cases move with
  | rejected error counters same accepted =>
      subst same
      have still : waiting { s with
          counters := counters
          promises := s.promises + 1
          settlements := s.settlements ++ [(s.promises, Settlement.rejected error)] } = s.waiting := by
        unfold waiting
        rw [accepted]
        rfl
      unfold Promises
      rw [still, List.map_append, List.range_succ]
      calc s.settlements.map (·.1) ++ [s.promises] ++ s.waiting
        _ = s.settlements.map (·.1) ++ ([s.promises] ++ s.waiting) := List.append_assoc ..
        _ ~ s.settlements.map (·.1) ++ (s.waiting ++ [s.promises]) := List.perm_append_comm.append_left _
        _ = s.settlements.map (·.1) ++ s.waiting ++ [s.promises] := (List.append_assoc ..).symm
        _ ~ List.range s.promises ++ [s.promises] := promises.append_right _
  | subscribed id entry signal counters found unsettled same accepted =>
      have moved := @waiting_update _ _ s t entries id entry
        { entry with subscribers := entry.subscribers ++ [⟨s.promises, signal⟩] } found (by rw [same])
        (by rw [same, ← accepted])
      have one : promisesOf { entry with subscribers := entry.subscribers ++ [⟨s.promises, signal⟩] } =
          promisesOf entry ++ [s.promises] := List.map_append
      rw [one] at moved
      have joined : t.waiting.Perm (s.waiting ++ [s.promises]) := by
        apply (List.perm_append_right_iff (promisesOf entry)).mp
        calc t.waiting ++ promisesOf entry
          _ ~ s.waiting ++ (promisesOf entry ++ [s.promises]) := moved
          _ ~ s.waiting ++ ([s.promises] ++ promisesOf entry) := List.perm_append_comm.append_left _
          _ = s.waiting ++ [s.promises] ++ promisesOf entry := (List.append_assoc ..).symm
      exact promises_joined promises joined (by rw [same]) (by rw [same])
  | accepted key signal free room same =>
      have joined : t.waiting = s.waiting ++ [s.promises] := by
        rw [@waiting_accepted _ _ s t ⟨key, [⟨s.promises, signal⟩], false, s.now + settings.queueExpiryMs, true,
          false, .queued, .unstarted⟩ (by rw [same]) (by rw [same])]
        rfl
      exact promises_joined promises (List.Perm.of_eq joined) (by rw [same]) (by rw [same])
  | changed id before after told change => exact promises_change entries promises change
  | started id before after change => exact promises_change entries promises change
  | paused spacing reason kept same => exact same ▸ promises
  | woken same => exact same ▸ promises
  | idle same => exact same ▸ promises
  | ticked now forward resting same => exact same ▸ promises

/-- The slots taken are those of the entries whose provider call has not ended. -/
structure Active (s : Controller Key Value) (settings : ReportAddressAdmissionSettings) : Prop where
  slots : s.active = s.slots
  most : s.active ≤ settings.maxActive

theorem active_change (entries : Entries s) (active : s.active = s.slots) {id : EntryId}
    {before after : QueueEntry Key} {told : List (PromiseId × Settlement Value)}
    (change : Change s t id before after told) : t.active = t.slots := by
  have counted := slots_update entries change.found change.entries change.accepted
  have moved := change.active
  omega

theorem active_move (entries : Entries s) (active : Active s settings) (move : Move s settings isoDate t) :
    Active t settings := by
  cases move with
  | rejected error counters same accepted =>
      have still : t.slots = s.slots := by
        rw [slots, slots, same, accepted]
        rfl
      refine ⟨?_, ?_⟩
      · rw [still, ← active.slots, same]
      · rw [same]
        exact active.most
  | subscribed id entry signal counters found unsettled same accepted =>
      have counted := @slots_update _ _ s t entries id entry
        { entry with subscribers := entry.subscribers ++ [⟨s.promises, signal⟩] } found (by rw [same])
        (by rw [same, ← accepted])
      have still : t.slots = s.slots := Nat.add_right_cancel counted
      refine ⟨?_, ?_⟩
      · rw [still, ← active.slots, same]
      · rw [same]
        exact active.most
  | accepted key signal free room same =>
      refine ⟨?_, ?_⟩
      · rw [slots_accepted (by rw [same]) (by rw [same]) (by rfl), ← active.slots, same]
      · rw [same]
        exact active.most
  | changed id before after told change unstarted =>
      refine ⟨active_change entries active.slots change, ?_⟩
      have moved := change.active
      have most := active.most
      have slot := unstarted.slot
      cases holds : holdsSlot after with
      | false =>
          simp only [holds, Bool.toNat_false] at moved
          omega
      | true =>
          simp only [holds, slot holds, Bool.toNat_true] at moved
          omega
  | started id before after change start =>
      refine ⟨active_change entries active.slots change, ?_⟩
      have moved := change.active
      have slot := start.slot
      have one := Bool.toNat_le (holdsSlot after)
      omega
  | paused spacing reason kept same => exact same ▸ ⟨active.slots, active.most⟩
  | woken same => exact same ▸ ⟨active.slots, active.most⟩
  | idle same => exact same ▸ active
  | ticked now forward resting same => exact same ▸ ⟨active.slots, active.most⟩

end PublicLighting.AddressSuggestion.Controller
