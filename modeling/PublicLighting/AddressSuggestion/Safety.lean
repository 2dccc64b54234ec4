import PublicLighting.AddressSuggestion.Starts
import PublicLighting.Foundations.Runs

/-! The bounds of the admission controller, in every state that events can reach. -/

namespace PublicLighting.AddressSuggestion.Controller

open PublicLighting.Foundations

variable {Key Value : Type}

section Given

variable (s : Controller Key Value) (settings : ReportAddressAdmissionSettings) (isoDate : Int → String)

/-- One entry more than may wait is there only while the pump that starts it runs. -/
def Room : Prop :=
  (s.queue.length : Int) ≤ settings.maxPending ∨
    s.queue.length = 1 ∧ s.pumpRunning = true ∧ s.active < settings.maxActive ∧ s.nextStartAt ≤ s.now

def Awake : Prop := s.queue ≠ [] → s.pumpRunning = false → 0 < s.active ∨ s.spacingTimer = true

structure Invariant : Prop where
  entries : Entries s
  promises : Promises s
  active : Active s settings
  starts : Starts s settings
  budget : ∀ budget, settings.dailyBudget = some budget → Budget s isoDate budget
  room : Room s settings
  awake : Awake s

end Given

/-- What the settings that `validateSettings` lets through promise. -/
structure Usable (settings : ReportAddressAdmissionSettings) : Prop where
  maxPending : 0 ≤ settings.maxPending
  maxActive : 0 < settings.maxActive
  minStartIntervalMs : 0 ≤ settings.minStartIntervalMs

theorem usable {settings : ReportAddressAdmissionSettings} (valid : validateSettings settings = true) :
    Usable settings := by
  simp only [validateSettings, isSafeIntegerAtLeast, Bool.and_eq_true, decide_eq_true_eq] at valid
  exact ⟨valid.1.1.1.1.2, valid.1.1.1.2.2, valid.2.2⟩

variable {s t : Controller Key Value} {settings : ReportAddressAdmissionSettings} {isoDate : Int → String}

theorem invariant_initial (usable : Usable settings) (now : Int) :
    Invariant (initial now : Controller Key Value) settings isoDate where
  entries := entries_initial now
  promises := List.Perm.refl _
  active := ⟨rfl, Int.le_of_lt usable.maxActive⟩
  starts := ⟨List.Pairwise.nil, nofun, nofun, nofun, nofun, nofun, List.Pairwise.nil⟩
  budget _ _ := ⟨fun _ used some => absurd some (Nat.succ_ne_zero used).symm, fun _ _ _ => Nat.le_refl 0,
    fun some => absurd some (Nat.lt_irrefl 0)⟩
  room := Or.inl usable.maxPending
  awake := fun waiting => absurd rfl waiting

variable [DecidableEq Key]

theorem room_move (usable : Usable settings) (room : Room s settings) (move : Move s settings isoDate t) :
    Room t settings := by
  cases move with
  | rejected error counters same accepted => exact same ▸ room
  | subscribed id entry signal counters found unsettled same accepted => exact same ▸ room
  | accepted key signal free admitted same =>
      subst same
      rcases admitted with ⟨slot, empty, spaced⟩ | below
      · refine Or.inr ⟨?_, rfl, slot, spaced⟩
        rw [List.length_append, empty]
        rfl
      · apply Or.inl
        rw [List.length_append]
        exact below
  | changed id before after told change unstarted =>
      have fewer : t.queue.length ≤ s.queue.length := by
        rw [change.queue]
        split
        · exact List.length_erase_le
        · exact Nat.le_refl _
      rcases room with below | ⟨one, running, slot, spaced⟩
      · exact Or.inl (Int.le_trans (Int.ofNat_le.mpr fewer) below)
      · have free := change.active
        have holds := unstarted.slot
        have kept : t.active ≤ s.active := by
          cases after : holdsSlot after with
          | false =>
              simp only [after, Bool.toNat_false] at free
              omega
          | true =>
              simp only [after, holds after, Bool.toNat_true] at free
              omega
        have still : t.pumpRunning = true := by
          rcases change.pump with started | same
          · exact started
          · rw [same.1]
            exact running
        by_cases none : t.queue.length = 0
        · apply Or.inl
          rw [none]
          exact usable.maxPending
        · refine Or.inr ⟨by omega, still, Int.lt_of_le_of_lt kept slot, ?_⟩
          rw [unstarted.next, change.now]
          exact spaced
  | started id before after change start =>
      obtain ⟨rest, first⟩ := start.first
      have shorter : t.queue.length + 1 = s.queue.length := by
        rw [change.queue, if_pos ⟨start.queued, by rw [start.running]; decide⟩, first, List.erase_cons_head]
        rfl
      have pending := usable.maxPending
      apply Or.inl
      rcases room with below | ⟨one, -⟩ <;> omega
  | paused spacing reason kept same =>
      subst same
      rcases room with below | ⟨one, running, slot, spaced⟩
      · exact Or.inl below
      · rcases reason with empty | full | ⟨early, -⟩
        · rw [empty] at one
          cases one
        · exact absurd slot full
        · exact absurd spaced (Int.not_le.mpr early)
  | woken same =>
      subst same
      rcases room with below | ⟨one, -, slot, spaced⟩
      · exact Or.inl below
      · exact Or.inr ⟨one, rfl, slot, spaced⟩
  | idle same => exact same ▸ room
  | ticked now forward resting same =>
      subst same
      rcases room with below | ⟨-, running, -⟩
      · exact Or.inl below
      · rw [resting] at running
        cases running

theorem awake_move (usable : Usable settings) (awake : Awake s) (move : Move s settings isoDate t) :
    Awake t := by
  cases move with
  | rejected error counters same accepted => exact same ▸ awake
  | subscribed id entry signal counters found unsettled same accepted => exact same ▸ awake
  | accepted key signal free admitted same =>
      subst same
      intro _ resting
      cases resting
  | changed id before after told change =>
      intro waiting resting
      rcases change.pump with running | ⟨still, queue, active⟩
      · rw [running] at resting
        cases resting
      · rw [still] at resting
        rw [queue] at waiting
        rw [active, change.spacing]
        exact awake waiting resting
  | started id before after change start =>
      intro waiting resting
      rcases change.pump with running | ⟨-, queue, -⟩
      · rw [running] at resting
        cases resting
      · obtain ⟨rest, first⟩ := start.first
        rw [change.queue, if_pos ⟨start.queued, by rw [start.running]; decide⟩, first,
          List.erase_cons_head] at queue
        exact absurd queue.symm (List.cons_ne_self id rest)
  | paused spacing reason kept same =>
      subst same
      intro waiting _
      rcases reason with empty | full | ⟨-, armed⟩
      · exact absurd empty waiting
      · exact Or.inl (Int.lt_of_lt_of_le usable.maxActive (Int.not_lt.mp full))
      · exact Or.inr armed
  | woken same =>
      subst same
      intro _ resting
      cases resting
  | idle same => exact same ▸ awake
  | ticked now forward resting same => exact same ▸ awake

theorem invariant_step (usable : Usable settings) (inv : Invariant s settings isoDate)
    {event : Event Key Value} (step : steps settings isoDate s event t) : Invariant t settings isoDate := by
  have move := step_move inv.entries step
  exact {
    entries := entries_move inv.entries move
    promises := promises_move inv.entries inv.promises move
    active := active_move inv.entries inv.active move
    starts := starts_move inv.entries inv.starts usable.minStartIntervalMs move
    budget := fun budget limited => budget_move limited inv.starts (inv.budget budget limited) move
    room := room_move usable inv.room move
    awake := awake_move usable inv.awake move }

theorem invariant_after (usable : Usable settings) (inv : Invariant s settings isoDate)
    {events : List (Event Key Value)} (run : Run (steps settings isoDate) s events t) :
    Invariant t settings isoDate :=
  @Run.invariant _ _ _ (fun s => Invariant s settings isoDate) _ _ _
    (fun _ _ _ inv step => invariant_step usable inv step) run inv

theorem invariant_run (usable : Usable settings) {now : Int} {events : List (Event Key Value)}
    (run : Run (steps settings isoDate) (initial now) events s) : Invariant s settings isoDate :=
  invariant_after usable (invariant_initial usable now) run

section Ended

variable (s : Controller Key Value)

def endedOf (id : EntryId) : Bool :=
  match s.entries id with
  | some entry => entry.work = .finished
  | none => false

def ended : Nat := (List.range s.counters.accepted).countP s.endedOf

end Ended

omit [DecidableEq Key] in
theorem slot_or_ended {id : EntryId} {entry : QueueEntry Key} (found : s.entries id = some entry) :
    (s.slotOf id || s.endedOf id) = true ↔ entry.work ≠ .unstarted := by
  simp only [slotOf, endedOf, found, holdsSlot]
  cases entry.work <;> decide

omit [DecidableEq Key] in
theorem balanced (entries : Entries s) (active : Active s settings) (starts : Starts s settings) :
    s.active + s.ended = s.starts.length := by
  have disjoint : ∀ id ∈ List.range s.counters.accepted, ¬(s.slotOf id = true ∧ s.endedOf id = true) := by
    intro id member both
    obtain ⟨entry, found⟩ := (entries.known id).mpr (List.mem_range.mp member)
    simp only [slotOf, endedOf, found, holdsSlot, decide_eq_true_eq] at both
    rw [both.2] at both
    rcases both.1 with clash | clash <;> cases clash
  have members : ∀ id, id ∈ s.starts.map (·.1) ↔
      id ∈ (List.range s.counters.accepted).filter fun id => s.slotOf id || s.endedOf id := by
    intro id
    rw [List.mem_filter, List.mem_range, List.mem_map]
    constructor
    · rintro ⟨start, member, rfl⟩
      obtain ⟨entry, found, called, -⟩ := starts.known start member
      exact ⟨entries.below found, (slot_or_ended found).mpr called⟩
    · intro started
      obtain ⟨below, called⟩ := started
      obtain ⟨entry, found⟩ := (entries.known id).mpr below
      obtain ⟨time, member⟩ := starts.recorded id entry found ((slot_or_ended found).mp called)
      exact ⟨(id, time), member, rfl⟩
  have distinct : (s.starts.map (·.1)).Nodup := by
    rw [List.Nodup, List.pairwise_map]
    exact starts.sorted.imp Nat.ne_of_lt
  have same := (List.perm_ext_iff_of_nodup distinct (List.nodup_range.filter _)).mpr members
  have total : s.starts.length = s.slots + s.ended := by
    calc s.starts.length
      _ = (s.starts.map (·.1)).length := (List.length_map ..).symm
      _ = ((List.range s.counters.accepted).filter fun id => s.slotOf id || s.endedOf id).length := same.length_eq
      _ = (List.range s.counters.accepted).countP fun id => s.slotOf id || s.endedOf id :=
          List.countP_eq_length_filter.symm
      _ = s.slots + s.ended := countP_disjoint disjoint
  rw [active.slots, total]
  rfl

/-- The bounds of the controller in one state. -/
structure Bounded (s : Controller Key Value) (settings : ReportAddressAdmissionSettings) : Prop where
  nonneg : 0 ≤ s.active
  most : s.active ≤ settings.maxActive
  pending : s.pumpRunning = false → (s.queue.length : Int) ≤ settings.maxPending
  order : s.starts.Pairwise fun earlier later => earlier.1 < later.1
  skipped : ∀ start ∈ s.starts, ∀ id entry, id < start.1 → s.entries id = some entry →
    (∃ time, (id, time) ∈ s.starts) ∨ entry.state = .settled
  spaced : s.starts.Pairwise fun earlier later => earlier.2 + settings.minStartIntervalMs ≤ later.2
  daily : ∀ budget most, settings.dailyBudget = some budget → budget.lets = some most →
    ∀ day, s.startsOn day ≤ most
  unexpired : ∀ start ∈ s.starts, ∃ entry, s.entries start.1 = some entry ∧ start.2 < entry.expiresAt
  once : (s.starts.map (·.1)).Nodup
  inFlight : ∀ key id, s.inFlight key = some id ↔
    ∃ entry, s.entries id = some entry ∧ entry.key = key ∧ entry.state ≠ .settled
  slots : s.active = s.slots
  balanced : s.active + s.ended = s.starts.length
  awake : s.queue ≠ [] → s.pumpRunning = false → 0 < s.active ∨ s.spacingTimer = true

omit [DecidableEq Key] in
theorem bounded (inv : Invariant s settings isoDate) : Bounded s settings where
  nonneg := by
    rw [inv.active.slots]
    exact Int.natCast_nonneg _
  most := inv.active.most
  pending resting := by
    rcases inv.room with below | ⟨-, running, -⟩
    · exact below
    · rw [resting] at running
      cases running
  order := inv.starts.sorted
  skipped start member id entry earlier found := by
    by_cases called : entry.work = .unstarted
    · apply Or.inr
      cases state : entry.state with
      | settled => rfl
      | queued =>
          have waiting := (inv.entries.queued id entry found).mp state
          exact absurd (inv.starts.order start member id waiting) (Nat.lt_asymm earlier)
      | starting =>
          have fields := (inv.entries.life id entry found).state
          rw [state] at fields
          exact fields.elim
      | running =>
          have fields := (inv.entries.life id entry found).state
          rw [state, called] at fields
          cases fields.1
    · exact Or.inl (inv.starts.recorded id entry found called)
  spaced := inv.starts.spaced
  daily budget most limited lets day := by
    cases count : s.startsOn day with
    | zero => exact Nat.zero_le _
    | succ used => exact JsNumber.lt_lets ((inv.budget budget limited).most day used count) lets
  unexpired start member := by
    obtain ⟨entry, found, -, time⟩ := inv.starts.known start member
    exact ⟨entry, found, time⟩
  once := by
    rw [List.Nodup, List.pairwise_map]
    exact inv.starts.sorted.imp Nat.ne_of_lt
  inFlight key id := by
    constructor
    · exact inv.entries.flight key id
    · intro there
      obtain ⟨entry, found, same, unsettled⟩ := there
      rw [← same]
      exact inv.entries.flying id entry found unsettled
  slots := inv.active.slots
  balanced := balanced inv.entries inv.active inv.starts
  awake := inv.awake

theorem work_forward (entries : Entries s) {event : Event Key Value} (step : steps settings isoDate s event t)
    {id : EntryId} {before after : QueueEntry Key} (found : s.entries id = some before)
    (next : t.entries id = some after) :
    (before.work ≠ .unstarted → after.work ≠ .unstarted) ∧ (before.work = .finished → after.work = .finished) := by
  have still : t.entries id = s.entries id → after = before := by
    intro same
    rw [same, found] at next
    exact (Option.some.inj next).symm
  have kept : after.work = before.work → (before.work ≠ .unstarted → after.work ≠ .unstarted) ∧
      (before.work = .finished → after.work = .finished) := by
    intro same
    rw [same]
    exact ⟨fun called => called, fun done => done⟩
  cases step_move entries step with
  | rejected error counters same accepted => exact kept (by rw [still (by rw [same])])
  | subscribed other entry signal counters present unsettled same accepted =>
      apply kept
      by_cases here : id = other
      · rw [same, here] at next
        simp only [Function.update_self, Option.some.injEq] at next
        rw [here, present] at found
        cases found
        rw [← next]
      · rw [still (by rw [same]; exact Function.update_of_ne here ..)]
  | accepted key signal free room same =>
      have different := Nat.ne_of_lt (entries.below found)
      exact kept (by rw [still (by rw [same]; exact Function.update_of_ne different ..)])
  | changed other old new told change unstarted =>
      by_cases here : id = other
      · rw [change.entries, here, Function.update_self] at next
        rw [here, change.found] at found
        cases next
        cases found
        refine ⟨fun called fresh => called (unstarted.work.mp fresh), fun done => ?_⟩
        have slot := unstarted.slot
        have work := unstarted.work
        simp only [holdsSlot, done] at slot work
        cases last : after.work <;> simp_all
      · exact kept (by rw [still (by rw [change.entries]; exact Function.update_of_ne here ..)])
  | started other old new change start =>
      by_cases here : id = other
      · rw [here, change.found] at found
        cases found
        have fields := (entries.life other _ change.found).state
        rw [start.queued] at fields
        rw [fields.2.1]
        refine ⟨fun called => absurd rfl called, fun done => ?_⟩
        cases done
      · exact kept (by rw [still (by rw [change.entries]; exact Function.update_of_ne here ..)])
  | paused spacing reason rest same => exact kept (by rw [still (by rw [same])])
  | woken same => exact kept (by rw [still (by rw [same])])
  | idle same => exact kept (by rw [still (by rw [same])])
  | ticked now forward resting same => exact kept (by rw [still (by rw [same])])

/-- The admission bounds, over every sequence of events. -/
theorem admission_bounded (valid : validateSettings settings = true) {now : Int}
    {events : List (Event Key Value)} (run : Run (steps settings isoDate) (initial now) events s) :
    Bounded s settings ∧ ∀ event t, steps settings isoDate s event t → ∀ id before after,
      s.entries id = some before → t.entries id = some after →
        (before.work ≠ .unstarted → after.work ≠ .unstarted) ∧
          (before.work = .finished → after.work = .finished) := by
  have inv := invariant_run (usable valid) run
  refine ⟨bounded inv, ?_⟩
  intro event t step id before after found next
  exact work_forward inv.entries step found next

def halfACall : ReportAddressAdmissionSettings := ⟨0, 1, 1000, 1000, 0, some (.finite (1 / 2))⟩

def oneCaller : List (Event Nat Unit) := [.submit 7 .live none, .pumpTurn]

def epochDate (_ : Int) : String := "1970-01-01"

/-- `validateSettings` lets a budget of half a call through, and the pump lets one call through it. -/
theorem half_budget_exceeded : validateSettings halfACall = true ∧ ∃ s : Controller Nat Unit,
    Run (steps halfACall epochDate) (initial 0) oneCaller s ∧ ∃ day value,
      halfACall.dailyBudget = some (.finite value) ∧ ¬ (s.startsOn day : ℚ) ≤ value := by
  have replayed : (oneCaller.foldlM (step halfACall epochDate) (initial 0)).any
      (fun s => s.startsOn 0 = 1) = true := by decide +kernel
  obtain ⟨s, folded, one⟩ := (Option.any_eq_true _ _).mp replayed
  refine ⟨by decide, s, .of_foldlM folded, 0, 1 / 2, rfl, ?_⟩
  rw [of_decide_eq_true one]
  decide +kernel

def inTurn : ReportAddressAdmissionSettings := ⟨1, 1, 5000, 1000, 1000, some (.finite 2)⟩

/-- Two callers, of whom the second waits for the first and then for the second to be over. -/
def twoCallers : List (Event Nat Unit) :=
  [.submit 7 .live none, .pumpTurn, .pumpTurn, .submit 8 .live none, .pumpTurn, .tick 400,
    .providerSettles 0 (.ok (some ())),
    .pumpTurn, .tick 1000, .spacingTimer, .pumpTurn]

theorem two_callers_bounded : validateSettings inTurn = true ∧ ∃ s : Controller Nat Unit,
    Run (steps inTurn epochDate) (initial 0) twoCallers s ∧ s.startsOn 0 = 2 ∧ Bounded s inTurn := by
  have replayed : (twoCallers.foldlM (step inTurn epochDate) (initial 0)).any
    (fun s => s.startsOn 0 = 2) = true := by
    decide +kernel
  obtain ⟨s, folded, two⟩ := (Option.any_eq_true _ _).mp replayed
  have valid : validateSettings inTurn = true := by decide
  have run : Run (steps inTurn epochDate) (initial 0) twoCallers s := .of_foldlM folded
  exact ⟨valid, s, run, of_decide_eq_true two, (admission_bounded valid run).1⟩

end PublicLighting.AddressSuggestion.Controller
