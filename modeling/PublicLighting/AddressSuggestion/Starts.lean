import PublicLighting.AddressSuggestion.Invariant

/-! Which provider calls are started, and when. -/

namespace PublicLighting.AddressSuggestion.Controller

open PublicLighting.Foundations

variable {Key Value : Type}

/-- The provider calls started so far, against the entries, the queue and the clock. -/
structure Starts (s : Controller Key Value) (settings : ReportAddressAdmissionSettings) : Prop where
  sorted : s.starts.Pairwise fun earlier later => earlier.1 < later.1
  known : ∀ start ∈ s.starts, ∃ entry, s.entries start.1 = some entry ∧ entry.work ≠ .unstarted ∧
    start.2 < entry.expiresAt
  recorded : ∀ id entry, s.entries id = some entry → entry.work ≠ .unstarted → ∃ time, (id, time) ∈ s.starts
  order : ∀ start ∈ s.starts, ∀ id ∈ s.queue, start.1 < id
  past : ∀ start ∈ s.starts, start.2 ≤ s.now
  next : ∀ start ∈ s.starts, start.2 + settings.minStartIntervalMs ≤ s.nextStartAt
  spaced : s.starts.Pairwise fun earlier later => earlier.2 + settings.minStartIntervalMs ≤ later.2

def startsOn (s : Controller Key Value) (day : Int) : Nat := s.starts.countP fun start => utcDay start.2 = day

variable {s t : Controller Key Value} {settings : ReportAddressAdmissionSettings} {isoDate : Int → String}

theorem Starts.future (starts : Starts s settings) {day : Int} (later : utcDay s.now < day) :
    s.startsOn day = 0 := by
  apply List.countP_eq_zero.mpr
  intro start member
  have past : utcDay start.2 ≤ utcDay s.now := Int.ediv_le_ediv (by decide) (starts.past start member)
  simp only [decide_eq_true_eq]
  omega

/-- What the day's budget records of the starts. A date that several days share is kept for all. -/
structure Budget (s : Controller Key Value) (isoDate : Int → String) (budget : JsNumber) : Prop where
  most : ∀ day used, s.startsOn day = used + 1 → budget.above used = true
  used : ∀ day, utcDay s.now ≤ day → s.dailyBudgetDate = some (isoDate day) → s.startsOn day ≤ s.dailyBudgetUsed
  dated : 0 < s.startsOn (utcDay s.now) → s.dailyBudgetDate = some (isoDate (utcDay s.now))

theorem today_eq {now : Int} {date : String} (dated : today isoDate now = some date) :
    date = isoDate (utcDay now) := by
  unfold today at dated
  split at dated
  · exact (Option.some.inj dated).symm
  · cases dated

def spentToday (s : Controller Key Value) (isoDate : Int → String) : Nat :=
  if s.dailyBudgetDate = some (isoDate (utcDay s.now)) then s.dailyBudgetUsed else 0

theorem consumeBudget_undated {budget : JsNumber} (limited : settings.dailyBudget = some budget)
    (undated : today isoDate s.now = none) :
    s.consumeBudget settings isoDate = (false, s.dailyBudgetDate, s.dailyBudgetUsed) := by
  unfold consumeBudget
  simp only [limited, undated]

theorem consumeBudget_dated {budget : JsNumber} (limited : settings.dailyBudget = some budget) {date : String}
    (dated : today isoDate s.now = some date) :
    s.consumeBudget settings isoDate =
      if budget.above (s.spentToday isoDate) then
        (true, some (isoDate (utcDay s.now)), s.spentToday isoDate + 1)
      else (false, some (isoDate (utcDay s.now)), s.spentToday isoDate) := by
  cases today_eq dated
  unfold consumeBudget spentToday
  simp only [limited, dated]

theorem Budget.used_today {budget : JsNumber} (kept : Budget s isoDate budget) :
    s.startsOn (utcDay s.now) ≤ s.spentToday isoDate := by
  unfold spentToday
  split
  · rename_i same
    exact kept.used _ le_rfl same
  · rename_i other
    have none : ¬ 0 < s.startsOn (utcDay s.now) := fun some => other (kept.dated some)
    omega

theorem budget_kept {budget : JsNumber} (limited : settings.dailyBudget = some budget)
    (starts : Starts s settings) (kept : Budget s isoDate budget) (same : t.starts = s.starts)
    (now : t.now = s.now) (moved : BudgetKept s settings isoDate t) : Budget t isoDate budget := by
  have count : ∀ day, t.startsOn day = s.startsOn day := by
    intro day
    unfold startsOn
    rw [same]
  have fields : (t.dailyBudgetDate, t.dailyBudgetUsed) = (s.dailyBudgetDate, s.dailyBudgetUsed) ∨
      t.dailyBudgetDate = some (isoDate (utcDay s.now)) ∧
        s.startsOn (utcDay s.now) ≤ t.dailyBudgetUsed := by
    rcases moved with still | ⟨denied, moved⟩
    · exact Or.inl still
    · cases dated : today isoDate s.now with
      | none => exact Or.inl (moved.trans (by rw [consumeBudget_undated limited dated]))
      | some date =>
          rw [consumeBudget_dated limited dated] at denied moved
          by_cases above : budget.above (s.spentToday isoDate) = true
          · rw [if_pos above] at denied
            cases denied
          · rw [if_neg above, Prod.mk.injEq] at moved
            exact Or.inr ⟨moved.1, moved.2.symm ▸ kept.used_today⟩
  refine ⟨?_, ?_, ?_⟩
  · intro day used
    rw [count]
    exact kept.most day used
  · intro day later date
    rw [count]
    rw [now] at later
    rcases fields with still | ⟨_, used⟩
    · rw [Prod.mk.injEq] at still
      rw [still.1] at date
      rw [still.2]
      exact kept.used day later date
    · rcases Int.lt_or_eq_of_le later with after | today
      · rw [starts.future after]
        exact Nat.zero_le _
      · rw [← today]
        exact used
  · rw [now, count]
    intro some
    rcases fields with still | ⟨date, _⟩
    · rw [Prod.mk.injEq] at still
      rw [still.1]
      exact kept.dated some
    · exact date

variable [DecidableEq Key]

theorem starts_changed (starts : Starts s settings) {id : EntryId} {before after : QueueEntry Key}
    {told : List (PromiseId × Settlement Value)} (change : Change s t id before after told)
    (unstarted : Unstarted s t before after) : Starts t settings where
  sorted := by
    rw [unstarted.starts]
    exact starts.sorted
  known start member := by
    rw [unstarted.starts] at member
    obtain ⟨entry, found, called, time⟩ := starts.known start member
    rw [change.entries]
    by_cases here : start.1 = id
    · rw [here, change.found] at found
      cases found
      refine ⟨after, by rw [here, Function.update_self], ?_, ?_⟩
      · exact fun fresh => called (unstarted.work.mp fresh)
      · rw [change.expiresAt]
        exact time
    · exact ⟨entry, (Function.update_of_ne here ..).trans found, called, time⟩
  recorded := by
    rw [change.entries, unstarted.starts]
    refine update_some _ ?_ fun other held _ present called => starts.recorded other held present called
    intro called
    exact starts.recorded id before change.found fun fresh => called (unstarted.work.mpr fresh)
  order start member other queued := by
    rw [unstarted.starts] at member
    apply starts.order start member other
    rw [change.queue] at queued
    split at queued
    · exact List.mem_of_mem_erase queued
    · exact queued
  past := by
    rw [unstarted.starts, change.now]
    exact starts.past
  next := by
    rw [unstarted.starts, unstarted.next]
    exact starts.next
  spaced := by
    rw [unstarted.starts]
    exact starts.spaced

theorem starts_started (entries : Entries s) (starts : Starts s settings) {id : EntryId}
    {before after : QueueEntry Key} (change : Change s t id before after [])
    (start : Started s settings isoDate t id before after) (forward : 0 ≤ settings.minStartIntervalMs) :
    Starts t settings := by
  obtain ⟨rest, first⟩ := start.first
  have here : id ∈ s.queue := by
    rw [first]
    exact List.mem_cons_self
  have called : after.work ≠ .unstarted := by
    have fields := change.life.state
    rw [start.running] at fields
    rw [fields.1]
    decide
  have queue : t.queue = rest := by
    rw [change.queue, if_pos ⟨start.queued, by rw [start.running]; decide⟩, first, List.erase_cons_head]
  have waiting : ∀ other ∈ rest, id < other := by
    have sorted := entries.sorted
    rw [first, List.pairwise_cons] at sorted
    exact sorted.1
  have stored : t.entries id = some after := by
    rw [change.entries, Function.update_self]
  refine ⟨?_, ?_, ?_, ?_, ?_, ?_, ?_⟩
  · rw [start.starts, List.pairwise_append]
    refine ⟨starts.sorted, List.pairwise_singleton .., ?_⟩
    intro earlier member later last
    rw [List.mem_singleton.mp last]
    exact starts.order earlier member id here
  · intro taken member
    rw [start.starts] at member
    rcases List.mem_append.mp member with earlier | last
    · obtain ⟨entry, found, started, time⟩ := starts.known taken earlier
      have different : taken.1 ≠ id := Nat.ne_of_lt (starts.order taken earlier id here)
      refine ⟨entry, ?_, started, time⟩
      rw [change.entries, Function.update_of_ne different]
      exact found
    · rw [List.mem_singleton.mp last]
      refine ⟨after, stored, called, ?_⟩
      rw [change.expiresAt]
      exact start.unexpired
  · rw [change.entries, start.starts]
    refine update_some _ ?_ fun other held _ present started => ?_
    · intro _
      exact ⟨s.now, by simp⟩
    · obtain ⟨time, member⟩ := starts.recorded other held present started
      exact ⟨time, List.mem_append_left _ member⟩
  · intro taken member other queued
    rw [queue] at queued
    rw [start.starts] at member
    rcases List.mem_append.mp member with earlier | last
    · exact Nat.lt_trans (starts.order taken earlier id here) (waiting other queued)
    · rw [List.mem_singleton.mp last]
      exact waiting other queued
  · intro taken member
    rw [start.starts] at member
    rw [change.now]
    rcases List.mem_append.mp member with earlier | last
    · exact starts.past taken earlier
    · rw [List.mem_singleton.mp last]
  · intro taken member
    rw [start.starts] at member
    rw [start.next]
    rcases List.mem_append.mp member with earlier | last
    · have next := starts.next taken earlier
      have spaced := start.spaced
      omega
    · rw [List.mem_singleton.mp last]
  · rw [start.starts, List.pairwise_append]
    refine ⟨starts.spaced, List.pairwise_singleton .., ?_⟩
    intro earlier member later last
    rw [List.mem_singleton.mp last]
    exact (starts.next earlier member).trans start.spaced

theorem starts_move (entries : Entries s) (starts : Starts s settings)
    (forward : 0 ≤ settings.minStartIntervalMs) (move : Move s settings isoDate t) : Starts t settings := by
  cases move with
  | rejected error counters same accepted =>
      subst same
      exact ⟨starts.sorted, starts.known, starts.recorded, starts.order, starts.past, starts.next,
        starts.spaced⟩
  | subscribed id entry signal counters found unsettled same accepted =>
      subst same
      refine ⟨starts.sorted, ?_, ?_, starts.order, starts.past, starts.next, starts.spaced⟩
      · intro start member
        obtain ⟨held, present, called, time⟩ := starts.known start member
        by_cases here : start.1 = id
        · rw [here, found] at present
          cases present
          refine ⟨{ entry with subscribers := entry.subscribers ++ [⟨s.promises, signal⟩] }, ?_, called, time⟩
          rw [here]
          exact Function.update_self ..
        · exact ⟨held, (Function.update_of_ne here ..).trans present, called, time⟩
      · exact update_some (fun id (entry : QueueEntry Key) => entry.work ≠ .unstarted →
          ∃ time, (id, time) ∈ s.starts) (by exact starts.recorded id entry found)
          fun other held _ => starts.recorded other held
  | accepted key signal free room same =>
      subst same
      refine ⟨starts.sorted, ?_, ?_, ?_, starts.past, starts.next, starts.spaced⟩
      · intro start member
        obtain ⟨held, present, called, time⟩ := starts.known start member
        have different := Nat.ne_of_lt (entries.below present)
        exact ⟨held, (Function.update_of_ne different ..).trans present, called, time⟩
      · exact update_some (fun id (entry : QueueEntry Key) => entry.work ≠ .unstarted →
          ∃ time, (id, time) ∈ s.starts) (fun called => absurd rfl called)
          fun other held _ => starts.recorded other held
      · intro start member id queued
        rcases List.mem_append.mp queued with waiting | last
        · exact starts.order start member id waiting
        · obtain ⟨held, present, -⟩ := starts.known start member
          rw [List.mem_singleton.mp last]
          exact entries.below present
  | changed id before after told change unstarted => exact starts_changed starts change unstarted
  | started id before after change start => exact starts_started entries starts change start forward
  | paused spacing reason kept same =>
      subst same
      exact ⟨starts.sorted, starts.known, starts.recorded, starts.order, starts.past, starts.next,
        starts.spaced⟩
  | woken same =>
      subst same
      exact ⟨starts.sorted, starts.known, starts.recorded, starts.order, starts.past, starts.next,
        starts.spaced⟩
  | idle same => exact same ▸ starts
  | ticked now later resting same =>
      subst same
      exact ⟨starts.sorted, starts.known, starts.recorded, starts.order,
        fun start member => (starts.past start member).trans later, starts.next, starts.spaced⟩

theorem budget_started {budget : JsNumber} (limited : settings.dailyBudget = some budget)
    (starts : Starts s settings) (kept : Budget s isoDate budget) {id : EntryId} {before after : QueueEntry Key}
    (change : Change s t id before after []) (start : Started s settings isoDate t id before after) :
    Budget t isoDate budget := by
  have count : ∀ day, t.startsOn day = s.startsOn day + if utcDay s.now = day then 1 else 0 := by
    intro day
    unfold startsOn
    rw [start.starts, List.countP_append, List.countP_singleton]
    simp only [decide_eq_true_eq]
  have used := kept.used_today
  have allowed := start.allowed
  have moved := start.budget
  cases dated : today isoDate s.now with
  | none =>
      rw [consumeBudget_undated limited dated] at allowed
      cases allowed
  | some date =>
      rw [consumeBudget_dated limited dated] at allowed moved
      by_cases above : budget.above (s.spentToday isoDate) = true
      · rw [if_pos above, Prod.mk.injEq] at moved
        refine ⟨?_, ?_, ?_⟩
        · intro day most
          rw [count]
          intro total
          by_cases here : utcDay s.now = day
          · rw [if_pos here, ← here] at total
            exact JsNumber.above_of_le above (by omega)
          · rw [if_neg here] at total
            exact kept.most day most total
        · intro day later _
          rw [change.now] at later
          rw [count, moved.2]
          rcases Int.lt_or_eq_of_le later with after | here
          · rw [starts.future after, if_neg (Int.ne_of_lt after)]
            exact Nat.zero_le _
          · rw [← here, if_pos rfl]
            exact Nat.succ_le_succ used
        · intro _
          rw [change.now]
          exact moved.1
      · rw [if_neg above] at allowed
        cases allowed

theorem budget_move {budget : JsNumber} (limited : settings.dailyBudget = some budget)
    (starts : Starts s settings) (kept : Budget s isoDate budget) (move : Move s settings isoDate t) :
    Budget t isoDate budget := by
  cases move with
  | rejected error counters same accepted =>
      exact budget_kept limited starts kept (by rw [same]) (by rw [same]) (Or.inl (by rw [same]))
  | subscribed id entry signal counters found unsettled same accepted =>
      exact budget_kept limited starts kept (by rw [same]) (by rw [same]) (Or.inl (by rw [same]))
  | accepted key signal free room same =>
      exact budget_kept limited starts kept (by rw [same]) (by rw [same]) (Or.inl (by rw [same]))
  | changed id before after told change unstarted budget =>
      exact budget_kept limited starts kept unstarted.starts change.now budget
  | started id before after change start => exact budget_started limited starts kept change start
  | paused spacing reason still same =>
      exact budget_kept limited starts kept (by rw [same]) (by rw [same]) (Or.inl (by rw [same]))
  | woken same =>
      exact budget_kept limited starts kept (by rw [same]) (by rw [same]) (Or.inl (by rw [same]))
  | idle same => exact same ▸ kept
  | ticked now later resting same =>
      have count : ∀ day, t.startsOn day = s.startsOn day := by
        intro day
        unfold startsOn
        rw [same]
      have time : t.now = now := by rw [same]
      have days : utcDay s.now ≤ utcDay now := Int.ediv_le_ediv (by decide) later
      have date : t.dailyBudgetDate = s.dailyBudgetDate := by rw [same]
      have used : t.dailyBudgetUsed = s.dailyBudgetUsed := by rw [same]
      refine ⟨?_, ?_, ?_⟩
      · intro day most
        rw [count]
        exact kept.most day most
      · intro day after
        rw [count, date, used]
        rw [time] at after
        exact kept.used day (days.trans after)
      · rw [time, count, date]
        intro some
        rcases Int.lt_or_eq_of_le days with after | here
        · rw [starts.future after] at some
          exact absurd some (Nat.lt_irrefl 0)
        · rw [← here] at some ⊢
          exact kept.dated some

end PublicLighting.AddressSuggestion.Controller
