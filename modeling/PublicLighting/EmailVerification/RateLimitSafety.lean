import PublicLighting.EmailVerification.RateLimits
import Mathlib.Data.List.Nodup

/-! Runs of the counters on a monotone clock: how many calls a window lets through, and
when the advised wait is long enough. -/

namespace PublicLighting.EmailVerification

open Foundations

variable {Digest : Type} [DecidableEq Digest]

abbrev RateLog (Digest : Type) := List (RateCall Digest × RateResult)

omit [DecidableEq Digest] in
def ClockOrdered (log : RateLog Digest) : Prop :=
  (log.flatMap fun entry => entry.1.statements.map (·.2)).Pairwise (· ≤ ·)

/-- An allowed call that counted on the key, under a limit of at most `limit`, in the hour from `start`. -/
def allowedBy (key : RateScope × Digest) (limit start : Nat) (entry : RateCall Digest × RateResult) : Bool :=
  entry.2 = .allowed ∧ ∃ statement ∈ entry.1.statements, statement.1.key = key ∧
    statement.1.maxAttempts ≤ limit ∧ start ≤ statement.2 ∧ statement.2 < start + hour

def allowedCount (log : RateLog Digest) (key : RateScope × Digest) (limit start : Nat) : Nat :=
  log.countP (allowedBy key limit start)

section Windows

variable {key : RateScope × Digest} {limit : Nat} {log : RateLog Digest} {entry : RateCall Digest × RateResult}
variable {table after : RateTable Digest}

omit [DecidableEq Digest] in
theorem clockOrdered_concat (ordered : ClockOrdered (log ++ [entry])) :
    ClockOrdered log ∧ ∀ earlier ∈ log, ∀ before ∈ earlier.1.statements, ∀ statement ∈ entry.1.statements,
      before.2 ≤ statement.2 := by
  rw [ClockOrdered, List.flatMap_append, List.pairwise_append] at ordered
  refine ⟨ordered.1, ?_⟩
  intro earlier member before first statement last
  apply ordered.2.2 before.2 _ statement.2
  · rw [List.flatMap_singleton]
    exact List.mem_map_of_mem last
  · exact List.mem_flatMap.mpr ⟨earlier, member, List.mem_map_of_mem first⟩

omit [DecidableEq Digest] in
theorem statement_unique (call : RateCall Digest) {one other : RateStatement Digest} (first : one ∈ call.statements)
    (second : other ∈ call.statements) (same : one.1.key = other.1.key) : one = other :=
  List.inj_on_of_nodup_map call.distinct first second same

theorem allowedCount_concat (start : Nat) :
    allowedCount (log ++ [entry]) key limit start =
      allowedCount log key limit start + if allowedBy key limit start entry then 1 else 0 := by
  rw [allowedCount, List.countP_append, List.countP_singleton, ← allowedCount]

/-- What a key's row tells of the calls so far: the window's allowed calls are within the
limit and the count, and no statement on the key came after the window. -/
structure Counts (log : RateLog Digest) (key : RateScope × Digest) (limit : Nat) (row : RateRow) : Prop where
  bounded : allowedCount log key limit row.windowStartedAt ≤ limit
  paid : allowedCount log key limit row.windowStartedAt ≤ row.attemptCount
  started : ∃ entry ∈ log, ∃ statement ∈ entry.1.statements, statement.2 = row.windowStartedAt
  recent : ∀ entry ∈ log, ∀ statement ∈ entry.1.statements, statement.1.key = key →
    statement.2 < row.windowStartedAt + hour

def Counted (log : RateLog Digest) (key : RateScope × Digest) (limit : Nat) : Option RateRow → Prop
  | none => ∀ entry ∈ log, ∀ statement ∈ entry.1.statements, statement.1.key ≠ key
  | some row => Counts log key limit row

theorem allowedBy_elsewhere (start : Nat) (absent : key ∉ entry.1.statements.map (·.1.key)) :
    allowedBy key limit start entry = false := by
  rw [allowedBy, decide_eq_false_iff_not]
  rintro ⟨-, statement, member, same, -⟩
  exact absent (same ▸ List.mem_map_of_mem member)

theorem allowedBy_within (start : Nat) (limited : Limits table entry after) {statement : RateStatement Digest}
    (member : statement ∈ entry.1.statements) (own : statement.1.key = key)
    (allowed : allowedBy key limit start entry = true) :
    statement.1.maxAttempts ≤ limit ∧ (counted table statement).attemptCount ≤ statement.1.maxAttempts ∧
      start ≤ statement.2 ∧ statement.2 < start + hour := by
  rw [allowedBy, decide_eq_true_eq] at allowed
  obtain ⟨accepted, other, within, same, small, early, late⟩ := allowed
  have equal := statement_unique entry.1 within member (same.trans own.symm)
  subst equal
  exact ⟨small, not_lt.mp ((limits_allowed limited).mp accepted other member), early, late⟩

theorem allowedCount_zero {start : Nat}
    (none : ∀ entry ∈ log, ∀ statement ∈ entry.1.statements, statement.1.key = key → statement.2 < start) :
    allowedCount log key limit start = 0 := by
  rw [allowedCount, List.countP_eq_zero]
  intro entry member allowed
  rw [allowedBy, decide_eq_true_eq] at allowed
  obtain ⟨-, statement, within, same, -, late, -⟩ := allowed
  exact absurd (none entry member statement within same) (not_lt.mpr late)

theorem counts_fresh (limited : Limits table entry after) {statement : RateStatement Digest}
    (member : statement ∈ entry.1.statements) (own : statement.1.key = key) {row : RateRow}
    (fresh : counted table statement = row) (start : row.windowStartedAt = statement.2) (one : row.attemptCount = 1)
    (none : ∀ entry ∈ log, ∀ before ∈ entry.1.statements, before.1.key = key → before.2 < statement.2) :
    Counts (log ++ [entry]) key limit row := by
  have before : allowedCount log key limit row.windowStartedAt = 0 := allowedCount_zero (start ▸ none)
  have positive : 0 < hour := by decide
  refine ⟨?_, ?_, ⟨entry, List.mem_append_right _ (List.mem_singleton_self _), statement, member, start.symm⟩, ?_⟩
  · rw [allowedCount_concat, before, Nat.zero_add]
    split
    · rename_i allowed
      have within := allowedBy_within _ limited member own allowed
      rw [fresh, one] at within
      exact within.2.1.trans within.1
    · exact Nat.zero_le _
  · rw [allowedCount_concat, before, one, Nat.zero_add]
    split
    · exact le_refl _
    · exact Nat.zero_le _
  · intro other within before first same
    rw [start]
    cases List.mem_append.mp within with
    | inl earlier => exact (none other earlier before first same).trans (Nat.lt_add_of_pos_right positive)
    | inr this =>
        rw [List.mem_singleton.mp this] at first
        rw [statement_unique entry.1 first member (same.trans own.symm)]
        exact Nat.lt_add_of_pos_right positive

theorem counted_step (small : limit < attemptCountMax) (limited : Limits table entry after)
    (counts : Counted log key limit (table key)) : Counted (log ++ [entry]) key limit (after key) := by
  obtain ⟨elsewhere, here⟩ := limits_table limited
  by_cases used : key ∈ entry.1.statements.map (·.1.key)
  · obtain ⟨statement, member, own⟩ := List.mem_map.mp used
    have own : statement.1.key = key := own
    have changed : after key = some (counted table statement) := own ▸ here statement member
    rw [changed]
    cases held : table key with
    | none =>
        rw [held] at counts
        have fresh : counted table statement = ⟨statement.2, 1, statement.2⟩ := by rw [counted, own, held, upsert]
        rw [fresh]
        exact counts_fresh limited member own fresh rfl rfl fun earlier within before first same =>
          absurd same (counts earlier within before first)
    | some row =>
        rw [held] at counts
        by_cases passed : row.windowStartedAt + hour ≤ statement.2
        · have fresh : counted table statement = ⟨statement.2, 1, statement.2⟩ := by
            rw [counted, own, held, upsert, if_pos passed]
          rw [fresh]
          exact counts_fresh limited member own fresh rfl rfl fun earlier within before first same =>
            (counts.recent earlier within before first same).trans_le passed
        · have kept : counted table statement =
              ⟨row.windowStartedAt, min (row.attemptCount + 1) attemptCountMax, statement.2⟩ := by
            rw [counted, own, held, upsert, if_neg passed]
          rw [kept]
          have bounded := counts.bounded
          have paid := counts.paid
          -- An allowed call has counted one more, and below the limit the count is not capped.
          have room (allowed : allowedBy key limit row.windowStartedAt entry = true) :
            row.attemptCount + 1 ≤ limit := by
            have within := allowedBy_within _ limited member own allowed
            rw [kept] at within
            exact (min_le_iff.mp (within.2.1.trans within.1)).resolve_right (not_le.mpr small)
          refine ⟨?_, ?_, ?_, ?_⟩
          · rw [allowedCount_concat]
            split
            · rename_i allowed
              exact (Nat.succ_le_succ paid).trans (room allowed)
            · exact bounded
          · rw [allowedCount_concat]
            split
            · rename_i allowed
              exact le_min (Nat.succ_le_succ paid) (((Nat.succ_le_succ paid).trans (room allowed)).trans small.le)
            · exact le_min (paid.trans (Nat.le_succ _)) (bounded.trans small.le)
          · obtain ⟨first, within, before, first', same⟩ := counts.started
            exact ⟨first, List.mem_append_left _ within, before, first', same⟩
          · intro other within before first same
            cases List.mem_append.mp within with
            | inl earlier => exact counts.recent other earlier before first same
            | inr this =>
                rw [List.mem_singleton.mp this] at first
                rw [statement_unique entry.1 first member (same.trans own.symm)]
                exact not_le.mp passed
  · rw [elsewhere key used]
    have silent (start : Nat) : allowedCount (log ++ [entry]) key limit start =
      allowedCount log key limit start := by
      rw [allowedCount_concat, allowedBy_elsewhere start used]
      rfl
    cases held : table key with
    | none =>
        rw [held] at counts
        intro other within before first same
        cases List.mem_append.mp within with
        | inl earlier => exact counts other earlier before first same
        | inr this =>
            rw [List.mem_singleton.mp this] at first
            exact used (same ▸ List.mem_map_of_mem first)
    | some row =>
        rw [held] at counts
        refine ⟨(silent _).trans_le counts.bounded, (silent _).trans_le counts.paid, ?_, ?_⟩
        · obtain ⟨first, within, before, first', same⟩ := counts.started
          exact ⟨first, List.mem_append_left _ within, before, first', same⟩
        · intro other within before first same
          cases List.mem_append.mp within with
          | inl earlier => exact counts.recent other earlier before first same
          | inr this =>
              rw [List.mem_singleton.mp this] at first
              exact absurd (same ▸ List.mem_map_of_mem first) used

theorem run_counted (small : limit < attemptCountMax) (run : Run Limits (fun _ => none) log table) :
    Counted log key limit (table key) := by
  generalize start : (fun _ => none : RateTable Digest) = first at run
  induction run with
  | nil =>
      subst start
      exact nofun
  | snoc _ limited ih => exact counted_step small limited ih

/-- The window from `start` is over: a later one has begun, and nothing more is allowed in it. -/
structure Closed (log : RateLog Digest) (key : RateScope × Digest) (limit start : Nat)
    (row : Option RateRow) : Prop where
  bounded : allowedCount log key limit start ≤ limit
  later : ∃ current ∈ row, start + hour ≤ current.windowStartedAt ∧
    ∃ entry ∈ log, ∃ statement ∈ entry.1.statements, statement.2 = current.windowStartedAt

theorem closed_step {start : Nat} (limited : Limits table entry after)
    (later : ∀ earlier ∈ log, ∀ before ∈ earlier.1.statements, ∀ statement ∈ entry.1.statements,
      before.2 ≤ statement.2)
    (closed : Closed log key limit start (table key)) : Closed (log ++ [entry]) key limit start (after key) := by
  obtain ⟨bounded, row, held, beyond, first, within, before, origin, began⟩ := closed
  obtain ⟨elsewhere, here⟩ := limits_table limited
  have present : ∀ statement ∈ entry.1.statements, start + hour ≤ statement.2 := fun statement member =>
    beyond.trans (began ▸ later first within before origin statement member)
  have silent : allowedBy key limit start entry = false := by
    rw [allowedBy, decide_eq_false_iff_not]
    rintro ⟨-, statement, member, -, -, -, late⟩
    exact absurd late (not_lt.mpr (present statement member))
  have count : allowedCount (log ++ [entry]) key limit start ≤ limit := by
    rw [allowedCount_concat, silent]
    exact bounded
  refine ⟨count, ?_⟩
  by_cases used : key ∈ entry.1.statements.map (·.1.key)
  · obtain ⟨statement, member, own⟩ := List.mem_map.mp used
    have own : statement.1.key = key := own
    have changed : after key = some (counted table statement) := own ▸ here statement member
    refine ⟨_, changed, ?_⟩
    have row' : table statement.1.key = some row := own ▸ held
    rw [counted, row', upsert]
    split
    · exact ⟨present statement member, entry, List.mem_append_right _ (List.mem_singleton_self _),
        statement, member, rfl⟩
    · exact ⟨beyond, first, List.mem_append_left _ within, before, origin, began⟩
  · rw [elsewhere key used]
    exact ⟨row, held, beyond, first, List.mem_append_left _ within, before, origin, began⟩

theorem window_step (limited : Limits table entry after) {row : RateRow} (held : table key = some row) :
    ∃ next, after key = some next ∧
      (next.windowStartedAt = row.windowStartedAt ∨
        ∃ statement ∈ entry.1.statements, statement.1.key = key ∧ row.windowStartedAt + hour ≤ statement.2 ∧
          next.windowStartedAt = statement.2) := by
  obtain ⟨elsewhere, here⟩ := limits_table limited
  by_cases used : key ∈ entry.1.statements.map (·.1.key)
  · obtain ⟨statement, member, own⟩ := List.mem_map.mp used
    have own : statement.1.key = key := own
    have changed : after key = some (counted table statement) := own ▸ here statement member
    refine ⟨_, changed, ?_⟩
    have row' : table statement.1.key = some row := own ▸ held
    rw [counted, row', upsert]
    by_cases passed : row.windowStartedAt + hour ≤ statement.2
    · rw [if_pos passed]
      exact .inr ⟨statement, member, own, passed, rfl⟩
    · rw [if_neg passed]
      exact .inl rfl
  · exact ⟨row, (elsewhere key used).trans held, .inl rfl⟩

/-- No window lets through more calls than a limit, whatever the run does after it. -/
theorem run_windows (small : limit < attemptCountMax) {front back : RateLog Digest} {middle final : RateTable Digest}
    (before : Run Limits (fun _ => none) front middle) (run : Run Limits middle back final)
    (ordered : ClockOrdered (front ++ back)) {row : RateRow} (held : middle key = some row) :
    allowedCount (front ++ back) key limit row.windowStartedAt ≤ limit := by
  have tracked : (∃ current, final key = some current ∧ current.windowStartedAt = row.windowStartedAt) ∨
      Closed (front ++ back) key limit row.windowStartedAt (final key) := by
    induction run with
    | nil => exact .inl ⟨row, held, rfl⟩
    | @snoc table after labels entry earlier limited ih =>
        rw [← List.append_assoc] at ordered ⊢
        obtain ⟨ordered, later⟩ := clockOrdered_concat ordered
        rcases ih ordered with ⟨current, now, same⟩ | closed
        · obtain ⟨next, changed, kept | ⟨statement, member, own, passed, starts⟩⟩ := window_step limited now
          · exact .inl ⟨next, changed, kept.trans same⟩
          · refine .inr ⟨?_, next, changed, starts ▸ same ▸ passed, entry,
              List.mem_append_right _ (List.mem_singleton_self _), statement, member, starts.symm⟩
            have counts := @run_counted _ _ key _ _ _ small (before.append earlier)
            rw [now] at counts
            have silent : allowedBy key limit row.windowStartedAt entry = false := by
              rw [allowedBy, decide_eq_false_iff_not]
              rintro ⟨-, other, within, here, -, -, late⟩
              rw [statement_unique entry.1 within member (here.trans own.symm), ← same] at late
              exact absurd late (not_lt.mpr passed)
            rw [allowedCount_concat, silent, ← same]
            exact counts.bounded
        · exact .inr (closed_step limited later closed)
  rcases tracked with ⟨current, now, same⟩ | closed
  · have counts := @run_counted _ _ key _ _ _ small (before.append run)
    rw [now] at counts
    exact same ▸ counts.bounded
  · exact closed.bounded

end Windows

section Waiting

def RateCall.answeredAt (call : RateCall Digest) : Nat := (call.statements.map (·.2)).foldr max 0

/-- A limit of a denied call is used up to its last attempt, in a window that ends later
than every wait that the exceeded limits ask for. -/
def Outlasts (table : RateTable Digest) (call : RateCall Digest) (statement : RateStatement Digest) : Prop :=
  (counted table statement).attemptCount = statement.1.maxAttempts ∧
    ∀ exceeded ∈ call.statements, Exceeded table exceeded →
      call.answeredAt + second * waitOf table exceeded < windowEnd table statement

def Countable (limit : RateLimit Digest) : Prop := 1 ≤ limit.maxAttempts ∧ limit.maxAttempts < attemptCountMax

/-- The denied caller calls again after the advised wait, while nobody used its keys. -/
structure CallsAgain (front middle : RateLog Digest) (call next : RateCall Digest) (retry : Nat)
    (answer : RateResult) :
    Prop where
  ordered : ClockOrdered (front ++ (call, .denied retry) :: (middle ++ [(next, answer)]))
  quiet : ∀ entry ∈ middle, ∀ statement ∈ entry.1.statements, statement.1.key ∉ call.statements.map (·.1.key)
  same : next.statements.map (·.1) = call.statements.map (·.1)
  waited : ∀ statement ∈ next.statements, call.answeredAt + second * retry ≤ statement.2

variable {table after : RateTable Digest} {call : RateCall Digest} {retry : Nat}

omit [DecidableEq Digest] in
theorem le_answeredAt {statement : RateStatement Digest} (member : statement ∈ call.statements) :
    statement.2 ≤ call.answeredAt := by
  have within : statement.2 ∈ call.statements.map (·.2) := List.mem_map_of_mem member
  rw [RateCall.answeredAt]
  generalize call.statements.map (·.2) = times at within
  induction times with
  | nil => cases within
  | cons first rest ih =>
      cases List.mem_cons.mp within with
      | inl here => exact here ▸ le_max_left _ _
      | inr later => exact (ih later).trans (le_max_right _ _)

omit [DecidableEq Digest] in
theorem windowEnd_le (table : RateTable Digest) (statement : RateStatement Digest) :
    windowEnd table statement ≤ statement.2 + second * waitOf table statement := by
  have wait : secondsUntil (windowEnd table statement) statement.2 ≤ waitOf table statement := le_max_right 1 _
  have scaled := Nat.mul_le_mul_left second wait
  have covers : windowEnd table statement ≤
      statement.2 + second * secondsUntil (windowEnd table statement) statement.2 := by
    rw [secondsUntil]
    have unit : second = 1000000 := rfl
    rw [unit]
    omega
  omega

/-- The rows of the call's keys stay as the call left them while nobody uses them. -/
theorem quiet_keys {key : RateScope × Digest} {middle : RateLog Digest} {held : RateTable Digest}
    (run : Run Limits after middle held)
    (quiet : ∀ entry ∈ middle, ∀ statement ∈ entry.1.statements, statement.1.key ≠ key) : held key = after key := by
  induction run with
  | nil => rfl
  | @snoc _ _ labels entry _ limited ih =>
      rw [(limits_table limited).1 key, ih fun entry member => quiet entry (List.mem_append_left _ member)]
      intro used
      obtain ⟨statement, member, own⟩ := List.mem_map.mp used
      exact quiet entry (List.mem_append_right _ (List.mem_singleton_self _)) statement member own

omit [DecidableEq Digest] in
theorem again_counted {held : RateTable Digest} {statement again : RateStatement Digest}
    (same : again.1 = statement.1)
    (row : held statement.1.key = some (counted table statement)) :
    counted held again =
      if windowEnd table statement ≤ again.2 then ⟨again.2, 1, again.2⟩
      else ⟨(counted table statement).windowStartedAt,
        min ((counted table statement).attemptCount + 1) attemptCountMax, again.2⟩ := by
  conv_lhs => rw [counted, same, row, upsert]
  rfl

omit [DecidableEq Digest] in
theorem again_allowed {held : RateTable Digest} {statement again : RateStatement Digest}
    (same : again.1 = statement.1)
    (row : held statement.1.key = some (counted table statement)) (countable : Countable statement.1)
    (open' : (counted table statement).attemptCount < statement.1.maxAttempts ∨
      windowEnd table statement ≤ again.2) : ¬ Exceeded held again := by
  rw [Exceeded, again_counted same row, same, not_lt]
  split
  · exact countable.1
  · rename_i running
    exact (min_le_left _ _).trans (open'.resolve_right running)

theorem wait_enough (countable : ∀ statement ∈ call.statements, Countable statement.1)
    (limited : Limits table (call, .denied retry) after)
    (shorter : ∀ statement ∈ call.statements, ¬ Outlasts table call statement) {front middle : RateLog Digest}
    {next : RateCall Digest} {answer : RateResult} {final : RateTable Digest}
    (run : Run Limits after (middle ++ [(next, answer)]) final)
    (again : CallsAgain front middle call next retry answer) : answer = .allowed := by
  obtain ⟨held, quietly, last⟩ := run.snoc_inv
  rw [limits_allowed last]
  intro repeated member
  have listed : repeated.1 ∈ call.statements.map (·.1) := again.same ▸ List.mem_map_of_mem member
  obtain ⟨statement, within, same⟩ := List.mem_map.mp listed
  have kept : held statement.1.key = after statement.1.key := by
    apply quiet_keys quietly
    intro entry used other first equal
    exact again.quiet entry used other first (equal ▸ List.mem_map_of_mem within)
  have row : held statement.1.key = some (counted table statement) :=
    kept.trans ((limits_table limited).2 statement within)
  have waits := (limits_denied limited).1
  have waited := again.waited repeated member
  apply again_allowed same.symm row (countable statement within)
  rcases lt_trichotomy (counted table statement).attemptCount statement.1.maxAttempts with below | used | above
  · exact .inl below
  · have short := shorter statement within
    rw [Outlasts, not_and] at short
    obtain ⟨exceeded, listed, beyond, covers⟩ : ∃ exceeded ∈ call.statements, Exceeded table exceeded ∧
        windowEnd table statement ≤ call.answeredAt + second * waitOf table exceeded := by
      by_contra none
      apply short used
      intro exceeded listed beyond
      exact not_le.mp fun covers => none ⟨exceeded, listed, beyond, covers⟩
    have scaled := Nat.mul_le_mul_left second (waits exceeded listed beyond)
    exact .inr (by omega)
  · have ends := windowEnd_le table statement
    have scaled := Nat.mul_le_mul_left second (waits statement within above)
    have before := le_answeredAt within
    exact .inr (by omega)

omit [DecidableEq Digest] in
def RateCall.repeatedAt (call : RateCall Digest) (now : Nat) : RateCall Digest where
  statements := call.statements.map fun statement => (statement.1, now)
  distinct := by
    rw [List.map_map]
    exact call.distinct

theorem wait_short (limited : Limits table (call, .denied retry) after) {statement : RateStatement Digest}
    (member : statement ∈ call.statements) (countable : Countable statement.1)
    (outlasts : Outlasts table call statement) {answer : RateResult} {final : RateTable Digest}
    (again : Limits after (call.repeatedAt (call.answeredAt + second * retry), answer) final) :
      answer ≠ .allowed := by
  intro allowed
  obtain ⟨-, longest, listed, beyond, wait⟩ := limits_denied limited
  have ends := outlasts.2 longest listed beyond
  rw [wait] at ends
  have row := (limits_table limited).2 statement member
  have none := (limits_allowed again).mp allowed (statement.1, call.answeredAt + second * retry)
    (List.mem_map_of_mem (f := fun statement :
      RateStatement Digest => (statement.1, call.answeredAt + second * retry))
      member)
  apply none
  have running : ¬ windowEnd table statement ≤ call.answeredAt + second * retry := not_le.mpr ends
  have count : counted after (statement.1, call.answeredAt + second * retry) =
      ⟨(counted table statement).windowStartedAt, min ((counted table statement).attemptCount + 1) attemptCountMax,
        call.answeredAt + second * retry⟩ := by
    rw [again_counted (show (statement.1, call.answeredAt + second * retry).1 = statement.1 from rfl) row,
      if_neg running]
  rw [Exceeded, count, outlasts.1]
  exact lt_min (Nat.lt_succ_self _) countable.2

omit [DecidableEq Digest] in
theorem repeatedAt_ordered {front : RateLog Digest} {answer : RateResult}
    (ordered : ClockOrdered (front ++ [(call, .denied retry)])) (given : call.statements ≠ []) (wait : Nat) :
    ClockOrdered (front ++ (call, .denied retry) :: ([] ++
      [(call.repeatedAt (call.answeredAt + wait), answer)])) := by
  have lately := (clockOrdered_concat ordered).2
  obtain ⟨some, rest, shape⟩ := List.exists_cons_of_ne_nil given
  have first : some ∈ call.statements := shape ▸ List.mem_cons_self
  have shift : front ++ (call, RateResult.denied retry) ::
      ([] ++ [(call.repeatedAt (call.answeredAt + wait), answer)]) =
        (front ++ [(call, .denied retry)]) ++ [(call.repeatedAt (call.answeredAt + wait), answer)] := by
    rw [List.nil_append, List.append_assoc, List.singleton_append]
  rw [ClockOrdered, shift, List.flatMap_append, List.pairwise_append, List.flatMap_singleton]
  refine ⟨ordered, ?_, ?_⟩
  · rw [RateCall.repeatedAt, List.map_map, List.pairwise_map]
    exact List.pairwise_of_forall fun _ _ => le_refl _
  · intro early before late last
    have instant : late = call.answeredAt + wait := by
      rw [RateCall.repeatedAt, List.map_map, List.mem_map] at last
      obtain ⟨_, -, same⟩ := last
      exact same.symm
    obtain ⟨entry, within, listed⟩ := List.mem_flatMap.mp before
    obtain ⟨statement, member, rfl⟩ := List.mem_map.mp listed
    have bound : statement.2 ≤ call.answeredAt := by
      cases List.mem_append.mp within with
      | inl earlier => exact (lately entry earlier statement member some first).trans (le_answeredAt first)
      | inr this =>
          rw [List.mem_singleton.mp this] at member
          exact le_answeredAt member
    omega

theorem wait_iff (countable : ∀ statement ∈ call.statements, Countable statement.1) {front : RateLog Digest}
    (ordered : ClockOrdered (front ++ [(call, .denied retry)]))
    (limited : Limits table (call, .denied retry) after) :
    (∀ middle next answer final, Run Limits after (middle ++ [(next, answer)]) final →
      CallsAgain front middle call next retry answer → answer = .allowed) ↔
    ∀ statement ∈ call.statements, ¬ Outlasts table call statement := by
  constructor
  · intro allows statement member outlasts
    cases repeated : applyRateLimits after (call.repeatedAt (call.answeredAt + second * retry)).statements with
    | mk answer final =>
        have again : Limits after (call.repeatedAt (call.answeredAt + second * retry), answer) final := repeated
        refine wait_short limited member (countable statement member) outlasts again ?_
        refine allows [] _ answer final (.single again) ⟨?_, nofun, ?_, ?_⟩
        · exact repeatedAt_ordered ordered (List.ne_nil_of_mem member) _
        · rw [RateCall.repeatedAt, List.map_map]
          rfl
        · intro statement listed
          obtain ⟨_, -, rfl⟩ := List.mem_map.mp listed
          exact le_refl _
  · intro shorter middle next answer final run again
    exact wait_enough countable limited shorter run again

/-- In every run, the counters bound each window and a window that runs keeps its end. The
advised wait is enough exactly when no limit of the denied call is used up for longer. -/
theorem rate_limits_kept {front back : RateLog Digest} {middle final : RateTable Digest}
    (before : Run Limits (fun _ => none) front middle) (run : Run Limits middle back final)
    (ordered : ClockOrdered (front ++ back)) :
    (∀ key row limit, middle key = some row → limit < attemptCountMax →
      allowedCount (front ++ back) key limit row.windowStartedAt ≤ limit) ∧
    (∀ call answer after key row, Limits middle (call, answer) after → middle key = some row →
      (∀ statement ∈ call.statements, statement.1.key = key → statement.2 < row.windowStartedAt + hour) →
        ∃ next, after key = some next ∧ next.windowStartedAt = row.windowStartedAt) ∧
    (∀ call retry after, (∀ statement ∈ call.statements, Countable statement.1) →
      ClockOrdered (front ++ [(call, .denied retry)]) → Limits middle (call, .denied retry) after →
      ((∀ quiet next answer last, Run Limits after (quiet ++ [(next, answer)]) last →
          CallsAgain front quiet call next retry answer → answer = .allowed) ↔
        ∀ statement ∈ call.statements, ¬ Outlasts middle call statement)) := by
  refine ⟨fun key row limit held small => run_windows small before run ordered held, ?_,
    fun call retry after countable clock limited => wait_iff countable clock limited⟩
  intro call answer after key row limited held running
  obtain ⟨next, changed, kept | ⟨statement, member, own, passed, -⟩⟩ := window_step limited held
  · exact ⟨next, changed, kept⟩
  · exact absurd (running statement member own) (not_lt.mpr passed)

end Waiting

section Samples

def afterCalls (table : RateTable Digest) (calls : List (RateCall Digest)) : RateTable Digest :=
  calls.foldl (fun table call => (applyRateLimits table call.statements).2) table

def answered (table : RateTable Digest) : List (RateCall Digest) → RateLog Digest
  | [] => []
  | call :: calls =>
      (call, (applyRateLimits table call.statements).1) :: answered (applyRateLimits table call.statements).2 calls

theorem answered_run (table : RateTable Digest) (calls : List (RateCall Digest)) :
    Run Limits table (answered table calls) (afterCalls table calls) := by
  induction calls generalizing table with
  | nil => exact .nil _
  | cons call calls ih => exact .cons rfl (ih _)

omit [DecidableEq Digest] in
instance (log : RateLog Digest) : Decidable (ClockOrdered log) := inferInstanceAs (Decidable (List.Pairwise _ _))

def minute : Nat := 60 * second

def threeSends : List (RateCall Nat) := List.replicate 3 (sendCall 1 1 0 0)

theorem threeSends_row : afterCalls (fun _ => none) threeSends (.sendEmail, 1) = some ⟨0, 3, 0⟩ := by decide +kernel

theorem threeSends_ordered : ClockOrdered (answered (fun _ => none) threeSends ++ []) := by decide +kernel

theorem three_countable : 3 < attemptCountMax := by decide +kernel

theorem threeSends_counted :
    allowedCount (answered (fun _ => none) threeSends ++ []) (.sendEmail, 1) 3 0 ≤ 3 :=
  (rate_limits_kept (answered_run (fun _ => none) threeSends) (.nil _) threeSends_ordered).1
    (.sendEmail, 1) ⟨0, 3, 0⟩ 3 threeSends_row three_countable

/-- Three codes for address 1, and half an hour later fourteen codes for others from network 2. -/
def busyNetwork : List (RateCall Nat) :=
  threeSends ++ (List.range' 10 14).map fun email => sendCall email 2 (30 * minute) (30 * minute)

/-- Address 1 asks from network 2: the fourth code for the address is denied for half an hour,
and it is the fifteenth attempt of the network, whose window ends half an hour later. -/
def fourthSend : RateCall Nat := sendCall 1 2 (30 * minute) (30 * minute)

def sendAgain : RateCall Nat := sendCall 1 2 (60 * minute) (60 * minute)

def busyTable : RateTable Nat := afterCalls (fun _ => none) busyNetwork

theorem fourthSend_denied : (applyRateLimits busyTable fourthSend.statements).1 = .denied 1800 := by decide +kernel

theorem sendAgain_denied :
    (applyRateLimits (applyRateLimits busyTable fourthSend.statements).2 sendAgain.statements).1 = .denied 1800 := by
  decide +kernel

theorem busyNetwork_ordered :
    ClockOrdered (answered (fun _ => none) busyNetwork ++ (fourthSend, .denied 1800) ::
      ([] ++ [(sendAgain, RateResult.denied 1800)])) := by decide +kernel

/-- The caller waits the advised half hour and is denied again. -/
theorem busy_network_denies_again :
    ¬ ∀ (front middle : RateLog Nat) (table after final : RateTable Nat) (call next : RateCall Nat) (retry : Nat)
        (answer : RateResult),
      Run Limits (fun _ => none) front table → Limits table (call, .denied retry) after →
        Run Limits after (middle ++ [(next, answer)]) final → CallsAgain front middle call next retry answer →
          answer = .allowed := by
  intro always
  have denied : Limits busyTable (fourthSend, .denied 1800) (applyRateLimits busyTable fourthSend.statements).2 :=
    Prod.ext fourthSend_denied rfl
  have again : Limits (applyRateLimits busyTable fourthSend.statements).2 (sendAgain, .denied 1800)
      (applyRateLimits (applyRateLimits busyTable fourthSend.statements).2 sendAgain.statements).2 :=
    Prod.ext sendAgain_denied rfl
  have allowed := always _ [] busyTable _ _ fourthSend sendAgain 1800 (.denied 1800)
    (answered_run (fun _ => none) busyNetwork) denied (.single again)
    ⟨busyNetwork_ordered, nofun, rfl, by decide⟩
  cases allowed

end Samples

end PublicLighting.EmailVerification
