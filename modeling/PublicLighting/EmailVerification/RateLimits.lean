import PublicLighting.EmailVerification.Store
import PublicLighting.Foundations.Runs
import Mathlib.Algebra.Order.Group.Nat
import Mathlib.Order.MinMax

/-! The fixed-window counters of the verification store: every call counts on all of
its keys, also when one of them denies it. -/

namespace PublicLighting.EmailVerification

open Foundations

inductive RateScope
  | sendEmail
  | sendIp
  | verifyEmail
  | verifyIp
  deriving DecidableEq, Repr

structure RateLimit (Digest : Type) where
  scope : RateScope
  keyDigest : Digest
  maxAttempts : Nat
  deriving DecidableEq

/-- The primary key of `email_verification_rate_limits`. -/
def RateLimit.key {Digest : Type} (limit : RateLimit Digest) : RateScope × Digest := (limit.scope, limit.keyDigest)

structure RateRow where
  windowStartedAt : Nat
  attemptCount : Nat
  updatedAt : Nat
  deriving DecidableEq

inductive RateResult
  | allowed
  | denied (retryAfterSeconds : Nat)
  deriving DecidableEq, Repr

/-- The largest value of the column `attempt_count`. -/
def attemptCountMax : Nat := 2147483647

/-- `INSERT … ON CONFLICT … DO UPDATE`, at `statement_timestamp() = now`. -/
def upsert (now : Nat) : Option RateRow → RateRow
  | none => ⟨now, 1, now⟩
  | some row =>
      if row.windowStartedAt + hour ≤ now then ⟨now, 1, now⟩
      else ⟨row.windowStartedAt, min (row.attemptCount + 1) attemptCountMax, now⟩

/-- The returned `retry_after_seconds`. -/
def retryAfter (row : RateRow) (now : Nat) : Nat := max 1 (secondsUntil (row.windowStartedAt + hour) now)

section Apply

variable {Digest : Type}

abbrev RateTable (Digest : Type) := RateScope × Digest → Option RateRow

abbrev RateStatement (Digest : Type) := RateLimit Digest × Nat

def counted (table : RateTable Digest) (statement : RateStatement Digest) : RateRow :=
  upsert statement.2 (table statement.1.key)

variable [DecidableEq Digest]

/-- One turn of the loop. The statement always returns a row. -/
def countAttempt (state : Nat × RateTable Digest) (statement : RateStatement Digest) : Nat × RateTable Digest :=
  let row := counted state.2 statement
  (if row.attemptCount > statement.1.maxAttempts then max state.1 (retryAfter row statement.2) else state.1,
    Function.update state.2 statement.1.key (some row))

def applyRateLimits (table : RateTable Digest) (statements : List (RateStatement Digest)) :
    RateResult × RateTable Digest :=
  let (retryAfterSeconds, after) := statements.foldl countAttempt (0, table)
  (if retryAfterSeconds > 0 then .denied retryAfterSeconds else .allowed, after)

end Apply

structure RateCall (Digest : Type) where
  statements : List (RateStatement Digest)
  distinct : (statements.map (·.1.key)).Nodup

section Calls

variable {Digest : Type}

/-- The keys that `createChallenge` and `resendChallenge` count on. -/
def sendCall (emailDigest ipDigest : Digest) (emailTime ipTime : Nat) : RateCall Digest where
  statements := [(⟨.sendEmail, emailDigest, 3⟩, emailTime), (⟨.sendIp, ipDigest, 15⟩, ipTime)]
  distinct := by simp [RateLimit.key]

/-- The statement of a call counts beyond its limit. -/
def Exceeded (table : RateTable Digest) (statement : RateStatement Digest) : Prop :=
  statement.1.maxAttempts < (counted table statement).attemptCount

instance (table : RateTable Digest) (statement : RateStatement Digest) : Decidable (Exceeded table statement) :=
  inferInstanceAs (Decidable (_ < _))

/-- How long an exceeded limit tells its caller to wait. -/
def waitOf (table : RateTable Digest) (statement : RateStatement Digest) : Nat :=
  retryAfter (counted table statement) statement.2

def windowEnd (table : RateTable Digest) (statement : RateStatement Digest) : Nat :=
  (counted table statement).windowStartedAt + hour

variable [DecidableEq Digest]

def Limits (table : RateTable Digest) (entry : RateCall Digest × RateResult) (after : RateTable Digest) : Prop :=
  applyRateLimits table entry.1.statements = (entry.2, after)

omit [DecidableEq Digest] in
theorem counted_congr {table other : RateTable Digest} {statement : RateStatement Digest}
    (same : other statement.1.key = table statement.1.key) : counted other statement = counted table statement := by
  rw [counted, counted, same]

theorem countAttempt_table (wait : Nat) (table : RateTable Digest) (statement : RateStatement Digest) :
    (countAttempt (wait, table) statement).2 =
      Function.update table statement.1.key (some (counted table statement)) := rfl

theorem countAttempt_wait (wait : Nat) (table : RateTable Digest) (statement : RateStatement Digest) :
    (countAttempt (wait, table) statement).1 =
      if Exceeded table statement then max wait (waitOf table statement) else wait := rfl

/-- What the loop has done after the statements: each key is counted once on the table
before the call, and the wait is the longest of the exceeded limits. -/
theorem foldl_countAttempt {statements : List (RateStatement Digest)} (distinct : (statements.map (·.1.key)).Nodup)
    (wait : Nat) (table : RateTable Digest) {last : Nat} {after : RateTable Digest}
    (folded : statements.foldl countAttempt (wait, table) = (last, after)) :
    (∀ key, key ∉ statements.map (·.1.key) → after key = table key) ∧
    (∀ statement ∈ statements, after statement.1.key = some (counted table statement)) ∧
    wait ≤ last ∧ (∀ statement ∈ statements, Exceeded table statement → waitOf table statement ≤ last) ∧
    (last = wait ∨ ∃ statement ∈ statements, Exceeded table statement ∧ waitOf table statement = last) := by
  induction statements generalizing wait table with
  | nil =>
      cases folded
      exact ⟨fun _ _ => rfl, nofun, le_refl _, nofun, .inl rfl⟩
  | cons first rest ih =>
      rw [List.map_cons, List.nodup_cons] at distinct
      rw [List.foldl_cons, ← Prod.mk.eta (p := countAttempt (wait, table) first), countAttempt_table,
        countAttempt_wait] at folded
      obtain ⟨elsewhere, here, grows, covers, origin⟩ := ih distinct.2 _ _ folded
      have same (statement : RateStatement Digest) (member : statement ∈ rest) :
          counted (Function.update table first.1.key (some (counted table first))) statement =
            counted table statement := by
        have other : statement.1.key ≠ first.1.key := by
          intro equal
          apply distinct.1
          rw [← equal]
          exact List.mem_map_of_mem member
        exact counted_congr (Function.update_of_ne other _ _)
      refine ⟨?_, ?_, ?_, ?_, ?_⟩
      · intro key absent
        rw [List.map_cons, List.mem_cons, not_or] at absent
        rw [elsewhere key absent.2, Function.update_of_ne absent.1]
      · intro statement member
        cases List.mem_cons.mp member with
        | inl this =>
            subst this
            rw [elsewhere _ distinct.1, Function.update_self]
        | inr later => rw [here statement later, same statement later]
      · split at grows
        · exact (le_max_left _ _).trans grows
        · exact grows
      · intro statement member exceeded
        cases List.mem_cons.mp member with
        | inl this =>
            subst this
            rw [if_pos exceeded] at grows
            exact (le_max_right _ _).trans grows
        | inr later =>
            have wait := covers statement later
            rw [Exceeded, waitOf, same statement later] at wait
            exact wait exceeded
      · rcases origin with kept | ⟨statement, member, exceeded, equal⟩
        · by_cases exceeded : Exceeded table first
          · rw [if_pos exceeded] at kept
            rcases max_choice wait (waitOf table first) with old | new
            · exact .inl (kept.trans old)
            · exact .inr ⟨first, List.mem_cons_self, exceeded, (kept.trans new).symm⟩
          · rw [if_neg exceeded] at kept
            exact .inl kept
        · rw [Exceeded, same statement member] at exceeded
          rw [waitOf, same statement member] at equal
          exact .inr ⟨statement, List.mem_cons_of_mem _ member, exceeded, equal⟩

omit [DecidableEq Digest] in
theorem waitOf_pos (table : RateTable Digest) (statement : RateStatement Digest) : 0 < waitOf table statement :=
  le_max_left 1 _

variable {table after : RateTable Digest} {call : RateCall Digest} {result : RateResult}

theorem limits_table (limited : Limits table (call, result) after) :
    (∀ key, key ∉ call.statements.map (·.1.key) → after key = table key) ∧
      ∀ statement ∈ call.statements, after statement.1.key = some (counted table statement) := by
  cases folded : call.statements.foldl countAttempt (0, table) with
  | mk last final =>
      have spec := foldl_countAttempt call.distinct 0 table folded
      rw [Limits, applyRateLimits, folded, Prod.mk.injEq] at limited
      rw [← limited.2]
      exact ⟨spec.1, spec.2.1⟩

theorem limits_allowed (limited : Limits table (call, result) after) :
    result = .allowed ↔ ∀ statement ∈ call.statements, ¬ Exceeded table statement := by
  cases folded : call.statements.foldl countAttempt (0, table) with
  | mk last final =>
      obtain ⟨-, -, -, covers, origin⟩ := foldl_countAttempt call.distinct 0 table folded
      rw [Limits, applyRateLimits, folded, Prod.mk.injEq] at limited
      obtain ⟨rfl, -⟩ := limited
      constructor
      · intro allowed statement member exceeded
        have positive := (waitOf_pos table statement).trans_le (covers statement member exceeded)
        rw [if_pos positive] at allowed
        cases allowed
      · intro none
        rcases origin with zero | ⟨statement, member, exceeded, -⟩
        · rw [zero]
          rfl
        · exact absurd exceeded (none statement member)

theorem limits_denied {retry : Nat} (limited : Limits table (call, .denied retry) after) :
    (∀ statement ∈ call.statements, Exceeded table statement → waitOf table statement ≤ retry) ∧
      ∃ statement ∈ call.statements, Exceeded table statement ∧ waitOf table statement = retry := by
  cases folded : call.statements.foldl countAttempt (0, table) with
  | mk last final =>
      obtain ⟨-, -, -, covers, origin⟩ := foldl_countAttempt call.distinct 0 table folded
      rw [Limits, applyRateLimits, folded, Prod.mk.injEq] at limited
      by_cases positive : last > 0
      · have answer := limited.1
        simp only [if_pos positive, RateResult.denied.injEq] at answer
        subst answer
        refine ⟨covers, origin.resolve_left ?_⟩
        omega
      · have answer := limited.1
        simp only [if_neg positive] at answer
        cases answer

end Calls

end PublicLighting.EmailVerification
