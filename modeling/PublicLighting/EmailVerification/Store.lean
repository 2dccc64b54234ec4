import PublicLighting.Foundations.RowLocks
import PublicLighting.EmailVerification.Lifecycle

/-! The verification store, one statement of one transaction at a time.

Times are microseconds. A statement tests its conditions at the clock reading it
starts with and writes times that it reads up to `late` later. -/

namespace PublicLighting.EmailVerification

open Foundations

abbrev IntentId := Nat

def second : Nat := 1000000
def hour : Nat := 60 * 60 * second
def emailOtpTtl : Nat := 10 * 60 * second
def emailOtpResendCooldown : Nat := 60 * second

/-- `CEIL(EXTRACT(EPOCH FROM (until - now)))`, for an `until` that has not passed. -/
def secondsUntil (limit now : Nat) : Nat := (limit - now + (second - 1)) / second

/-- `verified_at`, `verification_token_digest` and `consumed_at`, of which the table
checks that the first two are null together and the third only with them. -/
structure Verification (Digest : Type) where
  tokenDigest : Digest
  verifiedAt : Nat
  consumedAt : Option Nat
  deriving DecidableEq

/-- A row of `email_verification_challenges`, with the checks on its counters. -/
structure Challenge (Digest : Type) where
  emailDigest : Digest
  otpDigest : Digest
  verification : Option (Verification Digest)
  attemptCount : Nat
  sendCount : Nat
  lastSentAt : Nat
  expiresAt : Nat
  attempts : attemptCount ≤ emailOtpMaxAttempts
  sends : 1 ≤ sendCount ∧ sendCount ≤ emailOtpMaxSends
  deriving DecidableEq

structure NewEmailChallenge (Digest : Type) where
  intentId : IntentId
  emailDigest : Digest
  otpDigest : Digest
  deriving DecidableEq

structure VerifyChallengeInput (Digest : Type) where
  intentId : IntentId
  emailDigest : Digest
  otpDigest : Digest
  verificationTokenDigest : Digest
  deriving DecidableEq

inductive ResendChallengeResult
  | sent
  | rateLimited (retryAfterSeconds : Nat)
  | cooldown (retryAfterSeconds : Nat)
  | sendLimit
  | expired
  | notFound
  deriving DecidableEq, Repr

inductive VerifyChallengeResult
  | verified (expiresInSeconds : Nat)
  | rateLimited (retryAfterSeconds : Nat)
  | invalid (attemptsRemaining : Nat)
  | attemptsExhausted
  | expired
  | alreadyVerified
  | notFound
  deriving DecidableEq, Repr

inductive Result
  | created
  | createRateLimited (retryAfterSeconds : Nat)
  | failed
  | resend (result : ResendChallengeResult)
  | verify (intentId : IntentId) (result : VerifyChallengeResult)
  | deleted
  | consumed (intentId : IntentId) (consumed : Bool)
  | cleaned
  | rolledBack
  deriving DecidableEq, Repr

section Statements

variable {Digest : Type}

/-- The INSERT of `createChallenge`. -/
def insertRow (challenge : NewEmailChallenge Digest) (now : Nat) : Challenge Digest where
  emailDigest := challenge.emailDigest
  otpDigest := challenge.otpDigest
  verification := none
  attemptCount := 0
  sendCount := 1
  lastSentAt := now
  expiresAt := now + emailOtpTtl
  attempts := Nat.zero_le _
  sends := by decide

/-- `resendChallenge` on the row it selected, as far as the rate limits; `none` goes on. -/
def resendRefusal (row : Challenge Digest) (now : Nat) : Option ResendChallengeResult :=
  if row.expiresAt ≤ now then some .expired
  else if row.verification.isSome then some .notFound
  else if emailOtpMaxSends ≤ row.sendCount then some .sendLimit
  else
    let retryAfter := secondsUntil (row.lastSentAt + emailOtpResendCooldown) now
    if 0 < retryAfter then some (.cooldown retryAfter) else none

/-- The condition of the DELETE of `cleanupTemporaryState`. -/
def stale (row : Challenge Digest) (now : Nat) : Bool :=
  row.expiresAt + hour < now ||
    ((row.verification.bind (·.consumedAt)).any fun consumedAt => consumedAt + hour < now)

/-- The result of `verifyChallenge` where its first UPDATE found no row. -/
def missedResult (current : Option (Challenge Digest)) (now : Nat) : VerifyChallengeResult :=
  match current with
  | none => .notFound
  | some row =>
      if row.expiresAt ≤ now then .expired
      else if row.verification.isSome then .alreadyVerified
      else if emailOtpMaxAttempts ≤ row.attemptCount then .attemptsExhausted
      else .notFound

/-- The result of `verifyChallenge` for a code that did not match. -/
def mismatchResult (attemptCount : Nat) : VerifyChallengeResult :=
  if emailOtpMaxAttempts ≤ attemptCount then .attemptsExhausted
  else .invalid (emailOtpMaxAttempts - attemptCount)

variable [DecidableEq Digest]

/-- The UPDATE of `resendChallenge` on a row, `none` where its conditions fail. -/
def resendUpdate (challenge : NewEmailChallenge Digest) (row : Challenge Digest) (now late : Nat) :
    Option (Challenge Digest) :=
  if open_ : row.sendCount < emailOtpMaxSends then
    if row.emailDigest = challenge.emailDigest ∧ row.verification = none ∧ now < row.expiresAt ∧
        row.lastSentAt + emailOtpResendCooldown ≤ now then
      some { row with
        otpDigest := challenge.otpDigest
        attemptCount := 0
        sendCount := row.sendCount + 1
        lastSentAt := now + late
        expiresAt := now + late + emailOtpTtl
        attempts := Nat.zero_le _
        sends := ⟨Nat.le_add_left _ _, open_⟩ }
    else none
  else none

/-- The first UPDATE of `verifyChallenge`. -/
def attemptUpdate (input : VerifyChallengeInput Digest) (row : Challenge Digest) (now : Nat) :
    Option (Challenge Digest) :=
  if open_ : row.attemptCount < emailOtpMaxAttempts then
    if row.emailDigest = input.emailDigest ∧ row.verification = none ∧ now < row.expiresAt then
      some { row with attemptCount := row.attemptCount + 1, attempts := open_ }
    else none
  else none

/-- The second UPDATE of `verifyChallenge`. -/
def markUpdate (input : VerifyChallengeInput Digest) (row : Challenge Digest) (now late : Nat) :
    Option (Challenge Digest) :=
  if row.emailDigest = input.emailDigest ∧ row.verification = none ∧ now < row.expiresAt then
    some { row with verification := some ⟨input.verificationTokenDigest, now + late, none⟩ }
  else none

/-- The UPDATE of `consumeVerification`. -/
def consumeUpdate (emailDigest tokenDigest : Digest) (row : Challenge Digest) (now late : Nat) :
    Option (Challenge Digest) :=
  match row.verification with
  | some verification =>
      if row.emailDigest = emailDigest ∧ verification.tokenDigest = tokenDigest ∧
          verification.consumedAt = none ∧ now < row.expiresAt then
        some { row with verification := some { verification with consumedAt := some (now + late) } }
      else none
  | none => none

/-- The condition of the DELETE of `deleteUndeliveredChallenge`. -/
def undeliverable (otpDigest : Digest) (row : Challenge Digest) : Bool :=
  row.otpDigest = otpDigest ∧ row.verification.isNone

end Statements

/-- One intent in the database: its row, if it has one, and what has happened to it.
The history is no column; it commits and rolls back with the row. -/
structure Intent (Digest : Type) where
  challenge : Option (Challenge Digest)
  history : List (Event Digest)

/-- What follows the cleanup inside a transaction. -/
inductive Next (Digest : Type)
  | commit (result : Result)
  | rereadResend (challenge : NewEmailChallenge Digest)
  | rereadVerify (input : VerifyChallengeInput Digest)

/-- The statement a call has to run next. -/
inductive Call (Digest : Type)
  | idle
  | creating (challenge : NewEmailChallenge Digest)
  | selecting (challenge : NewEmailChallenge Digest)
  | resending (challenge : NewEmailChallenge Digest)
  | attempting (input : VerifyChallengeInput Digest)
  | inspecting (input : VerifyChallengeInput Digest)
  | marking (input : VerifyChallengeInput Digest)
  | cleaning (next : Next Digest)
  | rereadResend (challenge : NewEmailChallenge Digest)
  | rereadVerify (input : VerifyChallengeInput Digest)
  | committing (result : Result)
  | inCaller (result : Result)
  | ended (result : Result)

/-- `drawn` is no column: the intent ids that `createIntentId` has given out. -/
structure State (Digest : Type) where
  now : Nat
  rows : RowLocks IntentId (Intent Digest) CallId
  calls : CallId → Call Digest
  drawn : List IntentId

inductive Label (Digest : Type)
  | tick
  | createChallenge (call : CallId) (challenge : NewEmailChallenge Digest)
  | resendChallenge (call : CallId) (challenge : NewEmailChallenge Digest)
  | verifyChallenge (call : CallId) (input : VerifyChallengeInput Digest)
  | deleteUndeliveredChallenge (call : CallId) (intentId : IntentId) (otpDigest : Digest)
  | consumeVerification (call : CallId) (intentId : IntentId) (emailDigest tokenDigest : Digest)
      (late : Nat)
  | cleanupExpired (call : CallId)
  | rateLimited (call : CallId) (retryAfterSeconds : Nat)
  | insertChallenge (call : CallId) (late : Nat)
  | selectForUpdate (call : CallId)
  | updateResend (call : CallId) (late : Nat)
  | updateAttempt (call : CallId)
  | inspect (call : CallId)
  | markVerified (call : CallId) (late : Nat)
  | cleanupDelete (call : CallId) (intentId : IntentId)
  | cleanupDone (call : CallId)
  | reread (call : CallId)
  | commit (call : CallId)
  | rollback (call : CallId)

section Steps

variable {Digest : Type}

def State.setCall (s : State Digest) (call : CallId) (next : Call Digest) : State Digest :=
  { s with calls := Function.update s.calls call next }

def State.intent (s : State Digest) (call : CallId) (intentId : IntentId) : Intent Digest :=
  s.rows.view call intentId

/-- A statement that locks and writes one row. It waits, taking no step, while another
transaction holds the row. -/
def State.write (s : State Digest) (call : CallId) (intentId : IntentId) (row : Intent Digest)
    (late : Nat) (next : Call Digest) : Option (State Digest) :=
  if s.rows.Free call intentId then
    some ({ s with now := s.now + late, rows := s.rows.write call intentId row }.setCall call next)
  else none

variable [DecidableEq Digest]

/-- The row that `WHERE intent_id = $1 AND email_digest = $2` selects. -/
def State.selected (s : State Digest) (call : CallId) (intentId : IntentId) (emailDigest : Digest) :
    Option (Challenge Digest) :=
  (s.intent call intentId).challenge.filter fun row => row.emailDigest = emailDigest

def step (s : State Digest) : Label Digest → Option (State Digest)
  | .tick => some { s with now := s.now + 1 }
  | .createChallenge call challenge =>
      match s.calls call with
      | .idle =>
          -- Intent ids are random, so one that is known already is never drawn.
          if challenge.intentId ∈ s.drawn then none else
            some ({ s with drawn := challenge.intentId :: s.drawn }.setCall call (.creating challenge))
      | _ => none
  | .resendChallenge call challenge =>
      match s.calls call with
      | .idle => some (s.setCall call (.selecting challenge))
      | _ => none
  | .verifyChallenge call input =>
      match s.calls call with
      | .idle => some (s.setCall call (.attempting input))
      | _ => none
  | .deleteUndeliveredChallenge call intentId otpDigest =>
      match s.calls call with
      | .idle =>
          let intent := s.intent call intentId
          if intent.challenge.any (undeliverable otpDigest) then
            s.write call intentId ⟨none, intent.history ++ [.undelivered]⟩ 0 (.committing .deleted)
          else some (s.setCall call (.committing .deleted))
      | _ => none
  | .consumeVerification call intentId emailDigest tokenDigest late =>
      match s.calls call with
      | .idle =>
          let intent := s.intent call intentId
          match intent.challenge.bind fun row =>
              (consumeUpdate emailDigest tokenDigest row s.now late).map (row, ·) with
          | some (row, consumed) =>
              s.write call intentId
                ⟨some consumed, intent.history ++
                  [.consumed call emailDigest tokenDigest s.now row.expiresAt]⟩
                late (.inCaller (.consumed intentId true))
          | none => some (s.setCall call (.inCaller (.consumed intentId false)))
      | _ => none
  | .cleanupExpired call =>
      match s.calls call with
      | .idle => some (s.setCall call (.cleaning (.commit .cleaned)))
      | _ => none
  | .rateLimited call retryAfterSeconds =>
      match s.calls call with
      | .creating _ =>
          some (s.setCall call (.cleaning (.commit (.createRateLimited retryAfterSeconds))))
      | .resending _ =>
          some (s.setCall call (.cleaning (.commit (.resend (.rateLimited retryAfterSeconds)))))
      | .attempting input =>
          some (s.setCall call (.cleaning
            (.commit (.verify input.intentId (.rateLimited retryAfterSeconds)))))
      | _ => none
  | .insertChallenge call late =>
      match s.calls call with
      | .creating challenge =>
          let intent := s.intent call challenge.intentId
          if intent.challenge.isSome then
            -- The primary key refuses the row.
            some ({ s with rows := s.rows.rollback call }.setCall call (.ended .failed))
          else
            s.write call challenge.intentId
              ⟨some (insertRow challenge (s.now + late)), intent.history ++
                [.sent challenge.emailDigest challenge.otpDigest]⟩
              late (.cleaning (.commit .created))
      | _ => none
  | .selectForUpdate call =>
      match s.calls call with
      | .selecting challenge =>
          match s.selected call challenge.intentId challenge.emailDigest with
          | none => some (s.setCall call (.committing (.resend .notFound)))
          | some row =>
              s.write call challenge.intentId (s.intent call challenge.intentId) 0
                (match resendRefusal row s.now with
                  | some refusal => .committing (.resend refusal)
                  | none => .resending challenge)
      | _ => none
  | .updateResend call late =>
      match s.calls call with
      | .resending challenge =>
          let intent := s.intent call challenge.intentId
          match intent.challenge.bind fun row => resendUpdate challenge row s.now late with
          | some sent =>
              s.write call challenge.intentId
                ⟨some sent, intent.history ++ [.sent challenge.emailDigest challenge.otpDigest]⟩
                late (.cleaning (.commit (.resend .sent)))
          | none => some (s.setCall call (.cleaning (.rereadResend challenge)))
      | _ => none
  | .updateAttempt call =>
      match s.calls call with
      | .attempting input =>
          let intent := s.intent call input.intentId
          match intent.challenge.bind fun row => attemptUpdate input row s.now with
          | some row =>
              -- The returned digest is compared before the transaction runs anything else.
              s.write call input.intentId
                ⟨some row, intent.history ++ [.compared input.otpDigest]⟩ 0
                (if row.otpDigest = input.otpDigest then .marking input
                  else .cleaning (.commit (.verify input.intentId (mismatchResult row.attemptCount))))
          | none => some (s.setCall call (.inspecting input))
      | _ => none
  | .inspect call =>
      match s.calls call with
      | .inspecting input =>
          some (s.setCall call (.cleaning (.commit (.verify input.intentId
            (missedResult (s.selected call input.intentId input.emailDigest) s.now)))))
      | _ => none
  | .markVerified call late =>
      match s.calls call with
      | .marking input =>
          let intent := s.intent call input.intentId
          match intent.challenge.bind fun row => markUpdate input row s.now late with
          | some row =>
              s.write call input.intentId
                ⟨some row, intent.history ++ [.verified call input.emailDigest input.otpDigest
                  input.verificationTokenDigest s.now row.expiresAt]⟩
                late (.cleaning (.commit (.verify input.intentId
                  (.verified (max 1 (secondsUntil row.expiresAt (s.now + late)))))))
          | none => some (s.setCall call (.cleaning (.rereadVerify input)))
      | _ => none
  | .cleanupDelete call intentId =>
      match s.calls call with
      | .cleaning next =>
          let intent := s.intent call intentId
          if intent.challenge.any fun row => stale row s.now then
            -- A row that another transaction holds is skipped.
            s.write call intentId ⟨none, intent.history⟩ 0 (.cleaning next)
          else none
      | _ => none
  | .cleanupDone call =>
      match s.calls call with
      | .cleaning (.commit result) => some (s.setCall call (.committing result))
      | .cleaning (.rereadResend challenge) => some (s.setCall call (.rereadResend challenge))
      | .cleaning (.rereadVerify input) => some (s.setCall call (.rereadVerify input))
      | _ => none
  | .reread call =>
      match s.calls call with
      | .rereadResend challenge =>
          let expired := (s.selected call challenge.intentId challenge.emailDigest).any
            fun row => row.expiresAt ≤ s.now
          some (s.setCall call (.committing (.resend (if expired then .expired else .notFound))))
      | .rereadVerify input =>
          let expired := (s.selected call input.intentId input.emailDigest).any
            fun row => row.expiresAt ≤ s.now
          some (s.setCall call (.committing (.verify input.intentId
            (if expired then .expired else .alreadyVerified))))
      | _ => none
  | .commit call =>
      match s.calls call with
      | .committing result =>
          some ({ s with rows := s.rows.commit call }.setCall call (.ended result))
      | .inCaller result =>
          some ({ s with rows := s.rows.commit call }.setCall call (.ended result))
      | _ => none
  | .rollback call =>
      match s.calls call with
      | .inCaller _ =>
          some ({ s with rows := s.rows.rollback call }.setCall call (.ended .rolledBack))
      | _ => none

end Steps

end PublicLighting.EmailVerification
