import Mathlib.Tactic.Common
import PublicLighting.Foundations.Runs

/-! What may happen to one verification intent: codes are sent, compared, matched
once and the token consumed once. -/

namespace PublicLighting.EmailVerification

open Foundations

abbrev CallId := Nat

def emailOtpMaxAttempts : Nat := 5
def emailOtpMaxSends : Nat := 3

variable {Digest : Type}

inductive Event (Digest : Type)
  | sent (emailDigest otpDigest : Digest)
  | compared (otpDigest : Digest)
  | verified (call : CallId) (emailDigest otpDigest tokenDigest : Digest) (time expiresAt : Nat)
  | consumed (call : CallId) (emailDigest tokenDigest : Digest) (time expiresAt : Nat)
  | undelivered
  deriving DecidableEq, Repr

namespace Event

def isSent : Event Digest → Bool
  | sent .. => true
  | _ => false

def isCompared : Event Digest → Bool
  | compared .. => true
  | _ => false

def isVerified : Event Digest → Bool
  | verified .. => true
  | _ => false

def isConsumed : Event Digest → Bool
  | consumed .. => true
  | _ => false

def overturns : Event Digest → Bool
  | sent .. => true
  | undelivered => true
  | _ => false

end Event

def latestSent (history : List (Event Digest)) : Option Digest :=
  history.foldl (fun latest event =>
    match event with
    | .sent _ otpDigest => some otpDigest
    | _ => latest) none

def comparisonsHere (history : List (Event Digest)) : Nat :=
  (history.takeWhile fun event => !event.isSent).countP (·.isCompared)

inductive Lifecycle (Digest : Type)
  | unsent
  | awaiting (emailDigest otpDigest : Digest) (sends attempts : Nat)
  | verified (emailDigest tokenDigest : Digest)
  | consumed
  | removed
  deriving DecidableEq, Repr

inductive Moves : Lifecycle Digest → Event Digest → Lifecycle Digest → Prop
  | create (email otp : Digest) : Moves .unsent (.sent email otp) (.awaiting email otp 1 0)
  | resend (email otp next : Digest) {sends attempts : Nat} : sends < emailOtpMaxSends →
      Moves (.awaiting email otp sends attempts) (.sent email next) (.awaiting email next (sends + 1) 0)
  | compare (email otp supplied : Digest) {sends attempts : Nat} : attempts < emailOtpMaxAttempts →
      Moves (.awaiting email otp sends attempts) (.compared supplied)
        (.awaiting email otp sends (attempts + 1))
  | verify (call : CallId) (email otp token : Digest) {sends attempts time expiresAt : Nat} :
      time < expiresAt →
      Moves (.awaiting email otp sends attempts) (.verified call email otp token time expiresAt)
        (.verified email token)
  | consume (call : CallId) (email token : Digest) {time expiresAt : Nat} : time < expiresAt →
      Moves (.verified email token) (.consumed call email token time expiresAt) .consumed
  | remove (email otp : Digest) {sends attempts : Nat} :
      Moves (.awaiting email otp sends attempts) .undelivered .removed

structure VerificationSafe (history : List (Event Digest)) : Prop where
  consumedOnce : history.countP (·.isConsumed) ≤ 1
  verifiedOnce : history.countP (·.isVerified) ≤ 1
  sentAtMost : history.countP (·.isSent) ≤ 3
  comparedAtMost : history.countP (·.isCompared) ≤ 15
  comparedPerCode : ∀ front email otp back,
    history = front ++ .sent email otp :: back → comparisonsHere back ≤ 5
  consumedByToken : ∀ front call email token time expiresAt back,
    history = front ++ .consumed call email token time expiresAt :: back →
      time < expiresAt ∧ ∃ verifier otp verifiedAt deadline,
        .verified verifier email otp token verifiedAt deadline ∈ front ∧ latestSent front = some otp
  verifiedByLatest : ∀ front call email otp token time expiresAt back,
    history = front ++ .verified call email otp token time expiresAt :: back →
      time < expiresAt ∧ latestSent front = some otp
  verifiedStays : ∀ front call email otp token time expiresAt back,
    history = front ++ .verified call email otp token time expiresAt :: back →
      ∀ event ∈ back, event.overturns = false

theorem countP_le_one_eq {α : Type} {p : α → Bool} {l : List α} (atMost : l.countP p ≤ 1) {a b : α}
    (first : a ∈ l) (holds : p a = true) (second : b ∈ l) (also : p b = true) : a = b := by
  rw [List.countP_eq_length_filter] at atMost
  have one := List.mem_filter.mpr ⟨first, holds⟩
  have other := List.mem_filter.mpr ⟨second, also⟩
  generalize l.filter p = kept at *
  match kept with
  | [] => cases one
  | [only] => rw [List.mem_singleton.mp one, List.mem_singleton.mp other]
  | _ :: _ :: _ => simp at atMost

section Accepted

variable {history : List (Event Digest)} {l : Lifecycle Digest}

def sendCredit : Lifecycle Digest → Nat
  | .unsent => 3
  | .awaiting _ _ sends _ => 3 - sends
  | _ => 0

def compareCredit : Lifecycle Digest → Nat
  | .unsent => 15
  | .awaiting _ _ sends attempts => (3 - sends) * 5 + (5 - attempts)
  | _ => 0

def verifyCredit : Lifecycle Digest → Nat
  | .unsent => 1
  | .awaiting .. => 1
  | _ => 0

def consumeCredit : Lifecycle Digest → Nat
  | .consumed => 0
  | _ => 1

theorem sent_le {start : Lifecycle Digest} (run : Run Moves start history l) :
    history.countP (·.isSent) + sendCredit l ≤ sendCredit start := by
  refine run.countP_le (fun _ _ _ _ _ => trivial) (fun s event t _ moves => ?_) trivial
  cases moves <;> simp only [Event.isSent, sendCredit, emailOtpMaxSends] at * <;> simp
  omega

theorem compared_le {start : Lifecycle Digest} (run : Run Moves start history l) :
    history.countP (·.isCompared) + compareCredit l ≤ compareCredit start := by
  refine run.countP_le (fun _ _ _ _ _ => trivial) (fun s event t _ moves => ?_) trivial
  cases moves <;>
    simp only [Event.isCompared, compareCredit, emailOtpMaxSends, emailOtpMaxAttempts] at * <;>
    simp <;> omega

theorem verified_le {start : Lifecycle Digest} (run : Run Moves start history l) :
    history.countP (·.isVerified) + verifyCredit l ≤ verifyCredit start := by
  refine run.countP_le (fun _ _ _ _ _ => trivial) (fun s event t _ moves => ?_) trivial
  cases moves <;> simp [Event.isVerified, verifyCredit]

theorem consumed_le {start : Lifecycle Digest} (run : Run Moves start history l) :
    history.countP (·.isConsumed) + consumeCredit l ≤ consumeCredit start := by
  refine run.countP_le (fun _ _ _ _ _ => trivial) (fun s event t _ moves => ?_) trivial
  cases moves <;> simp [Event.isConsumed, consumeCredit]

theorem comparisonsHere_le (history : List (Event Digest)) :
    comparisonsHere history ≤ history.countP (·.isCompared) :=
  (List.takeWhile_sublist _).countP_le

theorem comparisonsHere_cons {event : Event Digest} (open_ : event.isSent = false)
    (other : event.isCompared = false) (rest : List (Event Digest)) :
    comparisonsHere (event :: rest) = comparisonsHere rest := by
  simp [comparisonsHere, open_, other]

theorem comparisonsHere_awaiting {email otp : Digest} {sends attempts : Nat}
    (bounded : attempts ≤ emailOtpMaxAttempts)
    (run : Run Moves (.awaiting email otp sends attempts) history l) :
    comparisonsHere history + attempts ≤ emailOtpMaxAttempts := by
  induction history generalizing attempts with
  | nil => simpa [comparisonsHere] using bounded
  | cons event rest ih =>
      obtain ⟨t, moves, later⟩ := run.cons_inv
      have settled : compareCredit t = 0 → comparisonsHere rest = 0 := by
        intro none
        have total := compared_le later
        have here := comparisonsHere_le rest
        omega
      cases moves with
      | resend _ _ next more => simpa [comparisonsHere, Event.isSent] using bounded
      | compare _ _ supplied more =>
          have left := ih more later
          have counted : comparisonsHere (.compared supplied :: rest) = comparisonsHere rest + 1 := by
            simp [comparisonsHere, Event.isSent, Event.isCompared]
          omega
      | verify call _ _ token before =>
          rw [comparisonsHere_cons rfl rfl, settled rfl]
          omega
      | remove =>
          rw [comparisonsHere_cons rfl rfl, settled rfl]
          omega

def Recalls (history : List (Event Digest)) : Lifecycle Digest → Prop
  | .awaiting _ otp _ _ => latestSent history = some otp
  | .verified email token => ∃ call otp time expiresAt,
      .verified call email otp token time expiresAt ∈ history ∧ latestSent history = some otp
  | _ => True

theorem latestSent_append (event : Event Digest) :
    latestSent (history ++ [event]) =
      match event with
      | .sent _ otp => some otp
      | _ => latestSent history := by
  simp only [latestSent, List.foldl_append, List.foldl_cons, List.foldl_nil]

theorem recalls (run : Run Moves .unsent history l) : Recalls history l := by
  induction run with
  | nil => trivial
  | @snoc t u history event before moves ih =>
      cases moves with
      | create email otp => exact latestSent_append _
      | resend email otp next more => exact latestSent_append _
      | compare email otp supplied more => exact (latestSent_append _).trans ih
      | verify call email otp token unexpired =>
          exact ⟨call, otp, _, _, List.mem_append_right _ (List.mem_singleton.mpr rfl),
            (latestSent_append _).trans ih⟩
      | consume => trivial
      | remove => trivial

theorem settled_stays {email token : Digest}
    (run : Run Moves (.verified email token) history l) :
    ∀ event ∈ history, event.overturns = false := by
  have after : ∀ {rest : List (Event Digest)}, Run Moves .consumed rest l → rest = [] := by
    intro rest later
    cases rest with
    | nil => rfl
    | cons event rest =>
        obtain ⟨_, moves, _⟩ := later.cons_inv
        cases moves
  cases history with
  | nil => simp
  | cons event rest =>
      obtain ⟨t, moves, later⟩ := run.cons_inv
      cases moves with
      | consume call _ _ unexpired =>
          rw [after later]
          simp [Event.overturns]

theorem accepted_safe (run : Run Moves .unsent history l) : VerificationSafe history where
  consumedOnce := by
    have total := consumed_le run
    simp only [consumeCredit] at total
    omega
  verifiedOnce := by
    have total := verified_le run
    simp only [verifyCredit] at total
    omega
  sentAtMost := by
    have total := sent_le run
    simp only [sendCredit] at total
    omega
  comparedAtMost := by
    have total := compared_le run
    simp only [compareCredit] at total
    omega
  comparedPerCode := by
    rintro front email otp back rfl
    obtain ⟨t, _, rest⟩ := run.split
    obtain ⟨u, moves, later⟩ := rest.cons_inv
    cases moves with
    | create => exact comparisonsHere_awaiting (Nat.zero_le _) later
    | resend => exact comparisonsHere_awaiting (Nat.zero_le _) later
  consumedByToken := by
    rintro front call email token time expiresAt back rfl
    obtain ⟨t, before, rest⟩ := run.split
    obtain ⟨u, moves, _⟩ := rest.cons_inv
    cases moves with
    | consume _ _ _ unexpired => exact ⟨unexpired, recalls before⟩
  verifiedByLatest := by
    rintro front call email otp token time expiresAt back rfl
    obtain ⟨t, before, rest⟩ := run.split
    obtain ⟨u, moves, _⟩ := rest.cons_inv
    cases moves with
    | verify _ _ _ _ unexpired => exact ⟨unexpired, recalls before⟩
  verifiedStays := by
    rintro front call email otp token time expiresAt back rfl
    obtain ⟨t, _, rest⟩ := run.split
    obtain ⟨u, moves, later⟩ := rest.cons_inv
    cases moves with
    | verify => exact settled_stays later

end Accepted

end PublicLighting.EmailVerification
