import Mathlib.Algebra.Order.Floor.Semiring
import Mathlib.Data.Rat.Floor
import Mathlib.Logic.Function.Basic
import Mathlib.Order.Basic

/-! The bounded admission controller of the address suggestions, event by event. -/

namespace PublicLighting.AddressSuggestion

abbrev EntryId := Nat
abbrev PromiseId := Nat

/-- A JavaScript number, as comparisons see it. -/
inductive JsNumber
  | nan
  | finite (value : ℚ)
  | infinite (positive : Bool)
  deriving DecidableEq

/-- `used < number`. -/
def JsNumber.above (number : JsNumber) (used : Nat) : Bool :=
  match number with
  | .nan => false
  | .finite value => (used : ℚ) < value
  | .infinite positive => positive

theorem JsNumber.above_of_le {budget : JsNumber} {used fewer : Nat} (above : budget.above used = true)
    (le : fewer ≤ used) : budget.above fewer = true := by
  cases budget with
  | nan => cases above
  | finite value =>
      simp only [JsNumber.above, decide_eq_true_eq] at above ⊢
      exact lt_of_le_of_lt (Nat.cast_le.mpr le) above
  | infinite positive => exact above

/-- How many starts a day a budget lets through: it is rounded up, and one that is no positive number
lets none through. -/
def JsNumber.lets : JsNumber → Option Nat
  | .nan => some 0
  | .finite value => some ⌈value⌉₊
  | .infinite positive => if positive then none else some 0

theorem JsNumber.lt_lets {budget : JsNumber} {used most : Nat} (above : budget.above used = true)
    (lets : budget.lets = some most) : used < most := by
  cases budget with
  | nan => cases above
  | finite value =>
      cases lets
      simp only [JsNumber.above, decide_eq_true_eq] at above
      exact Nat.lt_ceil.mpr above
  | infinite positive =>
      cases positive with
      | false => cases above
      | true => cases lets

structure ReportAddressAdmissionSettings where
  maxPending : Int
  maxActive : Int
  queueExpiryMs : Int
  timeoutMs : Int
  minStartIntervalMs : Int
  dailyBudget : Option JsNumber
  deriving DecidableEq

def isSafeIntegerAtLeast (value min : Int) : Bool := value.natAbs ≤ 9007199254740991 ∧ min ≤ value

/-- The admission part of `validateSettings`, which says nothing of the daily budget. -/
def validateSettings (admission : ReportAddressAdmissionSettings) : Bool :=
  isSafeIntegerAtLeast admission.maxPending 0 && isSafeIntegerAtLeast admission.maxActive 1 &&
    isSafeIntegerAtLeast admission.queueExpiryMs 1 && isSafeIntegerAtLeast admission.timeoutMs 1 &&
    isSafeIntegerAtLeast admission.minStartIntervalMs 0

structure ReportAddressSuggestionError where
  code : String
  status : Nat
  message : String
  deriving DecidableEq, Repr

/-- What a provider call may reject with. -/
inductive ProviderFailure
  | suggestion (error : ReportAddressSuggestionError)
  | provider (code : String) (status : Nat) (message : String)
  | other
  deriving DecidableEq, Repr

def publicProviderError : ProviderFailure → ReportAddressSuggestionError
  | .suggestion error => error
  | .provider code status message => ⟨code, status, message⟩
  | .other => ⟨"provider_unavailable", 503, "Address assistance is temporarily unavailable"⟩

def cancellationError : ReportAddressSuggestionError :=
  ⟨"cancelled", 499, "Address suggestion request was cancelled"⟩

def admissionRejected : ReportAddressSuggestionError :=
  ⟨"admission_rejected", 429, "Address suggestion is temporarily unavailable"⟩

def queueFull : ReportAddressSuggestionError :=
  ⟨"queue_full", 429, "Address suggestion capacity is temporarily full"⟩

def queueExpired : ReportAddressSuggestionError :=
  ⟨"queue_expired", 429, "Address suggestion expired before processing"⟩

def dailyBudgetExceeded : ReportAddressSuggestionError :=
  ⟨"daily_budget_exceeded", 429, "Address assistance daily capacity is exhausted"⟩

def addressProviderTimeout : ReportAddressSuggestionError :=
  ⟨"address_provider_timeout", 504, "Address assistance timed out"⟩

inductive EntryState
  | queued
  | starting
  | running
  | settled
  deriving DecidableEq, Repr

/-- Where the `executeEntry` of an entry stands: `held` awaits the provider after the timeout. -/
inductive Work
  | unstarted
  | pending
  | held
  | finished
  deriving DecidableEq, Repr

structure QueueSubscriber where
  promise : PromiseId
  signal : Bool
  deriving DecidableEq, Repr

structure QueueEntry (Key : Type) where
  key : Key
  subscribers : List QueueSubscriber
  controllerAborted : Bool
  expiresAt : Int
  expiryTimer : Bool
  timeoutTimer : Bool
  state : EntryState
  work : Work
  deriving DecidableEq

inductive Settlement (Value : Type)
  | resolved (value : Value)
  | rejected (error : ReportAddressSuggestionError)
  deriving DecidableEq

structure ReportAddressSuggestionCounters where
  accepted : Nat
  rejected : Nat
  coalesced : Nat
  timeout : Nat
  providerFailure : Nat
  deriving DecidableEq, Repr

/-- The controller, with the promises that it has given out, their settlements and the provider
calls that it has started, in order. -/
structure Controller (Key Value : Type) where
  now : Int
  queue : List EntryId
  inFlight : Key → Option EntryId
  active : Int
  nextStartAt : Int
  pumpRunning : Bool
  spacingTimer : Bool
  dailyBudgetDate : Option String
  dailyBudgetUsed : Nat
  counters : ReportAddressSuggestionCounters
  entries : EntryId → Option (QueueEntry Key)
  promises : Nat
  settlements : List (PromiseId × Settlement Value)
  starts : List (EntryId × Int)

def msPerDay : Int := 86400000

def utcDay (now : Int) : Int := now / msPerDay

namespace Controller

variable {Key Value : Type} [DecidableEq Key]

def initial (now : Int) : Controller Key Value where
  now := now
  queue := []
  inFlight := fun _ => none
  active := 0
  nextStartAt := 0
  pumpRunning := false
  spacingTimer := false
  dailyBudgetDate := none
  dailyBudgetUsed := 0
  counters := ⟨0, 0, 0, 0, 0⟩
  entries := fun _ => none
  promises := 0
  settlements := []
  starts := []

def setEntry (s : Controller Key Value) (id : EntryId) (entry : QueueEntry Key) : Controller Key Value :=
  { s with entries := Function.update s.entries id (some entry) }

/-- `pump()` has begun; a running pump goes on instead. -/
def pump (s : Controller Key Value) : Controller Key Value := { s with pumpRunning := true }

/-- `inFlight.delete(entry.key)`, if the entry is still the key's. -/
def forget (s : Controller Key Value) (id : EntryId) (entry : QueueEntry Key) : Controller Key Value :=
  if s.inFlight entry.key = some id then
    { s with inFlight := Function.update s.inFlight entry.key none }
  else s

def settle (s : Controller Key Value) (id : EntryId) (outcome : Settlement Value) : Controller Key Value :=
  match s.entries id with
  | none => s
  | some entry =>
      if entry.state = .settled then s
      else
        { (s.setEntry id { entry with
          state := .settled, expiryTimer := false, subscribers := [] }).forget id entry with
          settlements := s.settlements ++ entry.subscribers.map fun subscriber => (subscriber.promise, outcome) }

def countRejected (s : Controller Key Value) : Controller Key Value :=
  { s with counters := { s.counters with rejected := s.counters.rejected + 1 } }

/-- A promise that is rejected without ever waiting. -/
def reject (s : Controller Key Value) (error : ReportAddressSuggestionError) : Controller Key Value :=
  { s with
    promises := s.promises + 1
    settlements := s.settlements ++ [(s.promises, .rejected error)] }

def subscribe (s : Controller Key Value) (id : EntryId) (entry : QueueEntry Key) (signal : Bool) :
    Controller Key Value :=
  { s.setEntry id { entry with subscribers := entry.subscribers ++ [⟨s.promises, signal⟩] } with
    promises := s.promises + 1 }

/-- How a caller's signal stands when it calls. -/
inductive Signal
  | absent
  | live
  | aborted
  deriving DecidableEq, Repr

def run (settings : ReportAddressAdmissionSettings) (s : Controller Key Value) (key : Key) (signal : Signal)
    (policyAdmits : Option Bool) : Controller Key Value :=
  if signal = .aborted then s.reject cancellationError
  else
    match s.inFlight key with
    | some id =>
        match s.entries id with
        | some entry =>
            { s with counters := { s.counters with coalesced := s.counters.coalesced + 1 } }.subscribe
              id entry (decide (signal = Signal.live))
        | none => s
    | none =>
        if policyAdmits = some false then s.countRejected.reject admissionRejected
        else
          let canStartImmediately := s.active < settings.maxActive ∧ s.queue.length = 0 ∧ s.nextStartAt ≤ s.now
          if ¬canStartImmediately ∧ settings.maxPending ≤ s.queue.length then s.countRejected.reject queueFull
          else
            let id := s.counters.accepted
            let entry : QueueEntry Key :=
              { key := key
                subscribers := []
                controllerAborted := false
                expiresAt := s.now + settings.queueExpiryMs
                expiryTimer := true
                timeoutTimer := false
                state := .queued
                work := .unstarted }
            let accepted := { s with
              counters := { s.counters with accepted := s.counters.accepted + 1 }
              inFlight := Function.update s.inFlight key (some id) }
            { accepted.subscribe id entry (decide (signal = Signal.live)) with queue := s.queue ++ [id] }.pump

def cancelWhenUnobserved (s : Controller Key Value) (id : EntryId) : Controller Key Value :=
  match s.entries id with
  | none => s
  | some entry =>
      if entry.subscribers ≠ [] ∨ entry.state = .settled then s
      else
        let removed := if entry.state = .queued then { s with queue := s.queue.erase id } else s
        let aborted := if entry.state = .queued then entry.controllerAborted else true
        ((removed.setEntry id { entry with
          controllerAborted := aborted, expiryTimer := false, state := .settled }).forget id entry).pump

def abort (s : Controller Key Value) (id : EntryId) (promise : PromiseId) : Controller Key Value :=
  match s.entries id with
  | none => s
  | some entry =>
      if ⟨promise, true⟩ ∈ entry.subscribers then
        let left := s.setEntry id { entry with subscribers := entry.subscribers.erase ⟨promise, true⟩ }
        let rejected := { left with
          settlements := s.settlements ++ [(promise, Settlement.rejected cancellationError)] }
        rejected.cancelWhenUnobserved id
      else s

def expireQueued (s : Controller Key Value) (id : EntryId) : Controller Key Value :=
  match s.entries id with
  | none => s
  | some entry =>
      if entry.state ≠ .queued then s
      else
        let removed := { s with queue := s.queue.erase id }
        (removed.settle id (.rejected queueExpired)).countRejected.pump

/-- `new Date(now).toISOString().slice(0, 10)`, which throws past the last date. -/
def today (isoDate : Int → String) (now : Int) : Option String :=
  if now.natAbs ≤ 8640000000000000 then some (isoDate (utcDay now)) else none

/-- The budget block of the pump: whether the entry may start, the date and what is used of it. -/
def consumeBudget (settings : ReportAddressAdmissionSettings) (isoDate : Int → String)
    (s : Controller Key Value) : Bool × Option String × Nat :=
  match settings.dailyBudget with
  | none => (true, s.dailyBudgetDate, s.dailyBudgetUsed)
  | some budget =>
      match today isoDate s.now with
      | none => (false, s.dailyBudgetDate, s.dailyBudgetUsed)
      | some date =>
          let used := if s.dailyBudgetDate = some date then s.dailyBudgetUsed else 0
          if budget.above used then (true, some date, used + 1) else (false, some date, used)

/-- `executeEntry` as far as its first await. -/
def executeEntry (s : Controller Key Value) (id : EntryId) (entry : QueueEntry Key) : Controller Key Value :=
  { s.setEntry id { entry with work := .pending, timeoutTimer := true } with
    starts := s.starts ++ [(id, s.now)] }

def startEntry (settings : ReportAddressAdmissionSettings) (isoDate : Int → String)
    (s : Controller Key Value) (id : EntryId) (entry : QueueEntry Key) : Controller Key Value :=
  let starting := { entry with expiryTimer := false, state := .starting }
  let shifted := { s.setEntry id starting with queue := s.queue.tail, active := s.active + 1 }
  if entry.expiresAt ≤ s.now then
    let released := { shifted with active := s.active }
    (released.settle id (.rejected queueExpired)).countRejected
  else
    let (allowed, date, used) := consumeBudget settings isoDate s
    let counted := { shifted with dailyBudgetDate := date, dailyBudgetUsed := used }
    if allowed then
      { counted with nextStartAt := s.now + settings.minStartIntervalMs }.executeEntry id
        { starting with state := .running }
    else
      let released := { counted with active := s.active }
      (released.settle id (.rejected dailyBudgetExceeded)).countRejected

def pumpTurn (settings : ReportAddressAdmissionSettings) (isoDate : Int → String)
    (s : Controller Key Value) : Option (Controller Key Value) :=
  if s.active < settings.maxActive then
    match s.queue with
    | [] => some { s with pumpRunning := false }
    | id :: _ =>
        match s.entries id with
        | none => none
        | some entry =>
            if entry.expiresAt ≤ s.now then some (s.expireQueued id)
            else if 0 < s.nextStartAt - s.now then some { s with spacingTimer := true, pumpRunning := false }
            else some (s.startEntry settings isoDate id entry)
  else some { s with pumpRunning := false }

/-- The `finally` of `executeEntry`. -/
def finish (s : Controller Key Value) (id : EntryId) : Controller Key Value :=
  match s.entries id with
  | none => s
  | some entry =>
      { s.setEntry id { entry with timeoutTimer := false, work := .finished } with active := s.active - 1 }.pump

/-- What `settle` makes of a result: `undefined` is no result. -/
def settlementOf : Option Value → Settlement Value
  | some value => .resolved value
  | none => .rejected (publicProviderError .other)

def countProviderFailure (s : Controller Key Value) : Controller Key Value :=
  { s with counters := { s.counters with providerFailure := s.counters.providerFailure + 1 } }

/-- The provider's promise settles. After the timeout nobody listens to how. -/
def providerSettles (s : Controller Key Value) (id : EntryId) (entry : QueueEntry Key)
    (result : Except ProviderFailure (Option Value)) : Option (Controller Key Value) :=
  match entry.work with
  | .held => some (s.finish id)
  | .pending =>
      match result with
      | .ok value => some ((s.settle id (settlementOf value)).finish id)
      | .error failure =>
          if entry.state = .settled then some (s.finish id)
          else some ((s.countProviderFailure.settle id (.rejected (publicProviderError failure))).finish id)
  | _ => none

/-- The timer of `executeEntry` fires; the slot stays held until the provider settles. -/
def providerTimeout (s : Controller Key Value) (id : EntryId) (entry : QueueEntry Key) :
    Option (Controller Key Value) :=
  if entry.timeoutTimer then
    let fired := s.setEntry id { entry with controllerAborted := true, timeoutTimer := false, work := .held }
    let counted := { fired with counters := { fired.counters with timeout := fired.counters.timeout + 1 } }
    some (counted.settle id (.rejected addressProviderTimeout))
  else none

/-- What happens to the controller. While a pump runs, only a provider's synchronous part can call
back, to submit or to abort; the rest waits for the event loop, and the clock stands still. Nobody calls
back while the signal of a provider call is being aborted. -/
inductive Event (Key Value : Type)
  | submit (key : Key) (signal : Signal) (policyAdmits : Option Bool)
  | abort (entry : EntryId) (promise : PromiseId)
  | pumpTurn
  | expiryTimer (entry : EntryId)
  | spacingTimer
  | providerSettles (entry : EntryId) (result : Except ProviderFailure (Option Value))
  | providerTimeout (entry : EntryId)
  | tick (now : Int)

variable (settings : ReportAddressAdmissionSettings) (isoDate : Int → String)

def step (s : Controller Key Value) : Event Key Value → Option (Controller Key Value)
  | .submit key signal policyAdmits => some (s.run settings key signal policyAdmits)
  | .abort id promise => some (s.abort id promise)
  | .pumpTurn => if s.pumpRunning then s.pumpTurn settings isoDate else none
  | .expiryTimer id => do
      let entry ← s.entries id
      -- A timer fires some time after it is set; which time is the event loop's.
      if ¬s.pumpRunning ∧ entry.expiryTimer then some (s.expireQueued id) else none
  | .spacingTimer =>
      if ¬s.pumpRunning ∧ s.spacingTimer then some { s with spacingTimer := false }.pump else none
  | .providerSettles id result => do
      let entry ← s.entries id
      if s.pumpRunning then none else s.providerSettles id entry result
  | .providerTimeout id => do
      let entry ← s.entries id
      if s.pumpRunning then none else s.providerTimeout id entry
  | .tick now => if ¬s.pumpRunning ∧ s.now ≤ now then some { s with now := now } else none

def steps (s : Controller Key Value) (event : Event Key Value) (t : Controller Key Value) : Prop :=
  step settings isoDate s event = some t

end Controller

end PublicLighting.AddressSuggestion
