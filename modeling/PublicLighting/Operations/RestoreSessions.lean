import Mathlib.Logic.Function.Basic
import PublicLighting.Foundations.Effects

/-! The queries of the controlled restore: each runs under session timeouts of its own, in a race with
the deadline and the abort signal, on a client that is checked out of a pool. -/

namespace PublicLighting.Operations.Restore

open Foundations

abbrev ClientId := Nat

/-- `current_setting` and `set_config` on the two timeouts: PostgreSQL reads what it shows. -/
structure ServerSettings (Setting : Type) where
  display : Setting → String
  parse : String → Option Setting
  reads : ∀ setting, parse (display setting) = some setting

/-- A session on the server, with whatever else its statements work on. -/
structure Session (Setting Data : Type) where
  statementTimeout : Setting
  lockTimeout : Setting
  data : Data

/-- `signal.reason`, as the errors tell it apart. -/
inductive AbortReason
  | deadline
  | other
  deriving DecidableEq

inductive RestoreError
  | deadlineExceeded
  | aborted
  | adminQueryDeadline
  | cancellationUnconfirmed
  | sessionTimeoutReset
  | connectTimeoutUnconfigured
  /-- What the driver or the server raised. -/
  | failed
  deriving DecidableEq

def RestoreError.message : RestoreError → String
  | .deadlineExceeded => "controlled_restore_deadline_exceeded"
  | .aborted => "controlled_restore_aborted"
  | .adminQueryDeadline => "controlled_restore_deadline_exceeded"
  | .cancellationUnconfirmed => "restore_admin_query_cancellation_unconfirmed"
  | .sessionTimeoutReset => "restore_session_timeout_reset_failed"
  | .connectTimeoutUnconfigured => "restore_pool_connect_timeout_unconfigured"
  | .failed => ""

/-- How the race of a query with its timer and the signal ends. A query that was overtaken may still be
executed, on a session that ends with its client. `complete` is whether the driver hands over the rows. -/
inductive Race (Setting Data : Type)
  | answered (complete : Bool)
  | raised (after : Session Setting Data)
  | lost
  | timedOut
  | cancelled (reason : AbortReason)

/-- How the race of `pool.connect` ends. An overtaken checkout may bring its client later. -/
inductive Arrival
  | obtained (client : ClientId)
  | refused
  | timedOut (late : Option ClientId)
  | cancelled (reason : AbortReason) (late : Option ClientId)

/-- What one reading of the clock or one await meets. -/
structure Moment (Setting Data : Type) where
  elapsed : Nat
  abort : Option AbortReason
  race : Race Setting Data
  arrival : Arrival
  settles : Bool

/-- A call of `client.release`. `untrusted` is what is known of the client then. -/
structure Release where
  client : ClientId
  discarded : Bool
  untrusted : Bool
  deriving DecidableEq

/-- `available` are the clients that the pool may hand out, `handed` those that it has. -/
structure World (Setting Data : Type) where
  now : Int
  abort : Option AbortReason
  sessions : ClientId → Option (Session Setting Data)
  untrusted : ClientId → Bool
  available : ClientId → Bool
  handed : List ClientId
  released : List Release
  late : Option ClientId
  schedule : Nat → Moment Setting Data
  moments : Nat

/-- A statement: what it does where it succeeds, and what one that is raised leaves. -/
structure Statement (Setting Data α : Type) where
  run : Bool → Session Setting Data → Option (α × Session Setting Data)
  raised : Session Setting Data → Session Setting Data → Session Setting Data

variable {Setting Data α : Type}

abbrev Task (Setting Data α : Type) := Program (World Setting Data) RestoreError α

namespace World

def moment (w : World Setting Data) : Moment Setting Data := w.schedule w.moments

def advance (w : World Setting Data) : World Setting Data :=
  { w with now := w.now + w.moment.elapsed, abort := w.abort.or w.moment.abort, moments := w.moments + 1 }

def setSession (w : World Setting Data) (client : ClientId) (session : Option (Session Setting Data)) :
    World Setting Data :=
  { w with sessions := Function.update w.sessions client session }

def markUntrusted (w : World Setting Data) (client : ClientId) : World Setting Data :=
  { w with untrusted := Function.update w.untrusted client true }

/-- `client.end()`, after the client was marked. -/
def destroyed (w : World Setting Data) (client : ClientId) : World Setting Data :=
  (w.markUntrusted client).setSession client none

def handOut (w : World Setting Data) (client : ClientId) : World Setting Data :=
  { w with
    available := Function.update w.available client false, handed := w.handed ++ [client], late := some client }

/-- `client.release(reason)`: with a reason the pool removes the client. -/
def giveBack (w : World Setting Data) (client : ClientId) (discarded : Bool) : World Setting Data :=
  { w with
    available := Function.update w.available client (!discarded)
    released := w.released ++ [⟨client, discarded, w.untrusted client⟩] }

end World

def AbortReason.error : AbortReason → RestoreError
  | deadline => .deadlineExceeded
  | other => .aborted

/-- `throwIfAborted`, and `throw restoreAbortError(signal)` where the signal has fired. -/
def throwIfAborted : Task Setting Data Unit := fun w =>
  match w.abort with
  | some reason => (.threw reason.error, w)
  | none => (.returned (), w)

section Deadline

variable (deadlineAt : Int)

def deadlineRemaining : Task Setting Data Int := do
  Program.update World.advance
  throwIfAborted
  let now ← Program.read (·.now)
  if deadlineAt - now < 1 then Program.throw .deadlineExceeded else return deadlineAt - now

/-- The test of the two `catch` blocks. -/
def deadlineExpired (error : RestoreError) : Task Setting Data Bool := do
  Program.update World.advance
  Program.read fun w => error = .adminQueryDeadline || w.abort.isSome || deadlineAt ≤ w.now

end Deadline

section Queries

variable (client : ClientId)

def isRestoreClientUntrusted : Task Setting Data Bool := Program.read (·.untrusted client)

def markRestoreClientUntrusted : Task Setting Data Unit := Program.update (·.markUntrusted client)

def destroyRestoreClient : Task Setting Data Unit := Program.update (·.destroyed client)

/-- `throw`s where the query has not settled in time. -/
def settleRestoreQueryAfterDestroy : Task Setting Data Unit := fun w =>
  if w.moment.settles then (.returned (), w.advance) else (.threw .cancellationUnconfirmed, w.advance)

/-- `Promise.race([operation, expired])` for a query. A closed client rejects every query. -/
def race (statement : Statement Setting Data α) : Task Setting Data α := fun w =>
  match w.moment.race with
  | .timedOut => (.threw .adminQueryDeadline, w.advance)
  | .cancelled reason => (.threw reason.error, { w.advance with abort := w.advance.abort.or (some reason) })
  | .lost => (.threw .failed, w.advance.setSession client none)
  | .raised after =>
      (.threw .failed, w.advance.setSession client
        ((w.sessions client).map fun session => statement.raised session after))
  | .answered complete =>
      match (w.sessions client).bind (statement.run complete) with
      | some (value, next) => (.returned value, w.advance.setSession client (some next))
      | none => (.threw .failed, w.advance)

/-- The `catch` block of a query. -/
def abandon (deadlineAt : Int) (error : RestoreError) : Task Setting Data α := do
  if ← deadlineExpired deadlineAt error then
    destroyRestoreClient client
    settleRestoreQueryAfterDestroy
    throwIfAborted
    Program.throw .adminQueryDeadline
  else Program.throw error

def queryClientRawWithinDeadline (deadlineAt : Int) (statement : Statement Setting Data α) :
    Task Setting Data α := do
  let _ ← deadlineRemaining deadlineAt
  Program.catching
    (do
      let value ← race client statement
      let _ ← deadlineRemaining deadlineAt
      return value)
    (abandon client deadlineAt)

end Queries

section Settings

variable (server : ServerSettings Setting)

/-- A statement of the code's own that raises leaves the timeouts alone. -/
def keepTimeouts (session after : Session Setting Data) : Session Setting Data := { session with data := after.data }

def currentSettings : Statement Setting Data (Option (String × String)) where
  run := fun complete session => some
    (if complete then some (server.display session.statementTimeout,
      server.display session.lockTimeout) else none, session)
  raised := keepTimeouts

def setTimeouts (timeout : String) : Statement Setting Data Unit where
  run := fun _ session => (server.parse timeout).map fun setting =>
    ((), { session with statementTimeout := setting, lockTimeout := setting })
  raised := keepTimeouts

def resetStatementTimeout (previous : String) : Statement Setting Data Unit where
  run := fun _ session => (server.parse previous).map fun setting => ((),
    { session with statementTimeout := setting })
  raised := keepTimeouts

def resetLockTimeout (previous : String) : Statement Setting Data Unit where
  run := fun _ session => (server.parse previous).map fun setting => ((), { session with lockTimeout := setting })
  raised := keepTimeouts

variable (client : ClientId) (deadlineAt : Int)

/-- The `try` of the loop over the settings, as whether it ran to its end. -/
def resetSetting (statement : Statement Setting Data Unit) : Task Setting Data Bool :=
  Program.catching
    (do
      queryClientRawWithinDeadline client deadlineAt statement
      return true)
    fun _ => return false

/-- The loop of the `finally` block; its answer is `resetFailed`. -/
def resetSettings : List (Statement Setting Data Unit) → Task Setting Data Bool
  | [] => return false
  | statement :: rest => do
      if ← resetSetting client deadlineAt statement then resetSettings rest
      else if ← isRestoreClientUntrusted client then return true
      else
        let _ ← resetSettings rest
        return true

/-- The `finally` block. -/
def restoreSettings (previous : String × String) : Task Setting Data Unit := do
  if ← isRestoreClientUntrusted client then return ()
  else if ← resetSettings client deadlineAt
      [resetStatementTimeout server previous.1, resetLockTimeout server previous.2] then
    markRestoreClientUntrusted client
    Program.throw .sessionTimeoutReset
  else return ()

def queryClientWithSessionTimeouts (timeout : String) (statement : Statement Setting Data α) :
    Task Setting Data α := do
  let previous ← queryClientRawWithinDeadline client deadlineAt (currentSettings server)
  match previous with
  | none => do
      markRestoreClientUntrusted client
      Program.throw .sessionTimeoutReset
  | some previous =>
      Program.ending
        (do
          queryClientRawWithinDeadline client deadlineAt (setTimeouts server timeout)
          queryClientRawWithinDeadline client deadlineAt statement)
        (restoreSettings server client deadlineAt previous)

def queryClientWithinDeadline (statement : Statement Setting Data α) : Task Setting Data α := do
  let remaining ← deadlineRemaining deadlineAt
  let result ← queryClientWithSessionTimeouts server client deadlineAt (toString remaining ++ "ms") statement
  let _ ← deadlineRemaining deadlineAt
  return result

end Settings

section Clients

/-- The checkout that was overtaken brings its client, or never does. -/
def World.arriving (w : World Setting Data) (late : Option ClientId) : World Setting Data :=
  match late.filter w.available with
  | some client => w.handOut client
  | none => { w with late := none }

/-- `Promise.race([operation, expired])` for a checkout. -/
def raceConnect : Task Setting Data ClientId := fun w =>
  match w.moment.arrival with
  | .obtained client =>
      if w.available client then (.returned client, w.advance.handOut client)
      else (.threw .failed, { w.advance with late := none })
  | .refused => (.threw .failed, { w.advance with late := none })
  | .timedOut late => (.threw .adminQueryDeadline, w.advance.arriving late)
  | .cancelled reason late =>
      (.threw reason.error, { w.advance.arriving late with abort := w.advance.abort.or (some reason) })

def release (client : ClientId) (discarded : Bool) : Task Setting Data Unit :=
  Program.update (·.giveBack client discarded)

/-- `operation.then((client) => client.release(...))`. -/
def discardLate : Task Setting Data Unit := Program.update fun w =>
  match w.late with
  | some client => w.giveBack client true
  | none => w

/-- `configured` is whether `connectionTimeoutMillis` is a positive safe integer. -/
def connectRestoreClientWithinDeadline (deadlineAt : Int) (configured : Bool) : Task Setting Data ClientId := do
  let _ ← deadlineRemaining deadlineAt
  if !configured then Program.throw .connectTimeoutUnconfigured
  else
    Program.catching
      (do
        let client ← raceConnect
        let _ ← deadlineRemaining deadlineAt
        return client)
      fun error => do
        if ← deadlineExpired deadlineAt error then
          discardLate
          throwIfAborted
          Program.throw .adminQueryDeadline
        else Program.throw error

variable (server : ServerSettings Setting) (deadlineAt : Int) (configured : Bool)

def queryPoolWithinDeadline (statement : Statement Setting Data α) : Task Setting Data α := do
  let client ← connectRestoreClientWithinDeadline deadlineAt configured
  let result ← Program.catching (queryClientWithinDeadline server client deadlineAt statement) fun error => do
    let untrusted ← isRestoreClientUntrusted client
    release client untrusted
    Program.throw error
  release client false
  return result

/-- What a user of `deadlineBoundRuntimePool` does with one client: it sends queries, some of whose errors
it catches, and gives the client back at last. -/
def runtimeSession (queries : List (Statement Setting Data α × Bool)) : Task Setting Data Unit := do
  let client ← connectRestoreClientWithinDeadline deadlineAt configured
  Program.ending
    (Program.forEach
      (fun query => do
        let send : Task Setting Data Unit := do
          let _ ← queryClientWithinDeadline server client deadlineAt query.1
          return ()
        if query.2 then Program.catching send fun _ => return () else send)
      queries)
    (do
      let untrusted ← isRestoreClientUntrusted client
      release client untrusted)

inductive PoolUse (Setting Data α : Type)
  | query (statement : Statement Setting Data α)
  | session (queries : List (Statement Setting Data α × Bool))

def PoolUse.task : PoolUse Setting Data α → Task Setting Data Unit
  | .query statement => do
      let _ ← queryPoolWithinDeadline server deadlineAt configured statement
      return ()
  | .session queries => runtimeSession server deadlineAt configured queries

/-- One use after another, whatever becomes of each. -/
def usePool (uses : List (PoolUse Setting Data α)) : Task Setting Data Unit :=
  Program.forEach (fun use => Program.catching (use.task server deadlineAt configured) fun _ => return ()) uses

end Clients

end PublicLighting.Operations.Restore
