import Mathlib.Logic.Function.Basic
import PublicLighting.Foundations.JavaScriptText
import PublicLighting.Foundations.Runs

/-! Concurrent calls of `createFirstAdmin`, statement by statement, over one database at
read committed. -/

namespace PublicLighting.Accounts

open Foundations
open Foundations.JavaScriptText (trim utf16Length)

abbrev CallId := Nat

structure BootstrapAdminInput where
  username : String
  password : String
  fullName : Option String
  deriving DecidableEq, Repr

inductive BootstrapAdminError
  | invalidInput
  | alreadyInitialized
  | failed
  deriving DecidableEq, Repr

def BootstrapAdminError.message : BootstrapAdminError → String
  | invalidInput => "Bootstrap input is invalid."
  | alreadyInitialized => "An administrator already exists."
  | failed => "Administrator bootstrap failed."

/-- `[A-Za-z0-9._-]`. -/
def isUsernameChar (c : Char) : Bool := c.isAlphanum || c == '.' || c == '_' || c == '-'

def validateBootstrapAdminInput (input : BootstrapAdminInput) : Except BootstrapAdminError BootstrapAdminInput :=
  let username := trim input.username
  let fullName := (input.fullName.map trim).getD ""
  if ¬ (username.toList.all isUsernameChar ∧ 3 ≤ username.length ∧ username.length ≤ 80) ∨
      utf16Length input.password < 12 ∨ 128 < utf16Length input.password ∨
      (input.fullName.isSome ∧ (utf16Length fullName < 1 ∨ 200 < utf16Length fullName)) then
    .error .invalidInput
  else .ok ⟨username, input.password, if fullName = "" then none else some fullName⟩

structure AdminRow where
  id : Nat
  username : String
  passwordHash : String
  fullName : Option String
  deriving DecidableEq, Repr

structure LogRow where
  adminId : Option Nat
  action : String
  entityType : String
  entityId : Option Nat
  details : String
  deriving DecidableEq, Repr

def createdLog (id : Nat) : LogRow := ⟨none, "bootstrap_admin_created", "admin", some id, "\x7b\x7d"⟩

/-- A row and the call whose transaction wrote it, as the column `xmin` has it. -/
structure Stored (Row : Type) where
  xmin : Option CallId
  row : Row
  deriving DecidableEq, Repr

/-- The rows of a transaction that is not committed. -/
structure Work where
  admins : List AdminRow
  logs : List LogRow
  deriving DecidableEq, Repr

/-- A call's connection. A broken one is left to the server, with what a `COMMIT` that was
on its way would commit. -/
inductive Session
  | idle
  | active (work : Work)
  | aborted
  | broken (inFlight : Option Work)
  | closed
  deriving DecidableEq, Repr

/-- What the calls share: the committed rows, the sequence of the ids and the advisory lock. -/
structure Shared where
  admins : List (Stored AdminRow)
  logs : List (Stored LogRow)
  sequence : Nat
  lock : Option CallId
  deriving DecidableEq, Repr

inductive Statement
  | begin (input : BootstrapAdminInput)
  | lock (input : BootstrapAdminInput)
  | select (input : BootstrapAdminInput)
  | rollbackExisting
  | insertAdmin (input : BootstrapAdminInput) (passwordHash : String)
  | insertLog (id : Nat) (username : String)
  | commit (id : Nat) (username : String)
  | rollback
  deriving DecidableEq, Repr

inductive Ending
  | created (id : Nat) (username : String)
  | threw (error : BootstrapAdminError)
  | unconnected
  deriving DecidableEq, Repr

/-- Where a call is. `releasing` is its `finally`. -/
inductive Point
  | starting (input : BootstrapAdminInput)
  | connecting (input : BootstrapAdminInput)
  | awaiting (statement : Statement)
  | hashing (input : BootstrapAdminInput)
  | releasing (ending : Ending)
  | ended (ending : Ending)
  deriving DecidableEq, Repr

structure Caller where
  point : Point
  session : Session
  client : Bool
  deriving DecidableEq, Repr

section Code

/-- `createFirstAdmin` after the rows of a statement, of which it reads the ids. -/
def answered : Statement → List Nat → Point
  | .begin input, _ => .awaiting (.lock input)
  | .lock input, _ => .awaiting (.select input)
  | .select input, existing => if existing.length > 0 then .awaiting .rollbackExisting else .hashing input
  | .rollbackExisting, _ => .releasing (.threw .alreadyInitialized)
  | .insertAdmin input _, rows =>
      match rows with
      | id :: _ => .awaiting (.insertLog id input.username)
      | [] => .awaiting .rollback
  | .insertLog id username, _ => .awaiting (.commit id username)
  | .commit id username, _ => .releasing (.created id username)
  | .rollback, _ => .releasing (.threw .failed)

/-- `createFirstAdmin` after a statement that was rejected. Only before `BEGIN` is there no
transaction to roll back, and a rejected `ROLLBACK` is ignored. -/
def rejected : Statement → Point
  | .begin _ => .releasing (.threw .failed)
  | .rollback => .releasing (.threw .failed)
  | _ => .awaiting .rollback

end Code

section Server

def Shared.release (shared : Shared) (call : CallId) : Shared :=
  if shared.lock = some call then { shared with lock := none } else shared

def Shared.commit (shared : Shared) (call : CallId) (work : Work) : Shared :=
  Shared.release { shared with
    admins := shared.admins ++ work.admins.map (⟨some call, ·⟩)
    logs := shared.logs ++ work.logs.map (⟨some call, ·⟩) } call

/-- A statement on a live connection, with the ids that it returns. It waits, giving nothing,
for a lock that another call holds. Each statement reads what is committed when it starts,
and `id` is what the sequence gives. -/
def execute (call : CallId) (shared : Shared) (id : Nat) : Statement → Session → Option (List Nat × Shared × Session)
  | .begin _, .idle => some ([], shared, .active ⟨[], []⟩)
  | .lock _, .active work =>
      if shared.lock = none ∨ shared.lock = some call then some ([], { shared with lock := some call }, .active work)
      else none
  | .select _, .active work =>
      some (((shared.admins.map (·.row) ++ work.admins).map (·.id)).take 1, shared, .active work)
  | .insertAdmin input passwordHash, .active work =>
      if shared.sequence ≤ id then
        some ([id], { shared with sequence := id + 1 },
          .active { work with admins := work.admins ++ [⟨id, input.username, passwordHash, input.fullName⟩] })
      else none
  | .insertLog id' _, .active work => some ([], shared, .active { work with logs := work.logs ++ [createdLog id'] })
  | .commit .., .active work => some ([], shared.commit call work, .idle)
  | .commit .., .aborted => some ([], shared.release call, .idle)
  | .rollbackExisting, .active _ | .rollbackExisting, .aborted | .rollback, .active _ | .rollback, .aborted =>
      some ([], shared.release call, .idle)
  | .rollback, .idle => some ([], shared, .idle)
  | _, _ => none

/-- A statement that the server answers with an error aborts its transaction, a `COMMIT` ends
it. A live server refuses no `ROLLBACK`. -/
def refuse (call : CallId) (shared : Shared) : Statement → Session → Option (Shared × Session)
  | .rollback, _ => none
  | .rollbackExisting, _ => none
  | .commit .., .active _ | .commit .., .aborted => some (shared.release call, .idle)
  | _, .idle => some (shared, .idle)
  | _, .active _ | _, .aborted => some (shared, .aborted)
  | _, .broken _ | _, .closed => none

/-- A connection that is lost while a statement is on its way. -/
def cut : Statement → Session → Option Session
  | .commit .., .active work => some (.broken (some work))
  | _, .idle | _, .active _ | _, .aborted => some (.broken none)
  | _, .broken _ | _, .closed => none

/-- A connection that is lost while no statement is on its way. -/
def drop : Session → Option Session
  | .idle | .active _ | .aborted => some (.broken none)
  | .broken _ | .closed => none

/-- The server is done with a lost connection, and what was on its way is done or not. -/
def reap (call : CallId) (shared : Shared) (completes : Bool) : Session → Option Shared
  | .broken inFlight =>
      match inFlight with
      | some work => some (if completes then shared.commit call work else shared.release call)
      | none => some (shared.release call)
  | _ => none

end Server

inductive Action
  | start
  | connected
  | unconnected
  | answered (id : Nat)
  | refused
  | cut (statement : Statement)
  | dropped
  | unqueryable
  | reaped (completes : Bool)
  | hashed (passwordHash : String)
  | unhashed
  | released
  deriving DecidableEq, Repr

/-- What a call or the server does next, about the call. -/
def act (call : CallId) (shared : Shared) (caller : Caller) : Action → Option (Shared × Caller)
  | .start =>
      match caller.point with
      | .starting input =>
          match validateBootstrapAdminInput input with
          | .ok valid => some (shared, { caller with point := .connecting valid })
          | .error error => some (shared, { caller with point := .ended (.threw error) })
      | _ => none
  | .connected =>
      match caller.point with
      | .connecting input => some (shared, { caller with point := .awaiting (.begin input), client := true })
      | _ => none
  | .unconnected =>
      match caller.point with
      | .connecting _ => some (shared, { caller with point := .ended .unconnected })
      | _ => none
  | .answered id =>
      match caller.point with
      | .awaiting statement =>
          (execute call shared id statement caller.session).map fun (rows, next, session) =>
            (next, { caller with point := answered statement rows, session := session })
      | _ => none
  | .refused =>
      match caller.point with
      | .awaiting statement =>
          (refuse call shared statement caller.session).map fun (next, session) =>
            (next, { caller with point := rejected statement, session := session })
      | _ => none
  | .cut statement =>
      if caller.point = .awaiting statement then
        (cut statement caller.session).map fun session =>
          (shared, { caller with point := rejected statement, session := session })
      else none
  | .dropped =>
      match caller.point with
      | .hashing _ => (drop caller.session).map fun session => (shared, { caller with session := session })
      | _ => none
  | .unqueryable =>
      match caller.point, caller.session with
      | .awaiting statement, .broken _ | .awaiting statement, .closed =>
          some (shared, { caller with point := rejected statement })
      | _, _ => none
  | .reaped completes =>
      (reap call shared completes caller.session).map fun next => (next, { caller with session := .closed })
  | .hashed passwordHash =>
      match caller.point with
      | .hashing input => some (shared, { caller with point := .awaiting (.insertAdmin input passwordHash) })
      | _ => none
  | .unhashed =>
      match caller.point with
      | .hashing _ => some (shared, { caller with point := .awaiting .rollback })
      | _ => none
  | .released =>
      match caller.point with
      | .releasing ending => some (shared, { caller with point := .ended ending, client := false })
      | _ => none

structure System where
  shared : Shared
  callers : CallId → Caller

inductive Label
  | call (call : CallId) (action : Action)
  | elsewhere (row : LogRow)
  deriving DecidableEq, Repr

/-- Other work writes log rows, but no administrators. -/
def next (s : System) : Label → Option System
  | .call call action =>
      (act call s.shared (s.callers call) action).map fun (shared, caller) =>
        ⟨shared, Function.update s.callers call caller⟩
  | .elsewhere row => some { s with shared := { s.shared with logs := s.shared.logs ++ [⟨none, row⟩] } }

def Step (s : System) (label : Label) (t : System) : Prop := next s label = some t

/-- No administrators, some log rows, and every call still to come. -/
def initial (inputs : CallId → BootstrapAdminInput) (logs : List LogRow) (sequence : Nat) : System :=
  ⟨⟨[], logs.map (⟨none, ·⟩), sequence, none⟩, fun call => ⟨.starting (inputs call), .idle, false⟩⟩

end PublicLighting.Accounts
