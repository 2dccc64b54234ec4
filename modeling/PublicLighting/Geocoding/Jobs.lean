import PublicLighting.Foundations.RowHolders
import PublicLighting.Foundations.Runs
import PublicLighting.Geocoding.Providers
import PublicLighting.Inventory.ChangedFields

/-! `ensureLightPointAddress` and the light-point branch of the address suggestion route, statement by
statement between everybody else who writes the inventory. -/

namespace PublicLighting.Geocoding

open Foundations Inventory
open Foundations.JavaScriptText (utf16Length)

abbrev PointId := Nat
abbrev JobId := Nat
abbrev WriterId := Nat
abbrev CallId := Nat

inductive SessionId
  | job (id : JobId)
  | writer (id : WriterId)
  deriving DecidableEq, Repr

inductive AuditAction
  | create
  | update
  | delete
  deriving DecidableEq, Repr

structure AuditEvent where
  actorAdminId : Option Nat
  actorUsernameSnapshot : Option String
  entityIdSnapshot : PointId
  inventoryNumberSnapshot : String
  action : AuditAction
  changedFields : ChangedFields
  deriving DecidableEq

inductive JobKind
  | ensureLightPointAddress (force manual : Bool)
  | addressSuggestion (language : ReportAddressLanguage)
  deriving DecidableEq

/-- Where a job stands. It carries the row that its first SELECT read, of which the route keeps the
coordinates only, the address that it was given, and the row that it has locked. -/
inductive Phase
  | reading
  | finding (read : LightPoint)
  | geocoding (read : LightPoint)
  | fetching (read : LightPoint)
  | suggesting (read : LightPoint)
  | waiting (read : LightPoint) (call : CallId)
  | beginning (read : LightPoint) (address : String)
  | locking (read : LightPoint) (address : String)
  | updating (read : LightPoint) (address : String) (current : LightPoint)
  | auditing (read : LightPoint) (address : String) (current : LightPoint)
  | stored (read : LightPoint) (address : String) (current : LightPoint)
  | unchanged
  deriving DecidableEq

/-- `startedAt` is the `NOW()` of its transaction. -/
structure Job where
  kind : JobKind
  point : PointId
  startedAt : Nat
  phase : Phase
  deriving DecidableEq

/-- A provider call that every request of its key waits for. -/
structure SuggestionCall (Key : Type) where
  key : Key
  place : Place
  outcome : Option (Except AddressProviderError (Option AddressSuggestion))

/-- `answers` has what the providers have said, and of which coordinates. -/
structure State (Key : Type) where
  now : Nat
  rows : RowLocks PointId (Option LightPoint) SessionId
  nextPointId : PointId
  auditEvents : List AuditEvent
  pending : SessionId → List AuditEvent
  cache : List Char → Option ReverseGeocodeResult
  inFlight : Key → Option CallId
  calls : CallId → Option (SuggestionCall Key)
  nextCall : CallId
  jobs : JobId → Option Job
  nextJob : JobId
  answers : List (Place × String)

/-- The configuration, the service area and the keyed digest. -/
structure Environment (Key : Type) where
  autoGeocode : Bool
  classifyInside : Place → Bool
  normalizeNFC : String → String
  coalescingKey : Place → ReportAddressLanguage → Key

inductive Label
  | tick
  | start (kind : JobKind) (point : PointId)
  | read (job : JobId)
  | find (job : JobId)
  | lookUp (job : JobId)
  | fetched (job : JobId) (data : NominatimReverseResponse)
  | suggest (job : JobId)
  | answered (call : CallId) (answer : ProviderAnswer)
  | dropped (call : CallId)
  | resume (job : JobId)
  | begin (job : JobId)
  | lock (job : JobId)
  | update (job : JobId)
  | audit (job : JobId)
  | commit (job : JobId)
  | giveUp (job : JobId)
  | restart
  | insert (writer : WriterId) (row : LightPoint)
  | rewrite (writer : WriterId) (point : PointId) (row : LightPoint)
  | delete (writer : WriterId) (point : PointId)
  | record (writer : WriterId) (event : AuditEvent)
  | commitWriter (writer : WriterId)
  | rollbackWriter (writer : WriterId)
  deriving DecidableEq

section Jobs

/-- The early return of `ensureLightPointAddress`. -/
def isGeocoded (force : Bool) (row : LightPoint) : Bool := !force && row.addressGeocodedAt.isSome

def JobKind.stores (kind : JobKind) (read current : LightPoint) (address : String) : Bool :=
  match kind with
  | .ensureLightPointAddress force _ =>
    placeOf current = placeOf read ∧ current.address = read.address ∧ !isGeocoded force current ∧
      current.address ≠ some address
  | .addressSuggestion _ => placeOf current = placeOf read ∧ presentAddress current.address = none

def JobKind.actor : JobKind → String
  | .ensureLightPointAddress _ true => "system:maintenance-geocoding"
  | .ensureLightPointAddress _ false => "system:automatic-geocoding"
  | .addressSuggestion _ => "system:report-geocoding"

/-- The UPDATE: `NOW()` is the start of the transaction, `clock_timestamp()` is not. -/
def Job.stamp (job : Job) (now : Nat) (address : String) (row : LightPoint) : LightPoint :=
  let time := match job.kind with
    | .ensureLightPointAddress _ _ => job.startedAt
    | .addressSuggestion _ => now
  { row with address := some address, addressGeocodedAt := some time, updatedAt := time }

def Job.event (job : Job) (current : LightPoint) (address : String) : AuditEvent where
  actorAdminId := none
  actorUsernameSnapshot := some job.kind.actor
  entityIdSnapshot := job.point
  inventoryNumberSnapshot := current.inventoryNumber
  action := .update
  changedFields := [("address", ⟨some (.ofText current.address), some (.text address)⟩)]

end Jobs

section Steps

variable {Key : Type} [DecidableEq Key] (env : Environment Key)

namespace State

def setPhase (s : State Key) (id : JobId) (job : Job) (phase : Phase) : State Key :=
  { s with jobs := Function.update s.jobs id (some { job with phase := phase }) }

def finish (s : State Key) (id : JobId) : State Key := { s with jobs := Function.update s.jobs id none }

/-- The first SELECT: of the row, or by `findCoordinates`. -/
def readRow (s : State Key) (id : JobId) (job : Job) : State Key :=
  match s.rows.committed job.point with
  | none => s.finish id
  | some row =>
    match job.kind with
    | .ensureLightPointAddress force manual =>
      if (!env.autoGeocode && !force && !manual) || isGeocoded force row then s.finish id
      else s.setPhase id job (.geocoding row)
    | .addressSuggestion _ =>
      if (placeOf row).inRange && env.classifyInside (placeOf row) then s.setPhase id job (.finding row)
      else s.finish id

/-- `findById`, and what the route does with it. -/
def findRow (s : State Key) (id : JobId) (job : Job) (read : LightPoint) : State Key :=
  match s.rows.committed job.point with
  | none => s.finish id
  | some row =>
    if placeOf row ≠ placeOf read ∨ presentAddress row.address ≠ none then s.finish id
    else s.setPhase id job (.suggesting read)

/-- `reverseGeocode` up to its request. -/
def lookUpCache (s : State Key) (id : JobId) (job : Job) (read : LightPoint) : State Key :=
  if !(placeOf read).inRange then s.finish id
  else match s.cache (cacheKey (placeOf read)) with
    | some result => s.setPhase id job (.beginning read result.address)
    | none => s.setPhase id job (.fetching read)

/-- `reverseGeocode` after its request. -/
def receive (s : State Key) (id : JobId) (job : Job) (read : LightPoint)
    (data : NominatimReverseResponse) : State Key :=
  let result := geocoded (placeOf read) data
  { s.setPhase id job (.beginning read result.address) with
    cache := Function.update s.cache (cacheKey (placeOf read)) (some result)
    answers := s.answers ++ [(placeOf read, result.address)] }

def startCall (s : State Key) (id : JobId) (job : Job) (read : LightPoint) (key : Key) : State Key :=
  { s.setPhase id job (.waiting read s.nextCall) with
    inFlight := Function.update s.inFlight key (some s.nextCall)
    calls := Function.update s.calls s.nextCall (some ⟨key, placeOf read, none⟩)
    nextCall := s.nextCall + 1 }

/-- `service.suggest` of an admitted request: it joins the call of its key, or starts one. -/
def joinCall (s : State Key) (id : JobId) (job : Job) (read : LightPoint)
    (language : ReportAddressLanguage) : State Key :=
  match s.inFlight (env.coalescingKey (placeOf read) language) with
  | some call => s.setPhase id job (.waiting read call)
  | none => s.startCall id job read (env.coalescingKey (placeOf read) language)

/-- The call is settled and nobody joins it any more. -/
def settle (s : State Key) (id : CallId) (call : SuggestionCall Key)
    (outcome : Except AddressProviderError (Option AddressSuggestion)) : State Key :=
  { s with
    calls := Function.update s.calls id (some { call with outcome := some outcome })
    inFlight := if s.inFlight call.key = some id then Function.update s.inFlight call.key none else s.inFlight }

def answer (s : State Key) (id : CallId) (call : SuggestionCall Key) (value : ProviderAnswer) : State Key :=
  let outcome := normalizeProviderResult env.normalizeNFC value
  let said := match outcome with
    | .ok (some suggestion) => [(call.place, suggestion.address)]
    | _ => []
  { s.settle id call outcome with answers := s.answers ++ said }

/-- The route goes on with a suggestion; `persistIfMissing` checks it before its transaction. -/
def resumeJob (s : State Key) (id : JobId) (job : Job) (read : LightPoint) (suggestion : Option AddressSuggestion) :
    State Key :=
  match presentAddress (suggestion.map (·.address)) with
  | none => s.finish id
  | some address => if 500 < utf16Length address then s.finish id else s.setPhase id job (.beginning read address)

/-- `SELECT … FOR UPDATE`, with the checks of the row that it returns. -/
def lockRow (s : State Key) (id : JobId) (job : Job) (read : LightPoint) (address : String) : State Key :=
  match s.rows.view (.job id) job.point with
  | none => s.setPhase id job .unchanged
  | some current =>
    { s.setPhase id job (if job.kind.stores read current address then .updating read address current else .unchanged) with
      rows := s.rows.write (.job id) job.point (some current) }

def updateRow (s : State Key) (id : JobId) (job : Job) (read : LightPoint) (address : String)
    (current : LightPoint) :
    State Key :=
  match s.rows.view (.job id) job.point, job.kind with
  | none, .addressSuggestion _ => s.setPhase id job .unchanged
  | none, .ensureLightPointAddress _ _ => s.setPhase id job (.auditing read address current)
  | some row, _ =>
    { s.setPhase id job (.auditing read address current) with
      rows := s.rows.write (.job id) job.point (some (job.stamp s.now address row)) }

def recordEvent (s : State Key) (session : SessionId) (event : AuditEvent) : State Key :=
  { s with pending := Function.update s.pending session (s.pending session ++ [event]) }

def commitSession (s : State Key) (session : SessionId) : State Key :=
  { s with
    rows := s.rows.commit session
    auditEvents := s.auditEvents ++ s.pending session
    pending := Function.update s.pending session [] }

def rollbackSession (s : State Key) (session : SessionId) : State Key :=
  { s with
    rows := s.rows.rollback session
    pending := Function.update s.pending session [] }

def writeRow (s : State Key) (session : SessionId) (point : PointId) (row : Option LightPoint) : State Key :=
  { s with rows := s.rows.write session point row }

end State

def jobStep (s : State Key) (id : JobId) (job : Job) : Label → Option (State Key)
  | .read _ => if job.phase = .reading then some (s.readRow env id job) else none
  | .find _ =>
    match job.phase with
    | .finding read => some (s.findRow id job read)
    | _ => none
  | .lookUp _ =>
    match job.phase with
    | .geocoding read => some (s.lookUpCache id job read)
    | _ => none
  | .fetched _ data =>
    match job.phase with
    | .fetching read => some (s.receive id job read data)
    | _ => none
  | .suggest _ =>
    match job.phase, job.kind with
    | .suggesting read, .addressSuggestion language => some (s.joinCall env id job read language)
    | _, _ => none
  | .resume _ =>
    match job.phase with
    | .waiting read call =>
      match (s.calls call).bind (·.outcome) with
      | some (.ok suggestion) => some (s.resumeJob id job read suggestion)
      | some (.error _) => some (s.finish id)
      | none => none
    | _ => none
  | .begin _ =>
    match job.phase with
    | .beginning read address => some (s.setPhase id { job with startedAt := s.now } (.locking read address))
    | _ => none
  | .lock _ =>
    match job.phase with
    | .locking read address => if s.rows.Free (.job id) job.point then some (s.lockRow id job read address) else none
    | _ => none
  | .update _ =>
    match job.phase with
    | .updating read address current => some (s.updateRow id job read address current)
    | _ => none
  | .audit _ =>
    match job.phase with
    | .auditing read address current =>
      some ((s.setPhase id job (.stored read address current)).recordEvent (.job id) (job.event current address))
    | _ => none
  | .commit _ =>
    match job.phase with
    | .stored _ _ _ => some ((s.finish id).commitSession (.job id))
    | .unchanged => some ((s.finish id).commitSession (.job id))
    | _ => none
  | .giveUp _ => some ((s.finish id).rollbackSession (.job id))
  | _ => none

/-- A transaction of any other code: it inserts at the next id, changes what it sees, and deletes. -/
def writerStep (s : State Key) : Label → Option (State Key)
  | .insert writer row => some { s.writeRow (.writer writer) s.nextPointId (some row) with
      nextPointId := s.nextPointId + 1 }
  | .rewrite writer point row =>
    if s.rows.Free (.writer writer) point ∧ (s.rows.view (.writer writer) point).isSome then
      some (s.writeRow (.writer writer) point (some row))
    else none
  | .delete writer point =>
    if s.rows.Free (.writer writer) point ∧ (s.rows.view (.writer writer) point).isSome then
      some (s.writeRow (.writer writer) point none)
    else none
  | .record writer event => some (s.recordEvent (.writer writer) event)
  | .commitWriter writer => some (s.commitSession (.writer writer))
  | .rollbackWriter writer => some (s.rollbackSession (.writer writer))
  | _ => none

def Label.jobId : Label → Option JobId
  | read id | find id | lookUp id | fetched id _ | suggest id | resume id | begin id | lock id | update id | audit id
  | commit id | giveUp id => some id
  | _ => none

/-- What happens outside the jobs and the other transactions. A `restart` takes what the process
remembers; its jobs give up. -/
def worldStep (s : State Key) : Label → Option (State Key)
  | .tick => some { s with now := s.now + 1 }
  | .start kind point =>
    some { s with
      jobs := Function.update s.jobs s.nextJob (some ⟨kind, point, 0, .reading⟩), nextJob := s.nextJob + 1 }
  | .answered id value => (s.calls id).bind fun call =>
      if call.outcome.isNone then some (s.answer env id call value) else none
  | .dropped id =>
    (s.calls id).bind fun call =>
      if call.outcome.isNone then some (s.settle id call (.error invalidResponse)) else none
  | .restart => some { s with cache := fun _ => none, inFlight := fun _ => none }
  | _ => none

def step (s : State Key) (label : Label) : Option (State Key) :=
  match label.jobId with
  | some id => (s.jobs id).bind fun job => jobStep env s id job label
  | none => (worldStep env s label).or (writerStep s label)

def Step (s : State Key) (label : Label) (t : State Key) : Prop := step env s label = some t

/-- No process has begun anything: the inventory and its history are as they are. -/
structure Initial (s : State Key) : Prop where
  locks : ∀ point, s.rows.locks point = none
  fresh : ∀ point, s.nextPointId ≤ point → s.rows.committed point = none
  pending : ∀ session, s.pending session = []
  cache : ∀ key, s.cache key = none
  inFlight : ∀ key, s.inFlight key = none
  calls : ∀ id, s.calls id = none
  jobs : ∀ id, s.jobs id = none

end Steps

end PublicLighting.Geocoding
