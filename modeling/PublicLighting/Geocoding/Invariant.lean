import PublicLighting.Geocoding.Jobs

/-! What is so of every job of a run: what it has read, where its address comes from, what it has
locked and what it will record. -/

namespace PublicLighting.Geocoding

open Foundations Inventory
open Foundations.RowLocks (HoldsNone HoldsOnly)

variable {Key : Type}

/-- Nothing of the transaction is left. -/
structure Clear (s : State Key) (session : SessionId) : Prop where
  rows : s.rows.HoldsNone session
  pending : s.pending session = []

/-- The transaction has locked the row `current` and made it `version`. -/
structure Locked (s : State Key) (session : SessionId) (point : PointId) (current : LightPoint)
    (version : Option LightPoint) (events : List AuditEvent) : Prop where
  committed : s.rows.committed point = some current
  only : s.rows.HoldsOnly session point version
  pending : s.pending session = events

section Parts

variable (env : Environment Key)

/-- The provider was asked for `computed` in place of `asked`. -/
def Serves (kind : JobKind) (asked computed : Place) : Prop :=
  match kind with
  | .ensureLightPointAddress _ _ => cacheKey computed = cacheKey asked
  | .addressSuggestion language => ∃ other, env.coalescingKey computed other = env.coalescingKey asked language

def Answered (s : State Key) (kind : JobKind) (asked : Place) (address : String) : Prop :=
  ∃ computed, (computed, address) ∈ s.answers ∧ Serves env kind asked computed

def Geocodes (kind : JobKind) : Prop :=
  match kind with
  | .ensureLightPointAddress _ _ => True
  | .addressSuggestion _ => False

def Asks (s : State Key) (kind : JobKind) (asked : Place) (id : CallId) : Prop :=
  match kind with
  | .ensureLightPointAddress _ _ => False
  | .addressSuggestion language => ∃ call, s.calls id = some call ∧ call.key = env.coalescingKey asked language

def Untouched (s : State Key) (session : SessionId) : Prop :=
  Clear s session ∨ ∃ point current, Locked s session point current (some current) []

end Parts

/-! What a step leaves of the jobs that do not take it. -/

structure Spares (session : SessionId) (s t : State Key) : Prop where
  rows : RowLocks.Spares session s.rows t.rows
  pending : t.pending session = s.pending session
  answers : s.answers ⊆ t.answers
  calls : ∀ id call, s.calls id = some call → ∃ later, t.calls id = some later ∧ later.key = call.key

section Spared

variable {env : Environment Key} {s t : State Key} {session : SessionId} {point : PointId} {current : LightPoint}
variable {version : Option LightPoint} {events : List AuditEvent} {kind : JobKind} {asked : Place} {address : String}

theorem Clear.spared (clear : Clear s session) (spares : Spares session s t) : Clear t session where
  rows := spares.rows.holdsNone clear.rows
  pending := by rw [spares.pending, clear.pending]

theorem Locked.spared (locked : Locked s session point current version events) (spares : Spares session s t) :
    Locked t session point current version events where
  committed := by rw [spares.rows.committed point version locked.only.here, locked.committed]
  only := spares.rows.holdsOnly locked.only
  pending := by rw [spares.pending, locked.pending]

theorem Answered.grown (answered : Answered env s kind asked address) (more : s.answers ⊆ t.answers) :
    Answered env t kind asked address := by
  obtain ⟨computed, member, serves⟩ := answered
  exact ⟨computed, more member, serves⟩

theorem Asks.spared {call : CallId} (asks : Asks env s kind asked call) (spares : Spares session s t) :
    Asks env t kind asked call := by
  cases kind with
  | ensureLightPointAddress => exact asks
  | addressSuggestion language =>
      obtain ⟨found, present, same⟩ := asks
      obtain ⟨later, present', same'⟩ := spares.calls _ _ present
      exact ⟨later, present', same'.trans same⟩

theorem Spares.still (rows : t.rows = s.rows) (pending : t.pending = s.pending) (answers : s.answers ⊆ t.answers)
    (calls : t.calls = s.calls) : Spares session s t where
  rows := rows ▸ .refl session s.rows
  pending := by rw [pending]
  answers := answers
  calls := fun id call found => ⟨call, calls ▸ found, rfl⟩

end Spared

variable [DecidableEq Key]

section Fits

variable (env : Environment Key) (s₀ : State Key) (labels : List Label)

def WasRead (id : JobId) (point : PointId) (row : LightPoint) : Prop :=
  ∃ front back s, labels = front ++ .read id :: back ∧ Run (Step env) s₀ front s ∧ s.rows.committed point = some row

def Fits (s : State Key) (id : JobId) (job : Job) : Phase → Prop
  | .reading => Clear s (.job id)
  | .finding read => WasRead env s₀ labels id job.point read ∧ Clear s (.job id)
  | .suggesting read => WasRead env s₀ labels id job.point read ∧ Clear s (.job id)
  | .geocoding read => WasRead env s₀ labels id job.point read ∧ Clear s (.job id) ∧ Geocodes job.kind
  | .fetching read => WasRead env s₀ labels id job.point read ∧ Clear s (.job id) ∧ Geocodes job.kind
  | .waiting read call =>
    WasRead env s₀ labels id job.point read ∧ Clear s (.job id) ∧ Asks env s job.kind (placeOf read) call
  | .beginning read address =>
    WasRead env s₀ labels id job.point read ∧ Clear s (.job id) ∧ Answered env s job.kind (placeOf read) address
  | .locking read address =>
    WasRead env s₀ labels id job.point read ∧ Clear s (.job id) ∧ Answered env s job.kind (placeOf read) address
  | .updating read address current =>
    WasRead env s₀ labels id job.point read ∧ Answered env s job.kind (placeOf read) address ∧
      job.kind.stores read current address ∧ Locked s (.job id) job.point current (some current) []
  | .auditing read address current =>
    WasRead env s₀ labels id job.point read ∧ Answered env s job.kind (placeOf read) address ∧
      job.kind.stores read current address ∧
      ∃ now, Locked s (.job id) job.point current (some (job.stamp now address current)) []
  | .stored read address current =>
    WasRead env s₀ labels id job.point read ∧ Answered env s job.kind (placeOf read) address ∧
      job.kind.stores read current address ∧
      ∃ now, Locked s (.job id) job.point current (some (job.stamp now address current)) [job.event current address]
  | .unchanged => Untouched s (.job id)

structure Remembers (s : State Key) : Prop where
  cache : ∀ key result, s.cache key = some result →
    cacheKey result.place = key ∧ (result.place, result.address) ∈ s.answers
  calls : ∀ id call, s.calls id = some call → (∃ language, env.coalescingKey call.place language = call.key) ∧
    ∀ suggestion, call.outcome = some (.ok (some suggestion)) → (call.place, suggestion.address) ∈ s.answers ∧
      presentAddress (some suggestion.address) = some suggestion.address
  freshCalls : ∀ id, s.nextCall ≤ id → s.calls id = none
  inFlight : ∀ key id, s.inFlight key = some id → ∃ call, s.calls id = some call ∧ call.key = key

structure Inv (s : State Key) : Prop where
  fits : ∀ id job, s.jobs id = some job → Fits env s₀ labels s id job job.phase
  ended : ∀ id, s.jobs id = none → Clear s (.job id)
  freshJobs : ∀ id, s.nextJob ≤ id → s.jobs id = none
  freshPoints : ∀ point, s.nextPointId ≤ point → s.rows.committed point = none ∧ s.rows.locks point = none
  remembers : Remembers env s

end Fits

variable {env : Environment Key} {s₀ s t : State Key} {labels : List Label} {label : Label}

theorem Initial.inv (start : Initial s) : Inv env s [] s where
  fits := by simp [start.jobs]
  ended := fun _ _ => ⟨by simp [HoldsNone, start.locks], start.pending _⟩
  freshJobs := fun id _ => start.jobs id
  freshPoints := fun point beyond => ⟨start.fresh point beyond, start.locks point⟩
  remembers := {
    cache := by simp [start.cache]
    calls := by simp [start.calls]
    freshCalls := fun id _ => start.calls id
    inFlight := by simp [start.inFlight] }

section Spared

variable {id : JobId} {job : Job} {point : PointId} {row : LightPoint}

theorem WasRead.later (read : WasRead env s₀ labels id point row) :
    WasRead env s₀ (labels ++ [label]) id point row := by
  obtain ⟨front, back, s, rfl, run, found⟩ := read
  exact ⟨front, back ++ [label], s, by simp, run, found⟩

theorem Fits.later {phase : Phase} (fits : Fits env s₀ labels s id job phase) :
    Fits env s₀ (labels ++ [label]) s id job phase := by
  cases phase with
  | reading => exact fits
  | unchanged => exact fits
  | finding | suggesting | geocoding | fetching | waiting | beginning | locking | updating | auditing | stored =>
      exact ⟨fits.1.later, fits.2⟩

theorem Fits.spared {phase : Phase} (fits : Fits env s₀ labels s id job phase) (spares : Spares (.job id) s t) :
    Fits env s₀ labels t id job phase := by
  cases phase with
  | reading => exact Clear.spared fits spares
  | finding | suggesting => exact ⟨fits.1, fits.2.spared spares⟩
  | geocoding | fetching => exact ⟨fits.1, fits.2.1.spared spares, fits.2.2⟩
  | waiting => exact ⟨fits.1, fits.2.1.spared spares, fits.2.2.spared spares⟩
  | beginning | locking => exact ⟨fits.1, fits.2.1.spared spares, fits.2.2.grown spares.answers⟩
  | updating =>
      obtain ⟨read, answered, checked, locked⟩ := fits
      exact ⟨read, answered.grown spares.answers, checked, locked.spared spares⟩
  | auditing | stored =>
      obtain ⟨read, answered, checked, now, locked⟩ := fits
      exact ⟨read, answered.grown spares.answers, checked, now, locked.spared spares⟩
  | unchanged =>
      rcases fits with clear | ⟨point, current, locked⟩
      · exact Or.inl (clear.spared spares)
      · exact Or.inr ⟨point, current, locked.spared spares⟩

theorem Fits.moved {phase next : Phase} (fits : Fits env s₀ labels s id job phase) :
    Fits env s₀ labels s id { job with phase := next } phase := by
  cases phase <;> exact fits

end Spared

end PublicLighting.Geocoding
