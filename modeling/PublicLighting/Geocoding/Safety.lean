import PublicLighting.Geocoding.Moves

/-! A geocoded address is stored on a row that stands where it stood when the job read it, with one
audit event, and never brings a deleted point back. -/

namespace PublicLighting.Geocoding

open Foundations Inventory

variable {Key : Type} {env : Environment Key} {s₀ s t : State Key} {labels : List Label} {label : Label}
variable {id : JobId} {job : Job} {read current : LightPoint} {address : String} {point : PointId}

/-! What the steps do to the inventory. -/

section Rows

def Label.commits : Label → Bool
  | commit _ | commitWriter _ => true
  | _ => false

def Quiet (s t : State Key) : Prop :=
  t.rows = s.rows ∧ t.auditEvents = s.auditEvents ∧ t.nextPointId = s.nextPointId

theorem readRow_quiet : Quiet s (s.readRow env id job) := by
  unfold State.readRow
  cases s.rows.committed job.point with
  | none => exact ⟨rfl, rfl, rfl⟩
  | some row =>
      cases job.kind with
      | ensureLightPointAddress => dsimp only; split <;> exact ⟨rfl, rfl, rfl⟩
      | addressSuggestion => dsimp only; split <;> exact ⟨rfl, rfl, rfl⟩

theorem findRow_quiet : Quiet s (s.findRow id job read) := by
  unfold State.findRow
  cases s.rows.committed job.point with
  | none => exact ⟨rfl, rfl, rfl⟩
  | some row => dsimp only; split <;> exact ⟨rfl, rfl, rfl⟩

theorem lookUpCache_quiet : Quiet s (s.lookUpCache id job read) := by
  unfold State.lookUpCache
  split
  · exact ⟨rfl, rfl, rfl⟩
  · cases s.cache (cacheKey (placeOf read)) <;> exact ⟨rfl, rfl, rfl⟩

theorem resumeJob_quiet {suggestion : Option AddressSuggestion} : Quiet s (s.resumeJob id job read suggestion) := by
  unfold State.resumeJob
  cases presentAddress (suggestion.map (·.address)) with
  | none => exact ⟨rfl, rfl, rfl⟩
  | some => dsimp only; split <;> exact ⟨rfl, rfl, rfl⟩

/-- How a step moves the rows, and that the history only grows when a transaction commits. -/
structure Effect (point : PointId) (label : Label) (s t : State Key) : Prop where
  rows : point < s.nextPointId → RowLocks.Moves point s.rows t.rows
  nextPointId : s.nextPointId ≤ t.nextPointId
  quiet : label.commits = false → t.rows.committed = s.rows.committed ∧ t.auditEvents = s.auditEvents

theorem Quiet.effect (quiet : Quiet s t) : Effect point label s t where
  rows := by
    rw [quiet.1]
    exact fun _ => .still
  nextPointId := quiet.2.2.ge
  quiet := fun _ => ⟨congrArg _ quiet.1, quiet.2.1⟩

theorem lockRow_effect : Effect point label s (s.lockRow id job read address) := by
  unfold State.lockRow
  cases viewed : s.rows.view (.job id) job.point with
  | none => exact Quiet.effect ⟨rfl, rfl, rfl⟩
  | some current =>
      refine ⟨fun _ => .write _ _ _ fun here unseen => ?_, Nat.le_refl _, fun _ => ⟨rfl, rfl⟩⟩
      rw [← here, viewed] at unseen
      cases unseen

theorem updateRow_effect : Effect point label s (s.updateRow id job read address current) := by
  unfold State.updateRow
  cases viewed : s.rows.view (.job id) job.point with
  | none => cases job.kind <;> exact Quiet.effect ⟨rfl, rfl, rfl⟩
  | some row =>
      refine ⟨fun _ => .write _ _ _ fun here unseen => ?_, Nat.le_refl _, fun _ => ⟨rfl, rfl⟩⟩
      rw [← here, viewed] at unseen
      cases unseen

theorem writerStep_effect (taken : writerStep s label = some t) : Effect point label s t := by
  unfold writerStep at taken
  split at taken
  · cases taken
    exact ⟨fun below => .write _ _ _ fun here => absurd here (Nat.ne_of_gt below), Nat.le_succ _,
      fun _ => ⟨rfl, rfl⟩⟩
  · split at taken
    · rename_i usable
      cases taken
      refine ⟨fun _ => .write _ _ _ fun here unseen => ?_, Nat.le_refl _, fun _ => ⟨rfl, rfl⟩⟩
      rw [here, unseen] at usable
      cases usable.2
    · cases taken
  · split at taken
    · cases taken
      exact ⟨fun _ => .write _ _ _ fun _ _ => rfl, Nat.le_refl _, fun _ => ⟨rfl, rfl⟩⟩
    · cases taken
  · cases taken
    exact Quiet.effect ⟨rfl, rfl, rfl⟩
  · cases taken
    exact ⟨fun _ => .commit _, Nat.le_refl _, fun none => by cases none⟩
  · cases taken
    exact ⟨fun _ => .rollback _, Nat.le_refl _, fun _ => ⟨rfl, rfl⟩⟩
  · cases taken

end Rows

def Replaces (kind : JobKind) (read current : LightPoint) : Prop :=
  match kind with
  | .ensureLightPointAddress _ _ => current.address = read.address
  | .addressSuggestion _ => presentAddress current.address = none

/-- The place that the address was computed for is the row's own, but for the rounding of the cache key. -/
def Near (kind : JobKind) (place computed : Place) : Prop :=
  match kind with
  | .ensureLightPointAddress _ _ =>
    |computed.latitude - place.latitude| ≤ 1 / 10 ^ 5 ∧ |computed.longitude - place.longitude| ≤ 1 / 10 ^ 5
  | .addressSuggestion _ => computed = place

theorem stores_here {kind : JobKind} (stores : kind.stores read current address) :
    placeOf current = placeOf read := by
  cases kind with
  | ensureLightPointAddress force manual => exact (of_decide_eq_true stores).1
  | addressSuggestion language => exact (of_decide_eq_true stores).1

theorem stores_replaces {kind : JobKind} (stores : kind.stores read current address) :
    Replaces kind read current := by
  cases kind with
  | ensureLightPointAddress force manual => exact (of_decide_eq_true stores).2.1
  | addressSuggestion language => exact (of_decide_eq_true stores).2

def Distinguishes (env : Environment Key) : Prop :=
  ∀ place other language otherLanguage, env.coalescingKey place language =
    env.coalescingKey other otherLanguage → place = other

theorem serves_near (distinguishes : Distinguishes env) {kind : JobKind} {asked computed : Place}
    (serves : Serves env kind asked computed) : Near kind asked computed := by
  cases kind with
  | ensureLightPointAddress force manual => exact cacheKey_close serves
  | addressSuggestion language =>
      obtain ⟨other, same⟩ := serves
      exact distinguishes _ _ _ _ same

theorem untouched_commit {session : SessionId} (untouched : Untouched s session) :
    (s.rows.commit session).committed = s.rows.committed ∧ s.auditEvents ++ s.pending session = s.auditEvents := by
  rcases untouched with clear | ⟨point, current, locked⟩
  · exact ⟨clear.rows.commit, by rw [clear.pending, List.append_nil]⟩
  · refine ⟨?_, by rw [locked.pending, List.append_nil]⟩
    rw [locked.only.commit, ← locked.committed, Function.update_eq_self]

variable [DecidableEq Key]

section Steps

theorem joinCall_quiet {language : ReportAddressLanguage} : Quiet s (s.joinCall env id job read language) := by
  unfold State.joinCall
  cases s.inFlight (env.coalescingKey (placeOf read) language) <;> exact ⟨rfl, rfl, rfl⟩

theorem jobStep_effect (taken : jobStep env s id job label = some t) : Effect point label s t := by
  unfold jobStep at taken
  split at taken
  · split at taken
    · cases taken
      exact readRow_quiet.effect
    · cases taken
  · split at taken
    · cases taken
      exact findRow_quiet.effect
    · cases taken
  · split at taken
    · cases taken
      exact lookUpCache_quiet.effect
    · cases taken
  · split at taken
    · cases taken
      exact Quiet.effect ⟨rfl, rfl, rfl⟩
    · cases taken
  · split at taken
    · cases taken
      exact joinCall_quiet.effect
    · cases taken
  · split at taken
    · split at taken
      · cases taken
        exact resumeJob_quiet.effect
      · cases taken
        exact Quiet.effect ⟨rfl, rfl, rfl⟩
      · cases taken
    · cases taken
  · split at taken
    · cases taken
      exact Quiet.effect ⟨rfl, rfl, rfl⟩
    · cases taken
  · split at taken
    · split at taken
      · cases taken
        exact lockRow_effect
      · cases taken
    · cases taken
  · split at taken
    · cases taken
      exact updateRow_effect
    · cases taken
  · split at taken
    · cases taken
      exact Quiet.effect ⟨rfl, rfl, rfl⟩
    · cases taken
  · split at taken
    · cases taken
      exact ⟨fun _ => .commit _, Nat.le_refl _, fun none => by cases none⟩
    · cases taken
      exact ⟨fun _ => .commit _, Nat.le_refl _, fun none => by cases none⟩
    · cases taken
  · cases taken
    exact ⟨fun _ => .rollback _, Nat.le_refl _, fun _ => ⟨rfl, rfl⟩⟩
  · cases taken

theorem worldStep_effect (taken : worldStep env s label = some t) : Effect point label s t := by
  unfold worldStep at taken
  split at taken
  · cases taken
    exact Quiet.effect ⟨rfl, rfl, rfl⟩
  · cases taken
    exact Quiet.effect ⟨rfl, rfl, rfl⟩
  · obtain ⟨call, found, taken⟩ := Option.bind_eq_some_iff.mp taken
    split at taken
    · cases taken
      exact Quiet.effect ⟨rfl, rfl, rfl⟩
    · cases taken
  · obtain ⟨call, found, taken⟩ := Option.bind_eq_some_iff.mp taken
    split at taken
    · cases taken
      exact Quiet.effect ⟨rfl, rfl, rfl⟩
    · cases taken
  · cases taken
    exact Quiet.effect ⟨rfl, rfl, rfl⟩
  · cases taken

theorem step_effect (point : PointId) (taken : Step env s label t) : Effect point label s t := by
  unfold Step step at taken
  cases mine : label.jobId with
  | some id =>
      rw [mine] at taken
      obtain ⟨job, found, taken⟩ := Option.bind_eq_some_iff.mp taken
      exact jobStep_effect taken
  | none =>
      rw [mine] at taken
      rcases Option.or_eq_some_iff.mp taken with taken | ⟨_, taken⟩
      · exact worldStep_effect taken
      · exact writerStep_effect taken

end Steps

section Runs

theorem writerStep_inv (inv : Inv env s₀ labels s) (taken : writerStep s label = some t) :
    Inv env s₀ (labels ++ [label]) t := by
  have remembers : ∀ {t : State Key}, t.cache = s.cache → t.calls = s.calls → t.nextCall = s.nextCall →
      t.inFlight = s.inFlight → t.answers = s.answers → Remembers env t := by
    intro t cache calls nextCall inFlight answers
    have same := inv.remembers
    exact ⟨by rw [cache, answers]; exact same.cache, by rw [calls, answers]; exact same.calls,
      by rw [nextCall, calls]; exact same.freshCalls, by rw [inFlight, calls]; exact same.inFlight⟩
  have written : ∀ {session : SessionId} {point : PointId} {row : Option LightPoint}, (∀ id, session ≠ .job id) →
      s.rows.Free session point → ∀ id, Spares (.job id) s (s.writeRow session point row) := by
    intro session point row writer free id
    exact ⟨.write free (writer id), rfl, List.Subset.refl _, fun _ call found => ⟨call, found, rfl⟩⟩
  have below : ∀ {session : SessionId} {point : PointId}, (s.rows.view session point).isSome = true →
      point < s.nextPointId := by
    intro session point viewed
    by_contra beyond
    obtain ⟨absent, unlocked⟩ := inv.freshPoints point (Nat.le_of_not_lt beyond)
    rw [RowLocks.view_unlocked unlocked, absent] at viewed
    cases viewed
  have fresh : ∀ {session : SessionId} {point : PointId} {row : Option LightPoint}, point < s.nextPointId →
      ∀ other, s.nextPointId ≤ other → (s.rows.write session point row).committed other = none ∧
        (s.rows.write session point row).locks other = none := by
    intro session point row below other beyond
    obtain ⟨absent, unlocked⟩ := inv.freshPoints other beyond
    exact ⟨absent, (RowLocks.write_locks_of_ne (Nat.ne_of_gt (below.trans_le beyond))).trans unlocked⟩
  unfold writerStep at taken
  split at taken
  · rename_i writer row
    cases taken
    have unlocked := (inv.freshPoints s.nextPointId (Nat.le_refl _)).2
    have free : s.rows.Free (.writer writer) s.nextPointId := by simp [RowLocks.Free, unlocked]
    have spares := fun id => @written (.writer writer) s.nextPointId (some row) (fun _ => by simp) free id
    refine inv.around rfl rfl (fun id => ?_) ?_ (remembers rfl rfl rfl rfl rfl)
    · exact ⟨(spares id).rows, rfl, List.Subset.refl _, (spares id).calls⟩
    · intro other beyond
      have later : s.nextPointId < other := beyond
      obtain ⟨absent, unlocked⟩ := inv.freshPoints other (Nat.le_of_lt later)
      exact ⟨absent, (RowLocks.write_locks_of_ne (Nat.ne_of_gt later)).trans unlocked⟩
  · split at taken
    · rename_i writer point row usable
      cases taken
      exact inv.around rfl rfl (written (fun _ => by simp) usable.1) (fresh (below usable.2))
        (remembers rfl rfl rfl rfl rfl)
    · cases taken
  · split at taken
    · rename_i writer point usable
      cases taken
      exact inv.around rfl rfl (written (fun _ => by simp) usable.1) (fresh (below usable.2))
        (remembers rfl rfl rfl rfl rfl)
    · cases taken
  · rename_i writer event
    cases taken
    refine inv.around rfl rfl (fun id => ?_) inv.freshPoints (remembers rfl rfl rfl rfl rfl)
    have pending : (s.recordEvent (.writer writer) event).pending (.job id) = s.pending (.job id) := by
      simp [State.recordEvent]
    exact ⟨.refl _ s.rows, pending, List.Subset.refl _, fun _ call found => ⟨call, found, rfl⟩⟩
  · cases taken
    exact inv.around rfl rfl (fun _ => .end (by simp) (Or.inl rfl) rfl rfl rfl)
      (fun point beyond => commit_fresh (inv.freshPoints point beyond)) (remembers rfl rfl rfl rfl rfl)
  · cases taken
    exact inv.around rfl rfl (fun _ => .end (by simp) (Or.inr rfl) rfl rfl rfl)
      (fun point beyond => rollback_fresh (inv.freshPoints point beyond)) (remembers rfl rfl rfl rfl rfl)
  · cases taken

theorem job_below (inv : Inv env s₀ labels s) (found : s.jobs id = some job) : id < s.nextJob := by
  by_contra beyond
  rw [inv.freshJobs id (Nat.le_of_not_lt beyond)] at found
  cases found

theorem inv_step (inv : Inv env s₀ labels s) (run : Run (Step env) s₀ labels s) (taken : Step env s label t) :
    Inv env s₀ (labels ++ [label]) t := by
  unfold Step step at taken
  cases mine : label.jobId with
  | some id =>
      rw [mine] at taken
      obtain ⟨job, found, taken⟩ := Option.bind_eq_some_iff.mp taken
      exact inv.moves (job_below inv found) (jobStep_moves inv run found mine taken)
  | none =>
      rw [mine] at taken
      rcases Option.or_eq_some_iff.mp taken with taken | ⟨_, taken⟩
      · exact worldStep_inv inv taken
      · exact writerStep_inv inv taken

theorem inv_run (start : Initial s₀) (run : Run (Step env) s₀ labels s) : Inv env s₀ labels s := by
  induction run with
  | nil => exact start.inv
  | snoc before taken ih => exact inv_step ih before taken

end Runs

section Stored

/-- What the transaction of a job does when it stores an address: the row stands where the job read it
to stand, nothing else of the inventory changes, and the history has one event more. -/
structure Stores (env : Environment Key) (s₀ : State Key) (labels : List Label) (s t : State Key) (id : JobId)
    (job : Job)
    (read current : LightPoint) (address : String) (computed : Place) (now : Nat) : Prop where
  seen : WasRead env s₀ labels id job.point read
  said : (computed, address) ∈ s.answers
  serves : Serves env job.kind (placeOf read) computed
  committed : s.rows.committed job.point = some current
  here : placeOf current = placeOf read
  replaces : Replaces job.kind read current
  stored : t.rows.committed = Function.update s.rows.committed job.point (some (job.stamp now address current))
  recorded : t.auditEvents = s.auditEvents ++ [job.event current address]

theorem commit_stores (inv : Inv env s₀ labels s) (taken : Step env s (.commit id) t) :
    t.rows.committed = s.rows.committed ∧ t.auditEvents = s.auditEvents ∨
      ∃ job read current address computed now, s.jobs id = some job ∧
        Stores env s₀ labels s t id job read current address computed now := by
  obtain ⟨job, found, taken⟩ := Option.bind_eq_some_iff.mp taken
  have fits := inv.fits id job found
  simp only [jobStep] at taken
  split at taken
  · rename_i read address current phase
    rw [phase] at fits
    cases taken
    obtain ⟨seen, ⟨computed, said, serves⟩, checked, now, locked⟩ := fits
    exact Or.inr ⟨job, read, current, address, computed, now, found, seen, said, serves, locked.committed,
      stores_here checked, stores_replaces checked, locked.only.commit, congrArg (s.auditEvents ++ ·) locked.pending⟩
  · rename_i phase
    rw [phase] at fits
    cases taken
    have kept : Untouched s (.job id) := fits
    exact Or.inl (@untouched_commit _ s _ kept)
  · cases taken

/-- A committed row is there, or nobody ever writes it again. -/
theorem settled_run (run : Run (Step env) s labels t) (below : point < s.nextPointId)
    (settled : s.rows.Settled point) :
    t.rows.Settled point ∧ point < t.nextPointId := by
  induction run with
  | nil => exact ⟨settled, below⟩
  | snoc before taken ih =>
      have effect := step_effect point taken
      exact ⟨(effect.rows ih.2).settled ih.1, ih.2.trans_le effect.nextPointId⟩

theorem absent_run (run : Run (Step env) s labels t) (below : point < s.nextPointId) (absent : s.rows.Absent point) :
    t.rows.Absent point ∧ point < t.nextPointId := by
  induction run with
  | nil => exact ⟨absent, below⟩
  | snoc before taken ih =>
      have effect := step_effect point taken
      exact ⟨(effect.rows ih.2).absent ih.1, ih.2.trans_le effect.nextPointId⟩

/-- In every run: a job's commit changes nothing, or it stores an address that was computed for where the row
stands, in place of the address that the job had read or of a blank one, with its one audit event; nothing but
a commit changes the inventory or its history; and a point that is gone stays gone. -/
theorem stored_addresses (distinguishes : Distinguishes env) (start : Initial s₀)
    (run : Run (Step env) s₀ labels s) :
    (∀ id t, Step env s (.commit id) t → t.rows.committed = s.rows.committed ∧ t.auditEvents = s.auditEvents ∨
      ∃ job read current address computed now, s.jobs id = some job ∧
        Stores env s₀ labels s t id job read current address computed now ∧
          Near job.kind (placeOf current) computed) ∧
      (∀ label t, Step env s label t → label.commits = false →
        t.rows.committed = s.rows.committed ∧ t.auditEvents = s.auditEvents) ∧
      ∀ point later t, s.rows.committed point ≠ none → Run (Step env) s later t → t.rows.committed point = none →
        ∀ further u, Run (Step env) t further u → u.rows.committed point = none := by
  have inv := inv_run start run
  refine ⟨fun id t taken => ?_, fun label t taken quiet => (step_effect 0 taken).quiet quiet, ?_⟩
  · rcases commit_stores inv taken with same | ⟨job, read, current, address, computed, now, found, stores⟩
    · exact Or.inl same
    · have near := serves_near distinguishes stores.serves
      rw [← stores.here] at near
      exact Or.inr ⟨job, read, current, address, computed, now, found, stores, near⟩
  · intro point later t present first gone further u second
    obtain ⟨row, present'⟩ := Option.ne_none_iff_exists'.mp present
    obtain ⟨settled, below⟩ := settled_run first (inv.below present') (Or.inl present)
    have absent : t.rows.Absent point := settled.resolve_left fun there => there gone
    exact (absent_run second below absent).1.committed

end Stored

section Neighbours

def plain : Environment (Place × ReportAddressLanguage) where
  autoGeocode := true
  classifyInside := fun _ => true
  normalizeNFC := fun text => text
  coalescingKey := Prod.mk

def emptyInventory : State (Place × ReportAddressLanguage) where
  now := 0
  rows := ⟨fun _ => none, fun _ => none⟩
  nextPointId := 1
  auditEvents := []
  pending := fun _ => []
  cache := fun _ => none
  inFlight := fun _ => none
  calls := fun _ => none
  nextCall := 0
  jobs := fun _ => none
  nextJob := 0
  answers := []

theorem emptyInventory_initial : Initial emptyInventory :=
  ⟨fun _ => rfl, fun _ _ => rfl, fun _ => rfl, fun _ => rfl, fun _ => rfl, fun _ => rfl, fun _ => rfl⟩

def lamp (inventoryNumber : String) (latitude : ℚ) : LightPoint :=
  ⟨inventoryNumber, none, 85 / 4, latitude, none, none, none, none, .active, 0⟩

def lamps : List Label :=
  [.insert 0 (lamp "L-1" (195 / 4)), .insert 0 (lamp "L-2" (195 / 4 + 1 / 2097152)), .commitWriter 0]

def hlavna : NominatimReverseResponse := ⟨"48.75", "21.25", some "Hlavná 1, Košice", none⟩

def geocodesFirst : List Label :=
  [.start (.ensureLightPointAddress false false) 1, .read 0, .lookUp 0, .fetched 0 hlavna, .begin 0,
    .lock 0, .update 0,
    .audit 0, .commit 0]

def geocodesSecond : List Label :=
  [.start (.ensureLightPointAddress false false) 2, .read 1, .lookUp 1, .begin 1, .lock 1, .update 1, .audit 1]

/-- The second lamp is given an address that was computed for the place of the first alone. -/
def StoresElsewhere (s t : State (Place × ReportAddressLanguage)) (point : PointId) (address : String) : Bool :=
  (t.rows.committed point).any fun row =>
    row.address = some address ∧ s.rows.committed point ≠ some row ∧ (placeOf row, address) ∉ t.answers

theorem neighbour_run : ∃ s t, Run (Step plain) emptyInventory (lamps ++ geocodesFirst ++ geocodesSecond) s ∧
    Step plain s (.commit 1) t ∧ t.auditEvents.length = s.auditEvents.length + 1 ∧
      StoresElsewhere s t 2 "Hlavná 1, Košice" := by
  have replayed : ((lamps ++ geocodesFirst ++ geocodesSecond).foldlM (step plain) emptyInventory).any (fun s =>
      (step plain s (.commit 1)).any fun t => t.auditEvents.length = s.auditEvents.length + 1 ∧
        StoresElsewhere s t 2 "Hlavná 1, Košice") = true := by
    decide +kernel
  obtain ⟨s, folded, stepped⟩ := (Option.any_eq_true ..).mp replayed
  obtain ⟨t, taken, reached⟩ := (Option.any_eq_true ..).mp stepped
  have reached := of_decide_eq_true reached
  exact ⟨s, t, .of_foldlM folded, taken, reached.1, reached.2⟩

theorem neighbour_stored : ¬ ∀ (env : Environment (Place × ReportAddressLanguage))
    (s₀ : State (Place × ReportAddressLanguage)),
    Initial s₀ → ∀ labels s id t, Run (Step env) s₀ labels s → Step env s (.commit id) t → ∀ point row,
      t.rows.committed point = some row → s.rows.committed point ≠ some row → ∀ address, row.address = some address →
        (placeOf row, address) ∈ t.answers := by
  intro claim
  obtain ⟨s, t, run, taken, _, elsewhere⟩ := neighbour_run
  obtain ⟨row, present, wrong⟩ := (Option.any_eq_true ..).mp elsewhere
  obtain ⟨given, changed, unsaid⟩ := of_decide_eq_true wrong
  exact unsaid (claim plain emptyInventory emptyInventory_initial _ s 1 t run taken 2 row present changed _ given)

/-- It is stored where the second lamp stands, by the rules. -/
theorem neighbour_addressed : ∃ labels s t job read current address computed now,
    Run (Step plain) emptyInventory labels s ∧
    Step plain s (.commit 1) t ∧ Stores plain emptyInventory labels s t 1 job read current address computed now ∧
      Near job.kind (placeOf current) computed := by
  obtain ⟨s, t, run, taken, grown, _⟩ := neighbour_run
  have distinguishes : Distinguishes plain := fun _ _ _ _ same => (Prod.mk.inj same).1
  rcases (stored_addresses distinguishes emptyInventory_initial run).1 1 t taken with ⟨_, same⟩ | stored
  · rw [same] at grown
    exact absurd grown (Nat.ne_of_lt (Nat.lt_succ_self _))
  · obtain ⟨job, read, current, address, computed, now, _, stores, near⟩ := stored
    exact ⟨_, s, t, job, read, current, address, computed, now, run, taken, stores, near⟩

end Neighbours

end PublicLighting.Geocoding
