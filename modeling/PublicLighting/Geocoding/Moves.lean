import PublicLighting.Geocoding.Invariant

/-! What each step of a job, of the process and of another transaction keeps. -/

namespace PublicLighting.Geocoding

open Foundations Inventory
open Foundations.JavaScriptText (utf16Length)
open Foundations.RowLocks (HoldsNone HoldsOnly view_not_held commit_holdsNone rollback_holdsNone)

variable {Key : Type} {env : Environment Key} {s₀ s t : State Key} {labels : List Label} {label : Label}
variable {id : JobId} {job : Job} {read current : LightPoint} {address : String}

theorem serves_cached {kind : JobKind} {asked computed : Place} (geocodes : Geocodes kind)
    (same : cacheKey computed = cacheKey asked) : Serves env kind asked computed := by
  cases kind with
  | ensureLightPointAddress => exact same
  | addressSuggestion => exact geocodes.elim

theorem receive_remembers (remembers : Remembers env s) {data : NominatimReverseResponse} :
    Remembers env (s.receive id job read data) where
  cache := by
    intro key result found
    by_cases same : key = cacheKey (placeOf read)
    · subst same
      simp only [State.receive, Function.update_self] at found
      cases found
      exact ⟨rfl, List.mem_append_right _ (List.mem_singleton_self _)⟩
    · simp only [State.receive, Function.update_of_ne same] at found
      obtain ⟨key, member⟩ := remembers.cache _ _ found
      exact ⟨key, List.mem_append_left _ member⟩
  calls := by
    intro call found present
    obtain ⟨asked, said⟩ := remembers.calls call found present
    refine ⟨asked, fun suggestion settled => ?_⟩
    obtain ⟨member, trimmed⟩ := said suggestion settled
    exact ⟨List.mem_append_left _ member, trimmed⟩
  freshCalls := remembers.freshCalls
  inFlight := remembers.inFlight

theorem answered_call (remembers : Remembers env s) {kind : JobKind} {asked : Place} {call : CallId}
    {suggestion : AddressSuggestion} (asks : Asks env s kind asked call)
    (settled : (s.calls call).bind (·.outcome) = some (.ok (some suggestion))) :
    Answered env s kind asked suggestion.address ∧
      presentAddress (some suggestion.address) = some suggestion.address := by
  cases kind with
  | ensureLightPointAddress => exact asks.elim
  | addressSuggestion language =>
      obtain ⟨found, present, same⟩ := asks
      obtain ⟨⟨other, keyed⟩, said⟩ := remembers.calls call found present
      rw [present, Option.bind_some] at settled
      obtain ⟨member, trimmed⟩ := said suggestion settled
      exact ⟨⟨found.place, member, other, keyed.trans same⟩, trimmed⟩

theorem commit_fresh {rows : RowLocks PointId (Option LightPoint) SessionId} {session : SessionId} {point : PointId}
    (fresh : rows.committed point = none ∧ rows.locks point = none) :
    (rows.commit session).committed point = none ∧ (rows.commit session).locks point = none := by
  obtain ⟨absent, unlocked⟩ := fresh
  exact ⟨(RowLocks.view_unlocked unlocked).trans absent, by simp [RowLocks.commit, RowLocks.released, unlocked]⟩

theorem rollback_fresh {rows : RowLocks PointId (Option LightPoint) SessionId} {session : SessionId}
    {point : PointId}
    (fresh : rows.committed point = none ∧ rows.locks point = none) :
    (rows.rollback session).committed point = none ∧ (rows.rollback session).locks point = none := by
  obtain ⟨absent, unlocked⟩ := fresh
  exact ⟨absent, by simp [RowLocks.rollback, RowLocks.released, unlocked]⟩

theorem Spares.end {session other : SessionId} (different : session ≠ other)
    (rows : t.rows = s.rows.commit other ∨ t.rows = s.rows.rollback other)
    (pending : t.pending = Function.update s.pending other []) (answers : t.answers = s.answers)
    (calls : t.calls = s.calls) :
    Spares session s t where
  rows := by
    rcases rows with committed | rolled
    · rw [committed]
      exact .commit different.symm
    · rw [rolled]
      exact .rollback different.symm
  pending := by rw [pending, Function.update_of_ne different]
  answers := by rw [answers]; exact List.Subset.refl _
  calls := fun _ call found => ⟨call, calls ▸ found, rfl⟩

variable [DecidableEq Key]

structure Moves (env : Environment Key) (s₀ : State Key) (labels : List Label) (id : JobId)
    (s t : State Key) : Prop where
  own : t.jobs id = none ∧ Clear t (.job id) ∨ ∃ job, t.jobs id = some job ∧ Fits env s₀ labels t id job job.phase
  others : ∀ other, other ≠ id → t.jobs other = s.jobs other
  nextJob : t.nextJob = s.nextJob
  spares : ∀ session, session ≠ .job id → Spares session s t
  freshPoints : ∀ point, t.nextPointId ≤ point → t.rows.committed point = none ∧ t.rows.locks point = none
  remembers : Remembers env t

theorem Inv.moves (inv : Inv env s₀ labels s) (below : id < s.nextJob)
    (moves : Moves env s₀ (labels ++ [label]) id s t) :
    Inv env s₀ (labels ++ [label]) t where
  fits := by
    intro other job found
    by_cases same : other = id
    · subst same
      rcases moves.own with ⟨ended, _⟩ | ⟨own, present, fits⟩
      · rw [ended] at found
        cases found
      · rw [present] at found
        cases found
        exact fits
    · rw [moves.others other same] at found
      exact (inv.fits other job found).later.spared (moves.spares _ (by simpa using same))
  ended := by
    intro other none
    by_cases same : other = id
    · subst same
      rcases moves.own with ⟨_, clear⟩ | ⟨own, present, _⟩
      · exact clear
      · rw [present] at none
        cases none
    · rw [moves.others other same] at none
      exact (inv.ended other none).spared (moves.spares _ (by simpa using same))
  freshJobs := by
    intro other beyond
    rw [moves.nextJob] at beyond
    rw [moves.others other (Nat.ne_of_gt (below.trans_le beyond))]
    exact inv.freshJobs other beyond
  freshPoints := moves.freshPoints
  remembers := moves.remembers

section Phases

theorem Inv.setPhase (inv : Inv env s₀ labels s) {phase : Phase} {startedAt : Nat}
    (fits : Fits env s₀ (labels ++ [label]) s id { job with startedAt := startedAt } phase) :
    Moves env s₀ (labels ++ [label]) id s (s.setPhase id { job with startedAt := startedAt } phase) where
  own := by
    have still : Spares (.job id) s (s.setPhase id { job with startedAt := startedAt } phase) :=
      .still rfl rfl (List.Subset.refl _) rfl
    exact Or.inr ⟨_, Function.update_self .., (fits.spared still).moved⟩
  others := fun _ different => Function.update_of_ne different ..
  nextJob := rfl
  spares := fun _ _ => .still rfl rfl (List.Subset.refl _) rfl
  freshPoints := inv.freshPoints
  remembers := ⟨inv.remembers.cache, inv.remembers.calls, inv.remembers.freshCalls, inv.remembers.inFlight⟩

theorem Inv.finish (inv : Inv env s₀ labels s) (clear : Clear s (.job id)) :
    Moves env s₀ (labels ++ [label]) id s (s.finish id) where
  own := Or.inl ⟨Function.update_self .., clear.spared (.still rfl rfl (List.Subset.refl _) rfl)⟩
  others := fun _ different => Function.update_of_ne different ..
  nextJob := rfl
  spares := fun _ _ => .still rfl rfl (List.Subset.refl _) rfl
  freshPoints := inv.freshPoints
  remembers := ⟨inv.remembers.cache, inv.remembers.calls, inv.remembers.freshCalls, inv.remembers.inFlight⟩

theorem readRow_moves (inv : Inv env s₀ labels s) (run : Run (Step env) s₀ labels s)
    (fits : Fits env s₀ labels s id job .reading) :
    Moves env s₀ (labels ++ [.read id]) id s (s.readRow env id job) := by
  unfold State.readRow
  cases found : s.rows.committed job.point with
  | none => exact inv.finish fits
  | some row =>
      have read : WasRead env s₀ (labels ++ [.read id]) id job.point row := ⟨labels, [], s, rfl, run, found⟩
      cases kind : job.kind with
      | ensureLightPointAddress force manual =>
          dsimp only
          split
          · exact inv.finish fits
          · exact inv.setPhase ⟨read, fits, by simp [Geocodes, kind]⟩
      | addressSuggestion language =>
          dsimp only
          split
          · exact inv.setPhase ⟨read, fits⟩
          · exact inv.finish fits

theorem findRow_moves (inv : Inv env s₀ labels s) (fits : Fits env s₀ labels s id job (.finding read)) :
    Moves env s₀ (labels ++ [label]) id s (s.findRow id job read) := by
  unfold State.findRow
  cases s.rows.committed job.point with
  | none => exact inv.finish fits.2
  | some row =>
      dsimp only
      split
      · exact inv.finish fits.2
      · exact inv.setPhase ⟨fits.1.later, fits.2⟩

theorem lookUpCache_moves (inv : Inv env s₀ labels s) (fits : Fits env s₀ labels s id job (.geocoding read)) :
    Moves env s₀ (labels ++ [label]) id s (s.lookUpCache id job read) := by
  obtain ⟨seen, clear, geocodes⟩ := fits
  unfold State.lookUpCache
  split
  · exact inv.finish clear
  · cases cached : s.cache (cacheKey (placeOf read)) with
    | none => exact inv.setPhase ⟨seen.later, clear, geocodes⟩
    | some result =>
        obtain ⟨same, member⟩ := inv.remembers.cache _ _ cached
        exact inv.setPhase ⟨seen.later, clear, result.place, member, serves_cached geocodes same⟩

theorem receive_moves (inv : Inv env s₀ labels s) (fits : Fits env s₀ labels s id job (.fetching read))
    {data : NominatimReverseResponse} : Moves env s₀ (labels ++ [label]) id s (s.receive id job read data) := by
  obtain ⟨seen, clear, geocodes⟩ := fits
  have still : ∀ session, Spares session s (s.receive id job read data) :=
    fun _ => .still rfl rfl (List.subset_append_left ..) rfl
  have said : (placeOf read, (geocoded (placeOf read) data).address) ∈ (s.receive id job read data).answers :=
    List.mem_append_right _ (List.mem_singleton_self _)
  exact {
    own := Or.inr ⟨_, Function.update_self .., seen.later, clear.spared (still _), placeOf read, said,
      serves_cached geocodes rfl⟩
    others := fun _ different => Function.update_of_ne different ..
    nextJob := rfl
    spares := fun session _ => still session
    freshPoints := inv.freshPoints
    remembers := receive_remembers inv.remembers }

theorem startCall_kept (remembers : Remembers env s) {call : CallId} {found : SuggestionCall Key} (key : Key)
    (present : s.calls call = some found) : (s.startCall id job read key).calls call = some found := by
  have different : call ≠ s.nextCall := by
    rintro rfl
    rw [remembers.freshCalls _ (Nat.le_refl _)] at present
    cases present
  exact (Function.update_of_ne different ..).trans present

theorem startCall_spares (remembers : Remembers env s) (session : SessionId) (key : Key) :
    Spares session s (s.startCall id job read key) where
  rows := .refl session s.rows
  pending := rfl
  answers := List.Subset.refl _
  calls := fun _ found present => ⟨found, startCall_kept remembers key present, rfl⟩

/-- A started call answers to the key that it was started for. -/
theorem startCall_remembers (remembers : Remembers env s) {language : ReportAddressLanguage} :
    Remembers env (s.startCall id job read (env.coalescingKey (placeOf read) language)) where
  cache := remembers.cache
  calls := by
    intro call found present
    by_cases same : call = s.nextCall
    · subst same
      simp only [State.startCall, Function.update_self] at present
      cases present
      exact ⟨⟨language, rfl⟩, by simp⟩
    · simp only [State.startCall, Function.update_of_ne same] at present
      exact remembers.calls call found present
  freshCalls := by
    intro call beyond
    have later : s.nextCall < call := beyond
    simp only [State.startCall, Function.update_of_ne (Nat.ne_of_gt later)]
    exact remembers.freshCalls call (Nat.le_of_lt later)
  inFlight := by
    intro key call present
    by_cases same : key = env.coalescingKey (placeOf read) language
    · subst same
      simp only [State.startCall, Function.update_self] at present
      cases present
      exact ⟨_, Function.update_self .., rfl⟩
    · simp only [State.startCall, Function.update_of_ne same] at present
      obtain ⟨found, older, named⟩ := remembers.inFlight key call present
      exact ⟨found, startCall_kept remembers _ older, named⟩

theorem joinCall_moves (inv : Inv env s₀ labels s) (fits : Fits env s₀ labels s id job (.suggesting read))
    {language : ReportAddressLanguage} (kind : job.kind = .addressSuggestion language) :
    Moves env s₀ (labels ++ [label]) id s (s.joinCall env id job read language) := by
  obtain ⟨seen, clear⟩ := fits
  unfold State.joinCall
  cases found : s.inFlight (env.coalescingKey (placeOf read) language) with
  | some call =>
      have asks : Asks env s job.kind (placeOf read) call := by
        simp only [Asks, kind]
        exact inv.remembers.inFlight _ _ found
      exact inv.setPhase ⟨seen.later, clear, asks⟩
  | none =>
      have spares : ∀ session, Spares session s
        (s.startCall id job read (env.coalescingKey (placeOf read) language)) :=
        fun session => startCall_spares inv.remembers session _
      have asks : Asks env (s.startCall id job read (env.coalescingKey (placeOf read) language)) job.kind
        (placeOf read)
          s.nextCall := by
        simp only [Asks, kind]
        exact ⟨_, Function.update_self .., rfl⟩
      exact {
        own := Or.inr ⟨_, Function.update_self .., seen.later, clear.spared (spares _), asks⟩
        others := fun _ different => Function.update_of_ne different ..
        nextJob := rfl
        spares := fun session _ => spares session
        freshPoints := inv.freshPoints
        remembers := startCall_remembers inv.remembers }

theorem resumeJob_moves (inv : Inv env s₀ labels s) {call : CallId}
    (fits : Fits env s₀ labels s id job (.waiting read call))
    {suggestion : Option AddressSuggestion} (settled : (s.calls call).bind (·.outcome) = some (.ok suggestion)) :
    Moves env s₀ (labels ++ [label]) id s (s.resumeJob id job read suggestion) := by
  obtain ⟨seen, clear, asks⟩ := fits
  unfold State.resumeJob
  cases present : presentAddress (suggestion.map (·.address)) with
  | none => exact inv.finish clear
  | some address =>
      dsimp only
      split
      · exact inv.finish clear
      · cases suggestion with
        | none => cases present
        | some suggestion =>
            obtain ⟨answered, trimmed⟩ := answered_call inv.remembers asks settled
            rw [Option.map_some, trimmed, Option.some.injEq] at present
            exact inv.setPhase ⟨seen.later, clear, present ▸ answered⟩

end Phases

section Transactions

theorem write_moves (inv : Inv env s₀ labels s) {phase : Phase} {version : Option LightPoint}
    (free : s.rows.Free (.job id) job.point) (below : job.point < s.nextPointId)
    (fits : Fits env s₀ (labels ++ [label])
      { s.setPhase id job phase with rows := s.rows.write (.job id) job.point version } id job phase) :
    Moves env s₀ (labels ++ [label]) id s
      { s.setPhase id job phase with rows := s.rows.write (.job id) job.point version } where
  own := Or.inr ⟨_, Function.update_self .., fits.moved⟩
  others := fun _ different => Function.update_of_ne different ..
  nextJob := rfl
  spares := fun session different => {
    rows := .write free different.symm
    pending := rfl
    answers := List.Subset.refl _
    calls := fun _ call found => ⟨call, found, rfl⟩ }
  freshPoints := by
    intro point beyond
    obtain ⟨absent, unlocked⟩ := inv.freshPoints point beyond
    exact ⟨absent, (RowLocks.write_locks_of_ne (Nat.ne_of_gt (below.trans_le beyond))).trans unlocked⟩
  remembers := ⟨inv.remembers.cache, inv.remembers.calls, inv.remembers.freshCalls, inv.remembers.inFlight⟩

theorem Inv.below (inv : Inv env s₀ labels s) {point : PointId} {row : LightPoint}
    (present : s.rows.committed point = some row) : point < s.nextPointId := by
  by_contra beyond
  rw [(inv.freshPoints point (Nat.le_of_not_lt beyond)).1] at present
  cases present

theorem lockRow_moves (inv : Inv env s₀ labels s) (fits : Fits env s₀ labels s id job (.locking read address))
    (free : s.rows.Free (.job id) job.point) :
    Moves env s₀ (labels ++ [label]) id s (s.lockRow id job read address) := by
  obtain ⟨seen, clear, answered⟩ := fits
  unfold State.lockRow
  cases viewed : s.rows.view (.job id) job.point with
  | none =>
      have untouched : Fits env s₀ (labels ++ [label]) s id { job with
        startedAt := job.startedAt } .unchanged := Or.inl clear
      exact inv.setPhase untouched
  | some current =>
      have committed : s.rows.committed job.point = some current := by
        rw [← view_not_held (clear.rows job.point), viewed]
      have locked : ∀ phase, Locked { s.setPhase id job phase with
          rows := s.rows.write (.job id) job.point (some current) } (.job id) job.point current (some current) [] :=
        fun _ => ⟨committed, clear.rows.write, clear.pending⟩
      apply write_moves inv free (inv.below committed)
      split
      · rename_i checked
        exact ⟨seen.later, answered, checked, locked _⟩
      · exact Or.inr ⟨job.point, current, locked _⟩

theorem updateRow_moves (inv : Inv env s₀ labels s)
    (fits : Fits env s₀ labels s id job (.updating read address current)) :
    Moves env s₀ (labels ++ [label]) id s (s.updateRow id job read address current) := by
  obtain ⟨seen, answered, checked, locked⟩ := fits
  have viewed : s.rows.view (.job id) job.point = some current := RowLocks.view_of_holder locked.only.here
  have free : s.rows.Free (.job id) job.point := by
    intro lock held
    rw [locked.only.here, Option.mem_some_iff] at held
    rw [← held]
  unfold State.updateRow
  rw [viewed]
  apply write_moves inv free (inv.below locked.committed)
  exact ⟨seen.later, answered, checked, s.now, locked.committed, locked.only.write, locked.pending⟩

theorem audit_moves (inv : Inv env s₀ labels s)
    (fits : Fits env s₀ labels s id job (.auditing read address current)) :
    Moves env s₀ (labels ++ [label]) id s
      ((s.setPhase id job (.stored read address current)).recordEvent (.job id) (job.event current address)) := by
  obtain ⟨seen, answered, checked, now, locked⟩ := fits
  have pending : ((s.setPhase id job (.stored read address current)).recordEvent (.job id)
    (job.event current address)).pending
      (.job id) = [job.event current address] := by
    simp [State.recordEvent, State.setPhase, locked.pending]
  exact {
    own := Or.inr ⟨_, Function.update_self .., seen.later, answered, checked, now, locked.committed,
      locked.only, pending⟩
    others := fun _ different => Function.update_of_ne different ..
    nextJob := rfl
    spares := fun session different => {
      rows := .refl session s.rows
      pending := Function.update_of_ne different ..
      answers := List.Subset.refl _
      calls := fun _ call found => ⟨call, found, rfl⟩ }
    freshPoints := inv.freshPoints
    remembers := ⟨inv.remembers.cache, inv.remembers.calls, inv.remembers.freshCalls, inv.remembers.inFlight⟩ }

theorem commit_moves (inv : Inv env s₀ labels s) :
    Moves env s₀ (labels ++ [label]) id s ((s.finish id).commitSession (.job id)) where
  own := Or.inl ⟨Function.update_self .., commit_holdsNone, Function.update_self ..⟩
  others := fun _ different => Function.update_of_ne different ..
  nextJob := rfl
  spares := fun _ different => .end different (Or.inl rfl) rfl rfl rfl
  freshPoints := fun point beyond => commit_fresh (inv.freshPoints point beyond)
  remembers := ⟨inv.remembers.cache, inv.remembers.calls, inv.remembers.freshCalls, inv.remembers.inFlight⟩

theorem giveUp_moves (inv : Inv env s₀ labels s) :
    Moves env s₀ (labels ++ [label]) id s ((s.finish id).rollbackSession (.job id)) where
  own := Or.inl ⟨Function.update_self .., rollback_holdsNone, Function.update_self ..⟩
  others := fun _ different => Function.update_of_ne different ..
  nextJob := rfl
  spares := fun _ different => .end different (Or.inr rfl) rfl rfl rfl
  freshPoints := fun point beyond => rollback_fresh (inv.freshPoints point beyond)
  remembers := ⟨inv.remembers.cache, inv.remembers.calls, inv.remembers.freshCalls, inv.remembers.inFlight⟩

/-- Whatever its job does, a step is one of these. -/
theorem jobStep_moves (inv : Inv env s₀ labels s) (run : Run (Step env) s₀ labels s) (found : s.jobs id = some job)
    (mine : label.jobId = some id) (taken : jobStep env s id job label = some t) :
    Moves env s₀ (labels ++ [label]) id s t := by
  have fits := inv.fits id job found
  unfold jobStep at taken
  split at taken
  · cases mine
    split at taken
    · rename_i phase
      rw [phase] at fits
      cases taken
      exact readRow_moves inv run fits
    · cases taken
  · split at taken
    · rename_i read phase
      rw [phase] at fits
      cases taken
      exact findRow_moves inv fits
    · cases taken
  · split at taken
    · rename_i read phase
      rw [phase] at fits
      cases taken
      exact lookUpCache_moves inv fits
    · cases taken
  · split at taken
    · rename_i read phase
      rw [phase] at fits
      cases taken
      exact receive_moves inv fits
    · cases taken
  · split at taken
    · rename_i read language phase kind
      rw [phase] at fits
      cases taken
      exact joinCall_moves inv fits kind
    · cases taken
  · split at taken
    · rename_i read call phase
      rw [phase] at fits
      split at taken
      · rename_i suggestion settled
        cases taken
        exact resumeJob_moves inv fits settled
      · cases taken
        exact inv.finish fits.2.1
      · cases taken
    · cases taken
  · split at taken
    · rename_i read address phase
      rw [phase] at fits
      cases taken
      exact inv.setPhase ⟨fits.1.later, fits.2⟩
    · cases taken
  · split at taken
    · rename_i read address phase
      rw [phase] at fits
      split at taken
      · rename_i free
        cases taken
        exact lockRow_moves inv fits free
      · cases taken
    · cases taken
  · split at taken
    · rename_i read address current phase
      rw [phase] at fits
      cases taken
      exact updateRow_moves inv fits
    · cases taken
  · split at taken
    · rename_i read address current phase
      rw [phase] at fits
      cases taken
      exact audit_moves inv fits
    · cases taken
  · split at taken
    · cases taken
      exact commit_moves inv
    · cases taken
      exact commit_moves inv
    · cases taken
  · cases taken
    exact giveUp_moves inv
  · cases taken

end Transactions

section Others

theorem Inv.around (inv : Inv env s₀ labels s) (jobs : t.jobs = s.jobs) (nextJob : t.nextJob = s.nextJob)
    (spares : ∀ id, Spares (.job id) s t)
    (freshPoints : ∀ point, t.nextPointId ≤ point → t.rows.committed point = none ∧ t.rows.locks point = none)
    (remembers : Remembers env t) : Inv env s₀ (labels ++ [label]) t where
  fits := by
    intro id job found
    rw [jobs] at found
    exact (inv.fits id job found).later.spared (spares id)
  ended := by
    intro id none
    rw [jobs] at none
    exact (inv.ended id none).spared (spares id)
  freshJobs := by
    rw [jobs, nextJob]
    exact inv.freshJobs
  freshPoints := freshPoints
  remembers := remembers

theorem start_inv (inv : Inv env s₀ labels s) {kind : JobKind} {point : PointId} :
    Inv env s₀ (labels ++ [label])
      { s with
        jobs := Function.update s.jobs s.nextJob (some ⟨kind, point, 0, .reading⟩), nextJob := s.nextJob + 1 } := by
  have clear := inv.ended s.nextJob (inv.freshJobs _ (Nat.le_refl _))
  have still : ∀ session, Spares session s { s with
      jobs := Function.update s.jobs s.nextJob (some ⟨kind, point, 0, .reading⟩), nextJob := s.nextJob + 1 } :=
    fun _ => .still rfl rfl (List.Subset.refl _) rfl
  refine ⟨?_, ?_, ?_, inv.freshPoints, ⟨inv.remembers.cache, inv.remembers.calls, inv.remembers.freshCalls,
    inv.remembers.inFlight⟩⟩
  · intro id job found
    by_cases same : id = s.nextJob
    · subst same
      simp only [Function.update_self] at found
      cases found
      exact clear.spared (still _)
    · simp only [Function.update_of_ne same] at found
      exact (inv.fits id job found).later.spared (still _)
  · intro id none
    by_cases same : id = s.nextJob
    · subst same
      simp only [Function.update_self] at none
      cases none
    · simp only [Function.update_of_ne same] at none
      exact (inv.ended id none).spared (still _)
  · intro id beyond
    have later : s.nextJob < id := beyond
    simp only [Function.update_of_ne (Nat.ne_of_gt later)]
    exact inv.freshJobs id (Nat.le_of_lt later)

theorem settle_spares {id : CallId} {call : SuggestionCall Key} (found : s.calls id = some call)
    {outcome : Except AddressProviderError (Option AddressSuggestion)} (session : SessionId) :
    Spares session s (s.settle id call outcome) where
  rows := .refl session s.rows
  pending := rfl
  answers := List.Subset.refl _
  calls := by
    intro other waited present
    by_cases same : other = id
    · subst same
      rw [found, Option.some.injEq] at present
      subst present
      exact ⟨_, Function.update_self .., rfl⟩
    · exact ⟨waited, (Function.update_of_ne same ..).trans present, rfl⟩

theorem settle_remembers (remembers : Remembers env s) {id : CallId} {call : SuggestionCall Key}
    (found : s.calls id = some call) {outcome : Except AddressProviderError (Option AddressSuggestion)}
    {said : List (Place × String)}
    (answered : ∀ suggestion, outcome = .ok (some suggestion) → (call.place, suggestion.address) ∈ said ∧
      presentAddress (some suggestion.address) = some suggestion.address) :
    Remembers env { s.settle id call outcome with answers := s.answers ++ said } where
  cache := by
    intro key result cached
    obtain ⟨same, member⟩ := remembers.cache key result cached
    exact ⟨same, List.mem_append_left _ member⟩
  calls := by
    intro other present same
    by_cases here : other = id
    · subst here
      simp only [State.settle, Function.update_self] at same
      cases same
      refine ⟨(remembers.calls other call found).1, fun suggestion settled => ?_⟩
      obtain ⟨member, trimmed⟩ := answered suggestion (Option.some.inj settled)
      exact ⟨List.mem_append_right _ member, trimmed⟩
    · simp only [State.settle, Function.update_of_ne here] at same
      obtain ⟨asked, earlier⟩ := remembers.calls other present same
      refine ⟨asked, fun suggestion settled => ?_⟩
      obtain ⟨member, trimmed⟩ := earlier suggestion settled
      exact ⟨List.mem_append_left _ member, trimmed⟩
  freshCalls := by
    intro other beyond
    have different : other ≠ id := by
      rintro rfl
      rw [remembers.freshCalls other beyond] at found
      cases found
    exact (Function.update_of_ne different ..).trans (remembers.freshCalls other beyond)
  inFlight := by
    intro key other joined
    have before : s.inFlight key = some other := by
      simp only [State.settle] at joined
      split at joined
      · by_cases same : key = call.key
        · subst same
          rw [Function.update_self] at joined
          cases joined
        · rwa [Function.update_of_ne same] at joined
      · exact joined
    obtain ⟨waited, present, named⟩ := remembers.inFlight key other before
    obtain ⟨later, present', named'⟩ := (@settle_spares _ s _ id call found outcome
      (.job 0)).calls other waited present
    exact ⟨later, present', named'.trans named⟩

theorem worldStep_inv (inv : Inv env s₀ labels s) (taken : worldStep env s label = some t) :
    Inv env s₀ (labels ++ [label]) t := by
  unfold worldStep at taken
  split at taken
  · cases taken
    exact inv.around rfl rfl (fun _ => .still rfl rfl (List.Subset.refl _) rfl) inv.freshPoints
      ⟨inv.remembers.cache, inv.remembers.calls, inv.remembers.freshCalls, inv.remembers.inFlight⟩
  · cases taken
    exact start_inv inv
  · rename_i id value
    obtain ⟨call, found, taken⟩ := Option.bind_eq_some_iff.mp taken
    split at taken
    · cases taken
      have settles := fun session => @settle_spares _ s _ id call found
        (normalizeProviderResult env.normalizeNFC value) session
      refine inv.around rfl rfl (fun id => ?_) inv.freshPoints (settle_remembers inv.remembers found ?_)
      · exact ⟨(settles _).rows, (settles (.job id)).pending, List.subset_append_left .., (settles (.job id)).calls⟩
      · intro suggestion settled
        rw [settled]
        exact ⟨List.mem_singleton_self _, suggestion_present settled⟩
    · cases taken
  · rename_i id
    obtain ⟨call, found, taken⟩ := Option.bind_eq_some_iff.mp taken
    split at taken
    · cases taken
      have remembers : Remembers env { s.settle id call (.error invalidResponse) with answers := s.answers ++ [] } :=
        settle_remembers inv.remembers found (by simp)
      rw [List.append_nil] at remembers
      exact inv.around rfl rfl (fun _ => settle_spares found _) inv.freshPoints remembers
    · cases taken
  · cases taken
    exact inv.around rfl rfl (fun _ => .still rfl rfl (List.Subset.refl _) rfl) inv.freshPoints
      ⟨by simp, inv.remembers.calls, inv.remembers.freshCalls, by simp⟩
  · cases taken

end Others

end PublicLighting.Geocoding
