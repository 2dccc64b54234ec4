import PublicLighting.Operations.RetentionSafety

/-! The retention run, statement by statement: whatever fails, it reports what it knows to have
deleted and keeps no lock. -/

namespace PublicLighting.Operations

open Foundations
open Foundations.Instants (toISOString)
open Foundations.OldestFirst
open Program (Scheduled On Triple await)

def Guarded (s : RetentionState) : Prop := s.link.locked = true → s.core.vars.lockHeld = true ∧ s.link.client = .held

def At (core : RetentionCore) (s : RetentionState) : Prop := s.core = core ∧ s.link.client = .held

def Idle (core : RetentionCore) (s : RetentionState) : Prop := At core s ∧ s.link.session = .idle

def Working (core : RetentionCore) (work : RetentionTables) (s : RetentionState) : Prop :=
  At core s ∧ s.link.session = .working work

section Rules

variable {α : Type} {core : RetentionCore} {work : RetentionTables} {s : RetentionState} {table : RetentionTable}
  {cutoff : ℤ}

theorem refuse_at (here : At core s) : At core (refuseRetention s) := by
  unfold refuseRetention
  split
  · exact here
  · exact here

theorem query_at {effect : RetentionState → Except RetentionError α × RetentionState}
    {before : RetentionState → Prop}
    {after : α → RetentionState → Prop} (kept : ∀ s, At core s → before s → At core (effect s).2)
    (answered : ∀ s value t, At core s → before s → effect s = (.ok value, t) → after value t) :
    Triple (On fun s => At core s ∧ before s) (retentionQuery effect)
      (fun value => On fun s => At core s ∧ after value s)
      (fun _ => On (At core)) (On (At core)) := by
  have still : ∀ s, At core s ∧ before s →
      At core (if s.link.connection = .live then effect s else (.error .query, s)).2 := by
    intro s here
    split
    · exact kept s here.1 here.2
    · exact here.1
  apply Triple.await
  · intro s value t here done
    have core := still s here
    rw [done] at core
    refine ⟨core, ?_⟩
    split at done
    · exact answered s value t here.1 here.2 done
    · cases done
  · intro s error t here done
    have core := still s here
    rw [done] at core
    exact core
  · intro s here
    exact refuse_at here.1
  · intro s here
    exact still s here
  · intro s here
    exact here.1
  · intro s here
    exact still s here

theorem begin_rule : Triple (On (Idle core)) retentionBegin (fun _ => On (Working core core.committed))
    (fun _ => On (At core))
    (On (At core)) := by
  apply query_at
  · intro s here idle
    rw [idle]
    exact here
  · intro s value t here idle done
    rw [idle] at done
    cases done
    rw [here.1]

theorem setLocal_rule : Triple (On (Working core work)) setLocal (fun _ => On (Working core work))
    (fun _ => On (At core))
    (On (At core)) := by
  apply query_at
  · intro s here working
    rw [working]
    exact here
  · intro s value t here working done
    rw [working] at done
    cases done
    exact working

theorem delete_rule : Triple (On (Working core work)) (retentionDelete table cutoff)
    (fun removed => On fun s => At core s ∧ s.link.session = .working (deleteOldest table cutoff work).2 ∧
      removed = (deleteOldest table cutoff work).1) (fun _ => On (At core)) (On (At core)) := by
  apply query_at
  · intro s here working
    rw [working]
    exact here
  · intro s removed t here working done
    rw [working] at done
    cases done
    exact ⟨rfl, rfl⟩

theorem commit_rule {removed : Nat} : Triple (On (Working core work)) (retentionCommit table removed)
    (fun _ => On (Idle { core with committed := work, chunks := core.chunks ++ [⟨table, removed, false⟩] }))
    (fun _ => On fun s => At core s ∨ At { core with
      committed := work, chunks := core.chunks ++ [⟨table, removed, false⟩] } s)
    (On fun s => At core s ∨ At { core with
      committed := work, chunks := core.chunks ++ [⟨table, removed, false⟩] } s) := by
  apply Triple.await
  · intro s value t here done
    split at done
    · rw [here.2] at done
      cases done
      rw [← here.1.1]
      exact ⟨⟨rfl, here.1.2⟩, rfl⟩
    · cases done
  · intro s error t here done
    split at done
    · rw [here.2] at done
      cases done
    · cases done
      exact Or.inl here.1
  · intro s here
    exact Or.inl here.1
  · intro s here
    split
    · rw [here.2, ← here.1.1]
      exact Or.inr ⟨rfl, here.1.2⟩
    · exact Or.inl here.1
  · intro s here
    exact Or.inl here.1
  · intro s here
    split
    · rw [here.2, ← here.1.1]
      exact Or.inr ⟨rfl, here.1.2⟩
    · exact Or.inl here.1

theorem rollback_rule {failed : RetentionError → Prop} :
    Triple (On (At core)) (Program.catching retentionRollback fun _ => (pure () : RetentionTask Unit))
      (fun _ => On (At core)) (fun error w => failed error ∧ On (At core) w) (On (At core)) := by
  refine Triple.catching ?_ fun _ => Triple.pure fun _ => id
  have rolled := @query_at _ core (fun s => (.ok (), { s with link := { s.link with session := .idle } }))
    (fun _ => True)
    (fun _ _ => True) (fun _ here _ => here) (fun _ _ _ _ _ _ => trivial)
  exact rolled.weaken (fun _ here => ⟨here, trivial⟩) (fun _ _ => And.left) (fun _ _ => id) fun _ => id

theorem assign_rule {f : RetentionCore → RetentionCore} {before after : RetentionState → Prop}
    {failed : RetentionError → Scheduled RetentionState → Prop} {dead : Scheduled RetentionState → Prop}
    (assigned : ∀ s, before s → after { s with core := f s.core }) :
    Triple (On before) (assignCore f) (fun _ => On after) failed dead :=
  Triple.update fun w here => assigned w.state here

theorem hear_rule {chunks : List RetentionChunk} {removed : Nat}
    {failed : RetentionError → Scheduled RetentionState → Prop}
    {dead : Scheduled RetentionState → Prop} :
    Triple (On (Idle { core with chunks := chunks ++ [⟨table, removed, false⟩] })) hearCommit
      (fun _ => On (Idle { core with chunks := chunks ++ [⟨table, removed, true⟩] })) failed dead := by
  apply assign_rule
  intro s here
  refine ⟨⟨?_, here.1.2⟩, here.2⟩
  change RetentionCore.mk _ _ _ _ = _
  rw [here.1.1]
  simp

end Rules

section Chunk

variable {core : RetentionCore} {table : RetentionTable} {cutoff : ℤ}

/-- The chunk is committed and known of, or it is not known of at most. -/
theorem deleteChunk_rule : Triple (On (Idle core)) (deleteChunk table cutoff)
    (fun removed => On fun s => Idle (chunkCore table cutoff true core) s ∧
      removed = (deleteOldest table cutoff core.committed).1)
    (fun _ => On fun s => At core s ∨ At (chunkCore table cutoff false core) s)
    (On fun s => At core s ∨ At (chunkCore table cutoff false core) s) := by
  refine Triple.bind (begin_rule.weaken (fun _ => id) (fun _ _ => id)
    (fun _ _ => Or.inl) fun _ => Or.inl) fun _ => ?_
  apply @Triple.catching _ _ _ _ _ _ _ _ _ (fun _ => On fun s => At core s ∨
    At (chunkCore table cutoff false core) s)
  · refine Triple.bind (setLocal_rule.weaken (fun _ => id) (fun _ _ => id)
      (fun _ _ => Or.inl) fun _ => Or.inl) fun _ => ?_
    refine Triple.bind (setLocal_rule.weaken (fun _ => id) (fun _ _ => id)
      (fun _ _ => Or.inl) fun _ => Or.inl) fun _ => ?_
    refine Triple.bind (delete_rule.weaken (fun _ => id) (fun _ _ => id)
      (fun _ _ => Or.inl) fun _ => Or.inl) fun removed => ?_
    have known : removed = (deleteOldest table cutoff core.committed).1 →
        Triple (On (Working core (deleteOldest table cutoff core.committed).2))
          (do retentionCommit table removed; hearCommit; return removed)
          (fun removed => On fun s => Idle (chunkCore table cutoff true core) s ∧
            removed = (deleteOldest table cutoff core.committed).1)
          (fun _ => On fun s => At core s ∨ At (chunkCore table cutoff false core) s)
          (On fun s => At core s ∨ At (chunkCore table cutoff false core) s) := by
      intro number
      subst number
      refine Triple.bind commit_rule fun _ => ?_
      refine Triple.bind (@hear_rule { core with
        committed := (deleteOldest table cutoff core.committed).2 } _ _ _ _ _) fun _ => ?_
      apply Triple.pure
      intro w here
      exact ⟨here, rfl⟩
    exact (Triple.given known).weaken (fun _ here => ⟨⟨here.1, here.2.1⟩, here.2.2⟩) (fun _ _ => id)
      (fun _ _ => id) fun _ => id
  · intro error
    refine Triple.bind (Triple.either ?_ ?_) fun _ => Triple.throw fun _ => id
    · exact (@rollback_rule core fun _ => True).weaken (fun _ => id) (fun _ _ => Or.inl)
        (fun _ _ holds => Or.inl holds.2)
        fun _ => Or.inl
    · exact (@rollback_rule (chunkCore table cutoff false core) fun _ => True).weaken (fun _ => id)
        (fun _ _ => Or.inr)
        (fun _ _ holds => Or.inr holds.2) fun _ => Or.inr

end Chunk

structure Ready (clock : Option (ℤ × ℤ)) (start : RetentionTables) (quota : RetentionTable → Nat)
    (s : RetentionState) : Prop where
  sound : Sound clock start quota 0 s.core
  held : s.core.vars.lockHeld = true
  client : s.link.client = .held
  idle : s.link.session = .idle

structure Stopped (clock : Option (ℤ × ℤ)) (start : RetentionTables) (quota : RetentionTable → Nat)
    (s : RetentionState) : Prop where
  sound : Sound clock start quota 1 s.core
  guarded : Guarded s

section Passes

variable {clock : Option (ℤ × ℤ)} {start : RetentionTables} {quota more : RetentionTable → Nat}
  {core : RetentionCore}
  {table : RetentionTable} {cutoff : ℤ} {s : RetentionState}

theorem Ready.stopped (ready : Ready clock start quota s) : Stopped clock start quota s :=
  ⟨{ ready.sound with unheard := ready.sound.unheard.trans (Nat.zero_le 1) }, fun _ => ⟨ready.held, ready.client⟩⟩

theorem Stopped.mono (stopped : Stopped clock start quota s) (wider : ∀ table, quota table ≤ more table) :
    Stopped clock start more s :=
  ⟨stopped.sound.mono wider, stopped.guarded⟩

theorem Ready.mono (ready : Ready clock start quota s) (wider : ∀ table, quota table ≤ more table) :
    Ready clock start more s :=
  { ready with sound := ready.sound.mono wider }

theorem update_le {count : Nat} (room : quota table + count ≤ more table) (wider : ∀ table, quota table ≤ more table)
    (other : RetentionTable) : Function.update quota table (quota table + count) other ≤ more other := by
  by_cases same : other = table
  · subst same
    rw [Function.update_self]
    exact room
  · rw [Function.update_of_ne same]
    exact wider other

theorem chunk_stopped (distinct : ∀ table, ((start table).map RetentionRow.id).Nodup)
    (limited : mayDelete clock table = isOlder cutoff)
    (sound : Sound clock start quota 0 core) (held : core.vars.lockHeld = true) (room : quota table + 1 ≤ more table)
    (wider : ∀ table, quota table ≤ more table) (here : At core s ∨ At (chunkCore table cutoff false core) s) :
    Stopped clock start more s := by
  cases here with
  | inl before =>
      obtain ⟨same, client⟩ := before
      subst same
      exact ⟨{ sound.mono wider with unheard := sound.unheard.trans (Nat.zero_le 1) }, fun _ => ⟨held, client⟩⟩
  | inr after =>
      have lost := (sound.lost distinct limited).mono (update_le room wider)
      obtain ⟨same, client⟩ := after
      rw [← same] at lost
      exact ⟨lost, fun _ => ⟨same ▸ held, client⟩⟩

theorem processTable_rule (distinct : ∀ table, ((start table).map RetentionRow.id).Nodup)
    (limited : mayDelete clock table = isOlder cutoff)
    {chunks : Nat} (room : quota table + chunks ≤ more table) (wider : ∀ table, quota table ≤ more table) :
    Triple (On (Ready clock start quota)) (processTable table cutoff chunks)
      (fun _ => On (Ready clock start (Function.update quota table (quota table + chunks))))
      (fun _ => On (Stopped clock start more)) (On (Stopped clock start more)) := by
  induction chunks generalizing quota with
  | zero =>
      apply Triple.pure
      intro w ready
      rw [Nat.add_zero, Function.update_eq_self]
      exact ready
  | succ chunks ih =>
      intro w ready
      have stopped : ∀ s, At w.state.core s ∨ At (chunkCore table cutoff false w.state.core) s →
        Stopped clock start more s :=
        fun s => chunk_stopped distinct limited ready.sound ready.held (by omega) wider
      have next := ready.sound.next distinct limited
      have nextWider : ∀ other, Function.update quota table (quota table + 1) other ≤ more other :=
        update_le (by omega) wider
      have last : Function.update (Function.update quota table (quota table + 1)) table
          (Function.update quota table (quota table + 1) table + chunks) = Function.update quota table (quota table +
            (chunks + 1)) := by
        rw [Function.update_idem, Function.update_self, Nat.add_assoc, Nat.add_comm 1]
      refine Triple.bind (deleteChunk_rule.weaken (fun _ => id) (fun _ _ => id)
        (fun _ _ => stopped _) fun _ => stopped _)
        (fun removed => ?_) w ⟨⟨rfl, ready.client⟩, ready.idle⟩
      apply Triple.given
      intro number
      rw [← number] at next
      split
      · rename_i nothing
        apply Triple.pure
        intro w here
        rw [countCore, if_pos nothing, ← here.1.1] at next
        have now : Ready clock start _ w.state := ⟨next, here.1.1 ▸ ready.held, here.1.2, here.2⟩
        exact now.mono (update_le_update_iff.mpr ⟨by omega, fun _ _ => le_rfl⟩)
      · rename_i some
        rw [countCore, if_neg some] at next
        have counted : Triple (On (Idle (chunkCore table cutoff true w.state.core)))
            (assignCore fun core => { core with counts := countChunk table removed core.counts })
            (fun _ => On (Ready clock start (Function.update quota table (quota table + 1))))
            (fun _ => On (Stopped clock start more)) (On (Stopped clock start more)) := by
          apply assign_rule
          intro s here
          rw [← here.1.1] at next
          exact ⟨next, here.1.1 ▸ ready.held, here.1.2, here.2⟩
        refine Triple.bind counted fun _ => ?_
        rw [← last]
        apply ih
        · rw [Function.update_self]
          omega
        · exact nextWider

theorem Ready.stopped_at {t : RetentionState} (ready : Ready clock start quota s) (here : At s.core t) :
    Stopped clock start quota t := by
  have sound := ready.stopped.sound
  have held := ready.held
  rw [← here.1] at sound held
  exact ⟨sound, fun _ => ⟨held, here.2⟩⟩

theorem read_rule {α : Type} {effect : RetentionState → Except RetentionError α × RetentionState}
    {after : α → RetentionState → Prop}
    (kept : ∀ s, Ready clock start quota s → (effect s).2 = s)
    (answered : ∀ s value t, Ready clock start quota s → effect s = (.ok value, t) → after value s) :
    Triple (On (Ready clock start quota)) (retentionQuery effect)
      (fun value => On fun s => Ready clock start quota s ∧ after value s)
      (fun _ => On (Stopped clock start quota)) (On (Stopped clock start quota)) := by
  intro w ready
  have same : ∀ s, At w.state.core s → s.link.session = .idle → Ready clock start quota s := by
    intro s here idle
    have sound := ready.sound
    have held := ready.held
    rw [← here.1] at sound held
    exact ⟨sound, held, here.2, idle⟩
  have ran := @query_at _ w.state.core effect (fun s => s.link.session = .idle)
    (fun value s => s.link.session = .idle ∧ after value s)
    (fun s here idle => (kept s (same s here idle)).symm ▸ here) (fun s value t here idle done => by
      have still := kept s (same s here idle)
      rw [done] at still
      subst still
      exact ⟨idle, answered t value t (same t here idle) done⟩)
  exact ran.weaken (fun _ => id) (fun _ w here => ⟨same w.state here.1 here.2.1, here.2.2⟩)
    (fun _ _ => ready.stopped_at) (fun _ => ready.stopped_at) w ⟨⟨rfl, ready.client⟩, ready.idle⟩

theorem captureClock_rule {surroundings : RetentionSurroundings} {options : RetentionOptions} :
    Triple (On (Ready clock start quota)) (captureClock surroundings options)
      (fun captured => On fun s => Ready clock start quota s ∧
        ∀ startedAt cutoff, captured = (some startedAt, some cutoff) →
          capturedClock surroundings options = some (startedAt, cutoff))
      (fun _ => On (Stopped clock start quota)) (On (Stopped clock start quota)) := by
  unfold captureClock capturedClock
  cases options.nowForTest with
  | none =>
      apply read_rule
      · intro s ready
        rw [ready.idle]
      · intro s value t ready done startedAt cutoff same
        rw [ready.idle] at done
        cases done
        cases same
        rfl
  | some now =>
      dsimp only
      split
      · rename_i cutoff' valid
        apply Triple.pure
        intro w ready
        refine ⟨ready, ?_⟩
        intro startedAt cutoff same
        cases same
        rw [valid]
      · apply Triple.throw
        intro w ready
        exact ready.stopped

end Passes

/-- Nothing is left to do. -/
structure Clear (clock : ℤ × ℤ) (surroundings : RetentionSurroundings) (tables : RetentionTables) : Prop where
  rows : ∀ table, ∀ row ∈ tables table, ¬ row.timestamp < rowLimit clock table * 1000
  batches : ∀ batch ∈ surroundings.batches, batch.status.isTerminal = true →
    ∃ completed, batch.completedAt = some completed ∧ ¬ completed < clock.2 * 1000

section Inspection

variable {clock : ℤ × ℤ} {surroundings : RetentionSurroundings} {tables : RetentionTables} {prior : RetentionCounts}

theorem clear_of_counts (importNone : importBacklog (backlogCounts surroundings clock.2 clock.1 tables prior) = 0)
    (approvedNone : approvedBacklog (backlogCounts surroundings clock.2 clock.1 tables prior) = 0) :
      Clear clock surroundings tables := by
  simp only [importBacklog, backlogCounts, Nat.add_eq_zero_iff, List.countP_eq_zero] at importNone
  simp only [approvedBacklog, backlogCounts, Nat.add_eq_zero_iff, List.countP_eq_zero] at approvedNone
  obtain ⟨⟨⟨deferred, missing⟩, pending⟩, referenced⟩ := importNone
  obtain ⟨⟨logs, events⟩, sessions⟩ := approvedNone
  constructor
  · intro table row member older
    have old : isOlder (rowLimit clock table) row = true := decide_eq_true older
    cases table with
    | adminActivityLogs => exact logs row member old
    | inventoryAuditEvents => exact events row member old
    | adminRefreshSessions => exact sessions row member old
  · intro batch member terminal
    have listed : batch ∈ surroundings.batches.filter fun batch => batch.status.isTerminal :=
      List.mem_filter.mpr ⟨member, terminal⟩
    cases done : batch.completedAt with
    | none =>
        refine absurd ?_ (missing batch listed)
        rw [done]
        rfl
    | some completed =>
        refine ⟨completed, rfl, ?_⟩
        intro early
        have expired : isExpired clock.2 batch = true := by
          rw [isExpired, done]
          exact decide_eq_true early
        have settled := pending batch listed
        have unreferenced := referenced batch listed
        have free := deferred batch listed
        simp_all

/-- A run that is complete after the inspection left nothing to do. -/
theorem clear_of_complete {vars : RetentionVars}
    (complete : (inspectedVars (backlogCounts surroundings clock.2 clock.1 tables prior) vars).state = .complete) :
    Clear clock surroundings tables := by
  unfold inspectedVars at complete
  split at complete
  · cases complete
  · rename_i none
    rw [not_or, Nat.not_lt, Nat.not_lt, Nat.le_zero, Nat.le_zero] at none
    exact clear_of_counts none.1 none.2

end Inspection

section Runs

variable {surroundings : RetentionSurroundings} {options : RetentionOptions} {start : RetentionTables} {chunks : Nat}

/-- The claim that the state makes at the end. -/
def Told (surroundings : RetentionSurroundings) (options : RetentionOptions) (core : RetentionCore) : Prop :=
  (unheardOf core.chunks ≠ [] → core.vars.state = .incomplete) ∧
    (core.vars.state = .complete → ∃ clock, capturedClock surroundings options = some clock ∧
      Clear clock surroundings core.committed)

theorem inspect_rule {quota : RetentionTable → Nat} {startedAt cutoff : ℤ}
    (captured : capturedClock surroundings options = some (startedAt, cutoff)) :
    Triple (On (Ready (capturedClock surroundings options) start quota))
      (do
        inspectBacklog surroundings cutoff startedAt
        assignCore fun core => { core with vars := inspectedVars core.counts core.vars })
      (fun _ => On fun s => Stopped (capturedClock surroundings options) start quota s ∧
        Told surroundings options s.core)
      (fun _ => On (Stopped (capturedClock surroundings options) start quota))
      (On (Stopped (capturedClock surroundings options) start quota)) := by
  have inspected : Triple (On (Ready (capturedClock surroundings options) start quota))
    (inspectBacklog surroundings cutoff startedAt)
      (fun _ => On fun s => Ready (capturedClock surroundings options) start quota s ∧
        ∃ prior, s.core.counts = backlogCounts surroundings cutoff startedAt s.core.committed prior)
      (fun _ => On (Stopped (capturedClock surroundings options) start quota))
      (On (Stopped (capturedClock surroundings options) start quota)) := by
    apply Triple.bind (@read_rule _ _ _ _ _ (fun tables s => tables = s.core.committed) _ _) fun tables => _
    · intro s ready
      rw [ready.idle]
    · intro s tables t ready done
      rw [ready.idle] at done
      cases done
      rfl
    · intro tables
      apply assign_rule
      intro s here
      obtain ⟨ready, same⟩ := here
      subst same
      exact ⟨⟨ready.sound.same rfl rfl rfl rfl, ready.held, ready.client, ready.idle⟩, s.core.counts, rfl⟩
  refine Triple.bind inspected fun _ => ?_
  apply assign_rule
  intro s here
  obtain ⟨ready, prior, same⟩ := here
  have none : unheardOf s.core.chunks = [] := List.eq_nil_of_length_eq_zero (Nat.le_zero.mp ready.sound.unheard)
  refine ⟨⟨ready.stopped.sound.same rfl rfl rfl rfl, ?_⟩, fun some => absurd none some, ?_⟩
  · intro locked
    refine ⟨?_, ready.client⟩
    change (inspectedVars s.core.counts s.core.vars).lockHeld = true
    unfold inspectedVars
    split
    · exact ready.held
    · exact ready.held
  · intro complete
    change (inspectedVars s.core.counts s.core.vars).state = .complete at complete
    rw [same] at complete
    exact ⟨_, captured, @clear_of_complete (startedAt, cutoff) _ _ _ _ complete⟩

theorem tables_rule (distinct : ∀ table, ((start table).map RetentionRow.id).Nodup) {startedAt cutoff : ℤ}
    (captured : capturedClock surroundings options = some (startedAt, cutoff)) :
    Triple (On (Ready (capturedClock surroundings options) start fun _ => 0))
      (do
        processTable .adminActivityLogs cutoff chunks
        processTable .inventoryAuditEvents cutoff chunks
        processTable .adminRefreshSessions startedAt chunks
        inspectBacklog surroundings cutoff startedAt
        assignCore fun core => { core with vars := inspectedVars core.counts core.vars })
      (fun _ => On fun s => Stopped (capturedClock surroundings options) start (fun _ => chunks) s ∧
        Told surroundings options s.core)
      (fun _ => On (Stopped (capturedClock surroundings options) start fun _ => chunks))
      (On (Stopped (capturedClock surroundings options) start fun _ => chunks)) := by
  have limited : ∀ table, mayDelete (capturedClock surroundings options) table = isOlder
    (rowLimit (startedAt, cutoff) table) := by
    intro table
    rw [captured]
    rfl
  let first := Function.update (fun _ : RetentionTable => 0) .adminActivityLogs (0 + chunks)
  let second := Function.update first .inventoryAuditEvents (first .inventoryAuditEvents + chunks)
  let third := Function.update second .adminRefreshSessions (second .adminRefreshSessions + chunks)
  have firstRoom : ∀ table, first table ≤ chunks :=
    @update_le _ (fun _ => chunks) _ _ (by simp) fun _ => Nat.zero_le _
  have secondRoom : ∀ table, second table ≤ chunks := @update_le _ (fun _ => chunks) _ _ (by simp [first]) firstRoom
  have thirdRoom : ∀ table, third table ≤ chunks :=
    @update_le _ (fun _ => chunks) _ _ (by simp [first, second]) secondRoom
  refine Triple.bind (@processTable_rule _ _ (fun _ => 0)
    (fun _ => chunks) _ _ distinct (limited .adminActivityLogs) _ (by simp)
    fun _ => Nat.zero_le _) fun _ => ?_
  refine Triple.bind (@processTable_rule _ _ first (fun _ => chunks) _ _ distinct (limited .inventoryAuditEvents) _
    (by simp [first])
    firstRoom) fun _ => ?_
  refine Triple.bind (@processTable_rule _ _ second (fun _ => chunks) _ _ distinct (limited .adminRefreshSessions) _
    (by simp [first, second]) secondRoom) fun _ => ?_
  exact (inspect_rule captured).weaken (fun _ ready => ready.mono thirdRoom) (fun _ _ => id)
    (fun _ _ => id) fun _ => id

theorem retentionPasses_rule (distinct : ∀ table, ((start table).map RetentionRow.id).Nodup) :
    Triple (On (Ready (capturedClock surroundings options) start fun _ => 0))
      (retentionPasses surroundings options chunks)
      (fun _ => On fun s => Stopped (capturedClock surroundings options) start (fun _ => chunks) s ∧
        Told surroundings options s.core)
      (fun _ => On (Stopped (capturedClock surroundings options) start fun _ => chunks))
      (On (Stopped (capturedClock surroundings options) start fun _ => chunks)) := by
  have widen : ∀ s, Stopped (capturedClock surroundings options) start (fun _ => 0) s →
      Stopped (capturedClock surroundings options) start (fun _ => chunks) s :=
        fun s stopped => stopped.mono fun _ => Nat.zero_le _
  have widened : ∀ s, Ready (capturedClock surroundings options) start (fun _ => 0) s →
      Stopped (capturedClock surroundings options) start (fun _ => chunks) s := fun s ready => widen s ready.stopped
  refine Triple.bind (captureClock_rule.weaken (fun _ => id) (fun _ _ => id)
    (fun _ _ => widen _) fun _ => widen _) fun captured => ?_
  obtain ⟨startedAt, capturedCutoff⟩ := captured
  cases startedAt with
  | none => exact Triple.throw fun w here => widened _ here.1
  | some startedAt =>
      have assigned : Triple
          (On fun s => Ready (capturedClock surroundings options) start (fun _ => 0) s ∧
            ∀ started cutoff, (some startedAt, capturedCutoff) = (some started, some cutoff) →
              capturedClock surroundings options = some (started, cutoff))
          (assignVars fun vars => { vars with initial := toISOString startedAt, cutoff := capturedCutoff })
          (fun _ => On fun s => Ready (capturedClock surroundings options) start (fun _ => 0) s ∧
            ∀ cutoff, capturedCutoff = some cutoff → capturedClock surroundings options = some (startedAt, cutoff))
          (fun _ => On (Stopped (capturedClock surroundings options) start fun _ => chunks))
          (On (Stopped (capturedClock surroundings options) start fun _ => chunks)) := by
        apply assign_rule
        intro s here
        exact ⟨⟨here.1.sound.same rfl rfl rfl rfl, here.1.held, here.1.client, here.1.idle⟩,
          fun cutoff same => here.2 startedAt cutoff (same ▸ rfl)⟩
      refine Triple.bind assigned fun _ => ?_
      cases capturedCutoff with
      | none => exact Triple.throw fun w here => widened _ here.1
      | some cutoff =>
          exact (Triple.given (tables_rule distinct)).weaken (fun _ here => ⟨here.1, here.2 cutoff rfl⟩)
            (fun _ _ => id)
            (fun _ _ => id) fun _ => id

theorem sound_start (database : RetainedDatabase) (clock : Option (ℤ × ℤ)) :
    Sound clock database.tables (fun _ => 0) 0 (retentionStart surroundings database).core := by
  refine ⟨⟨?_, ?_, ?_, ?_⟩, ?_, ?_, ?_⟩
  · intro table
    exact left_zero.symm
  · intro table
    exact Nat.zero_le _
  · intro table
    exact Nat.zero_le _
  · exact nofun
  · intro table
    rfl
  · rfl
  · exact Nat.zero_le _

def connected (s : RetentionState) : RetentionState :=
  { s with link := { s.link with connection := .live, client := .held } }

theorem lock_rule (database : RetainedDatabase) {failed : RetentionState → Prop}
    (unlocked : ∀ s, s.core = (retentionStart surroundings database).core → s.link.locked = false → failed s) :
    Triple (On (· = connected (retentionStart surroundings database))) (tryLock surroundings)
      (fun locked => On fun s => s = connected { retentionStart surroundings database with
        link := ⟨.idle, locked, .absent, .absent⟩ })
      (fun _ => On failed) (On fun s => s.core = (retentionStart surroundings database).core) := by
  have live : (connected (retentionStart surroundings database)).link.connection = .live := rfl
  unfold tryLock retentionQuery
  apply Triple.await
  · intro s locked t same done
    subst same
    rw [if_pos live] at done
    split at done
    · cases done
      rfl
    · cases done
      rfl
  · intro s error t same done
    subst same
    rw [if_pos live] at done
    split at done
    · cases done
    · cases done
  · intro s same
    subst same
    exact unlocked _ rfl rfl
  · intro s same
    subst same
    apply unlocked
    · rw [if_pos live]
      split
      · rfl
      · rfl
    · rw [if_pos live]
      split
      · rfl
      · rfl
  · intro s same
    subst same
    rfl
  · intro s same
    subst same
    rw [if_pos live]
    split
    · rfl
    · rfl

theorem connect_rule (database : RetainedDatabase) :
    Triple (On (· = retentionStart surroundings database)) retentionConnect
      (fun _ => On (· = connected (retentionStart surroundings database)))
      (fun _ => On fun s => s.core = (retentionStart surroundings database).core ∧ s.link.locked = false)
      (On fun s => s.core = (retentionStart surroundings database).core) := by
  apply Triple.await
  · intro s value t same done
    subst same
    cases done
    rfl
  · intro s error t same done
    cases done
  · intro s same
    subst same
    exact ⟨rfl, rfl⟩
  · intro s same
    subst same
    exact ⟨rfl, rfl⟩
  · intro s same
    subst same
    rfl
  · intro s same
    subst same
    rfl

/-- Up to the `finally`. -/
def Settled (surroundings : RetentionSurroundings) (options : RetentionOptions) (start : RetentionTables)
    (chunks : Nat)
    (s : RetentionState) : Prop :=
  Stopped (capturedClock surroundings options) start (fun _ => chunks) s ∧ Told surroundings options s.core

theorem retentionBody_rule (database : RetainedDatabase) :
    Triple (On (· = retentionStart surroundings database)) (retentionBody surroundings options chunks)
      (fun _ => On (Settled surroundings options database.tables chunks)) (fun _ _ => False)
      (On fun s : RetentionState => Deleted (capturedClock surroundings options) database.tables
        (fun _ => chunks) s.core) := by
  have begun : Sound (capturedClock surroundings options) database.tables (fun _ => chunks) 0
    (retentionStart surroundings database).core :=
    (sound_start database _).mono fun _ => Nat.zero_le _
  have untouched : ∀ s, s.core = (retentionStart surroundings database).core → s.link.locked = false →
      Stopped (capturedClock surroundings options) database.tables (fun _ => chunks) s := by
    intro s same unlocked
    refine ⟨same ▸ { begun with unheard := Nat.zero_le _ }, fun locked => ?_⟩
    rw [unlocked] at locked
    cases locked
  have dead : ∀ s : RetentionState, s.core = (retentionStart surroundings database).core →
      Deleted (capturedClock surroundings options) database.tables (fun _ => chunks) s.core :=
        fun s same => same ▸ begun.toDeleted
  apply @Triple.catching _ _ _ _ _ _ _ _ _
    (fun _ => On (Stopped (capturedClock surroundings options) database.tables fun _ => chunks))
  · refine Triple.bind ((connect_rule database).weaken (fun _ => id) (fun _ _ => id)
      (fun _ w here => untouched _ here.1 here.2)
      fun w => dead _) fun _ => ?_
    refine Triple.bind ((lock_rule database untouched).weaken (fun _ => id) (fun _ _ => id)
      (fun _ _ => id) fun w => dead _) fun locked => ?_
    cases locked with
    | true =>
        have ready : Triple
            (On (· = connected { retentionStart surroundings database with
              link := ⟨.idle, true, .absent, .absent⟩ }))
            (assignVars fun vars => { vars with lockHeld := true })
            (fun _ => On (Ready (capturedClock surroundings options) database.tables fun _ => 0))
            (fun _ => On (Stopped (capturedClock surroundings options) database.tables fun _ => chunks))
            (On fun s : RetentionState => Deleted (capturedClock surroundings options) database.tables
              (fun _ => chunks) s.core) := by
          apply assign_rule
          intro s same
          subst same
          exact ⟨(@sound_start surroundings database _).same rfl rfl rfl rfl, rfl, rfl, rfl⟩
        exact Triple.bind ready fun _ => (retentionPasses_rule database.distinct).weaken (fun _ => id)
          (fun _ _ => id) (fun _ _ => id)
          fun _ here => here.sound.toDeleted
    | false =>
        rw [if_neg Bool.false_ne_true]
        apply assign_rule
        intro s same
        subst same
        refine ⟨⟨{ begun with unheard := Nat.zero_le _ }, nofun⟩, fun some => absurd rfl some, nofun⟩
  · intro error
    apply assign_rule
    intro s stopped
    exact ⟨⟨stopped.sound.same rfl rfl rfl rfl, stopped.guarded⟩, fun _ => rfl, nofun⟩

/-- Once the `finally` is done with the lock. -/
def Unlocked (surroundings : RetentionSurroundings) (options : RetentionOptions) (start : RetentionTables)
    (chunks : Nat)
    (s : RetentionState) : Prop :=
  Sound (capturedClock surroundings options) start (fun _ => chunks) 1 s.core ∧ Told surroundings options s.core ∧
    (s.link.locked = false ∨ s.link.client = .discarded)

theorem unlockLink_at {core : RetentionCore} {s : RetentionState} (here : At core s) : At core (unlockLink s).2 := by
  unfold unlockLink
  split
  · exact here
  · exact here

theorem unlockLink_free {s t : RetentionState} {unlocked : Bool} (done : unlockLink s = (.ok unlocked, t)) :
    t.link.locked = false := by
  unfold unlockLink at done
  split at done
  · cases done
  · cases done
    rfl

theorem unlocking_rule {core : RetentionCore}
    (sound : Sound (capturedClock surroundings options) start (fun _ => chunks) 1 core)
    (told : Told surroundings options core) :
    Triple (On (At core))
      (Program.catching
        (do
          let unlocked ← advisoryUnlock
          if unlocked then return ()
          else Program.throw (.message "retention_unlock_not_confirmed"))
        fun _ => do
          assignVars fun vars => { vars with
            state := .incomplete, exitCode := 1, reason := "retention_lock_release_failed" }
          releaseClient .discarded : RetentionTask Unit)
      (fun _ => On (Unlocked surroundings options start chunks)) (fun _ _ => False)
      (On fun s : RetentionState => Deleted (capturedClock surroundings options) start
        (fun _ => chunks) s.core) := by
  apply @Triple.catching _ _ _ _ _ _ _ _ _ (fun _ => On (At core))
  · have asked := @query_at Bool core unlockLink (fun _ => True) (fun _ s => s.link.locked = false)
      (fun s here _ => unlockLink_at here) fun s unlocked t _ _ => unlockLink_free
    refine Triple.bind (asked.weaken (fun _ here => ⟨here, trivial⟩) (fun _ _ => id) (fun _ _ => id)
      fun w here => show Deleted _ _ _ w.state.core from here.1.symm ▸ sound.toDeleted) fun unlocked => ?_
    cases unlocked with
    | true =>
        apply Triple.pure
        intro w here
        exact ⟨here.1.1 ▸ sound, here.1.1 ▸ told, .inl here.2⟩
    | false => exact Triple.throw fun w here => here.1
  · intro error
    have noted : Triple (On (At core))
        (assignVars fun vars => { vars with
            state := .incomplete, exitCode := 1, reason := "retention_lock_release_failed" })
        (fun _ => On fun s => Sound (capturedClock surroundings options) start (fun _ => chunks) 1 s.core ∧
          Told surroundings options s.core)
        (fun _ _ => False)
        (On fun s : RetentionState => Deleted (capturedClock surroundings options) start
          (fun _ => chunks) s.core) := by
      apply assign_rule
      intro s here
      rw [here.1]
      exact ⟨sound.same rfl rfl rfl rfl, fun _ => rfl, nofun⟩
    refine Triple.bind noted fun _ => Triple.update ?_
    intro w here
    exact ⟨here.1, here.2, .inr rfl⟩

theorem reading_rule {after : Unit → Scheduled RetentionState → Prop}
    {failed : RetentionError → Scheduled RetentionState → Prop}
    {dead : Scheduled RetentionState → Prop} {before : Scheduled RetentionState → Prop}
    {rest : RetentionState → RetentionTask Unit}
    (each : ∀ s, Triple (fun w => before w ∧ w.state = s) (rest s) after failed dead) :
    Triple before (do let s ← Program.read (·.state); rest s) after failed dead :=
  Triple.bind (Triple.read fun _ here => ⟨here, rfl⟩) each

theorem unlock_rule : Triple (On (Settled surroundings options start chunks)) unlockRetention
    (fun _ => On (Unlocked surroundings options start chunks)) (fun _ _ => False)
    (On fun s : RetentionState => Deleted (capturedClock surroundings options) start (fun _ => chunks) s.core) := by
  apply reading_rule
  intro s
  split
  · rename_i locked
    intro w here
    obtain ⟨⟨⟨sound, _⟩, told⟩, same⟩ := here
    subst same
    exact unlocking_rule sound told w ⟨rfl, locked.1⟩
  · rename_i free
    apply Triple.pure
    intro w here
    obtain ⟨⟨⟨sound, guarded⟩, told⟩, same⟩ := here
    subst same
    refine ⟨sound, told, .inl ?_⟩
    cases held : w.state.link.locked with
    | false => rfl
    | true => exact absurd (guarded held).symm free

theorem release_rule : Triple (On (Unlocked surroundings options start chunks)) releaseRetention
    (fun _ => On fun s => Unlocked surroundings options start chunks s ∧ s.link.client ≠ .held) (fun _ _ => False)
    (On fun s : RetentionState => Deleted (capturedClock surroundings options) start (fun _ => chunks) s.core) := by
  apply reading_rule
  intro s
  split
  · rename_i held
    apply Triple.update
    intro w here
    obtain ⟨⟨sound, told, free⟩, same⟩ := here
    subst same
    rw [held] at free
    exact ⟨⟨sound, told, .inl (free.resolve_right nofun)⟩, nofun⟩
  · rename_i other
    apply Triple.pure
    intro w here
    obtain ⟨⟨sound, told, free⟩, same⟩ := here
    subst same
    exact ⟨⟨sound, told, free⟩, other⟩

end Runs

section Report

variable {surroundings : RetentionSurroundings} {options : RetentionOptions} {database : RetainedDatabase}

/-- Of a table's rows some of the eldest are gone that may go. -/
structure OldestGone (clock : Option (ℤ × ℤ)) (table : RetentionTable) (start final : List RetentionRow) : Prop where
  kept : final.Sublist start
  older : ∀ row ∈ start, row ∉ final → ∃ clock', clock = some clock' ∧ row.timestamp < rowLimit clock' table * 1000
  oldest : ∀ row ∈ start, row ∉ final → ∀ other ∈ final, mayDelete clock table other = true →
    ageKey row < ageKey other

/-- What the result says of the rows and the chunks that the run leaves behind. -/
structure Reported (surroundings : RetentionSurroundings) (options : RetentionOptions) (start : RetentionTables)
    (result : RetentionResult) (s : RetentionState) : Prop where
  oldest : ∀ table, OldestGone (capturedClock surroundings options) table (start table) (s.core.committed table)
  gone : ∀ table, (s.core.committed table).length + removedFrom table s.core.chunks = (start table).length
  counted : ∀ table, result.counts.removed table = removedFrom table (heardOf s.core.chunks)
  chunks : result.counts.chunks = nonEmpty (heardOf s.core.chunks)
  unheard : unheardOf s.core.chunks = [] ∨ result.state = .incomplete ∧ ∃ chunk, unheardOf s.core.chunks = [chunk] ∧
    chunk.removed ≤ 500
  bounded : ∀ table, removedFrom table s.core.chunks ≤ (chunkBound options).getD 0 * 500
  complete : result.state = .complete →
    ∃ clock, capturedClock surroundings options = some clock ∧ Clear clock surroundings s.core.committed
  unlocked : s.link.client ≠ .held ∧ (s.link.locked = false ∨ s.link.client = .discarded)

theorem Deleted.oldestGone {clock : Option (ℤ × ℤ)} {quota : RetentionTable → Nat} {core : RetentionCore}
    (deleted : Deleted clock database.tables quota core) (table : RetentionTable) :
    OldestGone clock table (database.tables table) (core.committed table) := by
  have distinct := distinct_keys (database.distinct table)
  rw [deleted.tables table]
  constructor
  · exact List.filter_sublist
  · intro row member gone
    have may := (mem_eldest (deleted_eldest member gone)).2
    cases clock with
    | none => cases may
    | some clock => exact ⟨clock, rfl, of_decide_eq_true may⟩
  · intro row member gone other still could
    exact left_oldest distinct member gone still could

theorem Deleted.gone {clock : Option (ℤ × ℤ)} {quota : RetentionTable → Nat} {core : RetentionCore}
    (deleted : Deleted clock database.tables quota core) (table : RetentionTable) :
    (core.committed table).length + removedFrom table core.chunks = (database.tables table).length := by
  have whole := @left_length _ _ _ (removedFrom table core.chunks) _ ageKey (mayDelete clock table) _
    (distinct_keys (database.distinct table))
  rw [Nat.min_eq_left (deleted.within table), ← deleted.tables table] at whole
  exact whole

theorem reported {chunks : Nat} {s : RetentionState} (bound : (chunkBound options).getD 0 = chunks)
    (unlocked : Unlocked surroundings options database.tables chunks s) (free : s.link.client ≠ .held) :
    Reported surroundings options database.tables
      (retentionResult surroundings options s.core.vars s.core.counts) s := by
  obtain ⟨sound, told, lock⟩ := unlocked
  constructor
  · exact sound.oldestGone
  · exact sound.gone
  · exact sound.counted
  · exact sound.chunks
  · cases rest : unheardOf s.core.chunks with
    | nil => exact .inl rfl
    | cons chunk more =>
        have one := sound.unheard
        rw [rest] at one
        have last : more = [] := List.eq_nil_of_length_eq_zero (by simpa using one)
        have member : chunk ∈ unheardOf s.core.chunks := by
          rw [rest]
          exact List.mem_cons_self
        refine .inr ⟨told.1 ?_, chunk, by rw [last], sound.small chunk (List.mem_filter.mp member).1⟩
        rw [rest]
        exact List.cons_ne_nil _ _
  · intro table
    rw [bound]
    exact (removedFrom_le sound.small).trans (Nat.mul_le_mul_right _ (sound.bounded table))
  · exact told.2
  · exact ⟨free, lock⟩

theorem run_rule {chunks : Nat} (bound : (chunkBound options).getD 0 = chunks) :
    Triple (On (· = retentionStart surroundings database))
      (do
        retentionBody surroundings options chunks
        unlockRetention
        releaseRetention
        let core ← Program.read (·.state.core)
        return retentionResult surroundings options core.vars core.counts)
      (fun result => On (Reported surroundings options database.tables result)) (fun _ _ => False)
      (On fun s => ∀ table, OldestGone (capturedClock surroundings options) table (database.tables table)
        (s.core.committed table)) := by
  have dead : ∀ s : RetentionState, Deleted (capturedClock surroundings options) database.tables
    (fun _ => chunks) s.core →
      ∀ table, OldestGone (capturedClock surroundings options) table (database.tables table)
        (s.core.committed table) :=
    fun s deleted => deleted.oldestGone
  refine Triple.bind ((retentionBody_rule database).weaken (fun _ => id) (fun _ _ => id)
    (fun _ _ => id) fun _ => dead _) fun _ => ?_
  refine Triple.bind (unlock_rule.weaken (fun _ => id) (fun _ _ => id) (fun _ _ => id) fun _ => dead _) fun _ => ?_
  refine Triple.bind (release_rule.weaken (fun _ => id) (fun _ _ => id) (fun _ _ => id) fun _ => dead _) fun _ => ?_
  have read : Triple (On fun s => Unlocked surroundings options database.tables chunks s ∧ s.link.client ≠ .held)
      (Program.read (·.state.core))
      (fun core w => On (fun s => Unlocked surroundings options database.tables chunks s ∧ s.link.client ≠ .held) w ∧
        core = w.state.core)
      (fun (_ : RetentionError) _ => False)
      (On fun s => ∀ table, OldestGone (capturedClock surroundings options) table (database.tables table)
        (s.core.committed table)) :=
    Triple.read fun w here => ⟨here, rfl⟩
  refine Triple.bind read fun core => Triple.pure fun w here => ?_
  obtain ⟨⟨unlocked, free⟩, same⟩ := here
  subst same
  exact reported bound unlocked free

def retentionWorld (surroundings : RetentionSurroundings) (database : RetainedDatabase)
    (faults : Nat → Program.Fault) :
    Scheduled RetentionState :=
  ⟨retentionStart surroundings database, faults, 0⟩

/-- The whole run, wherever it fails. -/
theorem retention_reported (surroundings : RetentionSurroundings) (options : RetentionOptions)
    (database : RetainedDatabase)
    (faults : Nat → Program.Fault) :
    match runRetentionOnce surroundings options (retentionWorld surroundings database faults) with
    | (.returned result, w) => Reported surroundings options database.tables result w.state
    | (.threw _, w) => w = retentionWorld surroundings database faults
    | (.died, w) => ∀ table,
        OldestGone (capturedClock surroundings options) table (database.tables table)
          (w.state.core.committed table) := by
  unfold runRetentionOnce
  cases assertOfflineDisposablePool surroundings with
  | error error => rfl
  | ok _ =>
      cases bound : chunkBound options with
      | none =>
          have deleted := (@sound_start surroundings database (capturedClock surroundings options)).toDeleted
          constructor
          · exact deleted.oldestGone
          · exact deleted.gone
          · exact fun _ => rfl
          · rfl
          · exact .inl rfl
          · exact fun _ => Nat.zero_le _
          · exact nofun
          · exact ⟨nofun, .inl rfl⟩
      | some chunks =>
          have ran := @run_rule surroundings options database chunks (by rw [bound]; rfl)
            (retentionWorld surroundings database faults) rfl
          dsimp only
          split
          · rename_i result w same
            rw [same] at ran
            exact ran
          · rename_i error w same
            rw [same] at ran
            exact ran.elim
          · rename_i w same
            rw [same] at ran
            exact ran

end Report

section LostCommit

def disposable : RetentionSurroundings where
  nodeEnv := some "test"
  databaseOperationsMode := some "offline-test"
  host := some "127.0.0.1"
  database := some "lighting_TEST"
  randomUuid := "run"
  now := 1709210096789
  finished := 1709210096800
  serverNow := 1709210096789000
  lockTaken := false
  batches := []

def oneOldLog : RetainedDatabase where
  tables := fun table => match table with
    | .adminActivityLogs => [⟨7, 0, none⟩]
    | _ => []
  distinct := by
    intro table
    cases table with
    | adminActivityLogs => exact List.nodup_singleton _
    | inventoryAuditEvents => exact List.nodup_nil
    | adminRefreshSessions => exact List.nodup_nil

/-- The answer to the seventh await, the first `COMMIT`, is lost. -/
def lostCommit (await : Nat) : Program.Fault := if await = 6 then .lost else .none

def lostResult : Bool :=
  match runRetentionOnce disposable ⟨"sha", none, some (some 1709210096789), none⟩
      (retentionWorld disposable oneOldLog lostCommit) with
  | (.returned result, w) =>
      result.counts.removed .adminActivityLogs = 0 ∧ result.state = .incomplete ∧
        w.state.core.committed .adminActivityLogs = []
  | _ => false

/-- The row is deleted and not counted. -/
theorem lost_commit_uncounted : ¬ ∀ (surroundings : RetentionSurroundings) (options : RetentionOptions)
    (database : RetainedDatabase)
    (faults : Nat → Program.Fault) (table : RetentionTable),
    match runRetentionOnce surroundings options (retentionWorld surroundings database faults) with
    | (.returned result, w) => (w.state.core.committed table).length +
        result.counts.removed table = (database.tables table).length
    | _ => True := by
  intro all
  have here := all disposable ⟨"sha", none, some (some 1709210096789), none⟩ oneOldLog lostCommit .adminActivityLogs
  have ran : lostResult = true := by decide +kernel
  unfold lostResult at ran
  split at ran
  · rename_i result w same
    rw [same] at here
    obtain ⟨none, -, empty⟩ := of_decide_eq_true ran
    dsimp only at here
    rw [none, empty] at here
    cases here
  · cases ran

end LostCommit

end PublicLighting.Operations
