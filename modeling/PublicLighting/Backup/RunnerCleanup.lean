import PublicLighting.Backup.RunnerSafety

/-! What the `finally` block of a backup leaves, and with it what a whole run does. -/

namespace PublicLighting.Backup

open Foundations
open Foundations.Program (Triple)
open BackupScheduler (BackupState validRunId)

section Session

variable {clock : Nat → Prop} {config : BackupConfig} {s : Surroundings} {start : Start} {actions : List Action}
  {locals : Locals} {w : World}

structure Held (clock : Nat → Prop) (config : BackupConfig) (s : Surroundings) (start : Start)
    (actions : List Action)
    (locals : Locals) (w : World) : Prop where
  sound : Sound clock config s start w
  same : w.locals = locals
  after : actions <+: w.actions

theorem Held.advance (held : Held clock config s start actions locals w) :
    Held clock config s start actions locals w.advance :=
  ⟨held.sound.advance, held.same, held.after⟩

theorem query_held {α : Type} {reply : Reply α} {effect : α → World → World} {after : α → World → Prop}
    (lost : ∀ value w, Held clock config s start actions locals w →
      Held clock config s start actions locals (effect value w))
    (answered : ∀ value w, Held clock config s start actions locals w → after value (effect value w)) :
    Triple (Held clock config s start actions locals) (query reply effect) after
      (fun _ => Held clock config s start actions locals) (fun _ => False) := by
  intro w held
  unfold query
  by_cases dead : w.clientLost = true
  · rw [if_pos dead]
    exact held.advance
  · rw [if_neg dead]
    cases reply with
    | answered value =>
        by_cases gone : w.advance.clientLost = true
        · simp only [if_pos gone]
          exact lost value _ held.advance
        · simp only [if_neg gone]
          exact answered value _ held.advance
    | raised code => exact held.advance

def closing (locals : Locals) : Locals := { locals with transactionOpen := false }

theorem rollback_held (here : locals.client = true) :
    Triple (Held clock config s start actions locals) (query s.rollback fun _ => World.transact false)
      (fun _ w => Sound clock config s start (w.assign closing) ∧ w.locals = locals ∧ actions <+: w.actions)
      (fun _ => Held clock config s start actions locals) (fun _ => False) := by
  refine query_held (fun _ w held => ⟨?_, held.same, held.after⟩) fun _ w held => ⟨?_, held.same, held.after⟩
  · exact held.sound.change held.sound.locks (fun inside => absurd inside Bool.false_ne_true) rfl
      (by rw [held.same, here]) id
  · refine held.sound.change (fun lock locked => ?_) (fun inside => absurd inside Bool.false_ne_true) rfl
      (by rw [held.same, here]) id
    refine (held.sound.locks lock locked).imp id fun known => ?_
    cases lock <;> exact known

theorem Sound.forget {lock : Lock} {cleaned : Locals → Locals} (sound : Sound clock config s start w)
    (free : w.session.locked lock = false) (here : w.locals.client = true)
    (keeps : ∀ locals other, other ≠ lock → (cleaned locals).holds other = locals.holds other)
    (client : ∀ locals, (cleaned locals).client = locals.client)
    (upload : ∀ locals, (cleaned locals).upload = locals.upload)
    (transaction : ∀ locals, (cleaned locals).transactionOpen = locals.transactionOpen) :
    Sound clock config s start (w.assign cleaned) := by
  refine sound.change (fun other locked => ?_) (fun inside => ?_) (client _) here fun known => (upload _).trans known
  · by_cases same : other = lock
    · rw [same] at locked
      exact absurd (free.symm.trans locked) Bool.false_ne_true
    · exact (sound.locks other locked).imp id fun known => (keeps _ _ same).trans known
  · exact (sound.transaction inside).imp id fun opened => (transaction _).trans opened

theorem Held.unlocking {lock : Lock} {row : Option Bool} (held : Held clock config s start actions locals w) :
    Held clock config s start actions locals (unlocking lock row w) := by
  refine ⟨held.sound.unlocking, ?_, ?_⟩
  · unfold Backup.unlocking
    split <;> exact held.same
  · unfold Backup.unlocking
    split
    · exact held.after.trans (List.prefix_append _ _)
    · exact held.after

theorem unlock_held {lock : Lock} {reply : Reply (Option Bool)} {failureReason : String} {cleaned : Locals → Locals}
    (here : locals.client = true)
    (keeps : ∀ locals other, other ≠ lock → (cleaned locals).holds other = locals.holds other)
    (client : ∀ locals, (cleaned locals).client = locals.client)
    (upload : ∀ locals, (cleaned locals).upload = locals.upload)
    (transaction : ∀ locals, (cleaned locals).transactionOpen = locals.transactionOpen) :
    Triple (Held clock config s start actions locals) (unlock lock reply failureReason)
      (fun _ w => Sound clock config s start (w.assign cleaned) ∧ w.locals = locals ∧ actions <+: w.actions)
      (fun _ => Held clock config s start actions locals) (fun _ => False) := by
  have asked : Triple (Held clock config s start actions locals) (query reply (Backup.unlocking lock))
      (fun row w => Held clock config s start actions locals w ∧ (row = some true → w.session.locked lock = false))
      (fun _ => Held clock config s start actions locals) (fun _ => False) := by
    refine query_held (fun _ _ held => held.unlocking) fun row w held => ⟨held.unlocking, fun confirmed => ?_⟩
    simp [Backup.unlocking, confirmed, World.note, World.hold]
  have caught : Triple (Held clock config s start actions locals)
      (Program.catching (query reply (Backup.unlocking lock)) fun _ =>
        Program.throw (Thrown.failure failureReason false))
      (fun row w => Held clock config s start actions locals w ∧ (row = some true → w.session.locked lock = false))
      (fun _ => Held clock config s start actions locals) (fun _ => False) :=
    asked.catching fun _ => Triple.throw fun _ held => held
  refine caught.bind fun row => ?_
  split
  · exact Triple.throw fun _ known => known.1
  · rename_i confirmed
    refine Triple.pure fun w known => ⟨?_, known.1.same, known.1.after⟩
    exact known.1.sound.forget (known.2 (not_not.mp confirmed))
      (by rw [known.1.same, here]) keeps client upload transaction

def Spoiled (w : World) : Prop := w.clientLost = true ∨ w.locals.discardClient = true

/-- The client is there, and it is spoiled or the cleanup has come this far. -/
structure Cleaning (clock : Nat → Prop) (config : BackupConfig) (s : Surroundings) (start : Start)
    (actions : List Action)
    (done : Locals → Prop) (w : World) : Prop where
  sound : Sound clock config s start w
  here : w.locals.client = true
  after : actions <+: w.actions
  far : Spoiled w ∨ done w.locals

/-- A step of the cleanup ends well, or it spoils the client. -/
theorem cleanup_does {needed : Locals → Bool} {step : Task Unit} {cleaned : Locals → Locals} {code : String}
    {done next : Locals → Prop}
    (steps : ∀ locals : Locals, locals.client = true → Triple (Held clock config s start actions locals) step
      (fun _ w => Sound clock config s start (w.assign cleaned) ∧ w.locals = locals ∧ actions <+: w.actions)
      (fun _ => Held clock config s start actions locals) (fun _ => False))
    (skips : ∀ locals, done locals → needed locals = false → next locals)
    (cleans : ∀ locals, done locals → next (cleaned locals))
    (client : ∀ locals, (cleaned locals).client = locals.client) :
    Triple (Cleaning clock config s start actions done) (cleanup needed step cleaned code)
      (fun _ => Cleaning clock config s start actions next) (fun _ _ => False) (fun _ => False) := by
  have looked : Triple (Cleaning clock config s start actions done)
      (Program.read fun w => !w.clientLost && !w.locals.discardClient && needed w.locals : Task Bool)
      (fun go w => Cleaning clock config s start actions done w ∧
        go = (!w.clientLost && !w.locals.discardClient && needed w.locals)) (fun _ _ => False) (fun _ => False) :=
    Triple.read fun _ known => ⟨known, rfl⟩
  have cleaning : ∀ locals, done locals → locals.client = true →
      Triple (Held clock config s start actions locals)
        (Program.catching
          (do
            step
            assign cleaned)
          fun _ => assign fun locals => { cleanupError code locals with discardClient := true } : Task Unit)
        (fun _ => Cleaning clock config s start actions next) (fun _ _ => False) (fun _ => False) := by
    intro locals far here
    have finished : Triple (fun w => Sound clock config s start (w.assign cleaned) ∧ w.locals = locals ∧
      actions <+: w.actions)
        (assign cleaned) (fun _ => Cleaning clock config s start actions next)
        (fun _ => Held clock config s start actions locals) (fun _ => False) := by
      refine Triple.update fun w ⟨sound, same, after⟩ => ⟨sound, ?_, after, Or.inr ?_⟩
      · exact (client _).trans (by rw [same, here])
      · change next (cleaned w.locals)
        rw [same]
        exact cleans locals far
    refine ((steps locals here).bind fun _ => finished).catching fun _ => ?_
    refine Triple.update fun w held => ⟨?_, ?_, held.after, Or.inl (Or.inr rfl)⟩
    · exact held.sound.assign rfl rfl (fun lock => by cases lock <;> rfl) rfl
    · change w.locals.client = true
      rw [held.same, here]
  refine looked.bind fun go => ?_
  split
  · rename_i going
    intro w ⟨known, same⟩
    rw [going] at same
    have fresh := same.symm
    simp only [Bool.and_eq_true, Bool.not_eq_true'] at fresh
    have far : done w.locals := by
      rcases known.far with (lost | discarded) | far
      · exact absurd (fresh.1.1.symm.trans lost) Bool.false_ne_true
      · exact absurd (fresh.1.2.symm.trans discarded) Bool.false_ne_true
      · exact far
    exact cleaning w.locals far known.here w ⟨known.sound, rfl, known.after⟩
  · rename_i staying
    refine Triple.pure fun w ⟨known, same⟩ => ⟨known.sound, known.here, known.after, ?_⟩
    by_cases spoiled : Spoiled w
    · exact Or.inl spoiled
    · have fresh := spoiled
      simp only [Spoiled, not_or, Bool.not_eq_true] at fresh
      rw [same, fresh.1, fresh.2] at staying
      exact Or.inr (skips _ (known.far.resolve_left spoiled) (by simpa using staying))

def Locals.IsClean (locals : Locals) : Prop := locals.transactionOpen = false ∧ ∀ lock, locals.holds lock = false

theorem cleanSession_does :
    Triple (Cleaning clock config s start actions fun _ => True) (cleanSession s)
      (fun _ => Cleaning clock config s start actions Locals.IsClean) (fun _ _ => False) (fun _ => False) := by
  have rolledBack : Triple (Cleaning clock config s start actions fun _ => True)
      (cleanup (·.transactionOpen) (query s.rollback fun _ => World.transact false)
        (fun locals => { locals with transactionOpen := false }) "database_cleanup_failed")
      (fun _ => Cleaning clock config s start actions fun locals => locals.transactionOpen = false)
      (fun _ _ => False) (fun _ => False) :=
    cleanup_does (fun _ here => rollback_held here) (fun _ _ closed => closed) (fun _ _ => rfl) fun _ => rfl
  have barrier : Triple (Cleaning clock config s start actions fun locals => locals.transactionOpen = false)
      (cleanup (·.migrationLockHeld) (unlock .migration s.unlockMigration "migration_lock_release_failed")
        (fun locals => { locals with migrationLockHeld := false }) "migration_lock_release_failed")
      (fun _ => Cleaning clock config s start actions fun locals => locals.transactionOpen = false ∧
        locals.migrationLockHeld = false)
      (fun _ _ => False) (fun _ => False) := by
    refine cleanup_does (fun _ here => unlock_held here ?_ (fun _ => rfl) (fun _ => rfl) fun _ => rfl)
      (fun _ closed free => ⟨closed, free⟩) (fun _ closed => ⟨closed, rfl⟩) fun _ => rfl
    intro locals other differs
    cases other with
    | backup => rfl
    | migration => exact absurd rfl differs
  refine rolledBack.bind fun _ => barrier.bind fun _ => ?_
  have clean : ∀ locals : Locals, locals.transactionOpen = false → locals.migrationLockHeld = false →
      locals.backupLockHeld = false → locals.IsClean := by
    intro locals closed barrier free
    refine ⟨closed, fun lock => ?_⟩
    cases lock with
    | backup => exact free
    | migration => exact barrier
  refine cleanup_does (fun _ here => unlock_held here ?_ (fun _ => rfl) (fun _ => rfl) fun _ => rfl)
    (fun locals known free => clean locals known.1 known.2 free)
    (fun _ known => clean _ known.1 known.2 rfl) fun _ => rfl
  intro locals other differs
  cases other with
  | backup => exact absurd rfl differs
  | migration => rfl

end Session

section Settling

variable {clock : Nat → Prop} {config : BackupConfig} {s : Surroundings} {start : Start} {actions : List Action}
  {w : World}

def Action.isRelease : Action → Bool
  | .released _ => true
  | _ => false

structure Left (clock : Nat → Prop) (config : BackupConfig) (s : Surroundings) (start : Start)
    (actions : List Action)
    (w : World) : Prop where
  releases : w.actions.countP Action.isRelease = w.actions.count .connected
  once : w.actions.count .connected ≤ 1
  clean : .released true ∉ w.actions → (∀ lock, w.session.locked lock = false) ∧ w.session.inTransaction = false
  upload : .uploadCreated ∈ w.actions → w.locals.upload = true ∨ .uploadAborted ∈ w.actions
  orderly : Orderly clock config s start w.actions
  after : actions <+: w.actions

theorem Sound.releases_none (sound : Sound clock config s start w) : w.actions.countP Action.isRelease = 0 := by
  rw [List.countP_eq_zero]
  intro action member release
  cases action with
  | released discarded => exact sound.unreleased discarded member
  | _ => exact absurd release Bool.false_ne_true

theorem Sound.left (sound : Sound clock config s start w) (away : w.locals.client = false)
    (after : actions <+: w.actions) :
    Left clock config s start actions w := by
  obtain ⟨live, unheld, idle⟩ := sound.absent away
  have none : Action.connected ∉ w.actions := by
    rw [sound.client, away]
    exact Bool.false_ne_true
  refine ⟨?_, sound.once, fun _ => sound.free live unheld idle, sound.upload, sound.orderly, after⟩
  rw [sound.releases_none, List.count_eq_zero.mpr none]

/-- A session that is given back without being discarded is free of the run. -/
theorem Cleaning.left (cleaned : Cleaning clock config s start actions Locals.IsClean w) :
    Left clock config s start actions (w.note (.released (w.clientLost || w.locals.discardClient))) := by
  have sound := cleaned.sound
  refine ⟨?_, ?_, fun kept => ?_, ?_, ?_, cleaned.after.trans (List.prefix_append _ _)⟩
  · have one : w.actions.count .connected = 1 :=
      le_antisymm sound.once (List.count_pos_iff.mpr (sound.client.mpr cleaned.here))
    simp [World.note, List.countP_append, List.count_append, sound.releases_none, one, Action.isRelease]
  · simpa [World.note, List.count_append] using sound.once
  · have fresh : ¬Spoiled w := by
      intro spoiled
      refine kept (List.mem_append_right _ (List.mem_singleton.mpr ?_))
      rcases spoiled with lost | discarded
      · rw [lost, Bool.true_or]
      · rw [discarded, Bool.or_true]
    obtain ⟨idle, unheld⟩ := cleaned.far.resolve_left fresh
    have live : w.clientLost = false := by
      rw [← Bool.not_eq_true]
      exact fun lost => fresh (Or.inl lost)
    exact sound.free live unheld idle
  · simpa [World.note] using sound.upload
  · exact orderly_snoc sound.orderly (by simp)

theorem releaseClient_left :
    Triple (Cleaning clock config s start actions Locals.IsClean) releaseClient
      (fun _ => Left clock config s start actions)
      (fun _ _ => False) (fun _ => False) :=
  Triple.update fun _ cleaned => cleaned.left

theorem Left.aborted (left : Left clock config s start actions w) :
    Left clock config s start actions (w.note .uploadAborted) := by
  refine ⟨?_, ?_, fun kept => left.clean (by simpa [World.note] using kept), ?_, ?_,
    left.after.trans (List.prefix_append _ _)⟩
  · simpa [World.note, List.countP_append, List.count_append, Action.isRelease] using left.releases
  · simpa [World.note, List.count_append] using left.once
  · intro _
    exact Or.inr (List.mem_append_right _ (List.mem_singleton.mpr rfl))
  · exact orderly_snoc left.orderly (by simp)

theorem abortUpload_left :
    Triple (Left clock config s start actions) (abortUpload s)
      (fun _ w => Left clock config s start actions w ∧ .uploadAborted ∈ w.actions) (fun _ _ => False)
      (fun _ => False) := by
  have noted : Triple (Left clock config s start actions) (note .uploadAborted)
      (fun _ w => Left clock config s start actions w ∧ .uploadAborted ∈ w.actions) (fun _ _ => False)
      (fun _ => False) :=
    Triple.update fun w left => ⟨left.aborted, List.mem_append_right _ (List.mem_singleton.mpr rfl)⟩
  have called : Triple (fun w => Left clock config s start actions w ∧ .uploadAborted ∈ w.actions)
    (call s.abortUpload)
      (fun _ w => Left clock config s start actions w ∧ .uploadAborted ∈ w.actions)
      (fun _ w => Left clock config s start actions w ∧ .uploadAborted ∈ w.actions) (fun _ => False) := by
    intro w ⟨left, aborted⟩
    unfold call
    cases s.abortUpload with
    | answered value =>
        exact ⟨⟨left.releases, left.once, left.clean, left.upload, left.orderly, left.after⟩, aborted⟩
    | raised code => exact ⟨⟨left.releases, left.once, left.clean, left.upload, left.orderly, left.after⟩, aborted⟩
  refine noted.bind fun _ => called.catching fun _ => Triple.update fun w ⟨left, aborted⟩ => ?_
  exact ⟨⟨left.releases, left.once, left.clean, left.upload, left.orderly, left.after⟩, aborted⟩

theorem settle_left (actions : List Action) (result : BackupResult) :
    Triple (fun w => Sound clock config s start w ∧ actions <+: w.actions) (settle s result)
      (fun _ w => Left clock config s start actions w ∧
        (.uploadCreated ∈ w.actions → .uploadAborted ∈ w.actions ∨ result.state = .complete))
      (fun _ _ => False) (fun _ => False) := by
  have timed : Triple (fun w => Sound clock config s start w ∧ actions <+: w.actions)
    (Program.update (World.timer false))
      (fun _ w => Sound clock config s start w ∧ actions <+: w.actions) (fun (_ : Thrown) _ => False)
      (fun _ => False) :=
    Triple.update fun w known => ⟨known.1.flags w.signalled w.timedOut false, known.2⟩
  have waited : Triple (fun w => Sound clock config s start w ∧ actions <+: w.actions) (call (.answered ()))
      (fun _ w => Sound clock config s start w ∧ actions <+: w.actions) (fun _ _ => False) (fun _ => False) :=
    fun w known => ⟨known.1.advance, known.2⟩
  have looked : Triple (fun w => Sound clock config s start w ∧ actions <+: w.actions)
      (Program.read (·.locals.client) : Task Bool)
      (fun client w => (Sound clock config s start w ∧ actions <+: w.actions) ∧ client = w.locals.client)
      (fun _ _ => False) (fun _ => False) := Triple.read fun _ known => ⟨known, rfl⟩
  have uploaded : Triple (Left clock config s start actions) (Program.read (·.locals.upload) : Task Bool)
      (fun upload w => Left clock config s start actions w ∧ upload = w.locals.upload) (fun _ _ => False)
      (fun _ => False) :=
    Triple.read fun _ left => ⟨left, rfl⟩
  have ended : Triple
      (fun w => Left clock config s start actions w ∧
        (.uploadCreated ∈ w.actions → .uploadAborted ∈ w.actions ∨ result.state = .complete))
      (call (.answered ()))
      (fun _ w => Left clock config s start actions w ∧
        (.uploadCreated ∈ w.actions → .uploadAborted ∈ w.actions ∨ result.state = .complete))
      (fun _ _ => False) (fun _ => False) :=
    fun w ⟨left, aborted⟩ => ⟨⟨left.releases, left.once, left.clean, left.upload, left.orderly, left.after⟩, aborted⟩
  have disposed : Triple (Left clock config s start actions)
      (do
        if result.state ≠ .complete && (← Program.read (·.locals.upload)) then abortUpload s else pure ()
        call (.answered ()))
      (fun _ w => Left clock config s start actions w ∧
        (.uploadCreated ∈ w.actions → .uploadAborted ∈ w.actions ∨ result.state = .complete))
      (fun _ _ => False) (fun _ => False) := by
    refine uploaded.bind fun upload => ?_
    split
    · have aborted : Triple (fun w => Left clock config s start actions w ∧ upload = w.locals.upload) (abortUpload s)
          (fun _ w => Left clock config s start actions w ∧ .uploadAborted ∈ w.actions) (fun _ _ => False)
          (fun _ => False) :=
        abortUpload_left.pre fun _ known => known.1
      exact aborted.bind fun _ => ended.pre fun w known => ⟨known.1, fun _ => Or.inl known.2⟩
    · rename_i staying
      refine ended.pre fun w ⟨left, same⟩ => ⟨left, fun created => ?_⟩
      rcases left.upload created with known | aborted
      · rw [same, known] at staying
        exact Or.inr (by simpa using staying)
      · exact Or.inl aborted
  refine timed.bind fun _ => waited.bind fun _ => looked.bind fun client => ?_
  split
  · rename_i here
    have started : Triple
        (fun w => (Sound clock config s start w ∧ actions <+: w.actions) ∧ client = w.locals.client) (cleanSession s)
        (fun _ => Cleaning clock config s start actions Locals.IsClean) (fun _ _ => False) (fun _ => False) :=
      cleanSession_does.pre fun w ⟨known, same⟩ => ⟨known.1, same.symm.trans here, known.2, Or.inr trivial⟩
    exact started.bind fun _ => releaseClient_left.bind fun _ => disposed
  · rename_i away
    exact disposed.pre fun w ⟨known, same⟩ => known.1.left (by rw [← same]; simpa using away) known.2

end Settling

section Run

variable {config : BackupConfig} {sha256 : List UInt8 → String} {s : Surroundings}

theorem concluded_complete {start : Start} {result : BackupResult} {w : World}
    (complete : (concluded config start result w).state = .complete) :
    result.state = .complete ∧ w.locals.cleanupErrorCode = none := by
  unfold concluded at complete
  cases known : w.locals.cleanupErrorCode with
  | none =>
      rw [known] at complete
      exact ⟨complete, rfl⟩
  | some code =>
      rw [known] at complete
      dsimp only at complete
      split at complete
      · exact absurd complete (by simp [withProgress, makeResult])
      · rename_i unfinished
        exact absurd complete unfinished

def shown (moments : Nat → Moment) (date : Nat) (time : Nat) : Prop :=
  time = date ∨ ∃ number, time = (moments number).date

structure Accounted (clock : Nat → Prop) (config : BackupConfig) (sha256 : List UInt8 → String) (s : Surroundings)
    (start : Start) (result : BackupResult) (w : World) : Prop where
  complete : result.state = .complete →
    w.locals.cleanupErrorCode = none ∧ ∃ m, .publishing m ∈ w.actions ∧ Published config sha256 s start m
  orderly : Orderly clock config s start w.actions
  once : w.actions.count .connected ≤ 1
  releases : w.actions.countP Action.isRelease = w.actions.count .connected
  clean : .released true ∉ w.actions → (∀ lock, w.session.locked lock = false) ∧ w.session.inTransaction = false
  upload : .uploadCreated ∈ w.actions →
    .uploadAborted ∈ w.actions ∨ ∃ m, .publishing m ∈ w.actions ∧ Published config sha256 s start m

theorem initial_at {moments : Nat → Moment} {mono date : Nat} {signalled : Bool} {start : Start} :
    At (shown moments date) config s start [] (initial moments mono date signalled) := by
  refine ⟨⟨⟨Or.inl rfl, fun number => Or.inr ⟨number, rfl⟩⟩, fun _ locked => absurd locked Bool.false_ne_true,
    fun inside => absurd inside Bool.false_ne_true, ?_, fun _ => ⟨rfl, fun lock => ?_, rfl⟩, ?_, ?_, ?_, ?_⟩, rfl⟩
  · simp [initial, noLocals]
  · cases lock <;> rfl
  · simp [initial]
  · simp [initial]
  · simp [initial]
  · intro front m back same
    exact absurd same (by simp [initial])

theorem attempt_accounted {clock : Nat → Prop} {start : Start} :
    Triple (At clock config s start [])
      (do
        let result ← Program.catching (body config sha256 s start) (failed config start)
        settle s result
        Program.read (concluded config start result) : Task BackupResult)
      (fun result => Accounted clock config sha256 s start result) (fun _ _ => False) (fun _ => False) := by
  refine attempt_goes.bind fun result w ⟨sound, published⟩ => ?_
  have told : Triple (fun w' => Sound clock config s start w' ∧ w.actions <+: w'.actions)
      (do
        settle s result
        Program.read (concluded config start result) : Task BackupResult)
      (fun result => Accounted clock config sha256 s start result) (fun _ _ => False) (fun _ => False) := by
    refine (settle_left w.actions result).bind fun _ => Triple.read fun w' ⟨left, aborted⟩ => ?_
    have still : result.state = .complete → ∃ m, .publishing m ∈ w'.actions ∧ Published config sha256 s start m := by
      intro complete
      obtain ⟨m, member, there⟩ := published complete
      exact ⟨m, left.after.subset member, there⟩
    refine ⟨fun complete => ?_, left.orderly, left.once, left.releases, left.clean,
      fun created => (aborted created).imp id still⟩
    obtain ⟨ended, none⟩ := concluded_complete complete
    exact ⟨none, still ended⟩
  exact told w ⟨sound, List.prefix_refl _⟩

/-- A backup returns, whatever its surroundings answer; only a run with no valid id is refused, and does nothing. -/
theorem backup_accounted (config : BackupConfig) (sha256 : List UInt8 → String) (s : Surroundings) (runId : String)
    (moments : Nat → Moment) (mono date : Nat) (signalled : Bool) :
    (validRunId runId = false ∧ runBackupOnce config sha256 s runId (initial moments mono date signalled) =
      (.threw (.raised none), initial moments mono date signalled)) ∨
    validRunId runId = true ∧ ∃ result w,
      runBackupOnce config sha256 s runId (initial moments mono date signalled) = (.returned result, w) ∧
      Accounted (shown moments date) config sha256 s ⟨runId, isoText date, mono⟩ result w := by
  cases valid : validRunId runId with
  | false =>
      refine Or.inl ⟨rfl, ?_⟩
      unfold runBackupOnce
      rw [valid]
      rfl
  | true =>
      refine Or.inr ⟨rfl, ?_⟩
      have same : runBackupOnce config sha256 s runId (initial moments mono date signalled) =
          (do
            let result ← Program.catching (body config sha256 s ⟨runId, isoText date, mono⟩)
              (failed config ⟨runId, isoText date, mono⟩)
            settle s result
            Program.read (concluded config ⟨runId, isoText date, mono⟩ result) : Task BackupResult)
          (initial moments mono date signalled) := by
        unfold runBackupOnce
        rw [valid]
        rfl
      have start : At (shown moments date) config s ⟨runId, isoText date, mono⟩ []
          (initial moments mono date signalled) := initial_at
      have ran := @attempt_accounted config sha256 s (shown moments date) _ _ start
      rw [← same] at ran
      rcases ended : runBackupOnce config sha256 s runId
        (initial moments mono date signalled) with ⟨result | _ | _, w⟩
      · rw [ended] at ran
        exact ⟨result, w, rfl, ran⟩
      · rw [ended] at ran
        exact ran.elim
      · rw [ended] at ran
        exact ran.elim

end Run

end PublicLighting.Backup
