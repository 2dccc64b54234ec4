import PublicLighting.Backup.Runner

/-! However the steps of a backup end, a manifest is published only for an archive that was verified, and the client
comes back without its locks or not at all. -/

namespace PublicLighting.Backup

open Foundations
open Foundations.Program (Triple)
open BackupScheduler (BackupState validRunId)

section Facts

variable (clock : Nat → Prop) (config : BackupConfig) (s : Surroundings) (start : Start)

def Locals.holds (locals : Locals) : Lock → Bool
  | .backup => locals.backupLockHeld
  | .migration => locals.migrationLockHeld

def Dated (text : String) : Prop := ∃ date, clock date ∧ text = isoText date

structure ManifestTimes.AreDated (times : ManifestTimes) (row : SnapshotRow) : Prop where
  runStarted : times.runStartedAt = start.startedAt
  snapshotStarted : times.snapshotStartedAt = row.snapshotStartedAt
  dumpFinished : Dated clock times.dumpFinishedAt
  encryptionFinished : Dated clock times.encryptionFinishedAt
  uploadCompleted : Dated clock times.archiveUploadCompletedAt
  publishStarted : Dated clock times.manifestPublishStartedAt

/-- The archive lies in the storage as it was streamed, and the manifest says so. -/
structure Archived (identity : ExactObjectIdentity) (m : BackupManifestV1) : Prop where
  dumped : s.dump = .exited (some 0)
  unlocked : s.unlockMigration = .answered (some true)
  encrypted : s.age = .answered (some 0)
  bytes : 0 < s.cipherBytes
  stored : s.finalize = .answered identity
  named : identity.isOf config (archiveKeyOf start.runId) = true
  verified : ∃ integrity, s.verifyArchive = .answered integrity ∧
    integrity.confirms identity s.cipherBytes s.cipherSha256 = true
  manifest : ∃ pgDumpVersion row ledger times integrity,
    s.snapshot = .answered (some row) ∧ row.isWhole = true ∧
    s.ledger = .answered ledger ∧ validateMigrationLedger ledger = true ∧
    times.AreDated clock start row ∧ integrity.confirms identity s.cipherBytes s.cipherSha256 = true ∧
    m = manifestOf config s start pgDumpVersion row ledger times identity integrity

def published (identity : ExactObjectIdentity) : List Action :=
  [.connected, .uploadCreated, .dumped, .unlocked .migration, .encrypted, .finalizing, .verifying identity]

def Orderly (actions : List Action) : Prop :=
  ∀ front m back, actions = front ++ .publishing m :: back →
    ∃ identity, front = published identity ∧ Archived clock config s start identity m

def Thrown.IsFailure : Thrown → Prop
  | .outcome result => result.state ≠ .complete
  | _ => True

/-- Until the `finally` block. -/
structure Sound (w : World) : Prop where
  dates : clock w.date ∧ ∀ number, clock (w.moments number).date
  locks : ∀ lock, w.session.locked lock = true → w.clientLost = true ∨ w.locals.holds lock = true
  transaction : w.session.inTransaction = true → w.clientLost = true ∨ w.locals.transactionOpen = true
  client : .connected ∈ w.actions ↔ w.locals.client = true
  absent : w.locals.client = false → w.clientLost = false ∧ (∀ lock, w.locals.holds lock = false) ∧
    w.locals.transactionOpen = false
  unreleased : ∀ discarded, .released discarded ∉ w.actions
  once : w.actions.count .connected ≤ 1
  upload : .uploadCreated ∈ w.actions → w.locals.upload = true ∨ .uploadAborted ∈ w.actions
  orderly : Orderly clock config s start w.actions

def At (actions : List Action) (w : World) : Prop := Sound clock config s start w ∧ w.actions = actions

abbrev Goes {α : Type} (before : World → Prop) (program : Task α) (after : α → World → Prop) : Prop :=
  Triple before program after (fun error w => Sound clock config s start w ∧ error.IsFailure) (fun _ => False)

end Facts

section Steps

variable {clock : Nat → Prop} {config : BackupConfig} {s : Surroundings} {start : Start} {α : Type} {w : World}
  {actions : List Action} {before : World → Prop}

theorem Sound.advance (sound : Sound clock config s start w) : Sound clock config s start w.advance where
  dates := ⟨sound.dates.2 _, sound.dates.2⟩
  locks := by
    intro lock locked
    rcases sound.locks lock locked with lost | held
    · exact Or.inl (by simp [World.advance, lost])
    · exact Or.inr held
  transaction := by
    intro inside
    rcases sound.transaction inside with lost | opened
    · exact Or.inl (by simp [World.advance, lost])
    · exact Or.inr opened
  client := sound.client
  absent := by
    intro none
    have here := sound.absent none
    exact ⟨by simp [World.advance, World.losesConnection, here.1, show w.locals.client = false from none], here.2⟩
  unreleased := sound.unreleased
  once := sound.once
  upload := sound.upload
  orderly := sound.orderly

theorem At.advance (here : At clock config s start actions w) : At clock config s start actions w.advance :=
  ⟨here.1.advance, here.2⟩

def Action.isPlain : Action → Bool
  | .unlocked _ | .dumped | .encrypted | .finalizing | .verifying _ | .uploadAborted => true
  | _ => false

theorem orderly_snoc {action : Action} (orderly : Orderly clock config s start actions)
    (other : ∀ m, action = .publishing m → ∃ identity, actions = published identity ∧
      Archived clock config s start identity m) :
    Orderly clock config s start (actions ++ [action]) := by
  intro front m back same
  rcases List.eq_nil_or_concat back with rfl | ⟨earlier, last, rfl⟩
  · obtain ⟨rfl, ended⟩ := List.append_inj' same rfl
    exact other m (List.singleton_inj.mp ended)
  · rw [List.concat_eq_append, ← List.cons_append, ← List.append_assoc] at same
    obtain ⟨rfl, _⟩ := List.append_inj' same rfl
    exact orderly front m earlier rfl

theorem Sound.note {action : Action} (sound : Sound clock config s start w) (plain : action.isPlain = true) :
    Sound clock config s start (w.note action) where
  dates := sound.dates
  locks := sound.locks
  transaction := sound.transaction
  client := by
    rw [World.note, List.mem_append, sound.client, List.mem_singleton]
    cases action <;> simp_all [Action.isPlain]
  absent := sound.absent
  unreleased := by
    intro discarded member
    rcases List.mem_append.mp member with earlier | last
    · exact sound.unreleased discarded earlier
    · rw [← List.mem_singleton.mp last] at plain
      cases plain
  once := by
    rw [World.note, List.count_append]
    cases action <;> simp_all [Action.isPlain, sound.once]
  upload := by
    intro created
    rcases List.mem_append.mp created with earlier | last
    · exact (sound.upload earlier).imp id (List.mem_append_left _)
    · rw [← List.mem_singleton.mp last] at plain
      cases plain
  orderly := by
    refine orderly_snoc sound.orderly fun m same => ?_
    rw [same] at plain
    cases plain

theorem call_goes (reply : Reply α) :
    Goes clock config s start (At clock config s start actions) (call reply)
      (fun value w => At clock config s start actions w ∧ reply = .answered value) := by
  intro w here
  cases reply with
  | answered value => exact ⟨here.advance, rfl⟩
  | raised code => exact ⟨here.advance.1, trivial⟩

theorem call_at (reply : Reply α) :
    Goes clock config s start (At clock config s start actions) (call reply)
      (fun _ => At clock config s start actions) :=
  (call_goes reply).post fun _ _ here => here.1

theorem race_goes (reply : Reply α) :
    Goes clock config s start (At clock config s start actions) (race reply)
      (fun value w => At clock config s start actions w ∧ reply = .answered value) := by
  have looked : Goes clock config s start (At clock config s start actions) (Program.read (·.signalled))
      (fun _ => At clock config s start actions) := Triple.read fun _ here => here
  refine looked.bind fun signalled => ?_
  cases signalled with
  | true => exact Triple.throw fun _ here => ⟨here.1, trivial⟩
  | false => exact call_goes reply

theorem note_goes {action : Action} (plain : action.isPlain = true) :
    Goes clock config s start (At clock config s start actions) (note action)
      (fun _ => At clock config s start (actions ++ [action])) :=
  Triple.update fun _ here => ⟨here.1.note plain, by rw [World.note, here.2]⟩

theorem query_goes {reply : Reply α} {effect : α → World → World} {after : α → World → Prop}
    (lost : ∀ value w, At clock config s start actions w → w.clientLost = true →
      Sound clock config s start (effect value w))
    (answered : ∀ value w, reply = .answered value → At clock config s start actions w →
      after value (effect value w)) :
    Goes clock config s start (At clock config s start actions) (query reply effect) after := by
  intro w here
  unfold query
  by_cases dead : w.clientLost = true
  · rw [if_pos dead]
    exact ⟨here.advance.1, trivial⟩
  · rw [if_neg dead]
    cases reply with
    | answered value =>
        by_cases gone : w.advance.clientLost = true
        · simp only [if_pos gone]
          exact ⟨lost value _ here.advance gone, trivial⟩
        · simp only [if_neg gone]
          exact answered value _ rfl here.advance
    | raised code => exact ⟨here.advance.1, trivial⟩

theorem ask_goes (reply : Reply α) :
    Goes clock config s start (At clock config s start actions) (query reply fun _ => id)
      (fun value w => At clock config s start actions w ∧ reply = .answered value) :=
  query_goes (fun _ _ here _ => here.1) fun _ _ same here => ⟨here, same⟩

theorem throw_goes {after : α → World → Prop} {error : Thrown} (failure : error.IsFailure) :
    Goes clock config s start (At clock config s start actions) (Program.throw error) after :=
  Triple.throw fun _ here => ⟨here.1, failure⟩

theorem assign_goes {change : Locals → Locals}
    (keeps : ∀ w, Sound clock config s start w → Sound clock config s start (w.assign change)) :
    Goes clock config s start (At clock config s start actions) (assign change)
      (fun _ => At clock config s start actions) :=
  Triple.update fun w here => ⟨keeps w here.1, here.2⟩

theorem Sound.change {locals : Locals} {session : Session} (sound : Sound clock config s start w)
    (locks : ∀ lock, session.locked lock = true → w.clientLost = true ∨ locals.holds lock = true)
    (transaction : session.inTransaction = true → w.clientLost = true ∨ locals.transactionOpen = true)
    (client : locals.client = w.locals.client) (here : w.locals.client = true)
    (upload : w.locals.upload = true → locals.upload = true) :
    Sound clock config s start { w with locals := locals, session := session } where
  dates := sound.dates
  locks := locks
  transaction := transaction
  client := by rw [sound.client, ← client]
  absent := by
    intro none
    exact absurd (none.symm.trans (client.trans here)) Bool.false_ne_true
  unreleased := sound.unreleased
  once := sound.once
  upload := fun created => (sound.upload created).imp upload id
  orderly := sound.orderly

theorem Sound.assign {change : Locals → Locals} (sound : Sound clock config s start w)
    (client : (change w.locals).client = w.locals.client) (upload : (change w.locals).upload = w.locals.upload)
    (holds : ∀ lock, (change w.locals).holds lock = w.locals.holds lock)
    (transaction : (change w.locals).transactionOpen = w.locals.transactionOpen) :
    Sound clock config s start (w.assign change) where
  dates := sound.dates
  locks := fun lock locked => (sound.locks lock locked).imp id fun held => (holds lock).trans held
  transaction := fun inside => (sound.transaction inside).imp id fun opened => transaction.trans opened
  client := by rw [World.assign, client]; exact sound.client
  absent := by
    intro none
    obtain ⟨live, free, idle⟩ := sound.absent (client.symm.trans none)
    exact ⟨live, fun lock => (holds lock).trans (free lock), transaction.trans idle⟩
  unreleased := sound.unreleased
  once := sound.once
  upload := fun created => (sound.upload created).imp (fun known => upload.trans known) id
  orderly := sound.orderly

theorem Sound.free (sound : Sound clock config s start w) (live : w.clientLost = false)
    (unheld : ∀ lock, w.locals.holds lock = false) (idle : w.locals.transactionOpen = false) :
    (∀ lock, w.session.locked lock = false) ∧ w.session.inTransaction = false := by
  refine ⟨fun lock => ?_, ?_⟩
  · rw [← Bool.not_eq_true]
    intro locked
    rcases sound.locks lock locked with lost | held
    · exact absurd (live.symm.trans lost) Bool.false_ne_true
    · exact absurd ((unheld lock).symm.trans held) Bool.false_ne_true
  · rw [← Bool.not_eq_true]
    intro inside
    rcases sound.transaction inside with lost | opened
    · exact absurd (live.symm.trans lost) Bool.false_ne_true
    · exact absurd (idle.symm.trans opened) Bool.false_ne_true

theorem Sound.flags (sound : Sound clock config s start w) (signalled timedOut timerSet : Bool) :
    Sound clock config s start { w with signalled := signalled, timedOut := timedOut, timerSet := timerSet } :=
  ⟨sound.dates, sound.locks, sound.transaction, sound.client, sound.absent, sound.unreleased,
    sound.once, sound.upload,
    sound.orderly⟩

theorem read_goes (f : World → α) :
    Goes clock config s start (At clock config s start actions) (Program.read f)
      (fun _ => At clock config s start actions) :=
  Triple.read fun _ here => here

theorem isoText_goes : Goes clock config s start (At clock config s start actions)
    (Program.read fun w => isoText w.date)
    (fun text w => At clock config s start actions w ∧ Dated clock text) :=
  Triple.read fun w here => ⟨here, w.date, here.1.dates.1, rfl⟩

end Steps

section Preflight

variable {clock : Nat → Prop} {config : BackupConfig} {s : Surroundings} {start : Start} {actions : List Action}

theorem toolVersion_goes (output : Option String) :
    Goes clock config s start (At clock config s start actions) (toolVersion output)
      (fun _ => At clock config s start actions) := by
  cases output with
  | some text => exact Triple.pure fun _ here => here
  | none => exact throw_goes trivial

theorem preflightTools_goes : Goes clock config s start (At clock config s start actions) (preflightTools s)
    (fun _ => At clock config s start actions) := by
  refine (toolVersion_goes _).bind fun ageVersion => ?_
  split
  · exact throw_goes trivial
  · refine (toolVersion_goes _).bind fun pgDumpVersion => ?_
    split
    · exact throw_goes trivial
    · exact Triple.pure fun _ here => here

theorem createPgpass_goes : Goes clock config s start (At clock config s start actions) (createPgpass s)
    (fun _ => At clock config s start actions) := by
  refine (call_at _).bind fun _ => (call_at _).bind fun _ => ?_
  cases s.pgpass with
  | ready => exact Triple.pure fun _ here => here
  | permissionsInvalid => exact throw_goes trivial
  | failed => exact throw_goes trivial

theorem connect_goes : Goes clock config s start (At clock config s start []) (connect s)
    (fun _ => At clock config s start [.connected]) := by
  have noted : Goes clock config s start (At clock config s start []) (note .connected)
      (fun _ w => ∃ w', At clock config s start [] w' ∧ w = w'.note .connected) :=
    Triple.update fun w here => ⟨w, here, rfl⟩
  refine (call_at _).bind fun _ => noted.bind fun _ => Triple.update fun w => ?_
  rintro ⟨w', ⟨sound, none⟩, rfl⟩
  have absent : w'.locals.client = false := by
    rw [← Bool.not_eq_true, ← sound.client, none]
    exact List.not_mem_nil
  obtain ⟨live, unheld, idle⟩ := sound.absent absent
  obtain ⟨unlocked, outside⟩ := sound.free live unheld idle
  refine ⟨?_, by rw [World.assign, World.note, none]; rfl⟩
  refine ⟨sound.dates, fun lock locked => ?_, fun inside => ?_, ?_, fun away => ?_, ?_, ?_, ?_, ?_⟩
  · exact absurd ((unlocked lock).symm.trans locked) Bool.false_ne_true
  · exact absurd (outside.symm.trans inside) Bool.false_ne_true
  · simp [World.assign, World.note]
  · exact absurd away.symm Bool.false_ne_true
  · simp [World.assign, World.note, none]
  · simp [World.assign, World.note, none]
  · simp [World.assign, World.note, none]
  · exact orderly_snoc sound.orderly (by simp)

end Preflight

section Database

variable {clock : Nat → Prop} {config : BackupConfig} {s : Surroundings} {start : Start} {actions : List Action}
  {w : World}

theorem Sound.here (sound : Sound clock config s start w) (connected : .connected ∈ w.actions) :
    w.locals.client = true :=
  sound.client.mp connected

theorem At.here (known : At clock config s start actions w) (connected : .connected ∈ actions) :
    w.locals.client = true :=
  known.1.here (by rw [known.2]; exact connected)

/-- A lock that is taken on a session that is lost goes with it. -/
theorem Sound.hold_lost {lock : Lock} {held : Bool} (sound : Sound clock config s start w)
    (lost : w.clientLost = true)
    (here : w.locals.client = true) : Sound clock config s start (w.hold lock held) :=
  sound.change (fun _ _ => Or.inl lost) (fun _ => Or.inl lost) rfl here id

theorem Sound.locked {lock : Lock} {held : Locals → Locals} (sound : Sound clock config s start w)
    (here : w.locals.client = true) (marks : ∀ locals, (held locals).holds lock = true)
    (keeps : ∀ locals other, locals.holds other = true → (held locals).holds other = true)
    (client : ∀ locals, (held locals).client = locals.client)
    (upload : ∀ locals, (held locals).upload = locals.upload)
    (transaction : ∀ locals, (held locals).transactionOpen = locals.transactionOpen) :
    Sound clock config s start ((w.hold lock true).assign held) := by
  refine sound.change ?_ ?_ (client _) here fun known => (upload _).trans known
  · intro other locked
    by_cases same : other = lock
    · rw [same]
      exact Or.inr (marks _)
    · have before : w.session.locked other = true := by simpa [World.hold, Function.update_of_ne same] using locked
      exact (sound.locks other before).imp id (keeps _ _)
  · intro inside
    exact (sound.transaction inside).imp id fun opened => (transaction _).trans opened

theorem takeLock_goes {lock : Lock} {reply : Reply (Option Bool)} {state : BackupState} {exitCode : Nat}
    {reason : String}
    {held : Locals → Locals} (unfinished : state ≠ .complete) (connected : .connected ∈ actions)
    (marks : ∀ locals, (held locals).holds lock = true)
    (keeps : ∀ locals other, locals.holds other = true → (held locals).holds other = true)
    (client : ∀ locals, (held locals).client = locals.client)
    (upload : ∀ locals, (held locals).upload = locals.upload)
    (transaction : ∀ locals, (held locals).transactionOpen = locals.transactionOpen) :
    Goes clock config s start (At clock config s start actions)
      (takeLock config start lock reply state exitCode reason held)
      (fun _ => At clock config s start actions) := by
  have asked : Goes clock config s start (At clock config s start actions) (query reply (locking lock))
      (fun row w => ∃ w', At clock config s start actions w' ∧ w = locking lock row w') := by
    refine query_goes ?_ fun row w _ known => ⟨w, known, rfl⟩
    intro row w known lost
    unfold locking
    split
    · exact known.1.hold_lost lost (known.here connected)
    · exact known.1
  refine asked.bind fun row => ?_
  split
  · rename_i refused
    have read : Goes clock config s start (fun w => ∃ w', At clock config s start actions w' ∧
      w = locking lock row w')
        (Program.read (makeResult config start state exitCode reason))
        (fun result w => At clock config s start actions w ∧ result.state ≠ .complete) := by
      refine Triple.read fun w => ?_
      rintro ⟨w', known, rfl⟩
      refine ⟨?_, unfinished⟩
      rw [locking, if_neg refused]
      exact known
    exact read.bind fun result => Triple.given fun other => throw_goes other
  · rename_i taken
    refine Triple.update fun w => ?_
    rintro ⟨w', known, rfl⟩
    rw [locking, if_pos (not_not.mp taken)]
    exact ⟨known.1.locked (known.here connected) marks keeps client upload transaction, known.2⟩

theorem takeLocks_goes (connected : .connected ∈ actions) :
    Goes clock config s start (At clock config s start actions) (takeLocks config s start)
      (fun _ => At clock config s start actions) := by
  have backup : Goes clock config s start (At clock config s start actions)
      (takeLock config start .backup s.backupLock .skippedOverlapping 10 "backup_already_running"
        fun locals => { locals with backupLockHeld := true })
      (fun _ => At clock config s start actions) := by
    refine takeLock_goes (by decide) connected (fun _ => rfl) ?_ (fun _ => rfl) (fun _ => rfl) (fun _ => rfl)
    intro locals other held
    cases other with
    | backup => rfl
    | migration => exact held
  refine backup.bind fun _ => takeLock_goes (by decide) connected (fun _ => rfl) ?_ (fun _ => rfl) (fun _ => rfl)
    (fun _ => rfl)
  intro locals other held
  cases other with
  | backup => exact held
  | migration => rfl

theorem beginSnapshot_goes (connected : .connected ∈ actions) :
    Goes clock config s start (At clock config s start actions) (beginSnapshot s)
      (fun _ => At clock config s start actions) := by
  have ask : ∀ {α : Type} (reply : Reply α), Goes clock config s start (At clock config s start actions)
      (query reply fun _ => id) (fun _ => At clock config s start actions) := fun reply =>
    (ask_goes reply).post fun _ _ here => here.1
  have begun : Goes clock config s start (At clock config s start actions)
    (query s.begin fun _ => World.transact true)
      (fun _ w => ∃ w', At clock config s start actions w' ∧ w = w'.transact true) := by
    refine query_goes ?_ fun _ w _ known => ⟨w, known, rfl⟩
    intro _ w known lost
    exact known.1.change known.1.locks (fun _ => Or.inl lost) rfl (known.here connected) id
  have opened : Goes clock config s start (fun w => ∃ w', At clock config s start actions w' ∧ w = w'.transact true)
      (assign fun locals => { locals with transactionOpen := true }) (fun _ => At clock config s start actions) := by
    refine Triple.update fun w => ?_
    rintro ⟨w', known, rfl⟩
    refine ⟨known.1.change (fun lock locked => ?_) (fun _ => Or.inr rfl) rfl (known.here connected) id, known.2⟩
    refine (known.1.locks lock locked).imp id fun held => ?_
    cases lock <;> exact held
  have timed : Goes clock config s start (At clock config s start actions) (Program.update (World.timer true))
      (fun _ => At clock config s start actions) :=
    Triple.update fun w known => ⟨known.1.flags w.signalled w.timedOut true, known.2⟩
  refine (ask s.serverVersionNum).bind fun version => ?_
  split
  · exact throw_goes trivial
  · exact (ask s.setTimeout).bind fun _ => (ask s.setTimeZone).bind fun _ => begun.bind fun _ => opened.bind fun _ =>
      timed.bind fun _ => read_goes _

theorem throwIfExpired_goes (snapshotStartedMono : Nat) (error : Thrown) (failure : error.IsFailure) :
    Goes clock config s start (At clock config s start actions) (throwIfExpired config snapshotStartedMono error)
      (fun _ => At clock config s start actions) := by
  have late : Goes clock config s start (At clock config s start actions)
      (Program.update fun w : World => { w with timedOut := true }) (fun _ => At clock config s start actions) :=
    Triple.update fun w known => ⟨known.1.flags w.signalled true w.timerSet, known.2⟩
  refine (read_goes _).bind fun expired => ?_
  split
  · exact late.bind fun _ => throw_goes failure
  · exact Triple.pure fun _ known => known

theorem throwIfSignalled_goes :
    Goes clock config s start (At clock config s start actions) throwIfSignalled
      (fun _ => At clock config s start actions) := by
  refine (read_goes _).bind fun signalled => ?_
  split
  · exact throw_goes trivial
  · exact Triple.pure fun _ known => known

theorem readSnapshot_goes (snapshotStartedMono : Nat) :
    Goes clock config s start (At clock config s start actions) (readSnapshot config s snapshotStartedMono)
      (fun row w => At clock config s start actions w ∧ s.snapshot = .answered (some row) ∧ row.isWhole = true) := by
  refine (ask_goes s.snapshot).bind fun found => Triple.given fun answer => ?_
  refine (throwIfExpired_goes _ (.raised none) trivial).bind fun _ => ?_
  cases kept : found.filter SnapshotRow.isWhole with
  | none => exact throw_goes trivial
  | some row =>
      obtain ⟨same, whole⟩ := Option.filter_eq_some_iff.mp kept
      have noted : Goes clock config s start (At clock config s start actions)
          (assign fun locals => { locals with snapshotAt := some row.snapshotStartedAt })
          (fun _ => At clock config s start actions) :=
        assign_goes fun w sound => sound.assign rfl rfl (fun lock => by cases lock <;> rfl) rfl
      have hooked : Goes clock config s start (At clock config s start actions) (race s.afterSnapshot)
          (fun _ => At clock config s start actions) :=
        (race_goes _).post fun _ _ here => here.1
      refine noted.bind fun _ => hooked.bind fun _ => throwIfSignalled_goes.bind fun _ =>
        Triple.pure fun _ known => ?_
      exact ⟨known, by rw [answer, same], whole⟩

theorem readLedger_goes (snapshotStartedMono : Nat) :
    Goes clock config s start (At clock config s start actions) (readLedger config s snapshotStartedMono)
      (fun ledger w => At clock config s start actions w ∧ s.ledger = .answered ledger ∧
        validateMigrationLedger ledger = true) := by
  have rest : ∀ rows, s.ledger = .answered rows → Goes clock config s start (At clock config s start actions)
      (do
        assign fun locals => { locals with ledger := some rows }
        if !validateMigrationLedger rows then Program.throw (.raised none)
        else
          throwIfExpired config snapshotStartedMono (.raised none)
          return rows)
      (fun ledger w => At clock config s start actions w ∧ s.ledger = .answered ledger ∧
        validateMigrationLedger ledger = true) := by
    intro rows answer
    have noted : Goes clock config s start (At clock config s start actions)
        (assign fun locals => { locals with ledger := some rows }) (fun _ => At clock config s start actions) :=
      assign_goes fun w sound => sound.assign rfl rfl (fun lock => by cases lock <;> rfl) rfl
    refine noted.bind fun _ => ?_
    split
    · exact throw_goes trivial
    · rename_i valid
      refine (throwIfExpired_goes _ (.raised none) trivial).bind fun _ => Triple.pure fun _ known =>
        ⟨known, answer, ?_⟩
      simpa using valid
  exact (ask_goes s.ledger).bind fun rows => Triple.given (rest rows)

theorem createUpload_goes (reply : Reply Unit) :
    Goes clock config s start (At clock config s start actions) (createUploadWithCancellation reply)
      (fun _ w => ∃ w', At clock config s start actions w' ∧ w = w'.note .uploadCreated) := by
  have created : Goes clock config s start (At clock config s start actions) (note .uploadCreated)
      (fun _ w => ∃ w', At clock config s start actions w' ∧ w = w'.note .uploadCreated) :=
    Triple.update fun w known => ⟨w, known, rfl⟩
  have aborted : Goes clock config s start (fun w => ∃ w', At clock config s start actions w' ∧
    w = w'.note .uploadCreated)
      (note .uploadAborted) (fun _ => Sound clock config s start) := by
    refine Triple.update fun w => ?_
    rintro ⟨w', ⟨sound, rfl⟩, rfl⟩
    refine ⟨sound.dates, sound.locks, sound.transaction, ?_, sound.absent, ?_, ?_, ?_, ?_⟩
    · simpa [World.note] using sound.client
    · simpa [World.note] using sound.unreleased
    · simpa [World.note, List.count_append] using sound.once
    · simp [World.note]
    · exact orderly_snoc (orderly_snoc sound.orderly (by simp)) (by simp)
  have look : ∀ before, Goes clock config s start before (Program.read (·.signalled)) (fun _ => before) :=
    fun before => Triple.read fun _ here => here
  refine (look _).bind fun signalled => (call_at _).bind fun _ => created.bind fun _ => (look _).bind fun late => ?_
  split
  · exact aborted.bind fun _ => Triple.throw fun _ sound => ⟨sound, trivial⟩
  · exact Triple.pure fun _ known => known

theorem startUpload_goes (connected : .connected ∈ actions) :
    Goes clock config s start (At clock config s start actions) (startUpload s)
      (fun _ => At clock config s start (actions ++ [.uploadCreated])) := by
  have noted : Goes clock config s start (fun w => ∃ w', At clock config s start actions w' ∧
    w = w'.note .uploadCreated)
      (assign fun locals => { locals with upload := true })
      (fun _ => At clock config s start (actions ++ [.uploadCreated])) := by
    refine Triple.update fun w => ?_
    rintro ⟨w', ⟨sound, rfl⟩, rfl⟩
    refine ⟨⟨sound.dates, ?_, sound.transaction, ?_, ?_, ?_, ?_, ?_, ?_⟩, rfl⟩
    · intro lock locked
      refine (sound.locks lock locked).imp id fun held => ?_
      cases lock <;> exact held
    · simpa [World.note, World.assign] using sound.client
    · intro away
      exact absurd (away.symm.trans (sound.here connected)) Bool.false_ne_true
    · simpa [World.note, World.assign] using sound.unreleased
    · simpa [World.note, World.assign, List.count_append] using sound.once
    · intro _
      exact Or.inl rfl
    · exact orderly_snoc sound.orderly (by simp)
  refine (createUpload_goes _).bind fun _ => noted.bind fun _ => throwIfSignalled_goes.bind fun _ => ?_
  exact (race_goes _).post fun _ _ here => here.1

end Database

section Pipeline

variable {clock : Nat → Prop} {config : BackupConfig} {s : Surroundings} {start : Start} {actions : List Action}
  {w : World}

theorem awaitDump_goes :
    Goes clock config s start (At clock config s start actions) (awaitDump s)
      (fun text w => At clock config s start (actions ++ [.dumped]) w ∧ Dated clock text ∧
        s.dump = .exited (some 0)) := by
  refine (call_at _).bind fun _ => ?_
  cases ended : s.dump with
  | ageFailed => exact throw_goes trivial
  | raised code => exact throw_goes trivial
  | exited code =>
      dsimp only
      split
      · exact throw_goes trivial
      · rename_i zero
        rw [not_not.mp zero]
        exact (note_goes rfl).bind fun _ => isoText_goes.post fun _ _ here => ⟨here.1, here.2, rfl⟩

theorem throwIfLate_goes (snapshotStartedMono : Nat) :
    Goes clock config s start (At clock config s start actions) (throwIfLate config snapshotStartedMono)
      (fun _ => At clock config s start actions) := by
  have late : Goes clock config s start (At clock config s start actions)
      (Program.update fun w : World => { w with timedOut := true }) (fun _ => At clock config s start actions) :=
    Triple.update fun w known => ⟨known.1.flags w.signalled true w.timerSet, known.2⟩
  refine (read_goes _).bind fun expired => ?_
  split
  · exact late.bind fun _ => throw_goes trivial
  · exact Triple.pure fun _ known => known

theorem Sound.unlocked {lock : Lock} (sound : Sound clock config s start w) :
    Sound clock config s start ((w.hold lock false).note (.unlocked lock)) := by
  have free : Sound clock config s start (w.hold lock false) :=
    ⟨sound.dates, fun other locked => by
      by_cases same : other = lock
      · rw [same] at locked
        exact absurd locked (by simp [World.hold])
      · exact sound.locks other (by simpa [World.hold, Function.update_of_ne same] using locked),
      sound.transaction, sound.client, sound.absent, sound.unreleased, sound.once, sound.upload, sound.orderly⟩
  exact free.note rfl

theorem Sound.unlocking {lock : Lock} {row : Option Bool} (sound : Sound clock config s start w) :
    Sound clock config s start (unlocking lock row w) := by
  unfold Backup.unlocking
  split
  · exact sound.unlocked
  · exact sound

theorem unlock_goes {lock : Lock} {reply : Reply (Option Bool)} {failureReason : String} :
    Goes clock config s start (At clock config s start actions) (unlock lock reply failureReason)
      (fun _ w => (At clock config s start (actions ++ [.unlocked lock]) w ∧ w.session.locked lock = false) ∧
        reply = .answered (some true)) := by
  have asked : Goes clock config s start (At clock config s start actions) (query reply (unlocking lock))
      (fun row w => (∃ w', At clock config s start actions w' ∧ w = unlocking lock row w') ∧
        reply = .answered row) :=
    query_goes (fun row w known _ => known.1.unlocking) fun row w answer known => ⟨⟨w, known, rfl⟩, answer⟩
  have caught : Goes clock config s start (At clock config s start actions)
      (Program.catching (query reply (unlocking lock)) fun _ => Program.throw (Thrown.failure failureReason false))
      (fun row w => (∃ w', At clock config s start actions w' ∧ w = unlocking lock row w') ∧
        reply = .answered row) :=
    asked.catching fun _ => Triple.throw fun _ sound => ⟨sound.1, trivial⟩
  refine caught.bind fun row => ?_
  split
  · refine Triple.throw fun w => ?_
    rintro ⟨⟨w', known, rfl⟩, _⟩
    exact ⟨known.1.unlocking, trivial⟩
  · rename_i confirmed
    rw [not_not.mp confirmed]
    refine Triple.pure fun w => ?_
    rintro ⟨⟨w', known, rfl⟩, answer⟩
    refine ⟨⟨⟨known.1.unlocked, ?_⟩, ?_⟩, answer⟩
    · simp [Backup.unlocking, World.note, World.hold, known.2]
    · simp [Backup.unlocking, World.note, World.hold]

theorem releaseBarrier_goes (connected : .connected ∈ actions) :
    Goes clock config s start (At clock config s start actions) (releaseBarrier s)
      (fun _ w => At clock config s start (actions ++ [.unlocked .migration]) w ∧
        s.unlockMigration = .answered (some true)) := by
  have freed : Goes clock config s start
      (fun w => (At clock config s start (actions ++ [.unlocked .migration]) w ∧
        w.session.locked .migration = false) ∧
        s.unlockMigration = .answered (some true))
      (assign fun locals => { locals with migrationLockHeld := false })
      (fun _ w => At clock config s start (actions ++ [.unlocked .migration]) w ∧
        s.unlockMigration = .answered (some true)) := by
    refine Triple.update fun w ⟨⟨known, free⟩, answer⟩ => ⟨⟨?_, known.2⟩, answer⟩
    have here := known.here (List.mem_append_left _ connected)
    refine known.1.change (fun lock locked => ?_) known.1.transaction rfl here id
    cases lock with
    | backup => exact known.1.locks .backup locked
    | migration => exact absurd (free.symm.trans locked) Bool.false_ne_true
  have spoiled : ∀ error : Thrown, Goes clock config s start (fun w => Sound clock config s start w ∧
    error.IsFailure)
      (do
        assign fun locals =>
          { locals with discardClient := true, cleanupErrorCode := some "migration_lock_release_failed" }
        Program.throw error)
      (fun (_ : Unit) w => At clock config s start (actions ++ [.unlocked .migration]) w ∧
        s.unlockMigration = .answered (some true)) := by
    intro error
    have noted : Goes clock config s start (fun w => Sound clock config s start w ∧ error.IsFailure)
        (assign fun locals =>
          { locals with discardClient := true, cleanupErrorCode := some "migration_lock_release_failed" })
        (fun _ w => Sound clock config s start w ∧ error.IsFailure) :=
      Triple.update fun w sound => ⟨sound.1.assign rfl rfl (fun lock => by cases lock <;> rfl) rfl, sound.2⟩
    exact noted.bind fun _ => Triple.throw fun _ sound => sound
  exact (unlock_goes.bind fun _ => freed).catching spoiled

theorem endSnapshot_goes (connected : .connected ∈ actions) :
    Goes clock config s start (At clock config s start actions) (endSnapshot s)
      (fun _ w => At clock config s start (actions ++ [.unlocked .migration]) w ∧
        s.unlockMigration = .answered (some true)) := by
  have ended : ∀ {w}, At clock config s start actions w → Sound clock config s start (w.transact false) :=
    fun known => known.1.change known.1.locks (fun inside => absurd inside Bool.false_ne_true) rfl
      (known.here connected) id
  have committed : Goes clock config s start (At clock config s start actions)
    (query s.commit fun _ => World.transact false)
      (fun _ w => ∃ w', At clock config s start actions w' ∧ w = w'.transact false) :=
    query_goes (fun _ w known _ => ended known) fun _ w _ known => ⟨w, known, rfl⟩
  have closed : Goes clock config s start (fun w => ∃ w', At clock config s start actions w' ∧ w = w'.transact false)
      (assign fun locals => { locals with transactionOpen := false })
      (fun _ => At clock config s start actions) := by
    refine Triple.update fun w => ?_
    rintro ⟨w', known, rfl⟩
    refine ⟨known.1.change (fun lock locked => ?_) (fun inside => absurd inside Bool.false_ne_true) rfl
      (known.here connected) id, known.2⟩
    refine (known.1.locks lock locked).imp id fun held => ?_
    cases lock <;> exact held
  have timed : Goes clock config s start
      (fun w => At clock config s start (actions ++ [.unlocked .migration]) w ∧
        s.unlockMigration = .answered (some true))
      (Program.update (World.timer false))
      (fun _ w => At clock config s start (actions ++ [.unlocked .migration]) w ∧
        s.unlockMigration = .answered (some true)) :=
    Triple.update fun w known => ⟨⟨known.1.1.flags w.signalled w.timedOut false, known.1.2⟩, known.2⟩
  refine committed.bind fun _ => closed.bind fun _ => (releaseBarrier_goes connected).bind fun _ =>
    timed.bind fun _ => ?_
  refine Triple.given fun answer => ?_
  exact (call_at _).post fun _ _ known => ⟨known, answer⟩

theorem awaitEncryption_goes :
    Goes clock config s start (At clock config s start actions) (awaitEncryption s)
      (fun text w => At clock config s start (actions ++ [.encrypted]) w ∧ Dated clock text ∧
        s.age = .answered (some 0)) := by
  have rest : ∀ code, s.age = .answered code → Goes clock config s start (At clock config s start actions)
      (if code ≠ some 0 then Program.throw (.failure "age_encrypt_failed" false)
      else do
        note .encrypted
        Program.read fun w => isoText w.date)
      (fun (text : String) w => At clock config s start (actions ++ [.encrypted]) w ∧ Dated clock text ∧
        s.age = .answered (some 0)) := by
    intro code answer
    split
    · exact throw_goes trivial
    · rename_i zero
      rw [not_not.mp zero] at answer
      exact (note_goes rfl).bind fun _ => isoText_goes.post fun _ _ here => ⟨here.1, here.2, answer⟩
  exact (race_goes s.age).bind fun code => Triple.given (rest code)

theorem verify_goes {identity : ExactObjectIdentity} {bytes : Nat} {value reason : String}
    {reply : Reply ObjectIntegrity} :
    Goes clock config s start (At clock config s start actions) (verify identity bytes value reply reason)
      (fun integrity w => At clock config s start (actions ++ [.verifying identity]) w ∧
        reply = .answered integrity ∧
        integrity.confirms identity bytes value = true) := by
  have rest : ∀ integrity, reply = .answered integrity →
      Goes clock config s start (At clock config s start (actions ++ [.verifying identity]))
        (if !integrity.confirms identity bytes value then Program.throw (.failure reason false)
          else return integrity)
        (fun integrity w => At clock config s start (actions ++ [.verifying identity]) w ∧
          reply = .answered integrity ∧
          integrity.confirms identity bytes value = true) := by
    intro integrity answer
    split
    · exact throw_goes trivial
    · rename_i confirmed
      exact Triple.pure fun _ known => ⟨known, answer, by simpa using confirmed⟩
  exact (note_goes rfl).bind fun _ => (race_goes reply).bind fun integrity => Triple.given (rest integrity)

structure Stored (config : BackupConfig) (s : Surroundings) (start : Start) (identity : ExactObjectIdentity)
    (integrity : ObjectIntegrity) : Prop where
  bytes : 0 < s.cipherBytes
  stored : s.finalize = .answered identity
  named : identity.isOf config (archiveKeyOf start.runId) = true
  verified : s.verifyArchive = .answered integrity
  confirmed : integrity.confirms identity s.cipherBytes s.cipherSha256 = true

theorem storeArchive_goes :
    Goes clock config s start (At clock config s start actions) (storeArchive config s start)
      (fun found w => At clock config s start (actions ++ [.finalizing] ++ [.verifying found.1]) w ∧
        Stored config s start found.1 found.2.1 ∧ Dated clock found.2.2) := by
  unfold storeArchive
  split
  · exact throw_goes trivial
  · rename_i some
    have assigned : Goes clock config s start (At clock config s start actions)
        (assign fun locals =>
          { locals with archiveBytes := Option.some s.cipherBytes, archiveSha256 := Option.some s.cipherSha256 })
        (fun _ => At clock config s start actions) :=
      assign_goes fun w sound => sound.assign rfl rfl (fun lock => by cases lock <;> rfl) rfl
    have rest : ∀ identity, s.finalize = .answered identity →
        Goes clock config s start (At clock config s start (actions ++ [.finalizing]))
          (if !identity.isOf config (archiveKeyOf start.runId) then
            Program.throw (.failure "remote_archive_identity_mismatch" false)
          else do
            let uploadCompletedAt ← Program.read fun w => isoText w.date
            let integrity ← verify identity s.cipherBytes s.cipherSha256 s.verifyArchive
                "remote_archive_integrity_mismatch"
            return (identity, integrity, uploadCompletedAt))
          (fun found w => At clock config s start (actions ++ [.finalizing] ++ [.verifying found.1]) w ∧
            Stored config s start found.1 found.2.1 ∧ Dated clock found.2.2) := by
      intro identity answer
      split
      · exact throw_goes trivial
      · rename_i named
        have looked : ∀ text, Dated clock text →
          Goes clock config s start (At clock config s start (actions ++ [.finalizing]))
            (do
              let integrity ← verify identity s.cipherBytes s.cipherSha256 s.verifyArchive
                "remote_archive_integrity_mismatch"
              return (identity, integrity, text))
            (fun found w => At clock config s start (actions ++ [.finalizing] ++ [.verifying found.1]) w ∧
              Stored config s start found.1 found.2.1 ∧ Dated clock found.2.2) := by
          intro text dated
          refine verify_goes.bind fun integrity => Triple.pure fun w known => ?_
          exact ⟨known.1, ⟨Nat.pos_of_ne_zero fun zero => some (by omega), answer, by simpa using named,
            known.2.1, known.2.2⟩, dated⟩
        exact isoText_goes.bind fun text => Triple.given (looked text)
    exact assigned.bind fun _ => (note_goes rfl).bind fun _ => (race_goes s.finalize).bind fun identity =>
      Triple.given (rest identity)

def Published (config : BackupConfig) (sha256 : List UInt8 → String) (s : Surroundings) (start : Start)
    (m : BackupManifestV1) :
    Prop :=
  ∃ identity integrity, s.publishManifest = .answered identity ∧
    identity.isOf config (manifestKeyOf start.runId) = true ∧
    s.verifyManifest = .answered integrity ∧ integrity.confirms identity m.bytes.length (sha256 m.bytes) = true

theorem publish_goes {sha256 : List UInt8 → String} {identity : ExactObjectIdentity} {m : BackupManifestV1}
    (archived : Archived clock config s start identity m) :
    Goes clock config s start (At clock config s start (published identity)) (publish config sha256 s start m)
      (fun _ w => Sound clock config s start w ∧ .publishing m ∈ w.actions ∧ Published config sha256 s start m) := by
  have noted : Goes clock config s start (At clock config s start (published identity)) (note (.publishing m))
      (fun _ => At clock config s start (published identity ++ [.publishing m])) := by
    refine Triple.update fun w ⟨sound, same⟩ => ⟨?_, by rw [World.note, same]⟩
    refine ⟨sound.dates, sound.locks, sound.transaction, ?_, sound.absent, ?_, ?_, ?_, ?_⟩
    · simpa [World.note] using sound.client
    · simpa [World.note] using sound.unreleased
    · simpa [World.note, List.count_append] using sound.once
    · simpa [World.note] using sound.upload
    · refine orderly_snoc sound.orderly fun other written => ?_
      rw [← Action.publishing.inj written]
      exact ⟨identity, same, archived⟩
  have rest : ∀ manifestIdentity, s.publishManifest = .answered manifestIdentity →
      Goes clock config s start (At clock config s start (published identity ++ [.publishing m]))
        (if !manifestIdentity.isOf config (manifestKeyOf start.runId) then
          Program.throw (.failure "remote_manifest_identity_mismatch" false)
        else do
          let _ ← verify manifestIdentity m.bytes.length (sha256 m.bytes) s.verifyManifest
            "remote_manifest_integrity_mismatch")
        (fun (_ : Unit) w => Sound clock config s start w ∧ .publishing m ∈ w.actions ∧
          Published config sha256 s start m) := by
    intro manifestIdentity answer
    split
    · exact throw_goes trivial
    · rename_i named
      refine verify_goes.bind fun integrity => Triple.pure fun w ⟨known, verified, confirmed⟩ => ⟨known.1, ?_, ?_⟩
      · rw [known.2]
        simp
      · exact ⟨manifestIdentity, integrity, answer, by simpa using named, verified, confirmed⟩
  exact noted.bind fun _ => (race_goes s.publishManifest).bind fun manifestIdentity =>
    Triple.given (rest manifestIdentity)

end Pipeline

section Body

variable {clock : Nat → Prop} {config : BackupConfig} {sha256 : List UInt8 → String} {s : Surroundings}
  {start : Start}

def bodyFrom (config : BackupConfig) (sha256 : List UInt8 → String) (s : Surroundings) (start : Start)
    (pgDumpVersion : String)
    (snapshotStartedMono : Nat) (row : SnapshotRow) (ledger : List MigrationLedgerRow) : Task BackupResult := do
  startUpload s
  let dumpFinishedAt ← awaitDump s
  throwIfLate config snapshotStartedMono
  endSnapshot s
  let encryptionFinishedAt ← awaitEncryption s
  let (identity, integrity, uploadCompletedAt) ← storeArchive config s start
  let publishStartedAt ← Program.read fun w => isoText w.date
  publish config sha256 s start (manifestOf config s start pgDumpVersion row ledger
    ⟨start.startedAt, row.snapshotStartedAt, dumpFinishedAt, encryptionFinishedAt, uploadCompletedAt,
      publishStartedAt⟩
    identity integrity)
  Program.read fun w =>
    { withProgress (makeResult config start .complete 0 "producer_pipeline_complete" w) w with
      manifestId := some (manifestKeyOf start.runId) }

def Finished (clock : Nat → Prop) (config : BackupConfig) (sha256 : List UInt8 → String) (s : Surroundings)
    (start : Start)
    (w : World) : Prop :=
  Sound clock config s start w ∧ ∃ m, .publishing m ∈ w.actions ∧ Published config sha256 s start m

theorem bodyFrom_goes {pgDumpVersion : String} {snapshotStartedMono : Nat} {row : SnapshotRow}
    {ledger : List MigrationLedgerRow}
    (found : s.snapshot = .answered (some row)) (whole : row.isWhole = true) (read : s.ledger = .answered ledger)
    (valid : validateMigrationLedger ledger = true) :
    Goes clock config s start (At clock config s start [.connected])
      (bodyFrom config sha256 s start pgDumpVersion snapshotStartedMono row ledger)
      (fun _ => Finished clock config sha256 s start) := by
  have connected : ∀ {rest : List Action}, .connected ∈ Action.connected :: rest := List.mem_cons_self
  unfold bodyFrom
  refine (startUpload_goes connected).bind fun _ => awaitDump_goes.bind fun dumpFinishedAt =>
    Triple.given fun ⟨dumpDated, dumped⟩ => ?_
  refine (throwIfLate_goes snapshotStartedMono).bind fun _ => (endSnapshot_goes connected).bind fun _ =>
    Triple.given fun unlocked => ?_
  refine awaitEncryption_goes.bind fun encryptionFinishedAt => Triple.given fun ⟨encryptionDated, encrypted⟩ => ?_
  refine storeArchive_goes.bind fun ⟨identity, integrity, uploadCompletedAt⟩ => Triple.given fun ⟨stored,
    uploadDated⟩ => ?_
  refine isoText_goes.bind fun publishStartedAt => Triple.given fun publishDated => ?_
  have archived : Archived clock config s start identity (manifestOf config s start pgDumpVersion row ledger
      ⟨start.startedAt, row.snapshotStartedAt, dumpFinishedAt, encryptionFinishedAt, uploadCompletedAt,
        publishStartedAt⟩
      identity integrity) :=
    ⟨dumped, unlocked, encrypted, stored.bytes, stored.stored, stored.named,
      ⟨integrity, stored.verified, stored.confirmed⟩,
      pgDumpVersion, row, ledger, _, integrity, found, whole, read, valid,
      ⟨rfl, rfl, dumpDated, encryptionDated, uploadDated, publishDated⟩, stored.confirmed, rfl⟩
  exact (publish_goes archived).bind fun _ => Triple.read fun w ⟨sound, member, published⟩ => ⟨sound, _,
    member, published⟩

theorem body_goes : Goes clock config s start (At clock config s start []) (body config sha256 s start)
    (fun _ => Finished clock config sha256 s start) := by
  have connected : ∀ {rest : List Action}, .connected ∈ Action.connected :: rest := List.mem_cons_self
  have pieces : body config sha256 s start = (do
      if ← Program.read (·.signalled) then Program.throw (.failure "termination_requested" true)
      else
        let pgDumpVersion ← preflightTools s
        createPgpass s
        connect s
        takeLocks config s start
        let snapshotStartedMono ← beginSnapshot s
        let row ← readSnapshot config s snapshotStartedMono
        let ledger ← readLedger config s snapshotStartedMono
        bodyFrom config sha256 s start pgDumpVersion snapshotStartedMono row ledger) := rfl
  rw [pieces]
  refine (read_goes _).bind fun signalled => ?_
  split
  · exact throw_goes trivial
  · refine preflightTools_goes.bind fun pgDumpVersion => createPgpass_goes.bind fun _ =>
      connect_goes.bind fun _ => ?_
    refine (takeLocks_goes connected).bind fun _ => (beginSnapshot_goes connected).bind fun snapshotStartedMono => ?_
    refine (readSnapshot_goes snapshotStartedMono).bind fun row => Triple.given fun ⟨found, whole⟩ => ?_
    refine (readLedger_goes snapshotStartedMono).bind fun ledger => Triple.given fun ⟨read, valid⟩ => ?_
    exact bodyFrom_goes found whole read valid

theorem failed_goes (error : Thrown) :
    Triple (fun w => Sound clock config s start w ∧ error.IsFailure) (failed config start error)
      (fun result w => Sound clock config s start w ∧ result.state ≠ .complete) (fun _ _ => False)
      (fun _ => False) := by
  have others : ∀ (isPreflight : Bool) reason w, (withProgress
      (if isPreflight then makeResult config start .preflightRejected 2 reason w
        else makeResult config start .incomplete 1 reason w) w).state ≠ .complete := by
    intro isPreflight reason w
    cases isPreflight <;> simp [withProgress, makeResult]
  cases error with
  | outcome result => exact Triple.pure fun _ here => here
  | failure reason preflight =>
      exact fun w here => ⟨here.1.flags true w.timedOut w.timerSet, others _ _ w⟩
  | raised code => exact fun w here => ⟨here.1.flags true w.timedOut w.timerSet, others _ _ w⟩

/-- When the `finally` block starts. -/
def Ending (clock : Nat → Prop) (config : BackupConfig) (sha256 : List UInt8 → String) (s : Surroundings)
    (start : Start)
    (result : BackupResult) (w : World) : Prop :=
  Sound clock config s start w ∧
    (result.state = .complete → ∃ m, .publishing m ∈ w.actions ∧ Published config sha256 s start m)

theorem attempt_goes : Triple (At clock config s start [])
    (Program.catching (body config sha256 s start) (failed config start))
    (fun result => Ending clock config sha256 s start result) (fun _ _ => False) (fun _ => False) := by
  have ran : Goes clock config s start (At clock config s start []) (body config sha256 s start)
      (fun result => Ending clock config sha256 s start result) :=
    body_goes.post fun _ _ here => ⟨here.1, fun _ => here.2⟩
  refine ran.catching fun error => ?_
  exact (failed_goes error).post fun _ _ here => ⟨here.1, fun complete => absurd complete here.2⟩

end Body

end PublicLighting.Backup
