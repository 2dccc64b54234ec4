import PublicLighting.Operations.RestoreSessions

/-! However a query of the restore ends, its session has its timeouts back or its client is known to be
untrusted, and the pool gets every client back once. -/

namespace PublicLighting.Operations.Restore

open Foundations
open Foundations.Program (Triple)

variable {Setting Data α : Type} {before w : World Setting Data} {client : ClientId} {deadlineAt : Int}
  {session : Option (Session Setting Data)} {trust : Bool}

section Frame

structure Around (client : ClientId) (before after : World Setting Data) : Prop where
  available : after.available = before.available
  handed : after.handed = before.handed
  released : after.released = before.released
  sessions : ∀ other, other ≠ client → after.sessions other = before.sessions other
  untrusted : ∀ other, other ≠ client → after.untrusted other = before.untrusted other
  latched : before.untrusted client = true → after.untrusted client = true

theorem Around.refl (client : ClientId) (w : World Setting Data) : Around client w w :=
  ⟨rfl, rfl, rfl, fun _ _ => rfl, fun _ _ => rfl, id⟩

theorem Around.advance (around : Around client before w) : Around client before w.advance :=
  ⟨around.available, around.handed, around.released, around.sessions, around.untrusted, around.latched⟩

theorem Around.abort {abort : Option AbortReason} (around : Around client before w) :
    Around client before { w with abort := abort } :=
  ⟨around.available, around.handed, around.released, around.sessions, around.untrusted, around.latched⟩

theorem Around.setSession (around : Around client before w) (session : Option (Session Setting Data)) :
    Around client before (w.setSession client session) where
  available := around.available
  handed := around.handed
  released := around.released
  sessions := fun other different => (Function.update_of_ne different ..).trans (around.sessions other different)
  untrusted := around.untrusted
  latched := around.latched

theorem Around.markUntrusted (around : Around client before w) : Around client before (w.markUntrusted client) where
  available := around.available
  handed := around.handed
  released := around.released
  sessions := around.sessions
  untrusted := fun other different => (Function.update_of_ne different ..).trans (around.untrusted other different)
  latched := fun _ => Function.update_self ..

def At (before : World Setting Data) (client : ClientId) (session : Option (Session Setting Data)) (trust : Bool)
    (w : World Setting Data) : Prop :=
  Around client before w ∧ w.sessions client = session ∧ w.untrusted client = trust

def Open (deadlineAt : Int) (w : World Setting Data) : Prop := w.abort = none ∧ w.now < deadlineAt

def Over (deadlineAt : Int) (w : World Setting Data) : Prop := w.abort.isSome = true ∨ deadlineAt ≤ w.now

def Spoiled (before : World Setting Data) (client : ClientId) (w : World Setting Data) : Prop :=
  Around client before w ∧ w.untrusted client = true

theorem Over.advance (past : Over deadlineAt w) : Over deadlineAt w.advance := by
  cases past with
  | inl fired =>
      left
      obtain ⟨reason, fired⟩ := Option.isSome_iff_exists.mp fired
      simp [World.advance, fired]
  | inr late =>
      right
      simp only [World.advance]
      omega

end Frame

section Raw

theorem throwIfAborted_triple {holds : World Setting Data → Prop} : Triple holds throwIfAborted
    (fun _ w => holds w ∧ w.abort = none) (fun _ w => holds w ∧ w.abort.isSome = true) fun _ => False := by
  intro w here
  unfold throwIfAborted
  cases fired : w.abort with
  | some reason => exact ⟨here, by simp [fired]⟩
  | none => exact ⟨here, fired⟩

theorem advance_triple {holds : World Setting Data → Prop} {failed : RestoreError → World Setting Data → Prop}
    (ticks : ∀ w, holds w → holds w.advance) :
    Triple holds (Program.update World.advance) (fun _ => holds) failed fun _ => False := .update ticks

theorem deadlineRemaining_triple {holds : World Setting Data → Prop} (ticks : ∀ w, holds w → holds w.advance) :
    Triple holds (deadlineRemaining deadlineAt) (fun _ w => holds w ∧ Open deadlineAt w)
      (fun _ w => holds w ∧ Over deadlineAt w) fun _ => False := by
  have checked : Triple holds throwIfAborted (fun _ w => holds w ∧ w.abort = none)
      (fun _ w => holds w ∧ Over deadlineAt w) fun _ => False :=
    throwIfAborted_triple.weaken (fun _ here => here) (fun _ _ known => known)
      (fun _ _ known => ⟨known.1, Or.inl known.2⟩)
      fun _ dead => dead
  have known : Triple (fun w => holds w ∧ w.abort = none) (Program.read (·.now) : Task Setting Data Int)
      (fun now w => now = w.now ∧ holds w ∧ w.abort = none)
      (fun _ w => holds w ∧ Over deadlineAt w) fun _ => False :=
    .read fun _ known => ⟨rfl, known⟩
  refine .bind (advance_triple ticks) fun _ => .bind checked fun _ => .bind known fun now => ?_
  split
  · rename_i none
    apply Triple.throw
    rintro w ⟨rfl, here, _⟩
    exact ⟨here, Or.inr (by omega)⟩
  · rename_i some
    apply Triple.pure
    rintro w ⟨rfl, here, fresh⟩
    exact ⟨here, fresh, by omega⟩

theorem deadlineExpired_triple {holds : World Setting Data → Prop} {error : RestoreError}
    {failed : RestoreError → World Setting Data → Prop} (ticks : ∀ w, holds w → holds w.advance) :
    Triple (fun w => holds w ∧ (error = .adminQueryDeadline ∨ Over deadlineAt w)) (deadlineExpired deadlineAt error)
      (fun expired w => holds w ∧ expired = true) failed fun _ => False := by
  have ticked : Triple (fun w => holds w ∧ (error = .adminQueryDeadline ∨ Over deadlineAt w))
      (Program.update World.advance : Task Setting Data Unit)
      (fun _ w => holds w ∧ (error = .adminQueryDeadline ∨ Over deadlineAt w)) failed fun _ => False :=
    advance_triple fun w known => ⟨ticks w known.1, known.2.imp id Over.advance⟩
  refine .bind ticked fun _ => .read fun w known => ⟨known.1, ?_⟩
  rcases known.2 with same | fired | late
  · simp [same]
  · simp [fired]
  · simp [late]

def Left (before : World Setting Data) (client : ClientId) (session : Option (Session Setting Data)) (trust : Bool)
    (statement : Statement Setting Data α) (w : World Setting Data) : Prop :=
  Around client before w ∧ w.untrusted client = trust ∧
    (w.sessions client = none ∨ w.sessions client = session ∨
      ∃ found after, session = some found ∧ w.sessions client = some (statement.raised found after))

def Done (before : World Setting Data) (client : ClientId) (session : Option (Session Setting Data)) (trust : Bool)
    (statement : Statement Setting Data α) (value : α) (w : World Setting Data) : Prop :=
  Around client before w ∧ w.untrusted client = trust ∧
    ∃ found complete next, session = some found ∧ statement.run complete found = some (value, next) ∧
      w.sessions client = some next

/-- What may be known where a query's `catch` block starts. -/
def Caught (before : World Setting Data) (client : ClientId) (session : Option (Session Setting Data)) (trust : Bool)
    (statement : Statement Setting Data α) (deadlineAt : Int) (error : RestoreError)
    (w : World Setting Data) : Prop :=
  (Around client before w ∧ (error = .adminQueryDeadline ∨ Over deadlineAt w)) ∨
    Left before client session trust statement w

variable {statement : Statement Setting Data α}

theorem race_triple : Triple (At before client session trust) (race client statement)
    (Done before client session trust statement) (Caught before client session trust statement deadlineAt)
    fun _ => False := by
  rintro w ⟨around, found, known⟩
  unfold race
  cases w.moment.race with
  | timedOut => exact Or.inl ⟨around.advance, Or.inl rfl⟩
  | cancelled reason =>
      refine Or.inl ⟨around.advance.abort, Or.inr (Or.inl ?_)⟩
      cases w.advance.abort <;> rfl
  | lost => exact Or.inr ⟨around.advance.setSession none, known, Or.inl (Function.update_self ..)⟩
  | raised after =>
      refine Or.inr ⟨around.advance.setSession _, known, Or.inr ?_⟩
      have there := Function.update_self client
        ((w.sessions client).map fun session => statement.raised session after)
        w.advance.sessions
      cases session with
      | none => exact Or.inl (there.trans (by rw [found]; rfl))
      | some session => exact Or.inr ⟨session, after, rfl, there.trans (by rw [found]; rfl)⟩
  | answered complete =>
      dsimp only
      rw [found]
      cases ran : session.bind (statement.run complete) with
      | none => exact Or.inr ⟨around.advance, known, Or.inr (Or.inl found)⟩
      | some answer =>
          obtain ⟨value, next⟩ := answer
          obtain ⟨here, same, ran⟩ := Option.bind_eq_some_iff.mp ran
          exact ⟨around.advance.setSession _, known, here, complete, next, same, ran, Function.update_self ..⟩

theorem left_advance (left : Left before client session trust statement w) :
    Left before client session trust statement w.advance := ⟨left.1.advance, left.2⟩

theorem abandon_triple {error : RestoreError} :
    Triple (Caught before client session trust statement deadlineAt error)
      (abandon client deadlineAt error : Task Setting Data α) (fun _ _ => False)
      (fun _ w => Spoiled before client w ∨ Left before client session trust statement w) fun _ => False := by
  have spoil : Triple (fun w => Around client before w) (do
        destroyRestoreClient client
        settleRestoreQueryAfterDestroy
        throwIfAborted
        Program.throw .adminQueryDeadline : Task Setting Data α) (fun _ _ => False)
      (fun _ w => Spoiled before client w ∨ Left before client session trust statement w) fun _ => False := by
    have destroyed : Triple (fun w => Around client before w) (destroyRestoreClient client : Task Setting Data Unit)
        (fun _ => Spoiled before client)
        (fun _ w => Spoiled before client w ∨ Left before client session trust statement w) fun _ => False :=
      .update fun w around => ⟨around.markUntrusted.setSession none, Function.update_self ..⟩
    have settled : Triple (Spoiled before client) (settleRestoreQueryAfterDestroy : Task Setting Data Unit)
        (fun _ => Spoiled before client)
        (fun _ w => Spoiled before client w ∨ Left before client session trust statement w) fun _ => False := by
      intro w spoiled
      have later : Spoiled before client w.advance := ⟨spoiled.1.advance, spoiled.2⟩
      unfold settleRestoreQueryAfterDestroy
      cases w.moment.settles with
      | true => exact later
      | false => exact Or.inl later
    have checked : Triple (Spoiled before client) (throwIfAborted : Task Setting Data Unit)
      (fun _ => Spoiled before client)
        (fun _ w => Spoiled before client w ∨ Left before client session trust statement w) fun _ => False :=
      throwIfAborted_triple.weaken (fun _ here => here) (fun _ _ known => known.1) (fun _ _ known => Or.inl known.1)
        fun _ dead => dead
    exact .bind destroyed fun _ => .bind settled fun _ => .bind checked fun _ => .throw fun _ spoiled =>
      Or.inl spoiled
  have asked : Triple (Left before client session trust statement)
    (deadlineExpired deadlineAt error : Task Setting Data Bool)
      (fun _ => Left before client session trust statement)
      (fun _ w => Spoiled before client w ∨ Left before client session trust statement w) fun _ => False :=
    .bind (advance_triple fun _ => left_advance) fun _ => .read fun _ left => left
  refine .either (.bind (deadlineExpired_triple fun _ => Around.advance) fun expired => ?_)
    (.bind asked fun expired => ?_)
  · cases expired with
    | true => exact spoil.weaken (fun _ known => known.1) (fun _ _ => id) (fun _ _ => id) fun _ => id
    | false => exact fun w known => absurd known.2 nofun
  · cases expired with
    | true => exact spoil.weaken (fun _ left => left.1) (fun _ _ => id) (fun _ _ => id) fun _ => id
    | false => exact .throw fun _ left => Or.inr left

/-- One query: answered in time, or the client is untrusted, or the session is as a failed statement leaves it. -/
theorem queryClientRawWithinDeadline_triple :
    Triple (At before client session trust) (queryClientRawWithinDeadline client deadlineAt statement)
      (fun value w => Done before client session trust statement value w ∧ Open deadlineAt w)
      (fun _ w => Spoiled before client w ∨ Left before client session trust statement w) fun _ => False := by
  have entered : Triple (At before client session trust) (deadlineRemaining deadlineAt : Task Setting Data Int)
      (fun _ => At before client session trust)
      (fun _ w => Spoiled before client w ∨ Left before client session trust statement w) fun _ => False :=
    (deadlineRemaining_triple fun w known => ⟨known.1.advance, known.2⟩).weaken (fun _ here => here)
      (fun _ _ known => known.1)
      (fun _ _ known => Or.inr ⟨known.1.1, known.1.2.2, Or.inr (Or.inl known.1.2.1)⟩) fun _ dead => dead
  have checked : ∀ value, Triple (Done before client session trust statement value)
      (deadlineRemaining deadlineAt : Task Setting Data Int)
      (fun _ w => Done before client session trust statement value w ∧ Open deadlineAt w)
      (Caught before client session trust statement deadlineAt) fun _ => False := fun value =>
    (deadlineRemaining_triple fun w done => ⟨done.1.advance, done.2⟩).weaken (fun _ here => here)
      (fun _ _ known => known) (fun _ _ known => Or.inl ⟨known.1.1, Or.inr known.2⟩) fun _ dead => dead
  refine .bind entered fun _ => .catching (.bind race_triple fun value => .bind (checked value) fun _ =>
    .pure fun _ known => known) fun error => abandon_triple.weaken (fun _ caught => caught) (fun _ _ => False.elim)
    (fun _ _ => id) fun _ => id

end Raw

section Settings

variable {server : ServerSettings Setting} {returned : Prop}

def SameTimeouts (session after : Option (Session Setting Data)) : Prop :=
  ∀ now, after = some now → ∃ found, session = some found ∧ now.statementTimeout = found.statementTimeout ∧
    now.lockTimeout = found.lockTimeout

def HasTimeouts (previous : Session Setting Data) (session : Option (Session Setting Data)) : Prop :=
  ∃ found, session = some found ∧ found.statementTimeout = previous.statementTimeout ∧
    found.lockTimeout = previous.lockTimeout

def Through : List (Statement Setting Data Unit) → Option (Session Setting Data) →
    Option (Session Setting Data) → Prop
  | [], session, after => after = session
  | statement :: rest, session, after => ∃ found complete next, session = some found ∧
      statement.run complete found = some ((), next) ∧ Through rest (some next) after

def Ran (server : ServerSettings Setting) (timeout : String) (statement : Statement Setting Data α)
    (value : α) : Prop :=
  ∃ limit found complete next, server.parse timeout = some limit ∧ found.statementTimeout = limit ∧
    found.lockTimeout = limit ∧ statement.run complete found = some (value, next)

theorem resetSetting_triple {statement : Statement Setting Data Unit} :
    Triple (At before client session trust) (resetSetting client deadlineAt statement)
      (fun reset w => Around client before w ∧
        (reset = true → Done before client session trust statement () w ∧ Open deadlineAt w))
      (fun _ _ => False) fun _ => False :=
  .catching (.bind queryClientRawWithinDeadline_triple fun _ => .pure fun _ known => ⟨known.1.1, fun _ => known⟩)
    fun _ => .pure fun _ known => ⟨known.elim (·.1) (·.1), nofun⟩

theorem anywhere {β : Type} {program : Task Setting Data β} {after : β → World Setting Data → Prop}
    {failed : RestoreError → World Setting Data → Prop}
    (triple : ∀ session trust, Triple (At before client session trust) program after failed fun _ => False) :
    Triple (Around client before) program after failed fun _ => False :=
  fun w around => triple (w.sessions client) (w.untrusted client) w ⟨around, rfl, rfl⟩

theorem resetSettings_around (statements : List (Statement Setting Data Unit)) :
    Triple (Around client before) (resetSettings client deadlineAt statements)
      (fun _ => Around client before) (fun _ _ => False) fun _ => False := by
  induction statements with
  | nil => exact .pure fun _ around => around
  | cons statement rest ih =>
      have tried : Triple (Around client before) (resetSetting client deadlineAt statement)
          (fun _ => Around client before) (fun _ _ => False) fun _ => False :=
        anywhere fun _ _ => resetSetting_triple.weaken (fun _ here => here) (fun _ _ known => known.1)
          (fun _ _ => id)
          fun _ => id
      have asked : Triple (Around client before) (isRestoreClientUntrusted client : Task Setting Data Bool)
          (fun _ => Around client before) (fun _ _ => False) fun _ => False := .read fun _ around => around
      refine .bind tried fun reset => ?_
      split
      · exact ih
      · refine .bind asked fun untrusted => ?_
        split
        · exact .pure fun _ around => around
        · exact .bind ih fun _ => .pure fun _ around => around

/-- The loop reports no failure only where every reset succeeded. -/
theorem resetSettings_triple (statements : List (Statement Setting Data Unit)) :
    Triple (fun w => At before client session trust w ∧ (returned → Open deadlineAt w))
      (resetSettings client deadlineAt statements)
      (fun failed w => Around client before w ∧ (failed = true ∨ w.untrusted client = trust ∧
        Through statements session (w.sessions client) ∧ (returned → Open deadlineAt w)))
      (fun _ _ => False) fun _ => False := by
  induction statements generalizing session trust with
  | nil => exact .pure fun w known => ⟨known.1.1, Or.inr ⟨known.1.2.2, known.1.2.1, known.2⟩⟩
  | cons statement rest ih =>
      have tried : Triple (fun w => At before client session trust w ∧ (returned → Open deadlineAt w))
          (resetSetting client deadlineAt statement) (fun reset w => Around client before w ∧
            (reset = true → Done before client session trust statement () w ∧ Open deadlineAt w)) (fun _ _ => False)
          fun _ => False :=
        resetSetting_triple.weaken (fun _ known => known.1) (fun _ _ => id) (fun _ _ => id) fun _ => id
      refine .bind tried fun reset => ?_
      cases reset with
      | true =>
          intro w known
          obtain ⟨⟨around, trusted, found, complete, next, same, ran, there⟩, fresh⟩ := known.2 rfl
          refine (ih.weaken (fun _ => id) (fun failed after known => ⟨known.1, known.2.imp id fun through => ?_⟩)
            (fun _ _ => id) fun _ => id) w ⟨⟨around, there, trusted⟩, fun _ => fresh⟩
          exact ⟨through.1, ⟨found, complete, next, same, ran, through.2.1⟩, through.2.2⟩
      | false =>
          have asked : Triple (fun w => Around client before w ∧ (false = true →
              Done before client session trust statement () w ∧ Open deadlineAt w))
              (isRestoreClientUntrusted client : Task Setting Data Bool) (fun _ => Around client before)
              (fun _ _ => False) fun _ => False := .read fun _ known => known.1
          refine .bind asked fun untrusted => ?_
          split
          · exact .pure fun _ around => ⟨around, Or.inl rfl⟩
          · exact .bind (resetSettings_around rest) fun _ => .pure fun _ around => ⟨around, Or.inl rfl⟩

theorem through_resets {previous : Session Setting Data} {after : Option (Session Setting Data)}
    (through : Through [resetStatementTimeout server (server.display previous.statementTimeout),
      resetLockTimeout server (server.display previous.lockTimeout)] session after) :
        HasTimeouts previous after := by
  obtain ⟨one, _, two, _, first, three, _, four, same, second, rfl⟩ := through
  cases same
  simp only [resetStatementTimeout, server.reads, Option.map_some, Option.some.injEq, Prod.mk.injEq,
    true_and] at first
  simp only [resetLockTimeout, server.reads, Option.map_some, Option.some.injEq, Prod.mk.injEq, true_and] at second
  subst first second
  exact ⟨_, rfl, rfl, rfl⟩

/-- The `finally` block gives the timeouts back, or leaves a client that is known to be untrusted. -/
theorem restoreSettings_triple {previous : Session Setting Data} :
    Triple (fun w => At before client session trust w ∧ (returned → Open deadlineAt w))
      (restoreSettings server client deadlineAt (server.display previous.statementTimeout,
        server.display previous.lockTimeout))
      (fun _ w => Around client before w ∧ w.untrusted client = trust ∧
        (trust = true ∨ HasTimeouts previous (w.sessions client)) ∧ (returned → Open deadlineAt w))
      (fun _ => Spoiled before client) fun _ => False := by
  have asked : Triple (fun w => At before client session trust w ∧ (returned → Open deadlineAt w))
      (isRestoreClientUntrusted client : Task Setting Data Bool)
      (fun untrusted w => (At before client session trust w ∧ (returned → Open deadlineAt w)) ∧ untrusted = trust)
      (fun _ => Spoiled before client) fun _ => False := .read fun _ known => ⟨known, known.1.2.2⟩
  refine .bind asked fun untrusted => ?_
  refine .given ?_
  rintro rfl
  cases untrusted with
  | true => exact .pure fun w known => ⟨known.1.1, known.1.2.2, Or.inl rfl, known.2⟩
  | false =>
      have reset := (@resetSettings_triple _ _ before client deadlineAt session false returned
        [resetStatementTimeout server (server.display previous.statementTimeout),
          resetLockTimeout server (server.display previous.lockTimeout)]).weaken (fun _ => id) (fun _ _ => id)
        (fun _ w dead => (False.elim dead : Spoiled before client w)) fun _ => id
      refine .bind reset fun failed => ?_
      cases failed with
      | true =>
          have marked : Triple (fun w => Around client before w ∧ (true = true ∨ w.untrusted client = false ∧
              Through [resetStatementTimeout server (server.display previous.statementTimeout),
                resetLockTimeout server (server.display previous.lockTimeout)] session (w.sessions client) ∧
              (returned → Open deadlineAt w))) (markRestoreClientUntrusted client : Task Setting Data Unit)
              (fun _ => Spoiled before client) (fun _ => Spoiled before client) fun _ => False :=
            .update fun w known => ⟨known.1.markUntrusted, Function.update_self ..⟩
          exact .bind marked fun _ => .throw fun _ spoiled => spoiled
      | false =>
          refine .pure fun w known => ?_
          obtain ⟨trusted, through, fresh⟩ := known.2.resolve_left nofun
          exact ⟨known.1, trusted, Or.inr (through_resets through), fresh⟩

theorem sameTimeouts_of_has {previous : Session Setting Data} {after : Option (Session Setting Data)}
    (has : HasTimeouts previous after) : SameTimeouts (some previous) after := by
  obtain ⟨found, there, statement, lock⟩ := has
  intro now here
  rw [there] at here
  cases here
  exact ⟨previous, rfl, statement, lock⟩

theorem sameTimeouts_of_left {statement : Statement Setting Data α} (kind : statement.raised = keepTimeouts)
    (left : Left before client session trust statement w) : SameTimeouts session (w.sessions client) := by
  intro now here
  rcases left.2.2 with ended | same | ⟨found, after, there, raised⟩
  · simp [ended] at here
  · exact ⟨now, same ▸ here, rfl, rfl⟩
  · rw [raised, kind] at here
    cases here
    exact ⟨found, there, rfl, rfl⟩

/-- The session has its timeouts back or has ended, or its client is known to be untrusted. -/
def Restored (before : World Setting Data) (client : ClientId) (session : Option (Session Setting Data))
    (w : World Setting Data) : Prop :=
  Around client before w ∧ (w.untrusted client = true ∨ SameTimeouts session (w.sessions client))

variable {statement : Statement Setting Data α} {timeout : String}

theorem limited_triple :
    Triple (At before client session trust)
      (do
        queryClientRawWithinDeadline client deadlineAt (setTimeouts server timeout)
        queryClientRawWithinDeadline client deadlineAt statement)
      (fun value w => (Around client before w ∧ w.untrusted client = trust ∧ Open deadlineAt w) ∧
        Ran server timeout statement value)
      (fun _ => Around client before) fun _ => False := by
  have set := (@queryClientRawWithinDeadline_triple _ _ _ before client deadlineAt session trust
    (setTimeouts server timeout)).weaken (fun _ => id) (fun _ _ => id)
    (fun _ w known => (known.elim (·.1) (·.1) : Around client before w)) fun _ => id
  refine .bind set fun _ w known => ?_
  obtain ⟨⟨around, trusted, found, complete, next, same, ran, there⟩, _⟩ := known
  obtain ⟨limit, parsed, ran⟩ := Option.map_eq_some_iff.mp ran
  cases ran
  have sent := (@queryClientRawWithinDeadline_triple _ _ _ before client deadlineAt
    (some { found with statementTimeout := limit, lockTimeout := limit }) trust statement)
  refine (sent.weaken (fun _ => id) (fun value w known => ?_)
    (fun _ w known => known.elim (·.1) (·.1)) fun _ => id) w
    ⟨around, there, trusted⟩
  obtain ⟨⟨around, trusted, found, complete, next, same, ran, there⟩, fresh⟩ := known
  cases same
  exact ⟨⟨around, trusted, fresh⟩, limit, _, complete, next, parsed, rfl, rfl, ran⟩

theorem queryClientWithSessionTimeouts_triple :
    Triple (At before client session trust)
      (queryClientWithSessionTimeouts server client deadlineAt timeout statement)
      (fun value w => ((Around client before w ∧ w.untrusted client = trust) ∧
        (trust = true ∨ SameTimeouts session (w.sessions client)) ∧ Open deadlineAt w) ∧
          Ran server timeout statement value)
      (fun _ => Restored before client session) fun _ => False := by
  have shown := (@queryClientRawWithinDeadline_triple _ _ _ before client deadlineAt session trust
    (currentSettings server)).weaken (fun _ => id) (fun _ _ known => known.1)
    (fun _ w known => (known.elim (fun spoiled => ⟨spoiled.1, Or.inl spoiled.2⟩)
      (fun left => ⟨left.1, Or.inr (sameTimeouts_of_left rfl left)⟩) : Restored before client session w)) fun _ => id
  refine .bind shown fun previous w known => ?_
  obtain ⟨around, trusted, found, complete, next, same, ran, there⟩ := known
  subst same
  cases complete with
  | false =>
      cases ran
      exact ⟨around.markUntrusted, Or.inl (Function.update_self ..)⟩
  | true =>
      cases ran
      refine (Triple.ending limited_triple (fun value => .given fun ran => ?_) fun error => ?_) w
        (show At before client (some found) trust w from ⟨around, there, trusted⟩)
      · intro w known
        have restored := @restoreSettings_triple _ _ before client deadlineAt
          (w.sessions client) trust server True found
        exact (restored.weaken (fun _ => id) (fun _ w known => ⟨⟨⟨known.1, known.2.1⟩,
          known.2.2.1.imp id sameTimeouts_of_has, known.2.2.2 trivial⟩, ran⟩)
          (fun _ w spoiled => ⟨spoiled.1, Or.inl spoiled.2⟩) fun _ => id) w ⟨⟨known.1, rfl, known.2.1⟩,
            fun _ => known.2.2⟩
      · refine anywhere fun session trust => ?_
        have restored := @restoreSettings_triple _ _ before client deadlineAt session trust server False found
        exact restored.weaken (fun _ here => ⟨here, False.elim⟩)
          (fun _ w known => ⟨known.1, known.2.2.1.imp known.2.1.trans sameTimeouts_of_has⟩)
          (fun _ w spoiled => ⟨spoiled.1, Or.inl spoiled.2⟩) fun _ => id

theorem SameTimeouts.refl (session : Option (Session Setting Data)) : SameTimeouts session session :=
  fun now here => ⟨now, here, rfl, rfl⟩

theorem SameTimeouts.trans {one two three : Option (Session Setting Data)} (first : SameTimeouts one two)
    (second : SameTimeouts two three) : SameTimeouts one three := by
  intro now here
  obtain ⟨middle, there, statement, lock⟩ := second now here
  obtain ⟨found, start, statement', lock'⟩ := first middle there
  exact ⟨found, start, statement.trans statement', lock.trans lock'⟩

theorem queryClientWithinDeadline_triple :
    Triple (At before client session trust) (queryClientWithinDeadline server client deadlineAt statement)
      (fun value w => ((Around client before w ∧ w.untrusted client = trust) ∧
        (trust = true ∨ SameTimeouts session (w.sessions client)) ∧ Open deadlineAt w) ∧
        ∃ timeout, Ran server timeout statement value)
      (fun _ => Restored before client session) fun _ => False := by
  have entered : Triple (At before client session trust) (deadlineRemaining deadlineAt : Task Setting Data Int)
      (fun _ => At before client session trust) (fun _ => Restored before client session) fun _ => False :=
    (deadlineRemaining_triple fun w known => ⟨known.1.advance, known.2⟩).weaken (fun _ here => here)
      (fun _ _ known => known.1) (fun _ w known => ⟨known.1.1, Or.inr (known.1.2.1 ▸ .refl _)⟩) fun _ dead => dead
  refine .bind entered fun remaining => .bind queryClientWithSessionTimeouts_triple fun value => .given fun ran => ?_
  have checked : Triple (fun w => (Around client before w ∧ w.untrusted client = trust) ∧
      (trust = true ∨ SameTimeouts session (w.sessions client)) ∧ Open deadlineAt w)
      (deadlineRemaining deadlineAt : Task Setting Data Int)
      (fun _ w => (Around client before w ∧ w.untrusted client = trust) ∧
        (trust = true ∨ SameTimeouts session (w.sessions client)) ∧ Open deadlineAt w)
      (fun _ => Restored before client session) fun _ => False := by
    refine (@deadlineRemaining_triple _ _ deadlineAt
      (fun w => (Around client before w ∧ w.untrusted client = trust) ∧
      (trust = true ∨ SameTimeouts session (w.sessions client))) fun w known => ⟨⟨known.1.1.advance, known.1.2⟩,
        known.2⟩).weaken
      (fun w known => ⟨known.1, known.2.1⟩) (fun _ w known => ⟨known.1.1, known.1.2, known.2⟩)
      (fun _ w known => ?_) fun _ => id
    exact ⟨known.1.1.1, known.1.2.imp known.1.1.2.trans id⟩
  exact .bind checked fun _ => .pure fun w known => ⟨known, _, ran⟩

end Settings

section Clients

variable {server : ServerSettings Setting} {configured : Bool}

/-- The pool has none but trusted clients to hand out. -/
def PoolTrusted (w : World Setting Data) : Prop := ∀ client, w.available client = true → w.untrusted client = false

/-- What a caller leaves: every client it was handed is given back once, and as healthy only where it is
trusted and has its timeouts back. -/
structure GivenBack (before after : World Setting Data) : Prop where
  once : ∃ releases : List Release, after.handed = before.handed ++ releases.map (·.client) ∧
    after.released = before.released ++ releases ∧ ∀ release ∈ releases, release.untrusted = true →
      release.discarded = true
  sessions : ∀ client, after.untrusted client = true ∨ SameTimeouts (before.sessions client) (after.sessions client)
  latched : ∀ client, before.untrusted client = true → after.untrusted client = true
  trusted : PoolTrusted after

theorem GivenBack.refl (trusted : PoolTrusted w) : GivenBack w w :=
  ⟨⟨[], by simp, by simp, by simp⟩, fun _ => Or.inr (.refl _), fun _ => id, trusted⟩

theorem GivenBack.trans {one two three : World Setting Data} (first : GivenBack one two)
    (second : GivenBack two three) :
    GivenBack one three where
  once := by
    obtain ⟨early, handed, released, honest⟩ := first.once
    obtain ⟨late, handed', released', honest'⟩ := second.once
    refine ⟨early ++ late, by simp [handed, handed'], by simp [released, released'], fun release member => ?_⟩
    exact (List.mem_append.mp member).elim (honest release) (honest' release)
  sessions := by
    intro client
    rcases second.sessions client with spoiled | same
    · exact Or.inl spoiled
    · exact (first.sessions client).imp (second.latched client) fun early => early.trans same
  latched := fun client spoiled => second.latched client (first.latched client spoiled)
  trusted := second.trusted

def Idle (before w : World Setting Data) : Prop :=
  w.available = before.available ∧ w.handed = before.handed ∧ w.released = before.released ∧
    w.sessions = before.sessions ∧ w.untrusted = before.untrusted

def Out (before : World Setting Data) (client : ClientId) (w : World Setting Data) : Prop :=
  before.available client = true ∧ w.available = Function.update before.available client false ∧
    w.handed = before.handed ++ [client] ∧ w.released = before.released ∧ w.sessions = before.sessions ∧
    w.untrusted = before.untrusted

theorem idle_given (trusted : PoolTrusted before) (idle : Idle before w) : GivenBack before w := by
  obtain ⟨available, handed, released, sessions, untrusted⟩ := idle
  refine ⟨⟨[], by simp [handed], by simp [released], by simp⟩, fun client => Or.inr ?_, fun client spoiled => ?_,
    fun client here => ?_⟩
  · rw [sessions]
    exact .refl _
  · rwa [untrusted]
  · rw [untrusted]
    exact trusted client (available ▸ here)

theorem out_given {out : World Setting Data} (trusted : PoolTrusted before) (checked : Out before client out)
    (restored : Restored out client (out.sessions client) w) {discarded : Bool}
    (honest : w.untrusted client = true → discarded = true) : GivenBack before (w.giveBack client discarded) := by
  obtain ⟨offered, available, handed, released, sessions, untrusted⟩ := checked
  obtain ⟨around, state⟩ := restored
  refine ⟨⟨[⟨client, discarded, w.untrusted client⟩], ?_, ?_, ?_⟩, fun other => ?_, fun other spoiled => ?_,
    fun other here => ?_⟩
  · simp [World.giveBack, around.handed, handed]
  · simp [World.giveBack, around.released, released]
  · rintro release member spoiled
    cases List.mem_singleton.mp member
    exact honest spoiled
  · by_cases same : other = client
    · subst same
      rwa [← sessions]
    · right
      rw [← sessions, show (w.giveBack client discarded).sessions other =
        out.sessions other from around.sessions other same]
      exact .refl _
  · by_cases same : other = client
    · subst same
      exact around.latched (untrusted ▸ spoiled)
    · rw [show (w.giveBack client discarded).untrusted other =
        out.untrusted other from around.untrusted other same, untrusted]
      exact spoiled
  · by_cases same : other = client
    · subst same
      have kept : discarded = false := by simpa [World.giveBack] using here
      have known : w.untrusted other ≠ true := fun spoiled => by simp [honest spoiled] at kept
      simpa [World.giveBack] using known
    · have there : before.available other = true := by
        simpa [World.giveBack, Function.update_of_ne same, around.available, available] using here
      rw [show (w.giveBack client discarded).untrusted other =
        out.untrusted other from around.untrusted other same, untrusted]
      exact trusted other there

theorem Idle.advance (idle : Idle before w) : Idle before w.advance := idle

theorem idle_handOut (idle : Idle before w) (offered : w.available client = true) :
    Out before client (w.handOut client) := by
  obtain ⟨available, handed, released, sessions, untrusted⟩ := idle
  exact ⟨available ▸ offered, by rw [World.handOut, available], by rw [World.handOut, handed], released,
    sessions, untrusted⟩

def Owed (before w : World Setting Data) : Prop := ∃ client, Out before client w ∧ w.late = some client

/-- What may be known where a checkout's `catch` block starts. -/
def Overtaken (before : World Setting Data) (deadlineAt : Int) (error : RestoreError)
    (w : World Setting Data) : Prop :=
  (Owed before w ∧ (error = .adminQueryDeadline ∨ Over deadlineAt w)) ∨ (Idle before w ∧ w.late = none)

theorem arriving_cases (idle : Idle before w) (late : Option ClientId) :
    Owed before (w.arriving late) ∨ (Idle before (w.arriving late) ∧ (w.arriving late).late = none) := by
  unfold World.arriving
  cases offered : late.filter w.available with
  | some client =>
      exact Or.inl ⟨client, idle_handOut idle (Option.filter_eq_some_iff.mp offered).2, rfl⟩
  | none => exact Or.inr ⟨idle, rfl⟩

theorem raceConnect_triple : Triple (Idle before) raceConnect
    (fun client w => Out before client w ∧ w.late = some client) (Overtaken before deadlineAt) fun _ => False := by
  intro w idle
  unfold raceConnect
  cases w.moment.arrival with
  | obtained client =>
      by_cases offered : w.available client = true
      · dsimp only
        rw [if_pos offered]
        exact ⟨idle_handOut idle.advance offered, rfl⟩
      · dsimp only
        rw [if_neg offered]
        exact Or.inr ⟨idle, rfl⟩
  | refused => exact Or.inr ⟨idle, rfl⟩
  | timedOut late => exact (arriving_cases idle.advance late).imp (fun owed => ⟨owed, Or.inl rfl⟩) id
  | cancelled reason late =>
      refine (arriving_cases idle.advance late).imp (fun owed => ⟨owed, Or.inr (Or.inl ?_)⟩) id
      cases w.advance.abort <;> rfl

theorem discardLate_triple (trusted : PoolTrusted before) {error : RestoreError} :
    Triple (Owed before) (do
        discardLate
        throwIfAborted
        Program.throw error : Task Setting Data ClientId) (fun _ _ => False)
          (fun _ => GivenBack before) fun _ => False := by
  have discarded : Triple (Owed before) (discardLate : Task Setting Data Unit) (fun _ => GivenBack before)
      (fun _ => GivenBack before) fun _ => False := by
    refine .update fun w owed => ?_
    obtain ⟨client, out, late⟩ := owed
    rw [late]
    exact out_given trusted out ⟨.refl client w, Or.inr (.refl _)⟩ fun _ => rfl
  have checked : Triple (GivenBack before) (throwIfAborted : Task Setting Data Unit) (fun _ => GivenBack before)
      (fun _ => GivenBack before) fun _ => False :=
    throwIfAborted_triple.weaken (fun _ => id) (fun _ _ known => known.1) (fun _ _ known => known.1) fun _ => id
  exact .bind discarded fun _ => .bind checked fun _ => .throw fun _ given => given

/-- A checkout hands over its client, or gives it back: at once, or when it comes. -/
theorem connectRestoreClientWithinDeadline_triple (trusted : PoolTrusted before) :
    Triple (Idle before) (connectRestoreClientWithinDeadline deadlineAt configured)
      (fun client => Out before client) (fun _ => GivenBack before) fun _ => False := by
  have entered : Triple (Idle before) (deadlineRemaining deadlineAt : Task Setting Data Int) (fun _ => Idle before)
      (fun _ => GivenBack before) fun _ => False :=
    (deadlineRemaining_triple fun _ => Idle.advance).weaken (fun _ here => here) (fun _ _ known => known.1)
      (fun _ _ known => idle_given trusted known.1) fun _ dead => dead
  have checked : ∀ client, Triple (fun w => Out before client w ∧ w.late = some client)
      (deadlineRemaining deadlineAt : Task Setting Data Int) (fun _ => Out before client)
      (Overtaken before deadlineAt)
      fun _ => False := fun client =>
    (deadlineRemaining_triple fun _ known => known).weaken (fun _ here => here) (fun _ _ known => known.1.1)
      (fun _ _ known => Or.inl ⟨⟨client, known.1⟩, Or.inr known.2⟩) fun _ dead => dead
  refine .bind entered fun _ => ?_
  split
  · exact .throw fun _ idle => idle_given trusted idle
  · refine .catching (.bind raceConnect_triple fun client => .bind (checked client) fun _ => .pure fun _ out => out)
      fun error => ?_
    have owed : Triple (fun w => Owed before w ∧ (error = .adminQueryDeadline ∨ Over deadlineAt w))
        (deadlineExpired deadlineAt error : Task Setting Data Bool) (fun expired w => Owed before w ∧ expired = true)
        (fun _ => GivenBack before) fun _ => False := deadlineExpired_triple fun _ owed => owed
    have idle : Triple (fun w => Idle before w ∧ w.late = none)
      (deadlineExpired deadlineAt error : Task Setting Data Bool)
        (fun _ w => Idle before w ∧ w.late = none) (fun _ => GivenBack before) fun _ => False :=
      .bind (advance_triple fun _ known => known) fun _ => .read fun _ known => known
    refine .either (.bind owed fun expired => ?_) (.bind idle fun expired => ?_)
    · cases expired with
      | true =>
          exact (discardLate_triple trusted).weaken (fun _ known => known.1) (fun _ _ => False.elim)
            (fun _ _ => id) fun _ => id
      | false => exact fun w known => absurd known.2 nofun
    · cases expired with
      | true =>
          have nothing : Triple (fun w => Idle before w ∧ w.late = none) (discardLate : Task Setting Data Unit)
              (fun _ => GivenBack before) (fun _ => GivenBack before) fun _ => False := by
            refine .update fun w known => ?_
            rw [known.2]
            exact idle_given trusted known.1
          have checked : Triple (GivenBack before) (throwIfAborted : Task Setting Data Unit)
            (fun _ => GivenBack before)
              (fun _ => GivenBack before) fun _ => False :=
            throwIfAborted_triple.weaken (fun _ => id) (fun _ _ known => known.1)
              (fun _ _ known => known.1) fun _ => id
          exact .bind nothing fun _ => .bind checked fun _ => .throw fun _ given => given
      | false => exact .throw fun _ known => idle_given trusted known.1

variable {statement : Statement Setting Data α}

/-- A client is checked out of the pool, and what is known of it is what its queries have left. -/
def Holding (before : World Setting Data) (client : ClientId) (w : World Setting Data) : Prop :=
  ∃ out, Out before client out ∧ Restored out client (out.sessions client) w

theorem Around.trans {one two three : World Setting Data} (first : Around client one two)
    (second : Around client two three) :
    Around client one three where
  available := second.available.trans first.available
  handed := second.handed.trans first.handed
  released := second.released.trans first.released
  sessions := fun other different => (second.sessions other different).trans (first.sessions other different)
  untrusted := fun other different => (second.untrusted other different).trans (first.untrusted other different)
  latched := fun spoiled => second.latched (first.latched spoiled)

theorem Holding.goesOn {next : World Setting Data} (holding : Holding before client w)
    (restored : Restored w client (w.sessions client) next) : Holding before client next := by
  obtain ⟨out, checked, around, state⟩ := holding
  refine ⟨out, checked, around.trans restored.1, ?_⟩
  rcases restored.2 with spoiled | same
  · exact Or.inl spoiled
  · exact state.imp restored.1.latched fun early => early.trans same

theorem holding_given (trusted : PoolTrusted before) (holding : Holding before client w) :
    GivenBack before (w.giveBack client (w.untrusted client)) := by
  obtain ⟨out, checked, restored⟩ := holding
  exact out_given trusted checked restored id

theorem isUntrusted_triple {holds : World Setting Data → Prop} {after : RestoreError → World Setting Data → Prop} :
    Triple holds (isRestoreClientUntrusted client : Task Setting Data Bool)
      (fun untrusted w => holds w ∧ w.untrusted client = untrusted) after fun _ => False :=
        .read fun _ here => ⟨here, rfl⟩

theorem release_triple (trusted : PoolTrusted before) {untrusted : Bool}
    {after : RestoreError → World Setting Data → Prop} :
    Triple (fun w => Holding before client w ∧ w.untrusted client = untrusted)
      (release client untrusted : Task Setting Data Unit)
      (fun _ => GivenBack before) after fun _ => False := by
  refine .update fun w known => ?_
  obtain ⟨holding, rfl⟩ := known
  exact holding_given trusted holding

theorem queryPoolWithinDeadline_triple (trusted : PoolTrusted before) :
    Triple (Idle before) (queryPoolWithinDeadline server deadlineAt configured statement)
      (fun value w => (GivenBack before w ∧ Open deadlineAt w) ∧ ∃ timeout, Ran server timeout statement value)
      (fun _ => GivenBack before) fun _ => False := by
  refine .bind (connectRestoreClientWithinDeadline_triple trusted) fun client out checked => ?_
  have known : out.untrusted client = false := checked.2.2.2.2.2 ▸ trusted client checked.1
  have sent := @queryClientWithinDeadline_triple _ _ _ out client deadlineAt
    (out.sessions client) false server statement
  have failed : ∀ error, Triple (Restored out client (out.sessions client)) (do
      let untrusted ← isRestoreClientUntrusted client
      release client untrusted
      Program.throw error : Task Setting Data α)
      (fun value w => ((Around client out w ∧ w.untrusted client = false) ∧
        (false = true ∨ SameTimeouts (out.sessions client) (w.sessions client)) ∧ Open deadlineAt w) ∧
        ∃ timeout, Ran server timeout statement value) (fun _ => GivenBack before) fun _ => False := by
    intro error
    refine .bind (isUntrusted_triple.weaken (fun w restored => ⟨out, checked, restored⟩) (fun _ _ => id)
      (fun _ _ => id)
      fun _ => id) fun untrusted => .bind (release_triple trusted) fun _ => .throw fun _ given => given
  have answered : ∀ value, Triple (fun w => ((Around client out w ∧ w.untrusted client = false) ∧
      (false = true ∨ SameTimeouts (out.sessions client) (w.sessions client)) ∧ Open deadlineAt w) ∧
      ∃ timeout, Ran server timeout statement value) (release client false : Task Setting Data Unit)
      (fun _ w => (GivenBack before w ∧ Open deadlineAt w) ∧ ∃ timeout, Ran server timeout statement value)
      (fun _ => GivenBack before) fun _ => False := by
    refine fun value => .update fun w holds => ?_
    obtain ⟨⟨⟨around, quiet⟩, same, fresh⟩, ran⟩ := holds
    refine ⟨⟨out_given trusted checked ⟨around, Or.inr (same.resolve_left nofun)⟩ fun spoiled => ?_, fresh⟩, ran⟩
    rw [quiet] at spoiled
    cases spoiled
  exact Triple.bind (.catching sent failed)
    (fun value => .bind (answered value) fun _ => .pure fun _ known => known) out
    ⟨.refl client out, rfl, known⟩

theorem runtimeSession_triple (trusted : PoolTrusted before) (queries : List (Statement Setting Data α × Bool)) :
    Triple (Idle before) (runtimeSession server deadlineAt configured queries) (fun _ => GivenBack before)
      (fun _ => GivenBack before) fun _ => False := by
  refine .bind (connectRestoreClientWithinDeadline_triple trusted) fun client out checked => ?_
  have sent : ∀ statement : Statement Setting Data α, Triple (Holding before client)
      (queryClientWithinDeadline server client deadlineAt statement) (fun _ => Holding before client)
      (fun _ => Holding before client) fun _ => False := by
    intro statement w holding
    refine (queryClientWithinDeadline_triple.weaken (fun _ => id) (fun value next known => ?_)
      (fun error next restored => ?_)
      fun _ => id) w (show At w client (w.sessions client) (w.untrusted client) w from ⟨.refl client w, rfl, rfl⟩)
    · exact holding.goesOn ⟨known.1.1.1, known.1.2.1.imp known.1.1.2.trans id⟩
    · exact holding.goesOn restored
  have loop : Triple (Holding before client) (Program.forEach
      (fun query => do
        let send : Task Setting Data Unit := do
          let _ ← queryClientWithinDeadline server client deadlineAt query.1
          return ()
        if query.2 then Program.catching send fun _ => return () else send)
      queries) (fun _ => Holding before client) (fun _ => Holding before client) fun _ => False := by
    refine @Triple.forEach _ _ _ _ _ _ (fun _ => Holding before client) queries fun query rest _ => ?_
    have once : Triple (Holding before client) (do
        let _ ← queryClientWithinDeadline server client deadlineAt query.1
        return () : Task Setting Data Unit) (fun _ => Holding before client) (fun _ => Holding before client)
        fun _ => False := .bind (sent query.1) fun _ => .pure fun _ holding => holding
    dsimp only
    split
    · exact .catching once fun _ => .pure fun _ holding => holding
    · exact once
  have last : Triple (Holding before client) (do
      let untrusted ← isRestoreClientUntrusted client
      release client untrusted : Task Setting Data Unit) (fun _ => GivenBack before) (fun _ => GivenBack before)
      fun _ => False := .bind isUntrusted_triple fun _ => release_triple trusted
  exact Triple.ending loop (fun _ => last) (fun _ => last) out ⟨out, checked, .refl client out, Or.inr (.refl _)⟩

theorem usePool_triple (uses : List (PoolUse Setting Data α)) :
    Triple (GivenBack before) (usePool server deadlineAt configured uses) (fun _ => GivenBack before)
      (fun _ _ => False)
      fun _ => False := by
  refine @Triple.forEach _ _ _ _ _ _ (fun _ => GivenBack before) uses fun use rest _ => ?_
  have once : Triple (GivenBack before) (use.task server deadlineAt configured) (fun _ => GivenBack before)
      (fun _ => GivenBack before) fun _ => False := by
    intro w given
    have idle : Idle w w := ⟨rfl, rfl, rfl, rfl, rfl⟩
    cases use with
    | query statement =>
        have sent : Triple (Idle w) (queryPoolWithinDeadline server deadlineAt configured statement)
            (fun _ => GivenBack before) (fun _ => GivenBack before) fun _ => False :=
          (queryPoolWithinDeadline_triple given.trusted).weaken (fun _ => id)
          (fun _ _ known => given.trans known.1.1)
            (fun _ _ more => given.trans more) fun _ => id
        have answered : Triple (Idle w) ((PoolUse.query statement).task server deadlineAt configured)
            (fun _ => GivenBack before) (fun _ => GivenBack before) fun _ => False :=
          .bind sent fun _ => .pure fun _ given => given
        exact answered w idle
    | session queries =>
        exact ((runtimeSession_triple given.trusted queries).weaken (fun _ => id) (fun _ _ more => given.trans more)
          (fun _ _ more => given.trans more) fun _ => id) w idle
  exact .catching once fun _ => .pure fun _ given => given

theorem settled {β : Type} {program : Task Setting Data β} {holds : World Setting Data → Prop}
    {after : β → World Setting Data → Prop} {failed : RestoreError → World Setting Data → Prop}
    {left : World Setting Data → Prop} (triple : Triple holds program after failed fun _ => False) (start : holds w)
    (answered : ∀ value w, after value w → left w) (threw : ∀ error w, failed error w → left w) :
    left (program w).2 ∧ ∀ value, (program w).1 = .returned value → after value (program w).2 := by
  have here := triple w start
  generalize program w = ended at here ⊢
  obtain ⟨outcome, next⟩ := ended
  cases outcome with
  | returned value =>
      refine ⟨answered value next here, fun other same => ?_⟩
      cases same
      exact here
  | threw error => exact ⟨threw error next here, nofun⟩
  | died => exact here.elim

/-- Whatever fails, is lost, runs into the deadline or is aborted: the session of a query has its timeouts
back, or has ended, or its client is known to be untrusted; a query answers only where it ran and was in
time; and a pool is given back each client once, as healthy only where nothing speaks against it. -/
theorem session_timeouts_restored (server : ServerSettings Setting) (deadlineAt : Int) (configured : Bool)
    (before : World Setting Data) :
    (∀ client timeout (statement : Statement Setting Data α),
      Restored before client (before.sessions client)
        (queryClientWithSessionTimeouts server client deadlineAt timeout statement before).2 ∧
      ∀ value, (queryClientWithSessionTimeouts server client deadlineAt timeout statement before).1 =
        .returned value →
        Open deadlineAt (queryClientWithSessionTimeouts server client deadlineAt timeout statement before).2 ∧
          Ran server timeout statement value) ∧
    (∀ client (statement : Statement Setting Data α),
      Restored before client (before.sessions client)
        (queryClientWithinDeadline server client deadlineAt statement before).2 ∧
      ∀ value, (queryClientWithinDeadline server client deadlineAt statement before).1 = .returned value →
        Open deadlineAt (queryClientWithinDeadline server client deadlineAt statement before).2 ∧
          ∃ timeout, Ran server timeout statement value) ∧
    (PoolTrusted before →
      (∀ (statement : Statement Setting Data α) value,
        (queryPoolWithinDeadline server deadlineAt configured statement before).1 = .returned value →
          Open deadlineAt (queryPoolWithinDeadline server deadlineAt configured statement before).2 ∧
            ∃ timeout, Ran server timeout statement value) ∧
      ∀ uses : List (PoolUse Setting Data α),
        GivenBack before (usePool server deadlineAt configured uses before).2) := by
  have start : ∀ client, At before client (before.sessions client) (before.untrusted client) before :=
    fun client => ⟨.refl client before, rfl, rfl⟩
  refine ⟨fun client timeout statement => ?_, fun client statement => ?_,
    fun trusted => ⟨fun statement value answered => ?_,
    fun uses => ?_⟩⟩
  · obtain ⟨restored, answers⟩ := settled queryClientWithSessionTimeouts_triple (start client)
      (fun _ w known => (⟨known.1.1.1, known.1.2.1.imp known.1.1.2.trans id⟩ :
        Restored before client (before.sessions client) w))
      fun _ _ => id
    exact ⟨restored, fun value answered => ⟨(answers value answered).1.2.2, (answers value answered).2⟩⟩
  · obtain ⟨restored, answers⟩ := settled queryClientWithinDeadline_triple (start client)
      (fun _ w known => (⟨known.1.1.1, known.1.2.1.imp known.1.1.2.trans id⟩ :
        Restored before client (before.sessions client) w))
      fun _ _ => id
    exact ⟨restored, fun value answered => ⟨(answers value answered).1.2.2, (answers value answered).2⟩⟩
  · have known := (settled (queryPoolWithinDeadline_triple trusted)
      (show Idle before before from ⟨rfl, rfl, rfl, rfl, rfl⟩)
      (fun _ _ known => known.1.1) fun _ _ => id).2 value answered
    exact ⟨known.1.2, known.2⟩
  · exact (settled (usePool_triple uses) (GivenBack.refl trusted) (fun _ _ => id) fun _ _ => False.elim).1

def quietPool (schedule : Nat → Moment String Unit) : World String Unit where
  now := 0
  abort := none
  sessions := fun _ => some ⟨"0", "0", ()⟩
  untrusted := fun _ => false
  available := fun _ => true
  handed := []
  released := []
  late := none
  schedule := schedule
  moments := 0

def plainSettings : ServerSettings String := ⟨id, some, fun _ => rfl⟩

def selectOne : Statement String Unit Nat := ⟨fun _ session => some (1, session), fun _ after => after⟩

def lostReset (await : Nat) : Moment String Unit :=
  ⟨1, none, if await = 14 then .lost else .answered true, .obtained 1, true⟩

theorem lostReset_discarded :
    (usePool plainSettings 100 true [.query selectOne] (quietPool lostReset)).2.released = [⟨1, true, true⟩] ∧
      GivenBack (quietPool lostReset) (usePool plainSettings 100 true [.query selectOne] (quietPool lostReset)).2 :=
  ⟨by decide +kernel, (session_timeouts_restored plainSettings 100 true (quietPool lostReset)).2.2
    (fun _ _ => rfl) |>.2
    [.query selectOne]⟩

end Clients

end PublicLighting.Operations.Restore
