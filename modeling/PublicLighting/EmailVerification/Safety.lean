import PublicLighting.EmailVerification.Store

/-! Every interleaving of the store's statements keeps each intent to its lifecycle. -/

namespace PublicLighting.EmailVerification

open Foundations

variable {Digest : Type}

/-- The row that goes with each stage of the lifecycle. -/
def Matches : Lifecycle Digest → Option (Challenge Digest) → Prop
  | .awaiting email otp sends attempts, some row =>
      row.emailDigest = email ∧ row.otpDigest = otp ∧ row.sendCount = sends ∧
        row.attemptCount = attempts ∧ row.verification = none
  | .verified email token, some row => row.emailDigest = email ∧
      ∃ verifiedAt, row.verification = some ⟨token, verifiedAt, none⟩
  | .consumed, some row =>
      ∃ token verifiedAt consumedAt, row.verification = some ⟨token, verifiedAt, some consumedAt⟩
  | _, some _ => False
  | _, none => True

/-- The history of an intent has kept to the lifecycle, as far as its row says. -/
def Lawful (intent : Intent Digest) : Prop :=
  ∃ l, Run Moves .unsent intent.history l ∧ Matches l intent.challenge

def Grows (before after : Intent Digest) : Prop := before.history <+: after.history

theorem grows_refl (intent : Intent Digest) : Grows intent intent := List.prefix_rfl

theorem grows_trans (a b c : Intent Digest) (first : Grows a b) (second : Grows b c) : Grows a c :=
  List.IsPrefix.trans first second

section Statements

variable {intent : Intent Digest} {row : Challenge Digest} {now late : Nat}

theorem lawful_insert (challenge : NewEmailChallenge Digest) (now : Nat) :
    Lawful ⟨some (insertRow challenge now), [.sent challenge.emailDigest challenge.otpDigest]⟩ :=
  ⟨_, .single (.create _ _), rfl, rfl, rfl, rfl, rfl⟩

theorem Lawful.awaiting (lawful : Lawful intent) (present : intent.challenge = some row)
    (unverified : row.verification = none) :
    Run Moves .unsent intent.history
      (.awaiting row.emailDigest row.otpDigest row.sendCount row.attemptCount) := by
  obtain ⟨l, run, fits⟩ := lawful
  rw [present] at fits
  cases l with
  | unsent => exact absurd fits id
  | awaiting email otp sends attempts =>
      obtain ⟨rfl, rfl, rfl, rfl, _⟩ := fits
      exact run
  | verified email token =>
      obtain ⟨_, verifiedAt, held⟩ := fits
      rw [unverified] at held
      cases held
  | consumed =>
      obtain ⟨token, verifiedAt, consumedAt, held⟩ := fits
      rw [unverified] at held
      cases held
  | removed => exact absurd fits id

theorem lawful_delete (lawful : Lawful intent) : Lawful ⟨none, intent.history⟩ := by
  obtain ⟨l, run, _⟩ := lawful
  exact ⟨l, run, by cases l <;> trivial⟩

variable [DecidableEq Digest]

theorem lawful_resend (lawful : Lawful intent) (present : intent.challenge = some row)
    {challenge : NewEmailChallenge Digest} {sent : Challenge Digest}
    (updated : resendUpdate challenge row now late = some sent) :
    Lawful ⟨some sent, intent.history ++ [.sent challenge.emailDigest challenge.otpDigest]⟩ := by
  unfold resendUpdate at updated
  split at updated <;> try contradiction
  rename_i more
  split at updated <;> cases updated
  rename_i tested
  obtain ⟨email, unverified, _⟩ := tested
  have before := lawful.awaiting present unverified
  rw [email] at before
  exact ⟨_, before.snoc (.resend _ _ _ more), email, rfl, rfl, rfl, unverified⟩

theorem lawful_attempt (lawful : Lawful intent) (present : intent.challenge = some row)
    {input : VerifyChallengeInput Digest} {attempted : Challenge Digest}
    (updated : attemptUpdate input row now = some attempted) :
    Lawful ⟨some attempted, intent.history ++ [.compared input.otpDigest]⟩ := by
  unfold attemptUpdate at updated
  split at updated <;> try contradiction
  rename_i more
  split at updated <;> cases updated
  rename_i tested
  have before := lawful.awaiting present tested.2.1
  exact ⟨_, before.snoc (.compare _ _ _ more), rfl, rfl, rfl, rfl, tested.2.1⟩

theorem lawful_mark (lawful : Lawful intent) (present : intent.challenge = some row)
    {input : VerifyChallengeInput Digest} {marked : Challenge Digest} (call : CallId)
    (matched : row.otpDigest = input.otpDigest)
    (updated : markUpdate input row now late = some marked) :
    Lawful ⟨some marked, intent.history ++ [.verified call input.emailDigest input.otpDigest
      input.verificationTokenDigest now marked.expiresAt]⟩ := by
  unfold markUpdate at updated
  split at updated <;> cases updated
  rename_i tested
  obtain ⟨email, unverified, unexpired⟩ := tested
  have before := lawful.awaiting present unverified
  rw [email, matched] at before
  exact ⟨_, before.snoc (.verify call _ _ _ unexpired), email, _, rfl⟩

theorem lawful_consume (lawful : Lawful intent) (present : intent.challenge = some row)
    {emailDigest tokenDigest : Digest} {consumed : Challenge Digest} (call : CallId)
    (updated : consumeUpdate emailDigest tokenDigest row now late = some consumed) :
    Lawful ⟨some consumed, intent.history ++
      [.consumed call emailDigest tokenDigest now row.expiresAt]⟩ := by
  unfold consumeUpdate at updated
  split at updated <;> try contradiction
  rename_i verification held
  split at updated <;> cases updated
  rename_i tested
  obtain ⟨rfl, rfl, unconsumed, unexpired⟩ := tested
  obtain ⟨l, run, fits⟩ := lawful
  rw [present] at fits
  cases l with
  | unsent => exact absurd fits id
  | awaiting email otp sends attempts =>
      obtain ⟨_, _, _, _, unverified⟩ := fits
      rw [held] at unverified
      cases unverified
  | verified email token =>
      obtain ⟨rfl, verifiedAt, known⟩ := fits
      rw [held, Option.some.injEq] at known
      subst known
      exact ⟨_, run.snoc (.consume call _ _ unexpired), _, _, _, rfl⟩
  | consumed =>
      obtain ⟨token, verifiedAt, consumedAt, known⟩ := fits
      rw [held, Option.some.injEq] at known
      subst known
      cases unconsumed
  | removed => exact absurd fits id

theorem lawful_undeliver (lawful : Lawful intent) (present : intent.challenge = some row)
    {otpDigest : Digest} (deleted : undeliverable otpDigest row = true) :
    Lawful ⟨none, intent.history ++ [.undelivered]⟩ := by
  simp only [undeliverable, Option.isNone_iff_eq_none, decide_eq_true_eq] at deleted
  exact ⟨_, (lawful.awaiting present deleted.2).snoc (.remove _ _), trivial⟩

end Statements

/-! The calls. -/

section Calls

variable {s : State Digest} {call : CallId}

def Call.inTransaction : Call Digest → Bool
  | .idle => false
  | .ended _ => false
  | _ => true

def Pristine (s : State Digest) (intentId : IntentId) : Prop :=
  s.rows.locks intentId = none ∧ s.rows.committed intentId = ⟨none, []⟩

/-- A success that a call reports is in the history that the call sees. -/
def Recorded (s : State Digest) (call : CallId) : Result → Prop
  | .verify intentId (.verified _) => ∃ email otp token time expiresAt,
      .verified call email otp token time expiresAt ∈ (s.intent call intentId).history
  | .consumed intentId true => ∃ email token time expiresAt,
      .consumed call email token time expiresAt ∈ (s.intent call intentId).history
  | _ => True

def Ready (s : State Digest) (call : CallId) : Call Digest → Prop
  | .creating challenge => challenge.intentId ∈ s.drawn ∧ Pristine s challenge.intentId
  | .marking input => ∃ intent row, s.rows.locks input.intentId = some (call, intent) ∧
      intent.challenge = some row ∧ row.otpDigest = input.otpDigest
  | .cleaning (.commit result) => Recorded s call result
  | .committing result => Recorded s call result
  | .inCaller result => Recorded s call result
  | .ended result => Recorded s call result
  | _ => True

structure Inv (s : State Digest) : Prop where
  rows : s.rows.Versions (fun _ => Lawful) Grows
  undrawn : ∀ intentId, intentId ∉ s.drawn → Pristine s intentId
  ready : ∀ call, Ready s call (s.calls call)
  creators : ∀ call other challenge rival, s.calls call = .creating challenge →
    s.calls other = .creating rival → challenge.intentId = rival.intentId → call = other
  holders : ∀ intentId lock, s.rows.locks intentId = some lock →
    (s.calls lock.1).inTransaction = true

theorem Inv.lawful (inv : Inv s) (intentId : IntentId) : Lawful (s.intent call intentId) :=
  inv.rows.view

theorem Pristine.intent {intentId : IntentId} (pristine : Pristine s intentId) :
    s.intent call intentId = ⟨none, []⟩ := by
  rw [State.intent, RowLocks.view_unlocked pristine.1, pristine.2]

theorem Inv.present (inv : Inv s) {intentId : IntentId} {row : Challenge Digest}
    (present : (s.intent call intentId).challenge = some row) :
    intentId ∈ s.drawn ∧
      ∀ other challenge, s.calls other = .creating challenge → challenge.intentId ≠ intentId := by
  have touched : ¬ Pristine s intentId := by
    intro pristine
    rw [pristine.intent] at present
    cases present
  refine ⟨by_contra fun missing => touched (inv.undrawn intentId missing), ?_⟩
  intro other challenge creating same
  have waiting := inv.ready other
  rw [creating] at waiting
  exact touched (same ▸ waiting.2)

theorem Recorded.mono {t : State Digest} {result : Result} (recorded : Recorded s call result)
    (grows : ∀ intentId, Grows (s.intent call intentId) (t.intent call intentId)) :
    Recorded t call result := by
  unfold Recorded at *
  split
  · obtain ⟨email, otp, token, time, expiresAt, member⟩ := recorded
    exact ⟨email, otp, token, time, expiresAt, (grows _).subset member⟩
  · obtain ⟨email, token, time, expiresAt, member⟩ := recorded
    exact ⟨email, token, time, expiresAt, (grows _).subset member⟩
  · trivial

/-- What is left of a call's readiness when another call has written or committed. -/
theorem Ready.mono {t : State Digest} {next : Call Digest} (ready : Ready s call next)
    (drawn : s.drawn ⊆ t.drawn)
    (pristine : ∀ challenge, next = .creating challenge → Pristine s challenge.intentId →
      Pristine t challenge.intentId)
    (locked : ∀ intentId version, s.rows.locks intentId = some (call, version) →
      t.rows.locks intentId = some (call, version))
    (grows : ∀ intentId, Grows (s.intent call intentId) (t.intent call intentId)) :
    Ready t call next := by
  cases next with
  | creating challenge => exact ⟨drawn ready.1, pristine challenge rfl ready.2⟩
  | marking input =>
      obtain ⟨intent, row, held, present, same⟩ := ready
      exact ⟨intent, row, locked _ _ held, present, same⟩
  | cleaning next =>
      cases next with
      | commit result => exact Recorded.mono ready grows
      | _ => trivial
  | committing result => exact Recorded.mono ready grows
  | inCaller result => exact Recorded.mono ready grows
  | ended result => exact Recorded.mono ready grows
  | _ => trivial

theorem update_cases (P : CallId → Call Digest → Prop) {next : Call Digest} (moved : P call next)
    (rest : ∀ other, other ≠ call → P other (s.calls other)) (other : CallId) :
    P other (Function.update s.calls call next other) := by
  by_cases same : other = call
  · subst same
    rw [Function.update_self]
    exact moved
  · rw [Function.update_of_ne same]
    exact rest other same

theorem Inv.creators_update (inv : Inv s) {next : Call Digest}
    (later : ∀ challenge, next ≠ .creating challenge) :
    ∀ one other challenge rival, Function.update s.calls call next one = .creating challenge →
      Function.update s.calls call next other = .creating rival →
      challenge.intentId = rival.intentId → one = other := by
  have before : ∀ other challenge, Function.update s.calls call next other = .creating challenge →
      s.calls other = .creating challenge := fun other challenge =>
    update_cases (fun other next => next = .creating challenge → s.calls other = .creating challenge)
      (fun same => absurd same (later challenge)) (fun _ _ => id) other
  intro one other challenge rival first second
  exact inv.creators one other challenge rival (before _ _ first) (before _ _ second)

theorem underway_update {next : Call Digest} (underway : next.inTransaction = true)
    {other : CallId} (held : (s.calls other).inTransaction = true) :
    (Function.update s.calls call next other).inTransaction = true :=
  update_cases (fun who next => who = other → next.inTransaction = true) (fun _ => underway)
    (fun _ _ same => same ▸ held) other rfl

theorem inv_move (inv : Inv s) {next : Call Digest} (ready : Ready s call next)
    (underway : next.inTransaction = true) (later : ∀ challenge, next ≠ .creating challenge) :
    Inv (s.setCall call next) where
  rows := inv.rows
  undrawn := inv.undrawn
  ready := update_cases (fun call next => Ready s call next) ready fun other _ => inv.ready other
  creators := inv.creators_update later
  holders := fun intentId lock held => underway_update underway (inv.holders intentId lock held)

theorem inv_write (inv : Inv s) {intentId : IntentId} {row : Intent Digest} {late : Nat}
    {next : Call Digest} {t : State Digest} (written : s.write call intentId row late next = some t)
    (lawful : Lawful row) (grows : Grows (s.intent call intentId) row)
    (drawn : intentId ∈ s.drawn)
    (rivals : ∀ other challenge, other ≠ call → s.calls other = .creating challenge →
      challenge.intentId ≠ intentId)
    (ready : Ready t call next) (underway : next.inTransaction = true)
    (later : ∀ challenge, next ≠ .creating challenge) : Inv t := by
  unfold State.write at written
  split at written <;> cases written
  rename_i free
  exact {
    rows := inv.rows.write grows_refl grows_trans lawful grows
    undrawn := by
      intro elsewhere missing
      have different : elsewhere ≠ intentId := fun same => missing (same ▸ drawn)
      obtain ⟨unlocked, empty⟩ := inv.undrawn elsewhere missing
      exact ⟨(RowLocks.write_locks_of_ne different).trans unlocked, empty⟩
    ready := by
      intro other
      by_cases same : other = call
      · subst same
        simpa only [State.setCall, Function.update_self] using ready
      · have kept := inv.ready other
        simp only [State.setCall, Function.update_of_ne same]
        refine kept.mono (List.Subset.refl _) ?_ ?_ ?_
        · intro challenge creating pristine
          have different := rivals other challenge same creating
          exact ⟨(RowLocks.write_locks_of_ne different).trans pristine.1, pristine.2⟩
        · intro elsewhere version held
          have different : elsewhere ≠ intentId := by
            rintro rfl
            exact same (free _ held)
          exact (RowLocks.write_locks_of_ne different).trans held
        · intro elsewhere
          have unseen := @RowLocks.view_write_other _ _ _ _ s.rows call other intentId elsewhere row _
            free same
          change Grows (s.rows.view other elsewhere) ((s.rows.write call intentId row).view other elsewhere)
          rw [unseen]
          exact grows_refl _
    creators := inv.creators_update later
    holders := by
      intro elsewhere lock held
      by_cases same : elsewhere = intentId
      · subst same
        have mine : (call, row) = lock := Option.some.inj (RowLocks.write_locks_self.symm.trans held)
        subst mine
        simpa only [State.setCall, Function.update_self] using underway
      · exact underway_update underway (inv.holders elsewhere lock
          ((RowLocks.write_locks_of_ne same).symm.trans held)) }

theorem Inv.released (inv : Inv s) {next : Call Digest} {intentId : IntentId}
    {lock : CallId × Intent Digest} (held : s.rows.released call intentId = some lock) :
    (Function.update s.calls call next lock.1).inTransaction = true := by
  obtain ⟨before, different⟩ := RowLocks.released_eq_some.mp held
  rw [Function.update_of_ne different]
  exact inv.holders intentId lock before

theorem inv_commit (inv : Inv s) {result : Result} (recorded : Recorded s call result) :
    Inv ({ s with rows := s.rows.commit call }.setCall call (.ended result)) where
  rows := inv.rows.commit
  undrawn := by
    intro intentId missing
    obtain ⟨unlocked, empty⟩ := inv.undrawn intentId missing
    refine ⟨?_, ?_⟩
    · simp [State.setCall, RowLocks.commit, RowLocks.released, unlocked]
    · exact (RowLocks.view_unlocked unlocked).trans empty
  ready := by
    intro other
    have moves : ∀ intentId, Grows (s.rows.view other intentId) ((s.rows.commit call).view other intentId) :=
      fun intentId => inv.rows.commit_moves grows_refl
    by_cases same : other = call
    · subst same
      simp only [State.setCall, Function.update_self]
      exact recorded.mono moves
    · simp only [State.setCall, Function.update_of_ne same]
      refine (inv.ready other).mono (List.Subset.refl _) ?_ ?_ moves
      · intro challenge _ pristine
        refine ⟨?_, (RowLocks.view_unlocked pristine.1).trans pristine.2⟩
        simp [RowLocks.commit, RowLocks.released, pristine.1]
      · intro intentId version held
        exact RowLocks.released_eq_some.mpr ⟨held, same⟩
  creators := inv.creators_update fun _ same => by cases same
  holders := fun _ _ held => inv.released held

theorem inv_rollback (inv : Inv s) {result : Result}
    (silent : ∀ t : State Digest, Recorded t call result) :
    Inv ({ s with rows := s.rows.rollback call }.setCall call (.ended result)) where
  rows := inv.rows.rollback
  undrawn := by
    intro intentId missing
    obtain ⟨unlocked, empty⟩ := inv.undrawn intentId missing
    refine ⟨?_, empty⟩
    simp [State.setCall, RowLocks.rollback, RowLocks.released, unlocked]
  ready := by
    intro other
    by_cases same : other = call
    · subst same
      simp only [State.setCall, Function.update_self]
      exact silent _
    · simp only [State.setCall, Function.update_of_ne same]
      refine (inv.ready other).mono (List.Subset.refl _) ?_ ?_ ?_
      · intro challenge _ pristine
        refine ⟨?_, pristine.2⟩
        simp [RowLocks.rollback, RowLocks.released, pristine.1]
      · intro intentId version held
        exact RowLocks.released_eq_some.mpr ⟨held, same⟩
      · intro intentId
        have kept := @RowLocks.view_rollback_other _ _ _ _ s.rows call other intentId same
        change Grows (s.rows.view other intentId) ((s.rows.rollback call).view other intentId)
        rw [kept]
        exact grows_refl _
  creators := inv.creators_update fun _ same => by cases same
  holders := fun _ _ held => inv.released held

theorem State.write_eq {intentId : IntentId} {row : Intent Digest} {late : Nat} {next : Call Digest}
    {t : State Digest} (written : s.write call intentId row late next = some t) :
    t.intent call intentId = row ∧ t.rows.locks intentId = some (call, row) := by
  unfold State.write at written
  split at written <;> cases written
  exact ⟨RowLocks.view_write_self, RowLocks.write_locks_self⟩

theorem State.write_grows {intentId : IntentId} {row : Intent Digest} {late : Nat}
    {next : Call Digest} {t : State Digest}
    (written : s.write call intentId row late next = some t)
    (grows : Grows (s.intent call intentId) row) (elsewhere : IntentId) :
    Grows (s.intent call elsewhere) (t.intent call elsewhere) := by
  by_cases same : elsewhere = intentId
  · subst same
    rw [(State.write_eq written).1]
    exact grows
  · unfold State.write at written
    split at written <;> cases written
    have unseen := @RowLocks.view_write_of_ne _ _ _ _ s.rows call call intentId elsewhere row _ same
    change Grows (s.rows.view call elsewhere) ((s.rows.write call intentId row).view call elsewhere)
    rw [unseen]
    exact grows_refl _

theorem recorded_last {row : Intent Digest} {history : List (Event Digest)} {event : Event Digest}
    (grown : row.history = history ++ [event]) : event ∈ row.history := by
  simp [grown]

theorem inv_update (inv : Inv s) {intentId : IntentId} {row : Challenge Digest} {late : Nat}
    {challenge : Option (Challenge Digest)} {events : List (Event Digest)} {next : Call Digest}
    {t : State Digest}
    (written : s.write call intentId ⟨challenge, (s.intent call intentId).history ++ events⟩ late next =
      some t)
    (present : (s.intent call intentId).challenge = some row)
    (lawful : Lawful ⟨challenge, (s.intent call intentId).history ++ events⟩)
    (ready : Ready t call next) (underway : next.inTransaction = true)
    (later : ∀ challenge, next ≠ .creating challenge) : Inv t := by
  obtain ⟨drawn, rivals⟩ := inv.present present
  exact inv_write inv written lawful (List.prefix_append _ _) drawn (fun other challenge _ => rivals other challenge)
    ready underway later

variable [DecidableEq Digest]

theorem inv_step {label : Label Digest} {t : State Digest} (inv : Inv s)
    (taken : step s label = some t) : Inv t := by
  cases label with
  | tick =>
      cases taken
      exact { inv with }
  | createChallenge call challenge =>
      simp only [step] at taken
      split at taken <;> try contradiction
      split at taken <;> cases taken
      rename_i idle fresh
      have pristine := inv.undrawn challenge.intentId fresh
      exact {
        rows := inv.rows
        undrawn := fun intentId missing => inv.undrawn intentId fun member =>
          missing (List.mem_cons_of_mem _ member)
        ready := by
          intro other
          by_cases same : other = call
          · subst same
            simp only [State.setCall, Function.update_self]
            exact ⟨List.mem_cons_self, pristine⟩
          · simp only [State.setCall, Function.update_of_ne same]
            exact (inv.ready other).mono (List.subset_cons_self _ _) (fun _ _ => id) (fun _ _ => id)
              fun _ => grows_refl _
        creators := by
          have older : ∀ other rival, s.calls other = .creating rival →
              challenge.intentId ≠ rival.intentId := by
            intro other rival creating same
            have waiting := inv.ready other
            rw [creating] at waiting
            exact fresh (same ▸ waiting.1)
          intro one other first second begun rivals same
          simp only [State.setCall] at begun rivals
          by_cases mine : one = call
          · by_cases also : other = call
            · exact mine.trans also.symm
            · rw [mine, Function.update_self, Call.creating.injEq] at begun
              rw [Function.update_of_ne also] at rivals
              exact absurd (begun ▸ same) (older other second rivals)
          · rw [Function.update_of_ne mine] at begun
            by_cases also : other = call
            · rw [also, Function.update_self, Call.creating.injEq] at rivals
              exact absurd (rivals ▸ same.symm) (older one first begun)
            · rw [Function.update_of_ne also] at rivals
              exact inv.creators one other first second begun rivals same
        holders := fun intentId lock held => underway_update rfl (inv.holders intentId lock held) }
  | resendChallenge call challenge =>
      simp only [step] at taken
      split at taken <;> cases taken
      exact inv_move inv trivial rfl fun _ same => by cases same
  | verifyChallenge call input =>
      simp only [step] at taken
      split at taken <;> cases taken
      exact inv_move inv trivial rfl fun _ same => by cases same
  | deleteUndeliveredChallenge call intentId otpDigest =>
      simp only [step] at taken
      split at taken <;> try contradiction
      split at taken
      · rename_i found
        rw [Option.any_eq_true] at found
        obtain ⟨row, present, deleted⟩ := found
        exact inv_update inv taken present (lawful_undeliver (inv.lawful _) present deleted) trivial rfl
          fun _ same => by cases same
      · cases taken
        exact inv_move inv trivial rfl fun _ same => by cases same
  | consumeVerification call intentId emailDigest tokenDigest late =>
      simp only [step] at taken
      split at taken <;> try contradiction
      split at taken
      · rename_i row consumed found
        simp only [Option.bind_eq_some_iff, Option.map_eq_some_iff, Prod.mk.injEq] at found
        obtain ⟨known, present, done, updated, sameRow, sameDone⟩ := found
        subst sameRow sameDone
        refine inv_update inv taken present (lawful_consume (inv.lawful _) present call updated) ?_ rfl
          fun _ same => by cases same
        refine ⟨emailDigest, tokenDigest, s.now, known.expiresAt, ?_⟩
        rw [(State.write_eq taken).1]
        exact recorded_last rfl
      · cases taken
        exact inv_move inv trivial rfl fun _ same => by cases same
  | cleanupExpired call =>
      simp only [step] at taken
      split at taken <;> cases taken
      exact inv_move inv trivial rfl fun _ same => by cases same
  | rateLimited call retryAfterSeconds =>
      simp only [step] at taken
      split at taken <;> cases taken <;> exact inv_move inv trivial rfl fun _ same => by cases same
  | insertChallenge call late =>
      simp only [step] at taken
      split at taken <;> try contradiction
      rename_i challenge creating
      have waiting := inv.ready call
      rw [creating] at waiting
      obtain ⟨drawn, pristine⟩ := waiting
      have empty : s.intent call challenge.intentId = ⟨none, []⟩ := pristine.intent
      simp only [empty, Option.isSome_none, Bool.false_eq_true, if_false, List.nil_append] at taken
      refine inv_write inv taken (lawful_insert challenge _) ?_ drawn ?_ trivial rfl
        fun _ same => by cases same
      · rw [empty]
        exact List.nil_prefix
      · intro other rival different rivals same
        exact different (inv.creators other call rival challenge rivals creating same)
  | selectForUpdate call =>
      simp only [step] at taken
      split at taken <;> try contradiction
      rename_i challenge selecting
      split at taken
      · cases taken
        exact inv_move inv trivial rfl fun _ same => by cases same
      · rename_i row selected
        have present : (s.intent call challenge.intentId).challenge = some row :=
          (Option.filter_eq_some_iff.mp selected).1
        obtain ⟨drawn, rivals⟩ := inv.present present
        refine inv_write inv taken (inv.lawful _) (grows_refl _) drawn (fun other rival _ => rivals other rival)
          ?_ ?_ ?_ <;> split <;> first | trivial | rfl | exact fun _ same => by cases same
  | updateResend call late =>
      simp only [step] at taken
      split at taken <;> try contradiction
      split at taken
      · rename_i sent found
        obtain ⟨row, present, updated⟩ := Option.bind_eq_some_iff.mp found
        exact inv_update inv taken present (lawful_resend (inv.lawful _) present updated) trivial rfl
          fun _ same => by cases same
      · cases taken
        exact inv_move inv trivial rfl fun _ same => by cases same
  | updateAttempt call =>
      simp only [step] at taken
      split at taken <;> try contradiction
      rename_i input attempting
      split at taken
      · rename_i attempted found
        obtain ⟨row, present, updated⟩ := Option.bind_eq_some_iff.mp found
        have lawful := lawful_attempt (inv.lawful _) present updated
        have held := (State.write_eq taken).2
        refine inv_update inv taken present lawful ?_ ?_ ?_ <;> split
        · rename_i same
          exact ⟨_, attempted, held, rfl, same⟩
        · unfold mismatchResult
          split <;> trivial
        · rfl
        · rfl
        · exact fun _ same => by cases same
        · exact fun _ same => by cases same
      · cases taken
        exact inv_move inv trivial rfl fun _ same => by cases same
  | inspect call =>
      simp only [step] at taken
      split at taken <;> cases taken
      refine inv_move inv ?_ rfl fun _ same => by cases same
      unfold missedResult
      repeat' split <;> try trivial
  | markVerified call late =>
      simp only [step] at taken
      split at taken <;> try contradiction
      rename_i input marking
      split at taken
      · rename_i marked found
        obtain ⟨row, present, updated⟩ := Option.bind_eq_some_iff.mp found
        have waiting := inv.ready call
        rw [marking] at waiting
        obtain ⟨version, known, held, there, matched⟩ := waiting
        have seen : s.intent call input.intentId = version := RowLocks.view_of_holder held
        have same : known = row := by
          rw [seen, there] at present
          exact Option.some.inj present
        refine inv_update inv taken present
          (lawful_mark (inv.lawful _) present call (same ▸ matched) updated) ?_ rfl
          fun _ same => by cases same
        refine ⟨input.emailDigest, input.otpDigest, input.verificationTokenDigest, s.now,
          marked.expiresAt, ?_⟩
        rw [(State.write_eq taken).1]
        exact recorded_last rfl
      · cases taken
        exact inv_move inv trivial rfl fun _ same => by cases same
  | cleanupDelete call intentId =>
      simp only [step] at taken
      split at taken <;> try contradiction
      rename_i next cleaning
      split at taken <;> try contradiction
      rename_i found
      rw [Option.any_eq_true] at found
      obtain ⟨row, present, _⟩ := found
      obtain ⟨drawn, rivals⟩ := inv.present present
      have kept := inv.ready call
      rw [cleaning] at kept
      refine inv_write inv taken (lawful_delete (inv.lawful _)) (grows_refl _) drawn
        (fun other rival _ => rivals other rival) ?_ rfl fun _ same => by cases same
      cases next with
      | commit result => exact Recorded.mono kept (State.write_grows taken (grows_refl _))
      | rereadResend challenge => trivial
      | rereadVerify input => trivial
  | cleanupDone call =>
      simp only [step] at taken
      split at taken <;> cases taken <;> rename_i cleaning <;> have kept := inv.ready call <;>
        rw [cleaning] at kept
      · exact inv_move inv kept rfl fun _ same => by cases same
      · exact inv_move inv trivial rfl fun _ same => by cases same
      · exact inv_move inv trivial rfl fun _ same => by cases same
  | reread call =>
      simp only [step] at taken
      split at taken <;> cases taken <;> refine inv_move inv ?_ rfl fun _ same => by cases same
      · trivial
      · split <;> trivial
  | commit call =>
      simp only [step] at taken
      split at taken <;> cases taken <;> rename_i waiting <;> have kept := inv.ready call <;>
        rw [waiting] at kept <;> exact inv_commit inv kept
  | rollback call =>
      simp only [step] at taken
      split at taken <;> cases taken
      exact inv_rollback inv fun _ => trivial

end Calls

section Safety

structure Initial (s : State Digest) : Prop where
  empty : ∀ intentId, Pristine s intentId
  quiet : ∀ call, s.calls call = .idle
  undrawn : s.drawn = []

structure StoreSafe (s : State Digest) : Prop where
  committed : ∀ intentId, VerificationSafe (s.rows.committed intentId).history
  underway : ∀ call intentId, VerificationSafe (s.intent call intentId).history
  verifiedOnce : ∀ call other intentId expiresIn expiresIn',
    s.calls call = .ended (.verify intentId (.verified expiresIn)) →
    s.calls other = .ended (.verify intentId (.verified expiresIn')) → call = other
  consumedOnce : ∀ call other intentId,
    s.calls call = .ended (.consumed intentId true) →
    s.calls other = .ended (.consumed intentId true) → call = other

variable {s : State Digest}

theorem Initial.inv (initial : Initial s) : Inv s where
  rows := by
    refine ⟨fun intentId => ?_, fun intentId lock held => ?_⟩
    · rw [(initial.empty intentId).2]
      exact ⟨.unsent, .nil _, trivial⟩
    · rw [(initial.empty intentId).1] at held
      cases held
  undrawn := fun intentId _ => initial.empty intentId
  ready := by
    intro call
    rw [initial.quiet]
    trivial
  creators := by
    intro call other challenge rival creating
    rw [initial.quiet] at creating
    cases creating
  holders := by
    intro intentId lock held
    rw [(initial.empty intentId).1] at held
    cases held

theorem Lawful.safe {intent : Intent Digest} (lawful : Lawful intent) :
    VerificationSafe intent.history := by
  obtain ⟨l, run, _⟩ := lawful
  exact accepted_safe run

/-- A call that has ended sees only what is committed. -/
theorem Inv.ended (inv : Inv s) {call : CallId} {result : Result}
    (ended : s.calls call = .ended result) (intentId : IntentId) :
    s.intent call intentId = s.rows.committed intentId := by
  cases held : s.rows.locks intentId with
  | none => exact RowLocks.view_unlocked held
  | some lock =>
      obtain ⟨holder, version⟩ := lock
      have different : holder ≠ call := by
        rintro rfl
        have underway := inv.holders intentId _ held
        rw [ended] at underway
        cases underway
      exact RowLocks.view_of_other held different

theorem Inv.safe (inv : Inv s) : StoreSafe s where
  committed := fun intentId => (inv.rows.committed intentId).safe
  underway := fun call intentId => (inv.lawful intentId).safe
  verifiedOnce := by
    intro call other intentId expiresIn expiresIn' one two
    have mine := inv.ready call
    have theirs := inv.ready other
    rw [one] at mine
    rw [two] at theirs
    obtain ⟨_, _, _, _, _, first⟩ := mine
    obtain ⟨_, _, _, _, _, second⟩ := theirs
    rw [inv.ended one] at first
    rw [inv.ended two] at second
    have same := countP_le_one_eq (inv.rows.committed intentId).safe.verifiedOnce first rfl second rfl
    cases same
    rfl
  consumedOnce := by
    intro call other intentId one two
    have mine := inv.ready call
    have theirs := inv.ready other
    rw [one] at mine
    rw [two] at theirs
    obtain ⟨_, _, _, _, first⟩ := mine
    obtain ⟨_, _, _, _, second⟩ := theirs
    rw [inv.ended one] at first
    rw [inv.ended two] at second
    have same := countP_le_one_eq (inv.rows.committed intentId).safe.consumedOnce first rfl second rfl
    cases same
    rfl

/-- Every reachable state of the verification store is safe. -/
theorem verification_store_safe [DecidableEq Digest] {start : State Digest}
    {labels : List (Label Digest)} (initial : Initial start)
    (run : Run (fun s label t => step s label = some t) start labels s) : StoreSafe s := by
  have inv : Inv s := run.invariant (fun _ _ _ inv taken => inv_step inv taken) initial.inv
  exact inv.safe

def emptyStore : State Nat where
  now := 0
  rows := ⟨fun _ => ⟨none, []⟩, fun _ => none⟩
  calls := fun _ => .idle
  drawn := []

def verifiedReport : List (Label Nat) :=
  [.createChallenge 0 ⟨7, 1, 2⟩, .insertChallenge 0 1, .cleanupDone 0, .commit 0,
    .verifyChallenge 1 ⟨7, 1, 3, 8⟩, .updateAttempt 1, .cleanupDone 1, .commit 1,
    .verifyChallenge 2 ⟨7, 1, 2, 9⟩, .updateAttempt 2, .markVerified 2 1, .cleanupDone 2, .commit 2,
    .consumeVerification 3 7 1 9 0, .commit 3]

theorem verifiedReport_safe :
    ∃ s, Run (fun s label t => step s label = some t) emptyStore verifiedReport s ∧ StoreSafe s ∧
      (s.rows.committed 7).history.length = 5 ∧ s.calls 3 = .ended (.consumed 7 true) := by
  obtain ⟨s, folded, five, consumed⟩ : ∃ s, verifiedReport.foldlM step emptyStore = some s ∧
      (s.rows.committed 7).history.length = 5 ∧ s.calls 3 = .ended (.consumed 7 true) :=
    ⟨_, rfl, rfl, rfl⟩
  exact ⟨s, .of_foldlM folded, verification_store_safe
    ⟨fun _ => ⟨rfl, rfl⟩, fun _ => rfl, rfl⟩ (.of_foldlM folded), five, consumed⟩

end Safety

end PublicLighting.EmailVerification
