import Mathlib.Data.List.Nodup
import PublicLighting.Foundations.Runs
import PublicLighting.ReportSubmission.Store

/-! What every statement of `recordSubmission` and of the cleanup leaves true. -/

namespace PublicLighting.ReportSubmission

open Foundations
open EmailVerification (CallId IntentId Intent Event Challenge consumeUpdate Lawful Grows grows_refl
  grows_trans)

variable {Digest : Type}

section Invariant

variable (hashtext : String → Int) (s : State Digest)

def Cleared (attemptId : AttemptId) : Prop :=
  ∀ row ∈ s.history, row.attemptId = some attemptId → ∀ receipt, row.receipt = some receipt →
    receipt.expiresAt ≤ s.now

/-- The call holds the attempt's advisory lock and has found no unexpired receipt. -/
def Owns (call : CallId) (attemptId : Option AttemptId) : Prop :=
  ∀ id, attemptId = some id → s.advisory (hashtext id) = some call ∧ Cleared s id

def Spent (call : CallId) (view : IntentId → Intent Digest) (verification : Option IntentId) : Prop :=
  ∀ intentId, verification = some intentId → ∃ email token time expiresAt,
    Event.consumed call email token time expiresAt ∈ (view intentId).history

def Pending (call : CallId) (row : HistoryRow) : Prop :=
  row.call = call ∧ row.id < s.nextId ∧ (∀ old ∈ s.history, old.id ≠ row.id) ∧
    Spent call (s.verifications.view call) row.verification

/-- The receipt that its call has inserted with the row and not committed. -/
def Receipted (call : CallId) (row : HistoryRow) : Prop :=
  ∀ id, row.attemptId = some id → ∃ receipt, row.receipt = some receipt ∧
    receipt.historyId = row.id ∧ s.receipts.locks id = some (call, some receipt)

def Ready (call : CallId) : Call Digest → Prop
  | .locking request attemptId => request.submission.attemptId = some attemptId
  | .checking request attemptId =>
      request.submission.attemptId = some attemptId ∧ s.advisory (hashtext attemptId) = some call
  | .deleting request attemptId =>
      request.submission.attemptId = some attemptId ∧ Owns hashtext s call (some attemptId)
  | .resolving request => Owns hashtext s call request.submission.attemptId
  | .authorizing request _ => Owns hashtext s call request.submission.attemptId
  | .stamping request _ verification =>
      Owns hashtext s call request.submission.attemptId ∧
        Spent call (s.verifications.view call) verification
  | .inserting request _ verification _ =>
      Owns hashtext s call request.submission.attemptId ∧
        Spent call (s.verifications.view call) verification
  | .receipting attemptId row =>
      Owns hashtext s call (some attemptId) ∧ row.attemptId = some attemptId ∧ Pending s call row
  | .committing row => Owns hashtext s call row.attemptId ∧ Pending s call row ∧ Receipted s call row
  | _ => True

end Invariant

def Call.pending : Call Digest → Option HistoryRow
  | .receipting _ row => some row
  | .committing row => some row
  | _ => none

structure Inv (hashtext : String → Int) (s : State Digest) : Prop where
  ready : ∀ call, Ready hashtext s call (s.calls call)
  linked : ∀ attemptId receipt, s.receipts.committed attemptId = some receipt →
    ∃ row ∈ s.history, row.id = receipt.historyId ∧ row.attemptId = some attemptId ∧
      row.receipt = some receipt
  live : ∀ row ∈ s.history, ∀ attemptId, row.attemptId = some attemptId →
    ∃ receipt, row.receipt = some receipt ∧ receipt.historyId = row.id ∧
      (s.now < receipt.expiresAt → s.receipts.committed attemptId = some receipt)
  locked : ∀ attemptId lock, s.receipts.locks attemptId = some lock →
    (s.calls lock.1).underway = true ∧
      (∀ receipt, s.receipts.committed attemptId = some receipt → receipt.expiresAt ≤ s.now) ∧
      ∀ receipt, lock.2 = some receipt → ∃ row, s.calls lock.1 = .committing row ∧
        row.attemptId = some attemptId ∧ row.receipt = some receipt ∧ receipt.historyId = row.id
  ids : (s.history.map (·.id)).Nodup ∧ ∀ row ∈ s.history, row.id < s.nextId
  pendingIds : ∀ call other row rival, (s.calls call).pending = some row →
    (s.calls other).pending = some rival → row.id = rival.id → call = other
  authors : (s.history.map (·.call)).Nodup ∧
    ∀ row ∈ s.history, ∃ outcome, s.calls row.call = .ended outcome
  verifications : s.verifications.Versions (fun _ => Lawful) Grows
  holders : ∀ intentId lock, s.verifications.locks intentId = some lock →
    (s.calls lock.1).underway = true
  spent : ∀ row ∈ s.history, Spent row.call s.verifications.committed row.verification
  quiet : ∀ call, s.calls call = .idle → call ∉ s.writers ∧ call ∉ s.authorized

section Steps

variable {hashtext : String → Int} {s t : State Digest} {call : CallId}

theorem update_cases (P : CallId → Call Digest → Prop) {next : Call Digest} (moved : P call next)
    (rest : ∀ other, other ≠ call → P other (s.calls other)) (other : CallId) :
    P other (Function.update s.calls call next other) := by
  by_cases same : other = call
  · subst same
    rw [Function.update_self]
    exact moved
  · rw [Function.update_of_ne same]
    exact rest other same

theorem Cleared.mono {attemptId : AttemptId} (cleared : Cleared s attemptId) (later : s.now ≤ t.now)
    (rows : ∀ row ∈ t.history, row.attemptId = some attemptId → row ∈ s.history) :
    Cleared t attemptId := by
  intro row member same receipt given
  exact (cleared row (rows row member same) same receipt given).trans later

theorem Spent.mono {before after : IntentId → Intent Digest} {verification : Option IntentId}
    (spent : Spent call before verification) (grows : ∀ intentId, Grows (before intentId) (after intentId)) :
    Spent call after verification := by
  intro intentId same
  obtain ⟨email, token, time, expiresAt, member⟩ := spent intentId same
  exact ⟨email, token, time, expiresAt, (grows intentId).subset member⟩

structure Undisturbed (hashtext : String → Int) (s t : State Digest) (call : CallId) : Prop where
  later : s.now ≤ t.now
  advisory : ∀ key, s.advisory key = some call → t.advisory key = some call
  rows : ∀ row ∈ t.history, ∀ id, s.advisory (hashtext id) = some call → row.attemptId = some id →
    row ∈ s.history
  ids : s.nextId ≤ t.nextId
  fresh : ∀ row, (s.calls call).pending = some row → ∀ old ∈ t.history, old.id ≠ row.id
  receipts : ∀ id receipt, s.receipts.locks id = some (call, receipt) →
    t.receipts.locks id = some (call, receipt)
  verifications : ∀ intentId, Grows (s.verifications.view call intentId) (t.verifications.view call intentId)

theorem Owns.mono {attemptId : Option AttemptId} (owns : Owns hashtext s call attemptId)
    (same : Undisturbed hashtext s t call) : Owns hashtext t call attemptId := by
  intro id given
  obtain ⟨held, cleared⟩ := owns id given
  exact ⟨same.advisory _ held, cleared.mono same.later fun row member mine => same.rows row member id held mine⟩

theorem Pending.mono {row : HistoryRow} (pending : Pending s call row)
    (same : Undisturbed hashtext s t call) (held : (s.calls call).pending = some row) :
    Pending t call row :=
  ⟨pending.1, pending.2.1.trans_le same.ids, same.fresh row held, pending.2.2.2.mono same.verifications⟩

theorem Ready.mono (ready : Ready hashtext s call (s.calls call))
    (same : Undisturbed hashtext s t call) : Ready hashtext t call (s.calls call) := by
  cases here : s.calls call with
  | locking request attemptId =>
      rw [here] at ready
      exact ready
  | checking request attemptId =>
      rw [here] at ready
      exact ⟨ready.1, same.advisory _ ready.2⟩
  | deleting request attemptId =>
      rw [here] at ready
      exact ⟨ready.1, ready.2.mono same⟩
  | resolving request =>
      rw [here] at ready
      exact Owns.mono ready same
  | authorizing request target =>
      rw [here] at ready
      exact Owns.mono ready same
  | stamping request target verification =>
      rw [here] at ready
      exact ⟨ready.1.mono same, ready.2.mono same.verifications⟩
  | inserting request target verification submittedAt =>
      rw [here] at ready
      exact ⟨ready.1.mono same, ready.2.mono same.verifications⟩
  | receipting attemptId row =>
      rw [here] at ready
      exact ⟨ready.1.mono same, ready.2.1, ready.2.2.mono same (by rw [here]; rfl)⟩
  | committing row =>
      rw [here] at ready
      refine ⟨ready.1.mono same, ready.2.1.mono same (by rw [here]; rfl), fun id given => ?_⟩
      obtain ⟨receipt, held, matched, locked⟩ := ready.2.2 id given
      exact ⟨receipt, held, matched, same.receipts _ _ locked⟩
  | _ => trivial

theorem Ready.pending {next : Call Digest} (ready : Ready hashtext s call next) {row : HistoryRow}
    (held : next.pending = some row) : Pending s call row := by
  cases next with
  | receipting attemptId row =>
      cases held
      exact ready.2.2
  | committing row =>
      cases held
      exact ready.2.1
  | _ => cases held

def Call.isEnded : Call Digest → Bool
  | .ended _ => true
  | _ => false

theorem Inv.fresh (inv : Inv hashtext s) (row : HistoryRow)
    (held : (s.calls call).pending = some row) : ∀ old ∈ s.history, old.id ≠ row.id :=
  ((inv.ready call).pending held).2.2.1

theorem Inv.undisturbed (inv : Inv hashtext s) {now : Nat} {advisory : Int → Option CallId}
    {writers authorized : List CallId} {calls : CallId → Call Digest} (later : s.now ≤ now)
    (kept : ∀ key, s.advisory key = some call → advisory key = some call) :
    Undisturbed hashtext s { s with
      now := now, advisory := advisory, writers := writers, authorized := authorized,
      calls := calls } call where
  later := later
  advisory := kept
  rows := fun _ member _ _ _ => member
  ids := le_refl _
  fresh := inv.fresh
  receipts := fun _ _ held => held
  verifications := fun _ => grows_refl _

theorem Inv.pendingIds_update (inv : Inv hashtext s) {next : Call Digest}
    (ids : ∀ row, next.pending = some row →
      ∃ old, (s.calls call).pending = some old ∧ old.id = row.id) :
    ∀ one other row rival, (Function.update s.calls call next one).pending = some row →
      (Function.update s.calls call next other).pending = some rival → row.id = rival.id → one = other := by
  have before : ∀ other row, (Function.update s.calls call next other).pending = some row →
      ∃ old, (s.calls other).pending = some old ∧ old.id = row.id := fun other row =>
    update_cases (fun other next => next.pending = some row →
      ∃ old, (s.calls other).pending = some old ∧ old.id = row.id) (ids row)
      (fun _ _ held => ⟨row, held, rfl⟩) other
  intro one other row rival first second same
  obtain ⟨old, held, id⟩ := before one row first
  obtain ⟨old', held', id'⟩ := before other rival second
  exact inv.pendingIds one other old old' held held' (id.trans (same.trans id'.symm))

theorem Inv.authors_update (inv : Inv hashtext s) {next : Call Digest}
    (open_ : (s.calls call).isEnded = false) :
    ∀ row ∈ s.history, ∃ outcome, Function.update s.calls call next row.call = .ended outcome := by
  intro row member
  obtain ⟨outcome, ended⟩ := inv.authors.2 row member
  have different : row.call ≠ call := by
    rintro rfl
    rw [ended] at open_
    cases open_
  exact ⟨outcome, (Function.update_of_ne different _ _).trans ended⟩

theorem Inv.quiet_update (inv : Inv hashtext s) {next : Call Digest} (begun : next ≠ .idle)
    {writers authorized : List CallId}
    (written : ∀ other, other ≠ call → other ∈ writers → other ∈ s.writers)
    (asked : ∀ other, other ≠ call → other ∈ authorized → other ∈ s.authorized) :
    ∀ other, Function.update s.calls call next other = .idle → other ∉ writers ∧ other ∉ authorized :=
  update_cases (fun other next => next = .idle → other ∉ writers ∧ other ∉ authorized)
    (fun same => absurd same begun) fun other different idle =>
      ⟨fun member => (inv.quiet other idle).1 (written other different member),
        fun member => (inv.quiet other idle).2 (asked other different member)⟩

theorem underway_open (active : (s.calls call).underway = true) : (s.calls call).isEnded = false := by
  cases here : s.calls call <;> rw [here] at active <;> first | rfl | cases active

theorem underway_begun {next : Call Digest} (underway : next.underway = true) : next ≠ .idle := by
  rintro rfl
  cases underway

theorem underway_update {next : Call Digest} (underway : next.underway = true) {other : CallId}
    (held : (s.calls other).underway = true) :
    (Function.update s.calls call next other).underway = true :=
  update_cases (fun who next => who = other → next.underway = true) (fun _ => underway)
    (fun _ _ same => same ▸ held) other rfl

theorem inv_move (inv : Inv hashtext s) {next : Call Digest} {now : Nat}
    {advisory : Int → Option CallId} {writers authorized : List CallId}
    (moved : t = { s with
      now := now, advisory := advisory, writers := writers, authorized := authorized }.setCall call next)
    (later : s.now ≤ now)
    (kept : ∀ other, other ≠ call → ∀ key, s.advisory key = some other → advisory key = some other)
    (written : ∀ other, other ≠ call → other ∈ writers → other ∈ s.writers)
    (asked : ∀ other, other ≠ call → other ∈ authorized → other ∈ s.authorized)
    (open_ : (s.calls call).isEnded = false) (free : (s.calls call).pending = none)
    (underway : next.underway = true ∨ (s.calls call).underway = false)
    (begun : next ≠ .idle) (unpaired : next.pending = none)
    (ready : Ready hashtext t call next) : Inv hashtext t := by
  subst moved
  have holding : ∀ other, (s.calls other).underway = true →
      (Function.update s.calls call next other).underway = true := fun other held =>
    update_cases (fun who next => who = other → next.underway = true)
      (fun same => underway.resolve_right (by rw [same, held]; exact Bool.noConfusion))
      (fun _ _ same => same ▸ held) other rfl
  exact {
    ready := by
      intro other
      by_cases same : other = call
      · subst same
        simpa only [State.setCall, Function.update_self] using ready
      · simp only [State.setCall, Function.update_of_ne same]
        exact (inv.ready other).mono (inv.undisturbed later (kept other same))
    linked := inv.linked
    live := fun row member attemptId same => by
      obtain ⟨receipt, held, matched, living⟩ := inv.live row member attemptId same
      exact ⟨receipt, held, matched, fun unexpired => living (later.trans_lt unexpired)⟩
    locked := by
      intro attemptId lock held
      obtain ⟨active, expired, paired⟩ := inv.locked attemptId lock held
      refine ⟨holding _ active, fun receipt stored => (expired receipt stored).trans later, ?_⟩
      intro receipt inserted
      obtain ⟨row, committing, matched⟩ := paired receipt inserted
      have different : lock.1 ≠ call := by
        intro same
        rw [← same, committing] at free
        cases free
      exact ⟨row, (Function.update_of_ne different _ _).trans committing, matched⟩
    ids := inv.ids
    pendingIds := inv.pendingIds_update fun row same => by rw [unpaired] at same; cases same
    authors := ⟨inv.authors.1, inv.authors_update open_⟩
    verifications := inv.verifications
    holders := fun intentId lock held => holding _ (inv.holders intentId lock held)
    spent := inv.spent
    quiet := inv.quiet_update begun written asked }

theorem inv_writeReceipt (inv : Inv hashtext s) {attemptId : AttemptId} {receipt : Option Receipt}
    {next : Call Digest} (written : s.writeReceipt call attemptId receipt next = some t)
    (expired : ∀ old, s.receipts.committed attemptId = some old → old.expiresAt ≤ s.now)
    (paired : ∀ inserted, receipt = some inserted → ∃ row, next = .committing row ∧
      row.attemptId = some attemptId ∧ row.receipt = some inserted ∧ inserted.historyId = row.id)
    (active : (s.calls call).underway = true) (before : ∀ row, s.calls call ≠ .committing row)
    (ids : ∀ row, next.pending = some row → ∃ old, (s.calls call).pending = some old ∧ old.id = row.id)
    (underway : next.underway = true) (ready : Ready hashtext t call next) : Inv hashtext t := by
  unfold State.writeReceipt at written
  split at written <;> cases written
  rename_i free
  exact {
    ready := by
      intro other
      by_cases same : other = call
      · subst same
        simpa only [State.setCall, Function.update_self] using ready
      · simp only [State.setCall, Function.update_of_ne same]
        refine (inv.ready other).mono ?_
        exact {
          later := le_refl _
          advisory := fun _ held => held
          rows := fun _ member _ _ _ => member
          ids := le_refl _
          fresh := inv.fresh
          receipts := by
            intro id stored held
            have different : id ≠ attemptId := by
              rintro rfl
              exact same (free _ held)
            exact (RowLocks.write_locks_of_ne different).trans held
          verifications := fun _ => grows_refl _ }
    linked := inv.linked
    live := inv.live
    locked := by
      intro id lock held
      by_cases same : id = attemptId
      · subst same
        have mine : (call, receipt) = lock := Option.some.inj (RowLocks.write_locks_self.symm.trans held)
        subst mine
        simp only [State.setCall, Function.update_self]
        exact ⟨underway, expired, paired⟩
      · obtain ⟨live, old, matched⟩ :=
          inv.locked id lock ((RowLocks.write_locks_of_ne same).symm.trans held)
        refine ⟨underway_update underway live, old, fun inserted stored => ?_⟩
        obtain ⟨row, committing, rest⟩ := matched inserted stored
        have different : lock.1 ≠ call := fun mine => before row (mine ▸ committing)
        exact ⟨row, (Function.update_of_ne different _ _).trans committing, rest⟩
    ids := inv.ids
    pendingIds := inv.pendingIds_update ids
    authors := ⟨inv.authors.1, inv.authors_update (underway_open active)⟩
    verifications := inv.verifications
    holders := fun intentId lock held => underway_update underway (inv.holders intentId lock held)
    spent := inv.spent
    quiet := inv.quiet_update (underway_begun underway)
      (fun other different member => (List.mem_cons.mp member).resolve_left different)
      fun _ _ member => member }

theorem inv_consume (inv : Inv hashtext s) {intentId : IntentId} {intent : Intent Digest} {late : Nat}
    {next : Call Digest} (free : s.verifications.Free call intentId)
    (written : t = { s with
      now := s.now + late
      verifications := s.verifications.write call intentId intent
      writers := call :: s.writers
      authorized := call :: s.authorized }.setCall call next)
    (lawful : Lawful intent) (grows : Grows (s.verifications.view call intentId) intent)
    (active : (s.calls call).underway = true) (before : (s.calls call).pending = none)
    (underway : next.underway = true) (unpaired : next.pending = none)
    (ready : Ready hashtext t call next) : Inv hashtext t := by
  subst written
  exact {
    ready := by
      intro other
      by_cases same : other = call
      · subst same
        simpa only [State.setCall, Function.update_self] using ready
      · simp only [State.setCall, Function.update_of_ne same]
        refine (inv.ready other).mono ?_
        exact {
          later := Nat.le_add_right _ _
          advisory := fun _ held => held
          rows := fun _ member _ _ _ => member
          ids := le_refl _
          fresh := inv.fresh
          receipts := fun _ _ held => held
          verifications := by
            intro elsewhere
            have unseen := @RowLocks.view_write_other _ _ _ _ s.verifications call other intentId
              elsewhere intent _ free same
            change Grows (s.verifications.view other elsewhere)
              ((s.verifications.write call intentId intent).view other elsewhere)
            rw [unseen]
            exact grows_refl _ }
    linked := inv.linked
    live := fun row member attemptId same => by
      obtain ⟨receipt, held, matched, living⟩ := inv.live row member attemptId same
      exact ⟨receipt, held, matched, fun unexpired =>
        living ((Nat.le_add_right _ _).trans_lt unexpired)⟩
    locked := by
      intro attemptId lock held
      obtain ⟨live, expired, paired⟩ := inv.locked attemptId lock held
      refine ⟨underway_update underway live, fun receipt stored =>
        (expired receipt stored).trans (Nat.le_add_right _ _), ?_⟩
      intro receipt inserted
      obtain ⟨row, committing, matched⟩ := paired receipt inserted
      have different : lock.1 ≠ call := by
        intro same
        rw [← same, committing] at before
        cases before
      exact ⟨row, (Function.update_of_ne different _ _).trans committing, matched⟩
    ids := inv.ids
    pendingIds := inv.pendingIds_update fun row same => by rw [unpaired] at same; cases same
    authors := ⟨inv.authors.1, inv.authors_update (underway_open active)⟩
    verifications := inv.verifications.write grows_refl grows_trans lawful grows
    holders := by
      intro elsewhere lock held
      by_cases same : elsewhere = intentId
      · subst same
        have mine : (call, intent) = lock := Option.some.inj (RowLocks.write_locks_self.symm.trans held)
        subst mine
        simpa only [State.setCall, Function.update_self] using underway
      · exact underway_update underway (inv.holders elsewhere lock
          ((RowLocks.write_locks_of_ne same).symm.trans held))
    spent := inv.spent
    quiet := inv.quiet_update (underway_begun underway)
      (fun other different member => (List.mem_cons.mp member).resolve_left different)
      fun other different member => (List.mem_cons.mp member).resolve_left different }

theorem inv_insertHistory (inv : Inv hashtext s) {row : HistoryRow} {next : Call Digest}
    (written : t = { s with nextId := s.nextId + 1, writers := call :: s.writers }.setCall call next)
    (active : (s.calls call).underway = true) (before : (s.calls call).pending = none)
    (underway : next.underway = true) (inserted : next.pending = some row) (id : row.id = s.nextId)
    (ready : Ready hashtext t call next) : Inv hashtext t := by
  subst written
  have older : ∀ other rival, (s.calls other).pending = some rival → rival.id ≠ row.id := by
    intro other rival held
    rw [id]
    exact Nat.ne_of_lt ((inv.ready other).pending held).2.1
  exact {
    ready := by
      intro other
      by_cases same : other = call
      · subst same
        simpa only [State.setCall, Function.update_self] using ready
      · simp only [State.setCall, Function.update_of_ne same]
        refine (inv.ready other).mono ?_
        exact {
          later := le_refl _
          advisory := fun _ held => held
          rows := fun _ member _ _ _ => member
          ids := Nat.le_succ _
          fresh := inv.fresh
          receipts := fun _ _ held => held
          verifications := fun _ => grows_refl _ }
    linked := inv.linked
    live := inv.live
    locked := by
      intro attemptId lock held
      obtain ⟨live, expired, paired⟩ := inv.locked attemptId lock held
      refine ⟨underway_update underway live, expired, fun receipt stored => ?_⟩
      obtain ⟨row, committing, matched⟩ := paired receipt stored
      have different : lock.1 ≠ call := by
        intro same
        rw [← same, committing] at before
        cases before
      exact ⟨row, (Function.update_of_ne different _ _).trans committing, matched⟩
    ids := ⟨inv.ids.1, fun old member => Nat.lt_succ_of_lt (inv.ids.2 old member)⟩
    pendingIds := by
      intro one other first second held rivals same
      simp only [State.setCall] at held rivals
      by_cases mine : one = call
      · by_cases also : other = call
        · exact mine.trans also.symm
        · rw [mine, Function.update_self, inserted, Option.some.injEq] at held
          rw [Function.update_of_ne also] at rivals
          exact absurd (held ▸ same.symm) (older other second rivals)
      · rw [Function.update_of_ne mine] at held
        by_cases also : other = call
        · rw [also, Function.update_self, inserted, Option.some.injEq] at rivals
          exact absurd (rivals ▸ same) (older one first held)
        · rw [Function.update_of_ne also] at rivals
          exact inv.pendingIds one other first second held rivals same
    authors := ⟨inv.authors.1, inv.authors_update (underway_open active)⟩
    verifications := inv.verifications
    holders := fun intentId lock held => underway_update underway (inv.holders intentId lock held)
    spent := inv.spent
    quiet := inv.quiet_update (underway_begun underway)
      (fun other different member => (List.mem_cons.mp member).resolve_left different)
      fun _ _ member => member }

theorem unlocked_other {other : CallId} (different : other ≠ call) {key : Int}
    (held : s.advisory key = some other) : s.unlocked call key = some other := by
  have theirs : ¬ s.advisory key = some call := by
    rw [held, Option.some.injEq]
    exact different
  rw [State.unlocked, if_neg theirs, held]

/-- A locked row that is still locked once `call` has ended is another call's. -/
theorem released_underway {next : Call Digest} {other : CallId} (different : other ≠ call)
    (held : (s.calls other).underway = true) :
    (Function.update s.calls call next other).underway = true := by
  rwa [Function.update_of_ne different]

theorem inv_rollback (inv : Inv hashtext s) {authorized : List CallId} {outcome : Outcome}
    (asked : ∀ other, other ≠ call → other ∈ authorized → other ∈ s.authorized)
    (active : (s.calls call).underway = true) :
    Inv hashtext ({ s with authorized := authorized }.rollback call outcome) where
  ready := by
    intro other
    by_cases same : other = call
    · subst same
      simp only [State.rollback, State.setCall, Function.update_self]
      trivial
    · simp only [State.rollback, State.setCall, Function.update_of_ne same]
      refine (inv.ready other).mono ?_
      exact {
        later := le_refl _
        advisory := fun key held => unlocked_other same held
        rows := fun _ member _ _ _ => member
        ids := le_refl _
        fresh := inv.fresh
        receipts := fun id receipt held => RowLocks.released_eq_some.mpr ⟨held, same⟩
        verifications := by
          intro intentId
          have kept := @RowLocks.view_rollback_other _ _ _ _ s.verifications call other intentId same
          change Grows (s.verifications.view other intentId)
            ((s.verifications.rollback call).view other intentId)
          rw [kept]
          exact grows_refl _ }
  linked := inv.linked
  live := inv.live
  locked := by
    intro attemptId lock held
    obtain ⟨before, different⟩ := RowLocks.released_eq_some.mp held
    obtain ⟨live, expired, paired⟩ := inv.locked attemptId lock before
    refine ⟨released_underway different live, expired, fun receipt stored => ?_⟩
    obtain ⟨row, committing, matched⟩ := paired receipt stored
    exact ⟨row, (Function.update_of_ne different _ _).trans committing, matched⟩
  ids := inv.ids
  pendingIds := inv.pendingIds_update fun row same => by cases same
  authors := ⟨inv.authors.1, inv.authors_update (underway_open active)⟩
  verifications := inv.verifications.rollback
  holders := by
    intro intentId lock held
    obtain ⟨before, different⟩ := RowLocks.released_eq_some.mp held
    exact released_underway different (inv.holders intentId lock before)
  spent := inv.spent
  quiet := inv.quiet_update (fun same => by cases same) (fun _ _ member => member) asked

def Brings (s : State Digest) (call : CallId) (rows : List HistoryRow) : Prop :=
  (rows = [] ∧ (s.calls call).pending = none) ∨ ∃ row, rows = [row] ∧ s.calls call = .committing row

theorem Brings.member {rows : List HistoryRow} (brings : Brings s call rows) {row : HistoryRow}
    (member : row ∈ rows) : rows = [row] ∧ s.calls call = .committing row := by
  rcases brings with ⟨rfl, _⟩ | ⟨only, rfl, committing⟩
  · cases member
  · rw [List.mem_singleton] at member
    subst member
    exact ⟨rfl, committing⟩

theorem Brings.of_committing {rows : List HistoryRow} (brings : Brings s call rows) {row : HistoryRow}
    (committing : s.calls call = .committing row) : rows = [row] := by
  rcases brings with ⟨_, none⟩ | ⟨only, rfl, held⟩
  · rw [committing] at none
    cases none
  · rw [committing] at held
    cases held
    rfl

theorem inv_commit (inv : Inv hashtext s) {rows : List HistoryRow} {outcome : Outcome}
    (brings : Brings s call rows) (active : (s.calls call).underway = true) :
    Inv hashtext (s.commit call rows outcome) := by
  have ready : ∀ row ∈ rows, Owns hashtext s call row.attemptId ∧ Pending s call row ∧
      Receipted s call row := by
    intro row member
    have held := inv.ready call
    rwa [(brings.member member).2] at held
  exact {
    ready := by
      intro other
      by_cases same : other = call
      · subst same
        simp only [State.commit, State.setCall, Function.update_self]
        trivial
      · simp only [State.commit, State.setCall, Function.update_of_ne same]
        refine (inv.ready other).mono ?_
        exact {
          later := le_refl _
          advisory := fun key held => unlocked_other same held
          rows := by
            intro row member id held mine
            rcases List.mem_append.mp member with old | new
            · exact old
            · have owner := ((ready row new).1 id mine).1
              rw [held, Option.some.injEq] at owner
              exact absurd owner same
          ids := le_refl _
          fresh := by
            intro row held old member
            rcases List.mem_append.mp member with before | new
            · exact inv.fresh row held old before
            · intro equal
              have paired : (s.calls call).pending = some old := by rw [(brings.member new).2]; rfl
              exact same (inv.pendingIds other call row old held paired equal.symm)
          receipts := fun id receipt held => RowLocks.released_eq_some.mpr ⟨held, same⟩
          verifications := fun intentId => inv.verifications.commit_moves grows_refl }
    linked := by
      intro attemptId receipt stored
      change s.receipts.view call attemptId = some receipt at stored
      cases held : s.receipts.locks attemptId with
      | none =>
          rw [RowLocks.view_unlocked held] at stored
          obtain ⟨row, member, matched⟩ := inv.linked attemptId receipt stored
          exact ⟨row, List.mem_append_left _ member, matched⟩
      | some lock =>
          obtain ⟨holder, version⟩ := lock
          by_cases mine : holder = call
          · subst mine
            rw [RowLocks.view_of_holder held] at stored
            obtain ⟨_, _, paired⟩ := inv.locked attemptId _ held
            obtain ⟨row, committing, same, given, id⟩ := paired receipt stored
            have added := brings.of_committing committing
            refine ⟨row, List.mem_append_right _ ?_, id.symm, same, given⟩
            rw [added]
            exact List.mem_singleton.mpr rfl
          · rw [RowLocks.view_of_other held mine] at stored
            obtain ⟨row, member, matched⟩ := inv.linked attemptId receipt stored
            exact ⟨row, List.mem_append_left _ member, matched⟩
    live := by
      intro row member attemptId same
      rcases List.mem_append.mp member with old | new
      · obtain ⟨receipt, given, id, living⟩ := inv.live row old attemptId same
        refine ⟨receipt, given, id, fun unexpired => ?_⟩
        have stored := living unexpired
        change s.receipts.view call attemptId = some receipt
        cases held : s.receipts.locks attemptId with
        | none => rw [RowLocks.view_unlocked held, stored]
        | some lock =>
            have expired := (inv.locked attemptId lock held).2.1 receipt stored
            exact absurd (lt_of_lt_of_le unexpired expired) (lt_irrefl _)
      · obtain ⟨receipt, given, id, locked⟩ := (ready row new).2.2 attemptId same
        exact ⟨receipt, given, id, fun _ => RowLocks.view_of_holder locked⟩
    locked := by
      intro attemptId lock held
      obtain ⟨before, different⟩ := RowLocks.released_eq_some.mp held
      obtain ⟨live, expired, paired⟩ := inv.locked attemptId lock before
      refine ⟨released_underway different live, fun receipt stored => ?_, fun receipt stored => ?_⟩
      · change s.receipts.view call attemptId = some receipt at stored
        rw [RowLocks.view_of_other before different] at stored
        exact expired receipt stored
      · obtain ⟨row, committing, matched⟩ := paired receipt stored
        exact ⟨row, (Function.update_of_ne different _ _).trans committing, matched⟩
    ids := by
      have bound : ∀ row ∈ s.history ++ rows, row.id < s.nextId := by
        intro row member
        rcases List.mem_append.mp member with old | new
        · exact inv.ids.2 row old
        · exact (ready row new).2.1.2.1
      refine ⟨?_, bound⟩
      change ((s.history ++ rows).map (·.id)).Nodup
      rw [List.map_append, List.nodup_append]
      refine ⟨inv.ids.1, ?_, ?_⟩
      · rcases brings with ⟨rfl, _⟩ | ⟨row, rfl, _⟩
        · exact List.nodup_nil
        · exact List.nodup_singleton _
      · intro id before other new
        obtain ⟨old, member, rfl⟩ := List.mem_map.mp before
        obtain ⟨row, added, rfl⟩ := List.mem_map.mp new
        exact (ready row added).2.1.2.2.1 old member
    pendingIds := inv.pendingIds_update fun row same => by cases same
    authors := by
      have ended : ∀ row ∈ s.history ++ rows, ∃ result,
          Function.update s.calls call (.ended outcome) row.call = .ended result := by
        intro row member
        rcases List.mem_append.mp member with old | new
        · exact inv.authors_update (underway_open active) row old
        · rw [(ready row new).2.1.1, Function.update_self]
          exact ⟨outcome, rfl⟩
      refine ⟨?_, ended⟩
      change ((s.history ++ rows).map (·.call)).Nodup
      rw [List.map_append, List.nodup_append]
      refine ⟨inv.authors.1, ?_, ?_⟩
      · rcases brings with ⟨rfl, _⟩ | ⟨row, rfl, _⟩
        · exact List.nodup_nil
        · exact List.nodup_singleton _
      · intro author before other new
        obtain ⟨old, member, rfl⟩ := List.mem_map.mp before
        obtain ⟨row, added, rfl⟩ := List.mem_map.mp new
        intro same
        obtain ⟨result, finished⟩ := inv.authors.2 old member
        have alive := underway_open active
        rw [← (ready row added).2.1.1, ← same, finished] at alive
        cases alive
    verifications := inv.verifications.commit
    holders := by
      intro intentId lock held
      obtain ⟨before, different⟩ := RowLocks.released_eq_some.mp held
      exact released_underway different (inv.holders intentId lock before)
    spent := by
      intro row member
      rcases List.mem_append.mp member with old | new
      · exact (inv.spent row old).mono fun intentId => inv.verifications.extends grows_refl
      · have author := (ready row new).2.1.1
        rw [author]
        exact (ready row new).2.1.2.2.2
    quiet := inv.quiet_update (fun same => by cases same) (fun _ _ member => member)
      fun _ _ member => member }

theorem inv_verification (inv : Inv hashtext s) {intentId : IntentId} {intent : Intent Digest}
    (unlocked : s.verifications.locks intentId = none) (lawful : Lawful intent)
    (grows : Grows (s.verifications.committed intentId) intent) :
    Inv hashtext { s with verifications := { s.verifications with
      committed := Function.update s.verifications.committed intentId intent } } := by
  have moved : ∀ elsewhere, Grows (s.verifications.committed elsewhere)
      (Function.update s.verifications.committed intentId intent elsewhere) := by
    intro elsewhere
    by_cases same : elsewhere = intentId
    · subst same
      rw [Function.update_self]
      exact grows
    · rw [Function.update_of_ne same]
      exact grows_refl _
  exact { inv with
    ready := by
      intro call
      refine (inv.ready call).mono ?_
      exact {
        later := le_refl _
        advisory := fun _ held => held
        rows := fun _ member _ _ _ => member
        ids := le_refl _
        fresh := inv.fresh
        receipts := fun _ _ held => held
        verifications := by
          intro elsewhere
          unfold RowLocks.view
          cases s.verifications.locks elsewhere with
          | none => exact moved elsewhere
          | some lock =>
              dsimp only
              split
              · exact grows_refl _
              · exact moved elsewhere }
    verifications := by
      refine ⟨fun elsewhere => ?_, fun elsewhere lock held => ?_⟩
      · by_cases same : elsewhere = intentId
        · subst same
          simpa only [Function.update_self] using lawful
        · simpa only [Function.update_of_ne same] using inv.verifications.committed elsewhere
      · have different : elsewhere ≠ intentId := by
          rintro rfl
          rw [unlocked] at held
          cases held
        simpa only [Function.update_of_ne different] using inv.verifications.written elsewhere lock held
    spent := fun row member => (inv.spent row member).mono moved }

theorem inv_elapse (inv : Inv hashtext s) (duration : Nat) :
    Inv hashtext { s with now := s.now + duration } := by
  have later : s.now ≤ s.now + duration := Nat.le_add_right _ _
  exact { inv with
    ready := fun call => (inv.ready call).mono {
      later := later
      advisory := fun _ held => held
      rows := fun _ member _ _ _ => member
      ids := le_refl _
      fresh := inv.fresh
      receipts := fun _ _ held => held
      verifications := fun _ => grows_refl _ }
    live := fun row member attemptId same => by
      obtain ⟨receipt, held, matched, living⟩ := inv.live row member attemptId same
      exact ⟨receipt, held, matched, fun unexpired => living (later.trans_lt unexpired)⟩
    locked := fun attemptId lock held => by
      obtain ⟨live, expired, paired⟩ := inv.locked attemptId lock held
      exact ⟨live, fun receipt stored => (expired receipt stored).trans later, paired⟩ }

theorem State.writeReceipt_eq {attemptId : AttemptId} {receipt : Option Receipt} {next : Call Digest}
    (written : s.writeReceipt call attemptId receipt next = some t) :
    t = { s with
      receipts := s.receipts.write call attemptId receipt
      writers := call :: s.writers }.setCall call next := by
  unfold State.writeReceipt at written
  split at written <;> cases written
  rfl

/-- An unexpired receipt is not locked, so every call sees it. -/
theorem Inv.unexpired_view (inv : Inv hashtext s) {attemptId : AttemptId} {receipt : Receipt}
    (stored : s.receipts.committed attemptId = some receipt) (unexpired : s.now < receipt.expiresAt) :
    s.receipts.locks attemptId = none ∧ s.receipts.view call attemptId = some receipt := by
  cases held : s.receipts.locks attemptId with
  | none => exact ⟨rfl, by rw [RowLocks.view_unlocked held, stored]⟩
  | some lock =>
      have expired := (inv.locked attemptId lock held).2.1 receipt stored
      exact absurd unexpired (Nat.not_lt.mpr expired)

theorem Inv.existing_eq (inv : Inv hashtext s) {attemptId : AttemptId} {row : HistoryRow}
    {receipt : Receipt} (member : row ∈ s.history)
    (stored : s.receipts.committed attemptId = some receipt) (matched : receipt.historyId = row.id)
    (unexpired : s.now < receipt.expiresAt) : s.existing call attemptId = some row := by
  have seen : s.receipts.view call attemptId = some receipt := (inv.unexpired_view stored unexpired).2
  unfold State.existing
  rw [seen]
  simp only [if_pos unexpired]
  cases found : s.history.find? fun row => row.id = receipt.historyId with
  | none =>
      have missing := List.find?_eq_none.mp found row member
      rw [matched] at missing
      simp at missing
  | some other =>
      have same : other.id = receipt.historyId := by simpa using List.find?_some found
      rw [List.inj_on_of_nodup_map inv.ids.1 (List.mem_of_find?_eq_some found) member
        (same.trans matched)]

theorem Inv.cleared (inv : Inv hashtext s) {attemptId : AttemptId}
    (missing : s.existing call attemptId = none) : Cleared s attemptId := by
  intro row member same receipt given
  obtain ⟨kept, held, matched, living⟩ := inv.live row member attemptId same
  rw [given, Option.some.injEq] at held
  subst held
  by_contra unexpired
  have young := Nat.lt_of_not_le unexpired
  have found : s.existing call attemptId = some row := inv.existing_eq member (living young) matched young
  rw [missing] at found
  cases found

theorem Inv.expired_of_cleared (inv : Inv hashtext s) {attemptId : AttemptId}
    (cleared : Cleared s attemptId) :
    ∀ old, s.receipts.committed attemptId = some old → old.expiresAt ≤ s.now := by
  intro old stored
  obtain ⟨row, member, _, same, given⟩ := inv.linked attemptId old stored
  exact cleared row member same old given

theorem expiredAs_spec {receipt : Option Receipt} {expiresAt now : Nat}
    (expired : expiredAs receipt expiresAt now = true) {old : Receipt} (stored : receipt = some old) :
    old.expiresAt ≤ now := by
  unfold expiredAs at expired
  obtain ⟨found, member, tested⟩ := (Option.any_eq_true _ _).mp expired
  rw [stored, Option.some.injEq] at member
  rw [member]
  exact (of_decide_eq_true tested).2

variable [DecidableEq Digest] {options : FormOptions}

theorem inv_step (inv : Inv hashtext s) {label : Label Digest}
    (taken : step options hashtext s label = some t) : Inv hashtext t := by
  cases label with
  | elapse duration =>
      cases taken
      exact inv_elapse inv duration
  | recordSubmission call input authorize =>
      simp only [step] at taken
      split at taken <;> try contradiction
      rename_i idle
      have begin : ∀ {next : Call Digest}, t = s.setCall call next → next ≠ .idle → next.pending = none →
          Ready hashtext t call next → Inv hashtext t := fun same begun unpaired ready =>
        inv_move inv same (le_refl _) (fun _ _ _ held => held) (fun _ _ member => member)
          (fun _ _ member => member) (by rw [idle]; rfl) (by rw [idle]; rfl)
          (.inr (by rw [idle]; rfl)) begun unpaired ready
      split at taken
      · cases taken
        exact begin rfl (fun same => by cases same) rfl trivial
      · split at taken <;> cases taken <;> rename_i given
        · exact begin rfl (fun same => by cases same) rfl given
        · refine begin rfl (fun same => by cases same) rfl fun id same => ?_
          rw [given] at same
          cases same
  | lock call =>
      simp only [step] at taken
      split at taken <;> try contradiction
      rename_i request attemptId locking
      split at taken <;> cases taken
      rename_i free
      have ready := inv.ready call
      rw [locking] at ready
      refine inv_move inv rfl (le_refl _) ?_ (fun _ _ member => member) (fun _ _ member => member)
        (by rw [locking]; rfl) (by rw [locking]; rfl) (.inl rfl) (fun same => by cases same) rfl
        ⟨ready, Function.update_self _ _ _⟩
      intro other _ key held
      have different : key ≠ hashtext attemptId := by
        rintro rfl
        rw [free] at held
        cases held
      exact (Function.update_of_ne different _ _).trans held
  | check call =>
      simp only [step] at taken
      split at taken <;> try contradiction
      rename_i request attemptId checking
      have ready := inv.ready call
      rw [checking] at ready
      have next : ∀ {next : Call Digest}, t = s.setCall call next → next.underway = true →
          next.pending = none → Ready hashtext t call next → Inv hashtext t :=
        fun same underway unpaired ready =>
          inv_move inv same (le_refl _) (fun _ _ _ held => held) (fun _ _ member => member)
            (fun _ _ member => member) (by rw [checking]; rfl) (by rw [checking]; rfl)
            (.inl underway) (underway_begun underway) unpaired ready
      split at taken <;> cases taken
      · exact next rfl rfl rfl trivial
      · rename_i missing
        refine next rfl rfl rfl ⟨ready.1, fun id same => ?_⟩
        cases same
        exact ⟨ready.2, inv.cleared missing⟩
  | deleteExpired call =>
      simp only [step] at taken
      split at taken <;> try contradiction
      rename_i request attemptId deleting
      have ready := inv.ready call
      rw [deleting] at ready
      have owns : Owns hashtext s call request.submission.attemptId := by
        rw [ready.1]
        exact ready.2
      split at taken
      · refine inv_writeReceipt inv taken (inv.expired_of_cleared (ready.2 _ rfl).2)
          (fun _ same => by cases same) (by rw [deleting]; rfl) (by simp [deleting])
          (fun _ same => by cases same) rfl ?_
        rw [State.writeReceipt_eq taken]
        exact owns
      · cases taken
        exact inv_move inv rfl (le_refl _) (fun _ _ _ held => held) (fun _ _ member => member)
          (fun _ _ member => member) (by rw [deleting]; rfl) (by rw [deleting]; rfl) (.inl rfl)
          (fun same => by cases same) rfl owns
  | resolveTarget call outcome =>
      simp only [step] at taken
      split at taken <;> try contradiction
      rename_i request resolving
      have ready := inv.ready call
      rw [resolving] at ready
      split at taken <;> cases taken
      · exact inv_move inv rfl (le_refl _) (fun _ _ _ held => held) (fun _ _ member => member)
          (fun _ _ member => member) (by rw [resolving]; rfl) (by rw [resolving]; rfl) (.inl rfl)
          (fun same => by cases same) rfl ready
      · exact inv_rollback inv (fun _ _ member => member) (by rw [resolving]; rfl)
  | authorize call late =>
      simp only [step] at taken
      split at taken <;> try contradiction
      rename_i request target authorizing
      have ready := inv.ready call
      rw [authorizing] at ready
      have refused : Inv hashtext ({ s with authorized := call :: s.authorized }.rollback call
          (.recorded unauthorized)) :=
        inv_rollback inv (fun other different member => (List.mem_cons.mp member).resolve_left different)
          (by rw [authorizing]; rfl)
      split at taken
      · cases taken
        exact inv_move inv rfl (le_refl _) (fun _ _ _ held => held) (fun _ _ member => member)
          (fun _ _ member => member) (by rw [authorizing]; rfl) (by rw [authorizing]; rfl) (.inl rfl)
          (fun same => by cases same) rfl ⟨ready, fun _ same => by cases same⟩
      · cases taken
        exact refused
      · rename_i intentId emailDigest tokenDigest _
        split at taken
        · rename_i row consumed found
          obtain ⟨known, present, updated⟩ := Option.bind_eq_some_iff.mp found
          obtain ⟨after, consumption, same⟩ := Option.map_eq_some_iff.mp updated
          cases same
          split at taken <;> cases taken
          rename_i free
          refine inv_consume inv free rfl
            (EmailVerification.lawful_consume inv.verifications.view present call consumption)
            (List.prefix_append _ _) (by rw [authorizing]; rfl) (by rw [authorizing]; rfl) rfl rfl
            ⟨fun id given => ?_, fun spent same => ?_⟩
          · obtain ⟨held, cleared⟩ := ready id given
            exact ⟨held, cleared.mono (Nat.le_add_right _ _) fun _ member _ => member⟩
          · cases same
            refine ⟨emailDigest, tokenDigest, s.now, row.expiresAt, ?_⟩
            simp only [State.setCall, RowLocks.view_write_self]
            exact List.mem_append_right _ (List.mem_singleton.mpr rfl)
        · cases taken
          exact refused
  | stamp call =>
      simp only [step] at taken
      split at taken <;> cases taken
      rename_i request target verification stamping
      have ready := inv.ready call
      rw [stamping] at ready
      exact inv_move inv rfl (le_refl _) (fun _ _ _ held => held) (fun _ _ member => member)
        (fun _ _ member => member) (by rw [stamping]; rfl) (by rw [stamping]; rfl) (.inl rfl)
        (fun same => by cases same) rfl ready
  | insertHistory call =>
      simp only [step] at taken
      split at taken <;> cases taken
      rename_i request target verification submittedAt inserting
      have ready := inv.ready call
      rw [inserting] at ready
      have pending : ∀ {row : HistoryRow}, row.call = call → row.id = s.nextId →
          row.verification = verification → row.call = call ∧ row.id < s.nextId + 1 ∧
            (∀ old ∈ s.history, old.id ≠ row.id) ∧
            Spent call (s.verifications.view call) row.verification := by
        intro row author id spent
        rw [id, spent]
        exact ⟨author, Nat.lt_succ_self _, fun old member => Nat.ne_of_lt (inv.ids.2 old member), ready.2⟩
      cases given : request.submission.attemptId with
      | some attemptId =>
          have owns : Owns hashtext s call (some attemptId) := given ▸ ready.1
          exact inv_insertHistory inv rfl (by rw [inserting]; rfl) (by rw [inserting]; rfl) rfl rfl rfl
            ⟨owns, rfl, pending rfl rfl rfl⟩
      | none =>
          exact inv_insertHistory inv rfl (by rw [inserting]; rfl) (by rw [inserting]; rfl) rfl rfl rfl
            ⟨fun _ same => (by cases same), pending rfl rfl rfl, fun _ same => (by cases same)⟩
  | insertReceipt call =>
      simp only [step] at taken
      split at taken <;> try contradiction
      rename_i attemptId row receipting
      have ready := inv.ready call
      rw [receipting] at ready
      obtain ⟨owns, given, author, bound, fresh, spent⟩ := ready
      split at taken
      · cases taken
        exact inv_rollback inv (fun _ _ member => member) (by rw [receipting]; rfl)
      · refine inv_writeReceipt inv taken (inv.expired_of_cleared (owns _ rfl).2) ?_
          (by rw [receipting]; rfl) (by simp [receipting]) ?_ rfl ?_
        · intro inserted same
          cases same
          exact ⟨_, rfl, given, rfl, rfl⟩
        · intro next same
          cases same
          exact ⟨row, by rw [receipting]; rfl, rfl⟩
        · rw [State.writeReceipt_eq taken]
          refine ⟨fun id same => ?_, ⟨author, bound, fresh, spent⟩, fun id same => ?_⟩
          · rw [show row.attemptId = some id from same, Option.some.injEq] at given
            subst given
            exact owns id rfl
          · rw [show row.attemptId = some id from same, Option.some.injEq] at given
            subst given
            exact ⟨_, rfl, rfl, RowLocks.write_locks_self⟩
  | cleanupExpired call limit expired =>
      simp only [step] at taken
      split at taken <;> try contradiction
      rename_i idle
      have begin : ∀ {next : Call Digest}, t = s.setCall call next → next ≠ .idle → next.pending = none →
          Ready hashtext t call next → Inv hashtext t := fun same begun unpaired ready =>
        inv_move inv same (le_refl _) (fun _ _ _ held => held) (fun _ _ member => member)
          (fun _ _ member => member) (by rw [idle]; rfl) (by rw [idle]; rfl)
          (.inr (by rw [idle]; rfl)) begun unpaired ready
      split at taken
      · cases taken
        exact begin rfl (fun same => by cases same) rfl trivial
      · split at taken <;> cases taken
        exact begin rfl (fun same => by cases same) rfl trivial
  | cleanupDelete call =>
      simp only [step] at taken
      split at taken <;> try contradiction
      rename_i attemptId expiresAt rest cleaning
      split at taken
      · rename_i expired
        have free : s.receipts.Free call attemptId := by
          unfold State.writeReceipt at taken
          split at taken <;> first | assumption | contradiction
        refine inv_writeReceipt inv taken ?_ (fun _ same => by cases same) (by rw [cleaning]; rfl)
          (by simp [cleaning]) (fun _ same => by cases same) rfl trivial
        intro old stored
        cases held : s.receipts.locks attemptId with
        | none =>
            rw [RowLocks.view_unlocked held] at expired
            exact expiredAs_spec expired stored
        | some lock => exact (inv.locked attemptId lock held).2.1 old stored
      · cases taken
        exact inv_move inv rfl (le_refl _) (fun _ _ _ held => held) (fun _ _ member => member)
          (fun _ _ member => member) (by rw [cleaning]; rfl) (by rw [cleaning]; rfl) (.inl rfl)
          (fun same => by cases same) rfl trivial
  | commit call delivered =>
      simp only [step] at taken
      split at taken <;> cases taken
      · rename_i row committing
        exact inv_commit inv (.inr ⟨row, rfl, committing⟩) (by rw [committing]; rfl)
      · rename_i result duplicate
        exact inv_commit inv (.inl ⟨rfl, by rw [duplicate]; rfl⟩) (by rw [duplicate]; rfl)
      · rename_i cleaning
        exact inv_commit inv (.inl ⟨rfl, by rw [cleaning]; rfl⟩) (by rw [cleaning]; rfl)
  | fail call error =>
      simp only [step] at taken
      split at taken <;> cases taken
      rename_i active
      exact inv_rollback inv (fun _ _ member => member) active

theorem inv_transition (inv : Inv hashtext s) {label : Option (Label Digest)}
    (moved : Transition options hashtext s label t) : Inv hashtext t := by
  cases moved with
  | statement label taken => exact inv_step inv taken
  | verification intentId intent unlocked lawful grows => exact inv_verification inv unlocked lawful grows

end Steps

end PublicLighting.ReportSubmission
