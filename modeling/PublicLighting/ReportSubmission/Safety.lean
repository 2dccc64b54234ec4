import PublicLighting.ReportSubmission.Invariant

/-! Receipts, duplicates and consumed verifications in every interleaving. -/

namespace PublicLighting.ReportSubmission

open Foundations Foundations.JavaScriptText
open EmailVerification (CallId IntentId Intent Event Challenge Lawful)

variable {Digest : Type}

section Frames

def Label.call : Label Digest → Option CallId
  | .elapse _ => none
  | .recordSubmission call _ _ => some call
  | .lock call => some call
  | .check call => some call
  | .deleteExpired call => some call
  | .resolveTarget call _ => some call
  | .authorize call _ => some call
  | .stamp call => some call
  | .insertHistory call => some call
  | .insertReceipt call => some call
  | .cleanupExpired call _ _ => some call
  | .cleanupDelete call => some call
  | .commit call _ => some call
  | .fail call _ => some call

variable {s t : State Digest} {call : CallId}

structure Alike (call : CallId) (s t : State Digest) : Prop where
  calls : t.calls call = s.calls call
  writers : call ∈ t.writers → call ∈ s.writers
  authorized : call ∈ t.authorized → call ∈ s.authorized

theorem alike_setCall {other : CallId} (different : other ≠ call) {u : State Digest} {next : Call Digest}
    (same : Alike call s u) : Alike call s (u.setCall other next) where
  calls := (Function.update_of_ne different.symm _ _).trans same.calls
  writers := same.writers
  authorized := same.authorized

theorem mem_of_other {other : CallId} {calls : List CallId} (different : other ≠ call)
    (member : call ∈ other :: calls) : call ∈ calls :=
  (List.mem_cons.mp member).resolve_left different.symm

variable [DecidableEq Digest] {options : FormOptions} {hashtext : String → Int}

theorem step_alike {label : Label Digest} (taken : step options hashtext s label = some t)
    (different : label.call ≠ some call) : Alike call s t := by
  have apart : ∀ {other : CallId}, label.call = some other → other ≠ call := by
    rintro other same rfl
    exact different same
  cases label with
  | elapse duration =>
      cases taken
      exact ⟨rfl, id, id⟩
  | cleanupExpired other limit expired =>
      simp only [step] at taken
      repeat' split at taken
      all_goals
        cases taken
        try exact alike_setCall (apart rfl) ⟨rfl, id, id⟩
  | authorize other late =>
      simp only [step] at taken
      repeat' split at taken
      all_goals
        cases taken
        try exact alike_setCall (apart rfl) ⟨rfl, id, id⟩
        try exact alike_setCall (apart rfl) ⟨rfl, id, mem_of_other (apart rfl)⟩
        try exact alike_setCall (apart rfl) ⟨rfl, mem_of_other (apart rfl), mem_of_other (apart rfl)⟩
  | _ =>
      simp only [step, State.writeReceipt] at taken
      repeat' split at taken
      all_goals
        cases taken
        try exact alike_setCall (apart rfl) ⟨rfl, id, id⟩
        try exact alike_setCall (apart rfl) ⟨rfl, mem_of_other (apart rfl), id⟩

/-- The history grows and the clock goes forward; receipts change only at a COMMIT. -/
structure Forward (s t : State Digest) : Prop where
  history : s.history <+: t.history
  later : s.now ≤ t.now
  receipts : t.now = s.now ∨ t.receipts.committed = s.receipts.committed

theorem step_forward {label : Label Digest} (taken : step options hashtext s label = some t) :
    Forward s t := by
  cases label with
  | elapse duration =>
      cases taken
      exact ⟨List.prefix_rfl, Nat.le_add_right _ _, .inr rfl⟩
  | authorize other late =>
      simp only [step] at taken
      repeat' split at taken
      all_goals
        cases taken
        try exact ⟨List.prefix_rfl, le_refl _, .inl rfl⟩
        try exact ⟨List.prefix_rfl, Nat.le_add_right _ _, .inr rfl⟩
  | commit other delivered =>
      simp only [step] at taken
      split at taken <;> cases taken <;> exact ⟨List.prefix_append _ _, le_refl _, .inl rfl⟩
  | _ =>
      simp only [step, State.writeReceipt] at taken
      repeat' split at taken
      all_goals
        cases taken
        try exact ⟨List.prefix_rfl, le_refl _, .inl rfl⟩

theorem transition_forward {label : Option (Label Digest)}
    (moved : Transition options hashtext s label t) : Forward s t := by
  cases moved with
  | statement label taken => exact step_forward taken
  | verification => exact ⟨List.prefix_rfl, le_refl _, .inl rfl⟩

theorem run_later {labels : List (Option (Label Digest))}
    (run : Run (Transition options hashtext) s labels t) : s.now ≤ t.now := by
  induction run with
  | nil => exact le_refl _
  | snoc _ moved ih => exact ih.trans (transition_forward moved).later

theorem receipt_kept (inv : Inv hashtext s) {label : Option (Label Digest)}
    (moved : Transition options hashtext s label t) {attemptId : AttemptId} {receipt : Receipt}
    (stored : s.receipts.committed attemptId = some receipt) (unexpired : s.now < receipt.expiresAt) :
    t.receipts.committed attemptId = some receipt := by
  have forward := transition_forward moved
  rcases forward.receipts with same | same
  · obtain ⟨row, member, _, mine, given⟩ := inv.linked attemptId receipt stored
    obtain ⟨kept, held, _, living⟩ :=
      (inv_transition inv moved).live row (forward.history.subset member) attemptId mine
    rw [given, Option.some.injEq] at held
    subst held
    exact living (same ▸ unexpired)
  · rw [same]
    exact stored

end Frames

section Duplicates

variable {options : FormOptions} {hashtext : String → Int} {s t : State Digest}
variable {call : CallId} {attemptId : AttemptId} {row : HistoryRow} {receipt : Receipt}

structure Linked (s : State Digest) (attemptId : AttemptId) (receipt : Receipt) (row : HistoryRow) :
    Prop where
  stored : s.receipts.committed attemptId = some receipt
  member : row ∈ s.history
  matched : receipt.historyId = row.id

def Interrupts (call : CallId) : Option (Label Digest) → Prop
  | some (.fail other _) => other = call
  | some (.commit other delivered) => other = call ∧ delivered = false
  | _ => False

def Answers (attemptId : AttemptId) (row : HistoryRow) (interrupted : Prop) (outcome : Outcome) : Prop :=
  outcome = .recorded (duplicateOf attemptId row) ∨
    interrupted ∧ ∃ error, outcome = .failed (.thrown error)

def Follows (attemptId : AttemptId) (row : HistoryRow) (interrupted : Prop) : Call Digest → Prop
  | .locking _ id => id = attemptId
  | .checking _ id => id = attemptId
  | .duplicate result => result = duplicateOf attemptId row
  | .ended outcome => Answers attemptId row interrupted outcome
  | _ => False

theorem Follows.mono {before after : Prop} (still : before → after) {here : Call Digest}
    (follows : Follows attemptId row before here) : Follows attemptId row after here := by
  cases here with
  | ended outcome => exact follows.imp id fun lost => ⟨still lost.1, lost.2⟩
  | _ => exact follows

structure Repeats (attemptId : AttemptId) (row : HistoryRow) (call : CallId) (interrupted : Prop)
    (s : State Digest) : Prop where
  follows : Follows attemptId row interrupted (s.calls call)
  unwritten : call ∉ s.writers
  unasked : call ∉ s.authorized

theorem Repeats.alike {interrupted : Prop} (repeats : Repeats attemptId row call interrupted s)
    (alike : Alike call s t) : Repeats attemptId row call interrupted t where
  follows := by
    rw [alike.calls]
    exact repeats.follows
  unwritten := fun member => repeats.unwritten (alike.writers member)
  unasked := fun member => repeats.unasked (alike.authorized member)

theorem Repeats.setCall {interrupted after : Prop} (repeats : Repeats attemptId row call interrupted s)
    {u : State Digest} {next : Call Digest} (follows : Follows attemptId row after next)
    (writers : u.writers = s.writers) (authorized : u.authorized = s.authorized) :
    Repeats attemptId row call after (u.setCall call next) where
  follows := by simpa only [State.setCall, Function.update_self] using follows
  unwritten := writers ▸ repeats.unwritten
  unasked := authorized ▸ repeats.unasked

theorem Repeats.mono {before after : Prop} (still : before → after)
    (repeats : Repeats attemptId row call before s) : Repeats attemptId row call after s :=
  ⟨repeats.follows.mono still, repeats.unwritten, repeats.unasked⟩

variable [DecidableEq Digest]

theorem repeats_step (inv : Inv hashtext s) (linked : Linked s attemptId receipt row)
    (unexpired : s.now < receipt.expiresAt) {interrupted : Prop}
    (repeats : Repeats attemptId row call interrupted s) {label : Label Digest}
    (taken : step options hashtext s label = some t) :
    Repeats attemptId row call (interrupted ∨ Interrupts call (some label)) t := by
  have follows := repeats.follows
  by_cases own : label.call = some call
  · cases label with
    | elapse duration => cases own
    | lock other =>
        cases own
        simp only [step] at taken
        split at taken <;> try contradiction
        rename_i request id locking
        rw [locking] at follows
        split at taken <;> cases taken
        exact repeats.setCall follows rfl rfl
    | check other =>
        cases own
        simp only [step] at taken
        split at taken <;> try contradiction
        rename_i request id checking
        rw [checking] at follows
        rw [show id = attemptId from follows,
          inv.existing_eq linked.member linked.stored linked.matched unexpired] at taken
        cases taken
        exact repeats.setCall rfl rfl rfl
    | commit other delivered =>
        cases own
        simp only [step] at taken
        split at taken <;> cases taken <;> rename_i waiting <;> rw [waiting] at follows
        · exact absurd follows id
        · refine repeats.setCall ?_ rfl rfl
          rw [show _ = duplicateOf attemptId row from follows]
          cases delivered with
          | true => exact .inl rfl
          | false => exact .inr ⟨.inr ⟨rfl, rfl⟩, _, rfl⟩
        · exact absurd follows id
    | fail other error =>
        cases own
        simp only [step] at taken
        split at taken <;> cases taken
        exact repeats.setCall (.inr ⟨.inr rfl, error, rfl⟩) rfl rfl
    | _ =>
        -- None of these is the next statement of a call that repeats the attempt.
        cases own
        simp only [step] at taken
        split at taken <;> try contradiction
        rename_i here
        rw [here] at follows
        exact absurd follows id
  · exact (repeats.alike (step_alike taken own)).mono .inl

theorem linked_transition (inv : Inv hashtext s) (linked : Linked s attemptId receipt row)
    (unexpired : s.now < receipt.expiresAt) {label : Option (Label Digest)}
    (moved : Transition options hashtext s label t) : Linked t attemptId receipt row where
  stored := receipt_kept inv moved linked.stored unexpired
  member := (transition_forward moved).history.subset linked.member
  matched := linked.matched

theorem repeats_transition (inv : Inv hashtext s) (linked : Linked s attemptId receipt row)
    (unexpired : s.now < receipt.expiresAt) {interrupted : Prop}
    (repeats : Repeats attemptId row call interrupted s) {label : Option (Label Digest)}
    (moved : Transition options hashtext s label t) :
    Repeats attemptId row call (interrupted ∨ Interrupts call label) t := by
  cases moved with
  | statement label taken => exact repeats_step inv linked unexpired repeats taken
  | verification =>
      refine Repeats.mono .inl ?_
      exact repeats.alike ⟨rfl, id, id⟩

/-- Along a run that ends before the receipt expires, a repeated call stays a duplicate. -/
theorem repeats_run {u : State Digest} {labels : List (Option (Label Digest))}
    (run : Run (Transition options hashtext) s labels u) (inv : Inv hashtext s)
    (linked : Linked s attemptId receipt row) (repeats : Repeats attemptId row call False s)
    (unexpired : u.now < receipt.expiresAt) :
    Inv hashtext u ∧ Linked u attemptId receipt row ∧
      Repeats attemptId row call (∃ label ∈ labels, Interrupts call label) u := by
  induction run with
  | nil => exact ⟨inv, linked, repeats.mono False.elim⟩
  | @snoc t u labels label before moved ih =>
      have young := (transition_forward moved).later.trans_lt unexpired
      obtain ⟨inv, linked, repeats⟩ := ih young
      refine ⟨inv_transition inv moved, linked_transition inv linked young moved,
        (repeats_transition inv linked young repeats moved).mono ?_⟩
      rintro (⟨cut, member, interrupts⟩ | interrupts)
      · exact ⟨cut, List.mem_append_left _ member, interrupts⟩
      · exact ⟨label, List.mem_append_right _ (List.mem_singleton.mpr rfl), interrupts⟩

end Duplicates

section Safety

structure Initial (s : State Digest) : Prop where
  unlocked : (∀ id, s.receipts.committed id = none ∧ s.receipts.locks id = none) ∧
    ∀ intentId, s.verifications.locks intentId = none
  empty : s.history = []
  lawful : ∀ intentId, Lawful (s.verifications.committed intentId)
  idle : ∀ call, s.calls call = .idle
  quiet : s.writers = [] ∧ s.authorized = []

structure SubmissionSafe [DecidableEq Digest] (options : FormOptions) (hashtext : String → Int) (s : State Digest) :
    Prop where
  oneRow : ∀ attemptId receipt, s.receipts.committed attemptId = some receipt →
    s.now < receipt.expiresAt → ∃ row, Linked s attemptId receipt row ∧
      row.attemptId = some attemptId ∧ ∀ other ∈ s.history, other.attemptId = some attemptId →
        other ≠ row → ∃ old, other.receipt = some old ∧ old.expiresAt ≤ s.now
  kept : ∀ attemptId receipt label t, s.receipts.committed attemptId = some receipt →
    s.now < receipt.expiresAt → Transition options hashtext s label t →
    t.receipts.committed attemptId = some receipt
  duplicates : ∀ spelled receipt row call input authorize submission labels u,
    Linked s (toLowerCase spelled) receipt row → input.submissionAttemptId = some spelled →
    acceptSubmission options input = .ok submission → s.calls call = .idle →
    Run (Transition options hashtext) s (some (.recordSubmission call input authorize) :: labels) u →
    u.now < receipt.expiresAt →
    call ∉ u.writers ∧ call ∉ u.authorized ∧ ∀ outcome, u.calls call = .ended outcome →
      Answers (toLowerCase spelled) row (∃ label ∈ labels, Interrupts call label) outcome
  answered : ∀ spelled receipt row call input authorize submission,
    Linked s (toLowerCase spelled) receipt row → input.submissionAttemptId = some spelled →
    acceptSubmission options input = .ok submission → s.calls call = .idle →
    s.now < receipt.expiresAt → s.advisory (hashtext (toLowerCase spelled)) = none →
    ∃ u, Run (Transition options hashtext) s
      ([.recordSubmission call input authorize, .lock call, .check call, .commit call true].map some) u ∧
      u.calls call = .ended (.recorded (duplicateOf (toLowerCase spelled) row))
  verifiedOnce : ∀ row ∈ s.history, ∀ other ∈ s.history, ∀ intentId,
    row.verification = some intentId → other.verification = some intentId → row = other

variable {options : FormOptions} {hashtext : String → Int} {s : State Digest}

theorem Initial.inv (initial : Initial s) : Inv hashtext s where
  ready := by
    intro call
    rw [initial.idle]
    trivial
  linked := by
    intro id receipt stored
    rw [(initial.unlocked.1 id).1] at stored
    cases stored
  live := by simp [initial.empty]
  locked := by
    intro id lock held
    rw [(initial.unlocked.1 id).2] at held
    cases held
  ids := by simp [initial.empty]
  pendingIds := by
    intro call other row rival pending
    rw [initial.idle] at pending
    cases pending
  authors := by simp [initial.empty]
  verifications := by
    refine ⟨initial.lawful, fun intentId lock held => ?_⟩
    rw [initial.unlocked.2] at held
    cases held
  holders := by
    intro intentId lock held
    rw [initial.unlocked.2] at held
    cases held
  spent := by simp [initial.empty]
  quiet := by simp [initial.quiet]

theorem Inv.oneRow (inv : Inv hashtext s) {attemptId : AttemptId} {receipt : Receipt}
    (stored : s.receipts.committed attemptId = some receipt) :
    ∃ row, Linked s attemptId receipt row ∧ row.attemptId = some attemptId ∧
      ∀ other ∈ s.history, other.attemptId = some attemptId → other ≠ row →
        ∃ old, other.receipt = some old ∧ old.expiresAt ≤ s.now := by
  obtain ⟨row, member, id, mine, _⟩ := inv.linked attemptId receipt stored
  refine ⟨row, ⟨stored, member, id.symm⟩, mine, fun other present same different => ?_⟩
  obtain ⟨old, given, matched, living⟩ := inv.live other present attemptId same
  refine ⟨old, given, Nat.le_of_not_lt fun young => different ?_⟩
  have one := living young
  rw [stored, Option.some.injEq] at one
  subst one
  exact List.inj_on_of_nodup_map inv.ids.1 present member (matched.symm.trans id.symm)

theorem Inv.verifiedOnce (inv : Inv hashtext s) {row other : HistoryRow} (member : row ∈ s.history)
    (present : other ∈ s.history) {intentId : IntentId} (mine : row.verification = some intentId)
    (theirs : other.verification = some intentId) : row = other := by
  obtain ⟨_, _, _, _, first⟩ := inv.spent row member intentId mine
  obtain ⟨_, _, _, _, second⟩ := inv.spent other present intentId theirs
  have once := (inv.verifications.committed intentId).safe.consumedOnce
  have same := EmailVerification.countP_le_one_eq once first rfl second rfl
  injection same with author
  exact List.inj_on_of_nodup_map inv.authors.1 member present author

variable [DecidableEq Digest]

theorem Inv.repeats (inv : Inv hashtext s) {spelled : String} {row : HistoryRow} {call : CallId}
    {input : FaultHistorySubmissionInput} {authorize : Authorize Digest} {submission : Submission}
    (given : input.submissionAttemptId = some spelled)
    (accepted : acceptSubmission options input = .ok submission) (idle : s.calls call = .idle) :
    step options hashtext s (.recordSubmission call input authorize) =
      some (s.setCall call (.locking ⟨submission, authorize⟩ (toLowerCase spelled))) ∧
    Repeats (toLowerCase spelled) row call False
      (s.setCall call (.locking ⟨submission, authorize⟩ (toLowerCase spelled))) := by
  have attempt := acceptSubmission_attemptId accepted
  rw [given, Option.map_some] at attempt
  refine ⟨by simp only [step, idle, accepted, attempt], ?_, (inv.quiet call idle).1,
    (inv.quiet call idle).2⟩
  simp only [State.setCall, Function.update_self]
  rfl

theorem Inv.duplicates (inv : Inv hashtext s) {spelled : String} {receipt : Receipt} {row : HistoryRow}
    {call : CallId} {input : FaultHistorySubmissionInput} {authorize : Authorize Digest}
    {submission : Submission} {labels : List (Option (Label Digest))} {u : State Digest}
    (linked : Linked s (toLowerCase spelled) receipt row)
    (given : input.submissionAttemptId = some spelled)
    (accepted : acceptSubmission options input = .ok submission) (idle : s.calls call = .idle)
    (run : Run (Transition options hashtext) s (some (.recordSubmission call input authorize) :: labels) u)
    (unexpired : u.now < receipt.expiresAt) :
    call ∉ u.writers ∧ call ∉ u.authorized ∧ ∀ outcome, u.calls call = .ended outcome →
      Answers (toLowerCase spelled) row (∃ label ∈ labels, Interrupts call label) outcome := by
  obtain ⟨t, moved, rest⟩ := Run.cons_inv run
  have later := run_later rest
  have start : s.now < receipt.expiresAt :=
    ((transition_forward moved).later.trans later).trans_lt unexpired
  have there := linked_transition inv linked start moved
  have keeps := inv_transition inv moved
  obtain ⟨begun, repeats⟩ :=
    @Inv.repeats _ options hashtext s _ inv spelled row call input authorize submission given accepted idle
  cases moved with
  | statement _ taken =>
      rw [begun] at taken
      cases taken
      obtain ⟨_, _, follows, unwritten, unasked⟩ := repeats_run rest keeps there repeats unexpired
      refine ⟨unwritten, unasked, fun outcome ended => ?_⟩
      rw [ended] at follows
      exact follows

theorem Inv.answered (inv : Inv hashtext s) {spelled : String} {receipt : Receipt} {row : HistoryRow}
    {call : CallId} {input : FaultHistorySubmissionInput} {authorize : Authorize Digest}
    {submission : Submission} (linked : Linked s (toLowerCase spelled) receipt row)
    (given : input.submissionAttemptId = some spelled)
    (accepted : acceptSubmission options input = .ok submission) (idle : s.calls call = .idle)
    (unexpired : s.now < receipt.expiresAt) (free : s.advisory (hashtext (toLowerCase spelled)) = none) :
    ∃ u, Run (Transition options hashtext) s
      ([.recordSubmission call input authorize, .lock call, .check call, .commit call true].map some) u ∧
      u.calls call = .ended (.recorded (duplicateOf (toLowerCase spelled) row)) := by
  obtain ⟨begun, _⟩ :=
    @Inv.repeats _ options hashtext s _ inv spelled row call input authorize submission given accepted idle
  let waiting := s.setCall call (.locking ⟨submission, authorize⟩ (toLowerCase spelled))
  let locked := { waiting with
    advisory := Function.update s.advisory (hashtext (toLowerCase spelled)) (some call) }.setCall call
      (.checking ⟨submission, authorize⟩ (toLowerCase spelled))
  let answering := locked.setCall call (.duplicate (duplicateOf (toLowerCase spelled) row))
  have taken : step options hashtext waiting (.lock call) = some locked := by
    simp only [step, waiting, locked, State.setCall, Function.update_self, free, if_true]
  have there : Linked locked (toLowerCase spelled) receipt row :=
    ⟨linked.stored, linked.member, linked.matched⟩
  have keeps := inv_step (inv_step inv begun) taken
  have found : locked.existing call (toLowerCase spelled) = some row :=
    keeps.existing_eq there.member there.stored there.matched unexpired
  have checked : step options hashtext locked (.check call) = some answering := by
    have checking : locked.calls call = .checking ⟨submission, authorize⟩ (toLowerCase spelled) :=
      Function.update_self _ _ _
    simp only [step, checking, found]
    rfl
  have committed : step options hashtext answering (.commit call true) =
      some (answering.commit call [] (.recorded (duplicateOf (toLowerCase spelled) row))) := by
    have duplicate : answering.calls call = .duplicate (duplicateOf (toLowerCase spelled) row) :=
      Function.update_self _ _ _
    simp only [step, duplicate, if_true]
  refine ⟨_, .cons (.statement _ begun) (.cons (.statement _ taken) (.cons (.statement _ checked)
    (.single (.statement _ committed)))), ?_⟩
  exact Function.update_self _ _ _

theorem Inv.safe (inv : Inv hashtext s) : SubmissionSafe options hashtext s where
  oneRow := fun _ _ stored _ => inv.oneRow stored
  kept := fun _ _ _ _ stored unexpired moved => receipt_kept inv moved stored unexpired
  duplicates := fun _ _ _ _ _ _ _ _ _ => inv.duplicates
  answered := fun _ _ _ _ _ _ _ => inv.answered
  verifiedOnce := fun _ member _ present _ => inv.verifiedOnce member present

/-- Every reachable state of the submission store is safe. -/
theorem submission_store_safe {start : State Digest} {labels : List (Option (Label Digest))}
    (initial : Initial start) (run : Run (Transition options hashtext) start labels s) :
    SubmissionSafe options hashtext s := by
  have inv : Inv hashtext s :=
    run.invariant (fun _ _ _ inv moved => inv_transition inv moved) initial.inv
  exact inv.safe

def lightingForm : FormOptions := ⟨["Sever"], ["lamp-out"], ["A"]⟩

def emptyHistory : State Nat where
  now := 0
  receipts := ⟨fun _ => none, fun _ => none⟩
  history := []
  nextId := 1
  verifications := ⟨fun _ => ⟨none, []⟩, fun _ => none⟩
  advisory := fun _ => none
  calls := fun _ => .idle
  writers := []
  authorized := []

theorem emptyHistory_initial : Initial emptyHistory where
  unlocked := ⟨fun _ => ⟨rfl, rfl⟩, fun _ => rfl⟩
  empty := rfl
  lawful := fun _ => ⟨.unsent, .nil _, trivial⟩
  idle := fun _ => rfl
  quiet := ⟨rfl, rfl⟩

def lampOut (attemptId : String) : FaultHistorySubmissionInput where
  submissionAttemptId := some attemptId
  locality := "Sever"
  automaticAddress := none
  automaticAddressProof := none
  locationBlockCode := none
  faultTypeCode := some "lamp-out"
  reportTarget := .manual

def record (call : CallId) (input : FaultHistorySubmissionInput) (delivered : Bool) : List (Label Nat) :=
  [.recordSubmission call input .absent, .lock call, .check call, .deleteExpired call,
    .resolveTarget call (.ok ⟨"manual", none, none, none⟩), .authorize call 0, .stamp call,
    .insertHistory call, .insertReceipt call, .commit call delivered]

/-- A report whose answer is lost, and its retry in the other case of letters. -/
def lostAnswer : List (Label Nat) :=
  record 0 (lampOut "0F8FAD5B-D9CB-469F-A165-70867728950E") false ++
    [.recordSubmission 1 (lampOut "0f8fad5b-d9cb-469f-a165-70867728950e") .absent, .lock 1, .check 1,
      .commit 1 true]

theorem run_of_foldlM {labels : List (Label Digest)} {u : State Digest}
    (folded : labels.foldlM (step options hashtext) s = some u) :
    Run (Transition options hashtext) s (labels.map some) u :=
  (Run.of_foldlM folded).relabel fun _ label _ taken => .statement label taken

theorem lostAnswer_safe : ∃ s, Run (Transition lightingForm fun _ => 0) emptyHistory
      (lostAnswer.map some) s ∧ SubmissionSafe lightingForm (fun _ => 0) s ∧ s.history.length = 1 ∧
      s.calls 1 = .ended (.recorded
        ⟨true, true, some 1, some "0f8fad5b-d9cb-469f-a165-70867728950e", some 0⟩) := by
  have replayed : (lostAnswer.foldlM (step lightingForm fun _ => 0) emptyHistory).any (fun s =>
      s.history.length = 1 ∧ s.calls 1 = .ended (.recorded
        ⟨true, true, some 1, some "0f8fad5b-d9cb-469f-a165-70867728950e", some 0⟩)) = true := by
    decide +kernel
  obtain ⟨s, folded, found⟩ := (Option.any_eq_true _ _).mp replayed
  exact ⟨s, run_of_foldlM folded, submission_store_safe emptyHistory_initial (run_of_foldlM folded),
    of_decide_eq_true found⟩

def State.unexpired (s : State Digest) (attemptId : AttemptId) : Bool :=
  (s.receipts.committed attemptId).any fun receipt => s.now < receipt.expiresAt

/-- A retry with an unlisted locality is refused before the receipt is looked up, and
the id of an expired receipt records a second row. -/
theorem attemptId_reused :
    (∃ s t, Run (Transition lightingForm fun _ => 0) emptyHistory (lostAnswer.map some) s ∧
      s.unexpired "0f8fad5b-d9cb-469f-a165-70867728950e" ∧
      Transition lightingForm (fun _ => 0) s (some (.recordSubmission 2
        { lampOut "0f8fad5b-d9cb-469f-a165-70867728950e" with locality := "Juh" } .absent)) t ∧
      t.calls 2 = .ended (.failed (.input .invalidLocality))) ∧
    ∃ s, Run (Transition lightingForm fun _ => 0) emptyHistory
        ((lostAnswer ++ .elapse receiptLifetime ::
          record 2 (lampOut "0f8fad5b-d9cb-469f-a165-70867728950e") true).map some) s ∧
      s.unexpired "0f8fad5b-d9cb-469f-a165-70867728950e" ∧
      s.history.map (·.attemptId) = [some "0f8fad5b-d9cb-469f-a165-70867728950e",
        some "0f8fad5b-d9cb-469f-a165-70867728950e"] := by
  constructor
  · have replayed : (lostAnswer.foldlM (step lightingForm fun _ => 0) emptyHistory).any (fun s =>
        s.unexpired "0f8fad5b-d9cb-469f-a165-70867728950e" ∧
        (step lightingForm (fun _ => 0) s (.recordSubmission 2
          { lampOut "0f8fad5b-d9cb-469f-a165-70867728950e" with locality := "Juh" } .absent)).any
          fun t => t.calls 2 = .ended (.failed (.input .invalidLocality))) = true := by
      decide +kernel
    obtain ⟨s, folded, found⟩ := (Option.any_eq_true _ _).mp replayed
    obtain ⟨unexpired, refusal⟩ := of_decide_eq_true found
    obtain ⟨t, taken, refused⟩ := (Option.any_eq_true _ _).mp refusal
    exact ⟨s, t, run_of_foldlM folded, unexpired, .statement _ taken, of_decide_eq_true refused⟩
  · have replayed : ((lostAnswer ++ .elapse receiptLifetime ::
          record 2 (lampOut "0f8fad5b-d9cb-469f-a165-70867728950e") true).foldlM
          (step lightingForm fun _ => 0) emptyHistory).any (fun s =>
        s.unexpired "0f8fad5b-d9cb-469f-a165-70867728950e" ∧
        s.history.map (·.attemptId) = [some "0f8fad5b-d9cb-469f-a165-70867728950e",
          some "0f8fad5b-d9cb-469f-a165-70867728950e"]) = true := by
      decide +kernel
    obtain ⟨s, folded, found⟩ := (Option.any_eq_true _ _).mp replayed
    exact ⟨s, run_of_foldlM folded, of_decide_eq_true found⟩

end Safety

end PublicLighting.ReportSubmission
