import PublicLighting.Accounts.FirstAdminSafety

/-! Whole runs of concurrent bootstrap calls: what they leave, and that they end. -/

namespace PublicLighting.Accounts

open Foundations

section Credit

def Point.rank : Point → Nat
  | .starting _ => 11
  | .connecting _ => 10
  | .awaiting (.begin _) => 9
  | .awaiting (.lock _) => 8
  | .awaiting (.select _) => 7
  | .hashing _ => 6
  | .awaiting (.insertAdmin ..) => 5
  | .awaiting (.insertLog ..) => 4
  | .awaiting (.commit ..) => 3
  | .awaiting .rollbackExisting => 3
  | .awaiting .rollback => 2
  | .releasing _ => 1
  | .ended _ => 0

def Point.left : Point → Nat
  | .starting _ => 11
  | .connecting _ => 10
  | .hashing _ => 4
  | .awaiting (.begin _) => 2
  | .awaiting .rollback => 2
  | .awaiting _ => 3
  | .releasing _ => 1
  | .ended _ => 0

def Caller.credit (caller : Caller) : Nat :=
  match caller.session with
  | .closed => caller.point.left
  | .broken _ => caller.point.left + 1
  | _ => caller.point.rank + 1

def Session.isLive : Session → Bool
  | .broken _ | .closed => false
  | _ => true

theorem answered_rank (statement : Statement) (rows : List Nat) :
    (answered statement rows).rank < (Point.awaiting statement).rank := by
  cases statement with
  | select input =>
      rw [answered]
      split_ifs <;> simp only [Point.rank] <;> omega
  | insertAdmin input passwordHash => cases rows <;> simp only [answered, Point.rank] <;> omega
  | _ => simp only [answered, Point.rank]; omega

theorem rejected_rank (statement : Statement) : (rejected statement).rank < (Point.awaiting statement).rank := by
  cases statement <;> simp only [rejected, Point.rank] <;> omega

theorem rejected_left (statement : Statement) : (rejected statement).left < (Point.awaiting statement).left := by
  cases statement <;> simp only [rejected, Point.left] <;> omega

theorem left_le (point : Point) : point.left ≤ point.rank := by
  cases point with
  | awaiting statement => cases statement <;> simp only [Point.left, Point.rank] <;> omega
  | _ => simp only [Point.left, Point.rank]; omega

variable {call : CallId} {shared next : Shared} {caller after : Caller}

theorem execute_open {id : Nat} {statement : Statement} {session : Session} (lost : session.isLive = false) :
    execute call shared id statement session = none := by
  cases session <;> cases lost <;> cases statement <;> rfl

theorem refuse_open {statement : Statement} {session : Session} (lost : session.isLive = false) :
    refuse call shared statement session = none := by
  cases session <;> cases lost <;> cases statement <;> rfl

theorem cut_open {statement : Statement} {session : Session} (lost : session.isLive = false) :
    cut statement session = none := by
  cases session <;> cases lost <;> cases statement <;> rfl

theorem credit_le (caller : Caller) : caller.credit ≤ caller.point.rank + 1 := by
  have less := left_le caller.point
  unfold Caller.credit
  split <;> omega

theorem credit_live (live : caller.session.isLive = true) : caller.credit = caller.point.rank + 1 := by
  unfold Caller.credit
  cases session : caller.session with
  | broken inFlight =>
      rw [session] at live
      cases live
  | closed =>
      rw [session] at live
      cases live
  | _ => rfl

theorem credit_answers (live : caller.session.isLive = true) (rank : after.point.rank < caller.point.rank) :
    1 + after.credit ≤ caller.credit := by
  have less := credit_le after
  rw [credit_live live]
  omega

theorem credit_moves {point : Point} {client : Bool} (rank : point.rank < caller.point.rank)
    (left : point.left < caller.point.left) :
    1 + Caller.credit ⟨point, caller.session, client⟩ ≤ caller.credit := by
  unfold Caller.credit
  cases caller.session <;> simp only <;> omega

theorem act_pays {action : Action} (moved : act call shared caller action = some (next, after)) :
    1 + after.credit ≤ caller.credit := by
  cases action with
  | start =>
      simp only [act] at moved
      split at moved
      · rename_i input here
        split at moved <;> cases moved <;> apply credit_moves <;> rw [here] <;>
          simp only [Point.rank, Point.left] <;> omega
      · cases moved
  | answered id =>
      simp only [act] at moved
      split at moved
      · rename_i statement here
        obtain ⟨⟨rows, after, session⟩, ran, same⟩ := Option.map_eq_some_iff.mp moved
        cases same
        have live : caller.session.isLive = true := by
          rw [← Bool.not_eq_false]
          intro lost
          rw [execute_open lost] at ran
          cases ran
        apply credit_answers live
        rw [here]
        exact answered_rank statement rows
      · cases moved
  | refused =>
      simp only [act] at moved
      split at moved
      · rename_i statement here
        obtain ⟨⟨after, session⟩, ran, same⟩ := Option.map_eq_some_iff.mp moved
        cases same
        have live : caller.session.isLive = true := by
          rw [← Bool.not_eq_false]
          intro lost
          rw [refuse_open lost] at ran
          cases ran
        apply credit_answers live
        rw [here]
        exact rejected_rank statement
      · cases moved
  | cut statement =>
      simp only [act] at moved
      split_ifs at moved with here
      obtain ⟨session, ran, same⟩ := Option.map_eq_some_iff.mp moved
      cases same
      have live : caller.session.isLive = true := by
        rw [← Bool.not_eq_false]
        intro lost
        rw [cut_open lost] at ran
        cases ran
      apply credit_answers live
      rw [here]
      exact rejected_rank statement
  | dropped =>
      simp only [act] at moved
      split at moved
      · rename_i input here
        obtain ⟨session, ran, same⟩ := Option.map_eq_some_iff.mp moved
        cases same
        unfold Caller.credit
        rw [here]
        cases before : caller.session <;> rw [before] at ran <;> cases ran <;>
          simp only [Point.rank, Point.left] <;> omega
      · cases moved
  | unqueryable =>
      simp only [act] at moved
      split at moved
      · rename_i statement inFlight here broken
        cases moved
        apply credit_moves <;> rw [here]
        · exact rejected_rank statement
        · exact rejected_left statement
      · rename_i statement here closed
        cases moved
        apply credit_moves <;> rw [here]
        · exact rejected_rank statement
        · exact rejected_left statement
      · cases moved
  | reaped completes =>
      obtain ⟨reaped, ended, same⟩ := Option.map_eq_some_iff.mp moved
      cases same
      unfold Caller.credit
      cases before : caller.session with
      | broken inFlight =>
          simp only
          omega
      | _ =>
          rw [before] at ended
          cases ended
  | _ =>
      simp only [act] at moved
      split at moved
      · rename_i here
        cases moved
        apply credit_moves <;> rw [here] <;> simp only [Point.rank, Point.left] <;> omega
      · cases moved

end Credit

section Runs

variable {inputs : CallId → BootstrapAdminInput} {logs : List LogRow} {sequence : Nat}

structure Inv (inputs : CallId → BootstrapAdminInput) (logs : List LogRow) (labels : List Label)
    (s : System) : Prop where
  fits : ∀ call, Fits (inputs call) call s.shared (s.callers call)
  tables : Tables s.shared
  uncertain : ∀ call, Uncertain call s.shared (s.callers call) →
    ∃ id username, Label.call call (.cut (.commit id username)) ∈ labels
  logs : logs.map (⟨none, ·⟩) <+: s.shared.logs

theorem initial_inv : Inv inputs logs [] (initial inputs logs sequence) := by
  have foreign : ∀ stored ∈ logs.map (fun row => (⟨none, row⟩ : Stored LogRow)), stored.xmin = none := by
    intro stored member
    obtain ⟨row, -, same⟩ := List.mem_map.mp member
    rw [← same]
  constructor
  · intro call
    refine .starting ⟨nofun, nofun, ?_⟩
    intro stored member
    rw [foreign stored member]
    exact nofun
  · refine .empty rfl (List.filter_eq_nil_iff.mpr ?_)
    intro stored member
    rw [foreign stored member]
    exact Bool.false_ne_true
  · intro call uncertain
    cases uncertain with
    | inl onItsWay =>
        obtain ⟨work, broken⟩ := onItsWay
        cases broken
    | inr done => cases done.1
  · exact List.prefix_rfl

theorem step_call {s t : System} {call : CallId} {action : Action} (taken : Step s (.call call action) t) :
    act call s.shared (s.callers call) action = some (t.shared, t.callers call) ∧
      ∀ other, other ≠ call → t.callers other = s.callers other := by
  obtain ⟨⟨shared, caller⟩, moved, same⟩ := Option.map_eq_some_iff.mp taken
  cases same
  simp only [Function.update_self]
  exact ⟨moved, fun other different => Function.update_of_ne different _ _⟩

theorem step_inv {labels : List Label} {s t : System} {label : Label} (inv : Inv inputs logs labels s)
    (taken : Step s label t) :
    Inv inputs logs (labels ++ [label]) t := by
  cases label with
  | call call action =>
      obtain ⟨moved, still⟩ := step_call taken
      have kept := act_kept (inv.fits call) inv.tables moved
      refine ⟨?_, kept.tables, ?_, inv.logs.trans kept.grows.logs⟩
      · intro other
        by_cases mine : other = call
        · rw [mine]
          exact kept.fits
        · rw [still other mine]
          exact (inv.fits other).apart (kept.others other mine)
      · intro other uncertain
        by_cases mine : other = call
        · rw [mine] at uncertain ⊢
          cases uncertain.cut (inv.fits call) moved with
          | inl before =>
              obtain ⟨id, username, seen⟩ := inv.uncertain call before
              exact ⟨id, username, List.mem_append_left _ seen⟩
          | inr cut =>
              obtain ⟨id, username, same⟩ := cut
              rw [same]
              exact ⟨id, username, List.mem_append_right _ (List.mem_singleton_self _)⟩
        · rw [still other mine] at uncertain
          obtain ⟨id, username, seen⟩ := inv.uncertain other (uncertain.before (kept.others other mine))
          exact ⟨id, username, List.mem_append_left _ seen⟩
  | elsewhere row =>
      cases taken
      refine ⟨fun call => (inv.fits call).apart (apart_logged row), inv.tables.logged row, ?_, ?_⟩
      · intro call uncertain
        obtain ⟨id, username, seen⟩ := inv.uncertain call (uncertain.before (apart_logged row))
        exact ⟨id, username, List.mem_append_left _ seen⟩
      · exact inv.logs.trans (List.prefix_append _ _)

theorem run_inv {labels : List Label} {s : System} (run : Run Step (initial inputs logs sequence) labels s) :
    Inv inputs logs labels s := run.history initial_inv fun _ _ _ _ => step_inv

structure Bootstrapped (inputs : CallId → BootstrapAdminInput) (logs : List LogRow) (labels : List Label)
    (s : System) : Prop where
  rows : s.shared.admins.length ≤ 1
  together : (s.shared.logs.filter fun stored => stored.xmin.isSome) =
    s.shared.admins.map fun stored => ⟨stored.xmin, createdLog stored.row.id⟩
  logs : logs.map (⟨none, ·⟩) <+: s.shared.logs
  once : ∀ one other id username id' username', (s.callers one).point = .ended (.created id username) →
    (s.callers other).point = .ended (.created id' username') → one = other
  success : ∀ call id username, (s.callers call).point = .ended (.created id username) →
    ∃ row, s.shared.admins = [⟨some call, row⟩] ∧ row.id = id ∧ row.username = username
  others : ∀ call ending, (s.callers call).point = .ended ending → (∀ id username, ending ≠ .created id username) →
    (ending = .threw .alreadyInitialized ∨ ending = .threw .failed ∨ ending = .unconnected ∨
        ∃ error, validateBootstrapAdminInput (inputs call) = .error error ∧ ending = .threw error) ∧
      (Unwritten call s.shared ∨
        ending = .threw .failed ∧ ∃ id username, Label.call call (.cut (.commit id username)) ∈ labels)
  released : ∀ call ending, (s.callers call).point = .ended ending → (s.callers call).client = false ∧
    (s.shared.lock = some call → ∃ inFlight, (s.callers call).session = .broken inFlight)

theorem Tables.together (tables : Tables shared) : (shared.logs.filter fun stored => stored.xmin.isSome) =
    shared.admins.map fun stored => ⟨stored.xmin, createdLog stored.row.id⟩ := by
  cases tables with
  | empty admins logs => rw [admins, logs, List.map_nil]
  | one writer row admins logs => rw [admins, logs, List.map_singleton]

theorem Tables.rows (tables : Tables shared) : shared.admins.length ≤ 1 := by
  cases tables with
  | empty admins => rw [admins]; exact Nat.zero_le 1
  | one writer row admins => rw [admins]; exact Nat.le_refl 1

theorem Tables.only (tables : Tables shared) {stored : Stored AdminRow} (member : stored ∈ shared.admins) :
    shared.admins = [stored] := by
  cases tables with
  | empty admins =>
      rw [admins] at member
      cases member
  | one writer row admins =>
      rw [admins, List.mem_singleton] at member
      rw [admins, member]

theorem inv_success {labels : List Label} {s : System} (inv : Inv inputs logs labels s) {call : CallId} {id : Nat}
    {username : String} (here : (s.callers call).point = .ended (.created id username)) :
    ∃ row, s.shared.admins = [⟨some call, row⟩] ∧ row.id = id ∧ row.username = username := by
  have fits := inv.fits call
  generalize s.callers call = caller at *
  cases fits with
  | adrift unaware => cases unaware <;> cases here
  | settled reporting settled =>
      cases reporting <;> cases here
      cases settled with
      | created row unheld member => exact ⟨row, inv.tables.only member, rfl, rfl⟩
  | failed trailing => cases trailing <;> cases here
  | _ => cases here

theorem inv_bootstrapped {labels : List Label} {s : System} (inv : Inv inputs logs labels s) :
    Bootstrapped inputs logs labels s where
  rows := inv.tables.rows
  together := inv.tables.together
  logs := inv.logs
  once := by
    intro one other id username id' username' first second
    obtain ⟨row, whole, -⟩ := inv_success inv first
    obtain ⟨row', whole', -⟩ := inv_success inv second
    rw [whole] at whole'
    exact Option.some.inj (congrArg Stored.xmin (List.singleton_inj.mp whole'))
  success := fun _ _ _ => inv_success inv
  others := by
    intro call ending here unsuccessful
    have fits := inv.fits call
    have uncertain := inv.uncertain call
    generalize s.callers call = caller at *
    cases fits with
    | invalid error raised outside =>
        cases here
        exact ⟨Or.inr (Or.inr (Or.inr ⟨error, raised, rfl⟩)), Or.inl outside.unwritten⟩
    | unconnected outside =>
        cases here
        exact ⟨Or.inr (Or.inr (Or.inl rfl)), Or.inl outside.unwritten⟩
    | adrift unaware => cases unaware <;> cases here
    | settled reporting settled =>
        cases reporting <;> cases here
        cases settled with
        | created row => exact absurd rfl (unsuccessful _ _)
        | existing outside => exact ⟨Or.inl rfl, Or.inl outside.unwritten⟩
    | failed trailing failed =>
        cases trailing <;> cases here
        refine ⟨Or.inr (Or.inl rfl), ?_⟩
        cases failed with
        | undone outside => exact Or.inl outside.unwritten
        | lost unwritten => exact Or.inl unwritten
        | unsure row inside => exact Or.inl inside.unwritten
        | closed outside => exact Or.inl outside.unwritten
        | written row unheld member =>
            exact Or.inr ⟨rfl, uncertain (Or.inr ⟨rfl, fun unwritten => unwritten.admins _ member rfl⟩)⟩
    | _ => cases here
  released := by
    intro call ending here
    have fits := inv.fits call
    generalize s.callers call = caller at *
    cases fits with
    | invalid error raised outside => exact ⟨rfl, fun held => absurd held outside.lock⟩
    | unconnected outside => exact ⟨rfl, fun held => absurd held outside.lock⟩
    | adrift unaware => cases unaware <;> cases here
    | settled reporting settled =>
        cases reporting <;> cases here
        cases settled with
        | created row unheld => exact ⟨rfl, fun held => absurd held unheld⟩
        | existing outside => exact ⟨rfl, fun held => absurd held outside.lock⟩
    | failed trailing failed =>
        cases trailing <;> cases here
        refine ⟨rfl, fun held => ?_⟩
        cases failed with
        | undone outside => exact absurd held outside.lock
        | lost => exact ⟨none, rfl⟩
        | unsure row => exact ⟨_, rfl⟩
        | closed outside => exact absurd held outside.lock
        | written row unheld => exact absurd held unheld
    | _ => cases here

def Action.unfailing : Action → Bool
  | .unconnected | .refused | .cut _ | .dropped | .unhashed => false
  | _ => true

/-- Where nothing but a failure is left to happen, every call has ended and nothing is held. -/
theorem stuck_ended {labels : List Label} {s : System} (inv : Inv inputs logs labels s)
    (stuck : ∀ call action, action.unfailing = true → act call s.shared (s.callers call) action = none) :
    s.shared.lock = none ∧ ∀ call, (∃ ending, (s.callers call).point = .ended ending) ∧
      ∀ inFlight, (s.callers call).session ≠ .broken inFlight := by
  have unbroken : ∀ call inFlight, (s.callers call).session ≠ .broken inFlight := by
    intro call inFlight broken
    have reaped := stuck call (.reaped false) rfl
    simp only [act, broken, reap] at reaped
    cases inFlight <;> cases reaped
  have unlocked : s.shared.lock = none := by
    cases held : s.shared.lock with
    | none => rfl
    | some call =>
        have fits := inv.fits call
        have here := stuck call
        have whole := unbroken call
        generalize s.callers call = caller at *
        exfalso
        cases fits with
        | starting outside => exact outside.lock held
        | invalid error raised outside => exact outside.lock held
        | connecting valid outside => exact outside.lock held
        | unconnected outside => exact outside.lock held
        | beginning valid outside => exact outside.lock held
        | locking valid outside => exact outside.lock held
        | inserting valid hash =>
            have answered := here (.answered s.shared.sequence) rfl
            simp only [act, execute, if_pos (Nat.le_refl _)] at answered
            cases answered
        | hashing valid => cases here (.hashed "") rfl
        | adrift unaware lost =>
            cases lost with
            | broken => exact whole _ rfl
            | closed outside => exact outside.lock held
        | settled reporting settled =>
            cases settled with
            | created row unheld => exact unheld held
            | existing outside => exact outside.lock held
        | failed trailing failed =>
            cases failed with
            | undone outside => exact outside.lock held
            | lost => exact whole _ rfl
            | unsure row => exact whole _ rfl
            | closed outside => exact outside.lock held
            | written row unheld => exact unheld held
        | _ => cases here (.answered 0) rfl
  refine ⟨unlocked, fun call => ⟨?_, unbroken call⟩⟩
  have fits := inv.fits call
  have here := stuck call
  have whole := unbroken call
  generalize s.callers call = caller at *
  cases fits with
  | starting =>
      have started := here .start rfl
      simp only [act] at started
      split at started <;> cases started
  | invalid error => exact ⟨_, rfl⟩
  | unconnected => exact ⟨_, rfl⟩
  | connecting valid => cases here .connected rfl
  | locking valid =>
      have answered := here (.answered 0) rfl
      simp only [act, execute, unlocked, true_or, if_true] at answered
      cases answered
  | inserting valid hash =>
      have answered := here (.answered s.shared.sequence) rfl
      simp only [act, execute, if_pos (Nat.le_refl _)] at answered
      cases answered
  | hashing valid => cases here (.hashed "") rfl
  | adrift unaware lost =>
      cases lost with
      | broken => exact absurd rfl (whole _)
      | closed =>
          cases unaware with
          | hashing => cases here (.hashed "") rfl
          | inserting => cases here .unqueryable rfl
  | settled reporting =>
      cases reporting with
      | releasing => cases here .released rfl
      | ended => exact ⟨_, rfl⟩
  | failed trailing failed =>
      cases trailing with
      | ended => exact ⟨_, rfl⟩
      | releasing => cases here .released rfl
      | undoing =>
          cases failed with
          | undone => cases here (.answered 0) rfl
          | lost => exact absurd rfl (whole _)
          | unsure row => exact absurd rfl (whole _)
          | closed => cases here .unqueryable rfl
          | written row => cases here .unqueryable rfl
  | _ => cases here (.answered 0) rfl

def Label.isOf (call : CallId) : Label → Bool
  | .call other _ => other = call
  | .elsewhere _ => false

theorem steps_bounded {labels : List Label} {s : System} (run : Run Step (initial inputs logs sequence) labels s)
    (call : CallId) :
    labels.countP (Label.isOf call) ≤ 12 := by
  have paid := @Run.countP_le _ _ Step (fun _ => True) (Label.isOf call) (fun s => (s.callers call).credit)
    (fun _ _ _ _ _ => trivial) ?_ _ _ _ run trivial
  · exact Nat.le_trans (Nat.le_add_right _ _) paid
  · intro s label t _ taken
    cases label with
    | call other action =>
        obtain ⟨moved, still⟩ := step_call taken
        by_cases mine : other = call
        · have pays := act_pays moved
          rw [mine] at pays
          simp only [Label.isOf, mine, decide_true, if_true]
          exact pays
        · simp only [Label.isOf, mine, decide_false, still call (Ne.symm mine)]
          exact Nat.le_of_eq (Nat.zero_add _)
    | elsewhere row =>
        cases taken
        exact Nat.le_of_eq (Nat.zero_add _)

/-- In every run of the calls at most one administrator is created, together with its log row, by
the one call that may succeed. Any other reports it and writes nothing, unless the answer to its
`COMMIT` was lost. Calls end after a bounded number of steps, and then hold nothing. -/
theorem first_admin (inputs : CallId → BootstrapAdminInput) (logs : List LogRow) (sequence : Nat)
    (labels : List Label) (s : System)
    (run : Run Step (initial inputs logs sequence) labels s) :
    Bootstrapped inputs logs labels s ∧ (∀ call, labels.countP (Label.isOf call) ≤ 12) ∧
      ((∀ call action, action.unfailing = true → act call s.shared (s.callers call) action = none) →
        s.shared.lock = none ∧ ∀ call, (∃ ending, (s.callers call).point = .ended ending) ∧
          ∀ inFlight, (s.callers call).session ≠ .broken inFlight) :=
  ⟨inv_bootstrapped (run_inv run), steps_bounded run, stuck_ended (run_inv run)⟩

def someInput : BootstrapAdminInput := ⟨"admin.one", "a long enough password", none⟩

def raced : List Label :=
  [.call 0 .start, .call 1 .start, .call 0 .connected, .call 1 .connected, .call 0 (.answered 0),
    .call 1 (.answered 0),
    .call 0 (.answered 0), .call 0 (.answered 0), .call 0 (.hashed "hash"), .call 0 (.answered 1), .call 0 (.answered 0),
    .call 0 (.answered 0), .call 1 (.answered 0), .call 1 (.answered 0), .call 1 (.answered 0), .call 1 .released,
    .call 0 .released]

theorem raced_runs : ∃ s, Run Step (initial (fun _ => someInput) [] 1) raced s ∧
    (s.callers 0).point = .ended (.created 1 "admin.one") ∧
      (s.callers 1).point = .ended (.threw .alreadyInitialized) := by
  have ends : (raced.foldlM next (initial (fun _ => someInput) [] 1)).any (fun s =>
      (s.callers 0).point = .ended (.created 1 "admin.one") ∧
        (s.callers 1).point = .ended (.threw .alreadyInitialized)) = true := by
    decide +kernel
  obtain ⟨s, folded, holds⟩ := (Option.any_eq_true _ _).mp ends
  exact ⟨s, Run.of_foldlM folded, of_decide_eq_true holds⟩

theorem first_admin_raced : ∃ s, Bootstrapped (fun _ => someInput) [] raced s ∧
    (s.callers 0).point = .ended (.created 1 "admin.one") ∧
      (s.callers 1).point = .ended (.threw .alreadyInitialized) := by
  obtain ⟨s, run, ends⟩ := raced_runs
  exact ⟨s, (first_admin (fun _ => someInput) [] 1 raced s run).1, ends⟩

/-- A call whose connection breaks while its `COMMIT` is on its way. -/
def lostCommit : List Label :=
  [.start, .connected, .answered 0, .answered 0, .answered 0, .hashed "hash", .answered 1, .answered 0,
    .cut (.commit 1 "admin.one"), .reaped true, .unqueryable, .released].map (.call 0)

/-- A call that reports a failure may have written its rows all the same. -/
theorem failure_may_write : ¬ ∀ (inputs : CallId → BootstrapAdminInput) (logs : List LogRow) (sequence : Nat)
    (labels : List Label) (s : System), Run Step (initial inputs logs sequence) labels s →
      ∀ call ending, (∃ valid, validateBootstrapAdminInput (inputs call) = .ok valid) →
        (s.callers call).point = .ended ending → (∀ id username, ending ≠ .created id username) →
          Unwritten call s.shared := by
  intro unwritten
  have ends : (lostCommit.foldlM next (initial (fun _ => someInput) [] 1)).any (fun s =>
      (s.callers 0).point = .ended (.threw .failed) ∧
        s.shared.admins = [⟨some 0, 1, "admin.one", "hash", none⟩]) = true := by
    decide +kernel
  obtain ⟨s, folded, holds⟩ := (Option.any_eq_true _ _).mp ends
  obtain ⟨failed, rows⟩ := of_decide_eq_true holds
  have valid : validateBootstrapAdminInput someInput = .ok someInput := by decide +kernel
  have none := unwritten (fun _ => someInput)
    [] 1 lostCommit s (Run.of_foldlM folded) 0 _ ⟨someInput, valid⟩ failed nofun
  refine none.admins ⟨some 0, 1, "admin.one", "hash", Option.none⟩ ?_ rfl
  rw [rows]
  exact List.mem_singleton_self _

end Runs

end PublicLighting.Accounts
