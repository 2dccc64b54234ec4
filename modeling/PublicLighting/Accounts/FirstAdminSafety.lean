import PublicLighting.Accounts.FirstAdmin

/-! However the calls run, there is one first administrator at most. -/

namespace PublicLighting.Accounts

open Foundations

section States

structure Unwritten (call : CallId) (shared : Shared) : Prop where
  admins : ∀ stored ∈ shared.admins, stored.xmin ≠ some call
  logs : ∀ stored ∈ shared.logs, stored.xmin ≠ some call

structure Outside (call : CallId) (shared : Shared) : Prop where
  lock : shared.lock ≠ some call
  unwritten : Unwritten call shared

structure Inside (call : CallId) (shared : Shared) : Prop where
  lock : shared.lock = some call
  unwritten : Unwritten call shared

/-- The rows that the calls committed: none, or one administrator and its log row. -/
inductive Tables (shared : Shared) : Prop
  | empty : shared.admins = [] → (shared.logs.filter fun stored => stored.xmin.isSome) = [] → Tables shared
  | one (call : CallId) (row : AdminRow) : shared.admins = [⟨some call, row⟩] →
      (shared.logs.filter fun stored => stored.xmin.isSome) = [⟨some call, createdLog row.id⟩] → Tables shared

/-- A call that reports its failure, once its `ROLLBACK` is dealt with. -/
inductive Trailing : Point → Bool → Prop
  | undoing : Trailing (.awaiting .rollback) true
  | releasing : Trailing (.releasing (.threw .failed)) true
  | ended : Trailing (.ended (.threw .failed)) false

inductive Reporting (ending : Ending) : Point → Bool → Prop
  | releasing : Reporting ending (.releasing ending) true
  | ended : Reporting ending (.ended ending) false

inductive Settled (call : CallId) (shared : Shared) : Ending → Prop
  | created (row : AdminRow) : shared.lock ≠ some call → ⟨some call, row⟩ ∈ shared.admins →
      Settled call shared (.created row.id row.username)
  | existing : Outside call shared → Settled call shared (.threw .alreadyInitialized)

/-- The connection of a call that failed. The server may yet complete the `COMMIT` of a lost one. -/
inductive Failed (call : CallId) (shared : Shared) : Session → Prop
  | undone : Outside call shared → Failed call shared .idle
  | lost : Unwritten call shared → Failed call shared (.broken none)
  | unsure (row : AdminRow) : Inside call shared → shared.admins = [] →
      Failed call shared (.broken (some ⟨[row], [createdLog row.id]⟩))
  | closed : Outside call shared → Failed call shared .closed
  | written (row : AdminRow) : shared.lock ≠ some call → ⟨some call, row⟩ ∈ shared.admins →
      Failed call shared .closed

/-- Where a call is that has lost its connection and does not know it. -/
inductive Unaware : Point → Prop
  | hashing (valid : BootstrapAdminInput) : Unaware (.hashing valid)
  | inserting (valid : BootstrapAdminInput) (passwordHash : String) :
      Unaware (.awaiting (.insertAdmin valid passwordHash))

/-- A connection that was lost before anything was written. -/
inductive Lost (call : CallId) (shared : Shared) : Session → Prop
  | broken : Unwritten call shared → Lost call shared (.broken none)
  | closed : Outside call shared → Lost call shared .closed

/-- What is so of a call, its connection and the tables, wherever the call is. -/
inductive Fits (input : BootstrapAdminInput) (call : CallId) (shared : Shared) : Caller → Prop
  | starting : Outside call shared → Fits input call shared ⟨.starting input, .idle, false⟩
  | invalid (error : BootstrapAdminError) : validateBootstrapAdminInput input = .error error → Outside call shared →
      Fits input call shared ⟨.ended (.threw error), .idle, false⟩
  | connecting (valid : BootstrapAdminInput) : Outside call shared →
      Fits input call shared ⟨.connecting valid, .idle, false⟩
  | unconnected : Outside call shared → Fits input call shared ⟨.ended .unconnected, .idle, false⟩
  | beginning (valid : BootstrapAdminInput) : Outside call shared →
      Fits input call shared ⟨.awaiting (.begin valid), .idle, true⟩
  | locking (valid : BootstrapAdminInput) : Outside call shared →
      Fits input call shared ⟨.awaiting (.lock valid), .active ⟨[], []⟩, true⟩
  | selecting (valid : BootstrapAdminInput) : Inside call shared →
      Fits input call shared ⟨.awaiting (.select valid), .active ⟨[], []⟩, true⟩
  | refusing : Inside call shared → Fits input call shared ⟨.awaiting .rollbackExisting, .active ⟨[], []⟩, true⟩
  | hashing (valid : BootstrapAdminInput) : Inside call shared → shared.admins = [] →
      Fits input call shared ⟨.hashing valid, .active ⟨[], []⟩, true⟩
  | inserting (valid : BootstrapAdminInput) (passwordHash : String) : Inside call shared → shared.admins = [] →
      Fits input call shared ⟨.awaiting (.insertAdmin valid passwordHash), .active ⟨[], []⟩, true⟩
  | logging (row : AdminRow) : Inside call shared → shared.admins = [] →
      Fits input call shared ⟨.awaiting (.insertLog row.id row.username), .active ⟨[row], []⟩, true⟩
  | committing (row : AdminRow) : Inside call shared → shared.admins = [] →
      Fits input call shared ⟨.awaiting (.commit row.id row.username), .active ⟨[row], [createdLog row.id]⟩, true⟩
  | adrift {point : Point} {session : Session} : Unaware point → Lost call shared session →
      Fits input call shared ⟨point, session, true⟩
  | settled {ending : Ending} {point : Point} {client : Bool} : Reporting ending point client →
      Settled call shared ending →
      Fits input call shared ⟨point, .idle, client⟩
  | undoing (work : Work) : Unwritten call shared → Fits input call shared ⟨.awaiting .rollback, .active work, true⟩
  | aborted : Unwritten call shared → Fits input call shared ⟨.awaiting .rollback, .aborted, true⟩
  | failed {point : Point} {client : Bool} {session : Session} : Trailing point client → Failed call shared session →
      Fits input call shared ⟨point, session, client⟩

structure Apart (other : CallId) (shared next : Shared) : Prop where
  lock : next.lock = some other ↔ shared.lock = some other
  unwritten : Unwritten other shared → Unwritten other next
  kept : ∀ stored ∈ shared.admins, stored ∈ next.admins
  empty : shared.lock = some other → shared.admins = [] → next.admins = []

variable {input : BootstrapAdminInput} {call other : CallId} {shared next : Shared} {caller : Caller}

theorem Outside.apart (outside : Outside other shared) (apart : Apart other shared next) : Outside other next :=
  ⟨fun held => outside.lock (apart.lock.mp held), apart.unwritten outside.unwritten⟩

theorem Inside.apart (inside : Inside other shared) (apart : Apart other shared next) : Inside other next :=
  ⟨apart.lock.mpr inside.lock, apart.unwritten inside.unwritten⟩

theorem Settled.apart {ending : Ending} (settled : Settled other shared ending) (apart : Apart other shared next) :
    Settled other next ending := by
  cases settled with
  | created row unheld member => exact .created row (fun held => unheld (apart.lock.mp held)) (apart.kept _ member)
  | existing outside => exact .existing (outside.apart apart)

theorem Failed.apart {session : Session} (failed : Failed other shared session) (apart : Apart other shared next) :
    Failed other next session := by
  cases failed with
  | undone outside => exact .undone (outside.apart apart)
  | lost unwritten => exact .lost (apart.unwritten unwritten)
  | unsure row inside none => exact .unsure row (inside.apart apart) (apart.empty inside.lock none)
  | closed outside => exact .closed (outside.apart apart)
  | written row unheld member => exact .written row (fun held => unheld (apart.lock.mp held)) (apart.kept _ member)

theorem Lost.apart {session : Session} (lost : Lost other shared session) (apart : Apart other shared next) :
    Lost other next session := by
  cases lost with
  | broken unwritten => exact .broken (apart.unwritten unwritten)
  | closed outside => exact .closed (outside.apart apart)

theorem Lost.failed {session : Session} (lost : Lost call shared session) : Failed call shared session := by
  cases lost with
  | broken unwritten => exact .lost unwritten
  | closed outside => exact .closed outside

theorem Fits.apart (fits : Fits input other shared caller) (apart : Apart other shared next) :
    Fits input other next caller := by
  cases fits with
  | starting outside => exact .starting (outside.apart apart)
  | invalid error raised outside => exact .invalid error raised (outside.apart apart)
  | connecting valid outside => exact .connecting valid (outside.apart apart)
  | unconnected outside => exact .unconnected (outside.apart apart)
  | beginning valid outside => exact .beginning valid (outside.apart apart)
  | locking valid outside => exact .locking valid (outside.apart apart)
  | selecting valid inside => exact .selecting valid (inside.apart apart)
  | refusing inside => exact .refusing (inside.apart apart)
  | hashing valid inside none => exact .hashing valid (inside.apart apart) (apart.empty inside.lock none)
  | inserting valid hash inside none =>
      exact .inserting valid hash (inside.apart apart) (apart.empty inside.lock none)
  | logging row inside none => exact .logging row (inside.apart apart) (apart.empty inside.lock none)
  | committing row inside none => exact .committing row (inside.apart apart) (apart.empty inside.lock none)
  | adrift unaware lost => exact .adrift unaware (lost.apart apart)
  | settled reporting settled => exact .settled reporting (settled.apart apart)
  | undoing work unwritten => exact .undoing work (apart.unwritten unwritten)
  | aborted unwritten => exact .aborted (apart.unwritten unwritten)
  | failed trailing failed => exact .failed trailing (failed.apart apart)

end States

section Changes

variable {call other : CallId} {shared next : Shared}

@[simp] theorem release_admins : (shared.release call).admins = shared.admins := by
  rw [Shared.release]
  split_ifs <;> rfl

@[simp] theorem release_logs : (shared.release call).logs = shared.logs := by
  rw [Shared.release]
  split_ifs <;> rfl

theorem release_lock : (shared.release call).lock ≠ some call := by
  rw [Shared.release]
  split_ifs with held
  · exact nofun
  · exact held

theorem release_other (different : other ≠ call) : (shared.release call).lock = some other ↔
    shared.lock = some other := by
  rw [Shared.release]
  split_ifs with held
  · rw [held]
    constructor
    · intro taken
      cases taken
    · intro same
      exact absurd (Option.some.inj same).symm different
  · rfl

theorem Unwritten.release (unwritten : Unwritten other shared) : Unwritten other (shared.release call) := by
  constructor
  · rw [release_admins]
    exact unwritten.admins
  · rw [release_logs]
    exact unwritten.logs

theorem Unwritten.outside (unwritten : Unwritten call shared) : Outside call (shared.release call) :=
  ⟨release_lock, unwritten.release⟩

theorem Tables.release (tables : Tables shared) : Tables (shared.release call) := by
  cases tables with
  | empty admins logs => exact .empty (by rw [release_admins, admins]) (by rw [release_logs, logs])
  | one writer row admins logs => exact .one writer row (by rw [release_admins, admins]) (by rw [release_logs, logs])

theorem apart_refl : Apart other shared shared := ⟨Iff.rfl, id, fun _ => id, fun _ => id⟩

theorem apart_sequence (sequence : Nat) : Apart other shared { shared with sequence := sequence } :=
  ⟨Iff.rfl, fun unwritten => ⟨unwritten.admins, unwritten.logs⟩, fun _ => id, fun _ => id⟩

theorem apart_lock (different : other ≠ call) (free : shared.lock = none ∨ shared.lock = some call) :
    Apart other shared { shared with lock := some call } := by
  refine ⟨?_, fun unwritten => ⟨unwritten.admins, unwritten.logs⟩, fun _ => id, fun _ => id⟩
  constructor
  · intro taken
    exact absurd (Option.some.inj taken).symm different
  · intro held
    cases free with
    | inl unheld =>
        rw [unheld] at held
        cases held
    | inr mine =>
        rw [mine] at held
        exact absurd (Option.some.inj held).symm different

theorem apart_release (different : other ≠ call) : Apart other shared (shared.release call) where
  lock := release_other different
  unwritten := Unwritten.release
  kept := by
    rw [release_admins]
    exact fun _ => id
  empty := by
    rw [release_admins]
    exact fun _ => id

theorem commit_admins (work : Work) :
    (shared.commit call work).admins = shared.admins ++ work.admins.map (⟨some call, ·⟩) := release_admins

theorem commit_logs (work : Work) :
    (shared.commit call work).logs = shared.logs ++ work.logs.map (⟨some call, ·⟩) := release_logs

/-- Nobody but the holder of the lock relies on there being no administrator. -/
theorem apart_commit (different : other ≠ call) (held : shared.lock = some call) (work : Work) :
    Apart other shared (shared.commit call work) where
  lock := release_other different
  unwritten := by
    intro unwritten
    constructor
    · intro stored member
      rw [commit_admins, List.mem_append] at member
      cases member with
      | inl before => exact unwritten.admins stored before
      | inr added =>
          obtain ⟨row, -, same⟩ := List.mem_map.mp added
          rw [← same]
          exact fun mine => different (Option.some.inj mine).symm
    · intro stored member
      rw [commit_logs, List.mem_append] at member
      cases member with
      | inl before => exact unwritten.logs stored before
      | inr added =>
          obtain ⟨row, -, same⟩ := List.mem_map.mp added
          rw [← same]
          exact fun mine => different (Option.some.inj mine).symm
  kept := by
    intro stored member
    rw [commit_admins]
    exact List.mem_append_left _ member
  empty := by
    intro mine
    rw [held] at mine
    exact absurd (Option.some.inj mine).symm different

theorem apart_logged (row : LogRow) : Apart other shared { shared with logs := shared.logs ++ [⟨none, row⟩] } where
  lock := Iff.rfl
  unwritten := by
    intro unwritten
    refine ⟨unwritten.admins, ?_⟩
    intro stored member
    cases List.mem_append.mp member with
    | inl before => exact unwritten.logs stored before
    | inr added =>
        rw [List.mem_singleton.mp added]
        exact nofun
  kept := fun _ => id
  empty := fun _ => id

structure Grows (shared next : Shared) : Prop where
  admins : shared.admins <+: next.admins
  logs : shared.logs <+: next.logs

theorem grows_refl : Grows shared shared := ⟨List.prefix_rfl, List.prefix_rfl⟩

theorem grows_release : Grows shared (shared.release call) :=
  ⟨⟨[], by rw [List.append_nil, release_admins]⟩, ⟨[], by rw [List.append_nil, release_logs]⟩⟩

theorem grows_commit (work : Work) : Grows shared (shared.commit call work) := by
  constructor
  · rw [commit_admins]
    exact List.prefix_append _ _
  · rw [commit_logs]
    exact List.prefix_append _ _

theorem Tables.logged (tables : Tables shared) (row : LogRow) :
    Tables { shared with logs := shared.logs ++ [⟨none, row⟩] } := by
  have same : ((shared.logs ++ [(⟨none, row⟩ : Stored LogRow)]).filter fun stored => stored.xmin.isSome) =
      shared.logs.filter fun stored => stored.xmin.isSome := by
    rw [List.filter_append]
    exact List.append_nil _
  cases tables with
  | empty admins logs => exact .empty admins (same.trans logs)
  | one writer stored admins logs => exact .one writer stored admins (same.trans logs)

theorem Tables.commit (tables : Tables shared) (none : shared.admins = []) (row : AdminRow) :
    Tables (shared.commit call ⟨[row], [createdLog row.id]⟩) := by
  cases tables with
  | empty admins logs =>
      refine .one call row ?_ ?_
      · rw [commit_admins, admins]
        rfl
      · rw [commit_logs, List.filter_append, logs]
        rfl
  | one writer stored admins logs =>
      rw [none] at admins
      cases admins

end Changes

section Actions

variable {input : BootstrapAdminInput} {call : CallId} {shared next : Shared} {caller after : Caller}

/-- What a call's action leaves behind: the call and the tables fit, and the others do not notice. -/
structure Kept (input : BootstrapAdminInput) (call : CallId) (shared next : Shared) (after : Caller) : Prop where
  fits : Fits input call next after
  tables : Tables next
  others : ∀ other, other ≠ call → Apart other shared next
  grows : Grows shared next

theorem kept_same (tables : Tables shared) (fits : Fits input call shared after) :
    Kept input call shared shared after :=
  ⟨fits, tables, fun _ _ => apart_refl, grows_refl⟩

theorem kept_release (tables : Tables shared) (fits : Fits input call (shared.release call) after) :
    Kept input call shared (shared.release call) after :=
  ⟨fits, tables.release, fun _ => apart_release, grows_release⟩

theorem kept_commit (tables : Tables shared) (inside : Inside call shared) (none : shared.admins = [])
    (row : AdminRow)
    (fits : (shared.commit call ⟨[row], [createdLog row.id]⟩).lock ≠ some call →
      ⟨some call, row⟩ ∈ (shared.commit call ⟨[row], [createdLog row.id]⟩).admins →
      Fits input call (shared.commit call ⟨[row], [createdLog row.id]⟩) after) :
    Kept input call shared (shared.commit call ⟨[row], [createdLog row.id]⟩) after := by
  refine ⟨fits release_lock ?_, tables.commit none row, fun _ different => apart_commit different inside.lock _,
    grows_commit _⟩
  rw [commit_admins]
  exact List.mem_append_right _ (List.mem_singleton_self _)

theorem kept_start (fits : Fits input call shared caller) (tables : Tables shared)
    (moved : act call shared caller .start = some (next, after)) : Kept input call shared next after := by
  cases fits with
  | starting outside =>
      simp only [act] at moved
      split at moved
      · cases moved
        exact kept_same tables (.connecting _ outside)
      · rename_i error raised
        cases moved
        exact kept_same tables (.invalid error raised outside)
  | adrift unaware => cases unaware <;> cases moved
  | settled reporting => cases reporting <;> cases moved
  | failed trailing => cases trailing <;> cases moved
  | _ => cases moved

theorem kept_connected (fits : Fits input call shared caller) (tables : Tables shared)
    (moved : act call shared caller .connected = some (next, after)) : Kept input call shared next after := by
  cases fits with
  | connecting valid outside =>
      cases moved
      exact kept_same tables (.beginning valid outside)
  | adrift unaware => cases unaware <;> cases moved
  | settled reporting => cases reporting <;> cases moved
  | failed trailing => cases trailing <;> cases moved
  | _ => cases moved

theorem kept_unconnected (fits : Fits input call shared caller) (tables : Tables shared)
    (moved : act call shared caller .unconnected = some (next, after)) : Kept input call shared next after := by
  cases fits with
  | connecting valid outside =>
      cases moved
      exact kept_same tables (.unconnected outside)
  | adrift unaware => cases unaware <;> cases moved
  | settled reporting => cases reporting <;> cases moved
  | failed trailing => cases trailing <;> cases moved
  | _ => cases moved

theorem kept_answered {id : Nat} (fits : Fits input call shared caller) (tables : Tables shared)
    (moved : act call shared caller (.answered id) = some (next, after)) : Kept input call shared next after := by
  cases fits with
  | beginning valid outside =>
      cases moved
      exact kept_same tables (.locking valid outside)
  | locking valid outside =>
      simp only [act, execute] at moved
      split_ifs at moved with free
      swap
      · cases moved
      cases moved
      refine ⟨.selecting valid ⟨rfl, outside.unwritten.admins, outside.unwritten.logs⟩, ?_, fun _ different =>
        apart_lock different free, List.prefix_rfl, List.prefix_rfl⟩
      cases tables with
      | empty admins logs => exact .empty admins logs
      | one writer row admins logs => exact .one writer row admins logs
  | selecting valid inside =>
      cases moved
      apply kept_same tables
      simp only [answered]
      split_ifs with existing
      · exact .refusing inside
      · refine .hashing valid inside ?_
        cases shape : shared.admins with
        | nil => rfl
        | cons first rest =>
            rw [shape] at existing
            exact absurd Nat.one_pos existing
  | refusing inside =>
      cases moved
      exact kept_release tables (.settled .releasing (.existing inside.unwritten.outside))
  | inserting valid hash inside none =>
      simp only [act, execute] at moved
      split_ifs at moved
      swap
      · cases moved
      cases moved
      refine ⟨.logging ⟨id, valid.username, hash, valid.fullName⟩
        ⟨inside.lock, inside.unwritten.admins, inside.unwritten.logs⟩ none, ?_, fun _ _ =>
        apart_sequence _, List.prefix_rfl, List.prefix_rfl⟩
      cases tables with
      | empty admins logs => exact .empty admins logs
      | one writer row admins logs => exact .one writer row admins logs
  | logging row inside none =>
      cases moved
      exact kept_same tables (.committing row inside none)
  | committing row inside none =>
      cases moved
      exact kept_commit tables inside none row fun unheld member => .settled .releasing (.created row unheld member)
  | undoing work unwritten =>
      cases moved
      exact kept_release tables (.failed .releasing (.undone unwritten.outside))
  | aborted unwritten =>
      cases moved
      exact kept_release tables (.failed .releasing (.undone unwritten.outside))
  | failed trailing failed =>
      cases failed with
      | undone outside =>
          cases trailing <;> cases moved
          exact kept_same tables (.failed .releasing (.undone outside))
      | _ => cases trailing <;> cases moved
  | adrift unaware lost => cases unaware <;> cases lost <;> cases moved
  | settled reporting => cases reporting <;> cases moved
  | _ => cases moved

theorem kept_refused (fits : Fits input call shared caller) (tables : Tables shared)
    (moved : act call shared caller .refused = some (next, after)) : Kept input call shared next after := by
  cases fits with
  | beginning valid outside =>
      cases moved
      exact kept_same tables (.failed .releasing (.undone outside))
  | locking valid outside =>
      cases moved
      exact kept_same tables (.aborted outside.unwritten)
  | selecting valid inside =>
      cases moved
      exact kept_same tables (.aborted inside.unwritten)
  | inserting valid hash inside =>
      cases moved
      exact kept_same tables (.aborted inside.unwritten)
  | logging row inside =>
      cases moved
      exact kept_same tables (.aborted inside.unwritten)
  | committing row inside =>
      cases moved
      exact kept_release tables (.failed .undoing (.undone inside.unwritten.outside))
  | adrift unaware lost => cases unaware <;> cases lost <;> cases moved
  | settled reporting => cases reporting <;> cases moved
  | failed trailing => cases trailing <;> cases moved
  | _ => cases moved

theorem kept_cut {statement : Statement} (fits : Fits input call shared caller) (tables : Tables shared)
    (moved : act call shared caller (.cut statement) = some (next, after)) : Kept input call shared next after := by
  simp only [act] at moved
  split_ifs at moved with here
  cases fits with
  | beginning valid outside =>
      cases here
      cases moved
      exact kept_same tables (.failed .releasing (.lost outside.unwritten))
  | locking valid outside =>
      cases here
      cases moved
      exact kept_same tables (.failed .undoing (.lost outside.unwritten))
  | selecting valid inside =>
      cases here
      cases moved
      exact kept_same tables (.failed .undoing (.lost inside.unwritten))
  | refusing inside =>
      cases here
      cases moved
      exact kept_same tables (.failed .undoing (.lost inside.unwritten))
  | inserting valid hash inside =>
      cases here
      cases moved
      exact kept_same tables (.failed .undoing (.lost inside.unwritten))
  | logging row inside =>
      cases here
      cases moved
      exact kept_same tables (.failed .undoing (.lost inside.unwritten))
  | committing row inside none =>
      cases here
      cases moved
      exact kept_same tables (.failed .undoing (.unsure row inside none))
  | undoing work unwritten =>
      cases here
      cases moved
      exact kept_same tables (.failed .releasing (.lost unwritten))
  | aborted unwritten =>
      cases here
      cases moved
      exact kept_same tables (.failed .releasing (.lost unwritten))
  | adrift unaware lost =>
      cases unaware <;> cases here
      cases lost <;> cases moved
  | settled reporting => cases reporting <;> cases here
  | failed trailing failed =>
      cases failed with
      | undone outside =>
          cases trailing <;> cases here
          cases moved
          exact kept_same tables (.failed .releasing (.lost outside.unwritten))
      | _ =>
          cases trailing <;> cases here
          cases moved
  | _ => cases here

theorem kept_dropped (fits : Fits input call shared caller) (tables : Tables shared)
    (moved : act call shared caller .dropped = some (next, after)) : Kept input call shared next after := by
  cases fits with
  | hashing valid inside none =>
      cases moved
      exact kept_same tables (.adrift (.hashing valid) (.broken inside.unwritten))
  | adrift unaware lost => cases unaware <;> cases lost <;> cases moved
  | settled reporting => cases reporting <;> cases moved
  | failed trailing => cases trailing <;> cases moved
  | _ => cases moved

theorem kept_unqueryable (fits : Fits input call shared caller) (tables : Tables shared)
    (moved : act call shared caller .unqueryable = some (next, after)) : Kept input call shared next after := by
  cases fits with
  | @failed _ _ session trailing failed =>
      cases trailing with
      | undoing =>
          have same : next = shared ∧ after = ⟨.releasing (.threw .failed), session, true⟩ := by
            cases failed <;> cases moved <;> exact ⟨rfl, rfl⟩
          rw [same.1, same.2]
          exact kept_same tables (.failed .releasing failed)
      | _ => cases moved
  | @adrift _ session unaware lost =>
      cases unaware with
      | hashing => cases moved
      | inserting valid hash =>
          have same : next = shared ∧ after = ⟨.awaiting .rollback, session, true⟩ := by
            cases lost <;> cases moved <;> exact ⟨rfl, rfl⟩
          rw [same.1, same.2]
          exact kept_same tables (.failed .undoing lost.failed)
  | settled reporting => cases reporting <;> cases moved
  | _ => cases moved

theorem kept_reaped {completes : Bool} (fits : Fits input call shared caller) (tables : Tables shared)
    (moved : act call shared caller (.reaped completes) = some (next, after)) :
      Kept input call shared next after := by
  cases fits with
  | adrift unaware lost =>
      cases lost with
      | broken unwritten =>
          cases moved
          exact kept_release tables (.adrift unaware (.closed unwritten.outside))
      | closed => cases moved
  | failed trailing failed =>
      cases failed with
      | lost unwritten =>
          cases moved
          exact kept_release tables (.failed trailing (.closed unwritten.outside))
      | unsure row inside none =>
          cases completes with
          | true =>
              cases moved
              exact kept_commit tables inside none row fun unheld member =>
                .failed trailing (.written row unheld member)
          | false =>
              cases moved
              exact kept_release tables (.failed trailing (.closed inside.unwritten.outside))
      | _ => cases moved
  | _ => cases moved

theorem kept_hashed {passwordHash : String} (fits : Fits input call shared caller) (tables : Tables shared)
    (moved : act call shared caller (.hashed passwordHash) = some (next, after)) :
      Kept input call shared next after := by
  cases fits with
  | hashing valid inside none =>
      cases moved
      exact kept_same tables (.inserting valid passwordHash inside none)
  | adrift unaware lost =>
      cases unaware <;> cases moved
      exact kept_same tables (.adrift (.inserting _ _) lost)
  | settled reporting => cases reporting <;> cases moved
  | failed trailing => cases trailing <;> cases moved
  | _ => cases moved

theorem kept_unhashed (fits : Fits input call shared caller) (tables : Tables shared)
    (moved : act call shared caller .unhashed = some (next, after)) : Kept input call shared next after := by
  cases fits with
  | hashing valid inside none =>
      cases moved
      exact kept_same tables (.undoing _ inside.unwritten)
  | adrift unaware lost =>
      cases unaware <;> cases moved
      exact kept_same tables (.failed .undoing lost.failed)
  | settled reporting => cases reporting <;> cases moved
  | failed trailing => cases trailing <;> cases moved
  | _ => cases moved

theorem kept_released (fits : Fits input call shared caller) (tables : Tables shared)
    (moved : act call shared caller .released = some (next, after)) : Kept input call shared next after := by
  cases fits with
  | adrift unaware => cases unaware <;> cases moved
  | settled reporting settled =>
      cases reporting <;> cases moved
      exact kept_same tables (.settled .ended settled)
  | failed trailing failed =>
      cases trailing <;> cases moved
      exact kept_same tables (.failed .ended failed)
  | _ => cases moved

theorem act_kept {action : Action} (fits : Fits input call shared caller) (tables : Tables shared)
    (moved : act call shared caller action = some (next, after)) : Kept input call shared next after := by
  cases action with
  | start => exact kept_start fits tables moved
  | connected => exact kept_connected fits tables moved
  | unconnected => exact kept_unconnected fits tables moved
  | answered id => exact kept_answered fits tables moved
  | refused => exact kept_refused fits tables moved
  | cut statement => exact kept_cut fits tables moved
  | dropped => exact kept_dropped fits tables moved
  | unqueryable => exact kept_unqueryable fits tables moved
  | reaped completes => exact kept_reaped fits tables moved
  | hashed passwordHash => exact kept_hashed fits tables moved
  | unhashed => exact kept_unhashed fits tables moved
  | released => exact kept_released fits tables moved

end Actions

section Uncertain

variable {input : BootstrapAdminInput} {call other : CallId} {shared next : Shared} {caller after : Caller}

/-- A lost connection with a `COMMIT` on its way, or one whose `COMMIT` the server completed. -/
def Uncertain (call : CallId) (shared : Shared) (caller : Caller) : Prop :=
  (∃ work, caller.session = .broken (some work)) ∨ caller.session = .closed ∧ ¬ Unwritten call shared

theorem Uncertain.before (apart : Apart other shared next) (uncertain : Uncertain other next caller) :
    Uncertain other shared caller := by
  cases uncertain with
  | inl onItsWay => exact Or.inl onItsWay
  | inr done => exact Or.inr ⟨done.1, fun unwritten => done.2 (apart.unwritten unwritten)⟩

theorem execute_live {id : Nat} {statement : Statement} {session session' : Session} {rows : List Nat}
    (ran : execute call shared id statement session = some (rows, next, session')) :
    session' = .idle ∨ ∃ work, session' = .active work := by
  unfold execute at ran
  split at ran
  case h_2 =>
    split_ifs at ran
    cases ran
    exact Or.inr ⟨_, rfl⟩
  case h_4 =>
    split_ifs at ran
    cases ran
    exact Or.inr ⟨_, rfl⟩
  all_goals first
    | cases ran
      done
    | cases ran
      exact Or.inl rfl
    | cases ran
      exact Or.inr ⟨_, rfl⟩

theorem refuse_live {statement : Statement} {session session' : Session}
    (refused : refuse call shared statement session = some (next, session')) : session' = .idle ∨
      session' = .aborted := by
  unfold refuse at refused
  split at refused
  all_goals first
    | cases refused
      done
    | cases refused
      exact Or.inl rfl
    | cases refused
      exact Or.inr rfl

/-- A call is left uncertain only where its `COMMIT` is cut off. -/
theorem Uncertain.cut {action : Action} (fits : Fits input call shared caller)
    (moved : act call shared caller action = some (next, after)) (uncertain : Uncertain call next after) :
    Uncertain call shared caller ∨ ∃ id username, action = .cut (.commit id username) := by
  have live : after.session ≠ .closed → (∀ work, after.session ≠ .broken (some work)) → False := by
    intro unclosed whole
    cases uncertain with
    | inl onItsWay =>
        obtain ⟨work, broken⟩ := onItsWay
        exact whole work broken
    | inr done => exact unclosed done.1
  cases action with
  | cut statement =>
      simp only [act] at moved
      split_ifs at moved
      obtain ⟨session, broken, same⟩ := Option.map_eq_some_iff.mp moved
      cases same
      cases statement with
      | commit id username => exact Or.inr ⟨id, username, rfl⟩
      | _ =>
          refine (live ?_ ?_).elim <;>
            (rcases caller with ⟨point, _ | _ | _ | _ | _, client⟩ <;> cases broken <;> exact nofun)
  | dropped =>
      simp only [act] at moved
      split at moved
      · obtain ⟨session, broken, same⟩ := Option.map_eq_some_iff.mp moved
        cases same
        refine (live ?_ ?_).elim <;> (rcases caller with ⟨point, _ | _ | _ | _ | _, client⟩ <;>
          cases broken <;> exact nofun)
      · cases moved
  | reaped completes =>
      obtain ⟨reaped, ended, same⟩ := Option.map_eq_some_iff.mp moved
      cases same
      cases fits with
      | adrift unaware lost =>
          cases lost with
          | broken unwritten =>
              cases ended
              cases uncertain with
              | inl onItsWay =>
                  obtain ⟨work, broken⟩ := onItsWay
                  cases broken
              | inr done => exact absurd unwritten.release done.2
          | closed => cases ended
      | failed trailing failed =>
          cases failed with
          | unsure row => exact Or.inl (Or.inl ⟨_, rfl⟩)
          | lost unwritten =>
              cases ended
              cases uncertain with
              | inl onItsWay =>
                  obtain ⟨work, broken⟩ := onItsWay
                  cases broken
              | inr done => exact absurd unwritten.release done.2
          | _ => cases ended
      | _ => cases ended
  | answered id =>
      simp only [act] at moved
      split at moved
      · obtain ⟨result, ran, same⟩ := Option.map_eq_some_iff.mp moved
        cases same
        cases execute_live ran with
        | inl idle => exact (live (by rw [idle]; exact nofun) (by rw [idle]; exact nofun)).elim
        | inr active =>
            obtain ⟨work, active⟩ := active
            exact (live (by rw [active]; exact nofun) (by rw [active]; exact nofun)).elim
      · cases moved
  | refused =>
      simp only [act] at moved
      split at moved
      · obtain ⟨result, ran, same⟩ := Option.map_eq_some_iff.mp moved
        cases same
        cases refuse_live ran with
        | inl idle => exact (live (by rw [idle]; exact nofun) (by rw [idle]; exact nofun)).elim
        | inr aborted => exact (live (by rw [aborted]; exact nofun) (by rw [aborted]; exact nofun)).elim
      · cases moved
  | start =>
      simp only [act] at moved
      split at moved
      · split at moved <;> cases moved <;> exact Or.inl uncertain
      · cases moved
  | unqueryable =>
      simp only [act] at moved
      split at moved
      · cases moved
        exact Or.inl uncertain
      · cases moved
        exact Or.inl uncertain
      · cases moved
  | _ =>
      simp only [act] at moved
      split at moved
      · cases moved
        exact Or.inl uncertain
      · cases moved

end Uncertain

end PublicLighting.Accounts
