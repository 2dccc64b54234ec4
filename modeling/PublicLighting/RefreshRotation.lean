import Mathlib.Data.List.Nodup
import Mathlib.Tactic.Common
import PublicLighting.Foundations.Runs

/-! Refresh-token rotation and logout, one database statement at a time. -/

namespace PublicLighting.RefreshRotation

open Foundations

abbrev Jti := Nat
abbrev AdminId := Nat
abbrev CallId := Nat

/-- `authConfig.refreshMaxAgeMs`. -/
def refreshMaxAgeMs : Nat := 30 * 24 * 60 * 60 * 1000

inductive TokenType
  | access
  | refresh
  deriving DecidableEq, Repr

structure AdminJwtPayload where
  sub : AdminId
  type : TokenType
  jti : Option Jti
  deriving DecidableEq, Repr

/-- The JWT library and the hash, of which the code relies on nothing here:
`verify` answers `none` when `jwt.verify` throws. -/
structure TokenService (Token Hash : Type) where
  verify : Token → Option AdminJwtPayload
  hashToken : Token → Hash
  signRefreshToken : AdminId → Jti → Token

/-- A row of `admin_refresh_sessions`. `parent` is no column: it remembers the
session whose token was rotated into this one. -/
structure RefreshSession (Hash : Type) where
  id : Jti
  adminId : AdminId
  tokenHash : Hash
  expiresAt : Nat
  revokedAt : Option Nat
  parent : Option Jti
  deriving DecidableEq, Repr

/-- Where a call stands between two of its awaited statements. -/
inductive Call (Hash : Type)
  | idle
  | selecting (jti : Jti) (tokenHash : Hash)
  | findingAdmin (jti : Jti) (adminId : AdminId)
  | revoking (jti : Jti) (adminId : AdminId)
  | storing (jti : Jti) (adminId : AdminId)
  | revokingOne (jti : Jti) (adminId : Option AdminId)
  | revokingAll (adminId : AdminId)
  | ended
  deriving DecidableEq, Repr

/-- `loggedOut` is not stored: the ids of the sessions that an admin-wide
revocation found when it ran. -/
structure State (Hash : Type) where
  now : Nat
  sessions : List (RefreshSession Hash)
  activeAdmin : AdminId → Bool
  calls : CallId → Call Hash
  loggedOut : List Jti

inductive Label (Token : Type)
  | tick
  | setActive (adminId : AdminId) (active : Bool)
  | login (adminId : AdminId) (jti : Jti)
  | refresh (call : CallId) (token : Token)
  | selectSession (call : CallId)
  | findAdmin (call : CallId)
  | revokeSession (call : CallId)
  | storeSession (call : CallId) (newJti : Jti)
  | logout (call : CallId) (token : Option Token) (adminId : Option AdminId)
  | logoutRevokeOne (call : CallId) (stored : Bool)
  | logoutRevokeAll (call : CallId)
  | crash (call : CallId)
  deriving DecidableEq, Repr

section Statements

variable {Token Hash : Type}

def State.setCall (s : State Hash) (call : CallId) (next : Call Hash) : State Hash :=
  { s with calls := Function.update s.calls call next }

@[simp] theorem setCall_sessions (s : State Hash) (call : CallId) (next : Call Hash) :
    (s.setCall call next).sessions = s.sessions := rfl

@[simp] theorem setCall_loggedOut (s : State Hash) (call : CallId) (next : Call Hash) :
    (s.setCall call next).loggedOut = s.loggedOut := rfl

@[simp] theorem setCall_calls (s : State Hash) (call : CallId) (next : Call Hash) :
    (s.setCall call next).calls = Function.update s.calls call next := rfl

/-- `SELECT id, admin_id, expires_at, revoked_at ... WHERE id = $1 AND token_hash = $2`. -/
def findSession [DecidableEq Hash] (s : State Hash) (jti : Jti) (tokenHash : Hash) : Option (RefreshSession Hash) :=
  s.sessions.find? fun session => session.id == jti && session.tokenHash == tokenHash

/-- `UPDATE admin_refresh_sessions SET revoked_at = NOW() WHERE id = $1`. -/
def revokeSession (s : State Hash) (jti : Jti) : State Hash :=
  { s with sessions := s.sessions.map fun session =>
      if session.id = jti then { session with revokedAt := some s.now } else session }

/-- `UPDATE ... SET revoked_at = NOW() WHERE admin_id = $1 AND revoked_at IS NULL`. -/
def revokeAdminSessions (s : State Hash) (adminId : AdminId) : State Hash :=
  { s with
    sessions := s.sessions.map fun session =>
      if session.adminId = adminId ∧ session.revokedAt = none then
        { session with revokedAt := some s.now } else session
    loggedOut := s.loggedOut ++
      (s.sessions.filter fun session => session.adminId == adminId).map (·.id) }

/-- The INSERT of `storeRefreshSession`; the primary key refuses a used id. -/
def storeRefreshSession (service : TokenService Token Hash) (s : State Hash) (adminId : AdminId)
    (jti : Jti) (parent : Option Jti) : Option (State Hash) :=
  if s.sessions.any (·.id == jti) then none else
    some { s with sessions := s.sessions ++
      [{ id := jti
         adminId := adminId
         tokenHash := service.hashToken (service.signRefreshToken adminId jti)
         expiresAt := s.now + refreshMaxAgeMs
         revokedAt := none
         parent := parent }] }

/-- The test of `refreshTokens` on the row it read, negated. -/
def Usable (s : State Hash) (session : RefreshSession Hash) : Prop :=
  session.revokedAt = none ∧ ¬ session.expiresAt < s.now

instance (s : State Hash) (session : RefreshSession Hash) : Decidable (Usable s session) :=
  inferInstanceAs (Decidable (_ ∧ _))

/-- One statement of one call. A branch of the source that throws ends the call. -/
def step [DecidableEq Hash] (service : TokenService Token Hash) (s : State Hash) : Label Token → Option (State Hash)
  | .tick => some { s with now := s.now + 1 }
  | .setActive adminId active =>
      some { s with activeAdmin := Function.update s.activeAdmin adminId active }
  | .login adminId jti => storeRefreshSession service s adminId jti none
  | .refresh call token =>
      match s.calls call with
      | .idle =>
          match service.verify token with
          | some ⟨_, .refresh, some jti⟩ =>
              some (s.setCall call (.selecting jti (service.hashToken token)))
          | _ => some (s.setCall call .ended)
      | _ => none
  | .selectSession call =>
      match s.calls call with
      | .selecting jti tokenHash =>
          match findSession s jti tokenHash with
          | some session =>
              if Usable s session then some (s.setCall call (.findingAdmin jti session.adminId))
              else some (s.setCall call .ended)
          | none => some (s.setCall call .ended)
      | _ => none
  | .findAdmin call =>
      match s.calls call with
      | .findingAdmin jti adminId =>
          if s.activeAdmin adminId then some (s.setCall call (.revoking jti adminId))
          else some (s.setCall call .ended)
      | _ => none
  | .revokeSession call =>
      match s.calls call with
      | .revoking jti adminId => some ((revokeSession s jti).setCall call (.storing jti adminId))
      | _ => none
  | .storeSession call newJti =>
      match s.calls call with
      | .storing jti adminId =>
          match storeRefreshSession service s adminId newJti (some jti) with
          | some stored => some (stored.setCall call .ended)
          | none => some (s.setCall call .ended)
      | _ => none
  | .logout call token adminId =>
      match s.calls call with
      | .idle =>
          match token.bind service.verify with
          | some ⟨_, _, some jti⟩ => some (s.setCall call (.revokingOne jti adminId))
          | _ =>
              match adminId with
              | some (admin + 1) => some (s.setCall call (.revokingAll (admin + 1)))
              | _ => some (s.setCall call .ended)
      | _ => none
  | .logoutRevokeOne call stored =>
      -- The surrounding `catch` swallows a failed UPDATE as well as a bad token.
      match s.calls call with
      | .revokingOne jti adminId =>
          let revoked := if stored then revokeSession s jti else s
          match adminId with
          | some (admin + 1) => some (revoked.setCall call (.revokingAll (admin + 1)))
          | _ => some (revoked.setCall call .ended)
      | _ => none
  | .logoutRevokeAll call =>
      match s.calls call with
      | .revokingAll adminId => some ((revokeAdminSessions s adminId).setCall call .ended)
      | _ => none
  | .crash call => some (s.setCall call .ended)

end Statements

/-- The session a refresh call read as valid, until its UPDATE has revoked it. -/
def Call.reading {Hash : Type} : Call Hash → Option (Jti × AdminId)
  | .findingAdmin jti adminId => some (jti, adminId)
  | .revoking jti adminId => some (jti, adminId)
  | _ => none

/-- The session a refresh call has revoked and not yet replaced. -/
def Call.replacing {Hash : Type} : Call Hash → Option (Jti × AdminId)
  | .storing jti adminId => some (jti, adminId)
  | _ => none

section Properties

variable {Token Hash : Type}

/-- The ids of `roots` and of every session rotated out of one of them. -/
inductive Descends (sessions : List (RefreshSession Hash)) (roots : List Jti) : Jti → Prop
  | root {id : Jti} : id ∈ roots → Descends sessions roots id
  | rotated {session : RefreshSession Hash} {parent : Jti} :
      session ∈ sessions → session.parent = some parent → Descends sessions roots parent →
      Descends sessions roots session.id

def successors (s : State Hash) (jti : Jti) : Nat :=
  s.sessions.countP fun session => session.parent == some jti

structure RotationSafe (s : State Hash) : Prop where
  oneSuccessor : ∀ jti, successors s jti ≤ 1
  logoutFinal : ∀ session ∈ s.sessions,
    Descends s.sessions s.loggedOut session.id → ¬ Usable s session

/-- Any stored sessions, and no call yet. -/
structure Initial (s : State Hash) : Prop where
  ids : (s.sessions.map (·.id)).Nodup
  unrelated : ∀ session ∈ s.sessions, session.parent = none
  quiet : ∀ call, s.calls call = .idle
  fresh : s.loggedOut = []

/-- The schedules without the two races: no call reads a session as valid while
another that did so has yet to revoke it, and no admin-wide revocation runs while
a refresh call of that admin is between its valid read and its INSERT. -/
def Serialized [DecidableEq Hash] (s : State Hash) : Label Token → Prop
  | .selectSession call =>
      ∀ jti tokenHash session, s.calls call = .selecting jti tokenHash →
        findSession s jti tokenHash = some session → Usable s session →
        ∀ other adminId, (s.calls other).reading ≠ some (jti, adminId)
  | .logoutRevokeAll call =>
      ∀ adminId, s.calls call = .revokingAll adminId → ∀ other jti,
        (s.calls other).reading ≠ some (jti, adminId) ∧
        (s.calls other).replacing ≠ some (jti, adminId)
  | _ => True

def Revoked (s : State Hash) (jti : Jti) : Prop :=
  ∃ session ∈ s.sessions, session.id = jti ∧ session.revokedAt ≠ none

structure Inv (s : State Hash) : Prop where
  ids : (s.sessions.map (·.id)).Nodup
  lineage : ∀ session ∈ s.sessions, ∀ parent, session.parent = some parent →
    ∃ origin ∈ s.sessions, origin.id = parent ∧ origin.adminId = session.adminId
  located : ∀ call jti adminId,
    (s.calls call).reading = some (jti, adminId) ∨ (s.calls call).replacing = some (jti, adminId) →
    ∃ origin ∈ s.sessions, origin.id = jti ∧ origin.adminId = adminId
  oneReader : ∀ call other jti a b, (s.calls call).reading = some (jti, a) →
    (s.calls other).reading = some (jti, b) → call = other
  oneReplacer : ∀ call other jti a b, (s.calls call).replacing = some (jti, a) →
    (s.calls other).replacing = some (jti, b) → call = other
  rotated : ∀ jti, (0 < successors s jti ∨ ∃ call a, (s.calls call).replacing = some (jti, a)) →
    Revoked s jti ∧ ∀ call a, (s.calls call).reading ≠ some (jti, a)
  unspent : ∀ call jti a, (s.calls call).replacing = some (jti, a) → successors s jti = 0
  oneSuccessor : ∀ jti, successors s jti ≤ 1
  revoked : ∀ jti ∈ s.loggedOut, Revoked s jti
  abandoned : ∀ jti ∈ s.loggedOut, ∀ call a,
    (s.calls call).reading ≠ some (jti, a) ∧ (s.calls call).replacing ≠ some (jti, a)
  closed : ∀ session ∈ s.sessions, ∀ parent ∈ s.loggedOut,
    session.parent = some parent → session.id ∈ s.loggedOut

theorem Initial.inv {s : State Hash} (initial : Initial s) : Inv s where
  ids := initial.ids
  lineage := by
    intro session member parent rotated
    simp [initial.unrelated session member] at rotated
  located := by simp [initial.quiet, Call.reading, Call.replacing]
  oneReader := by simp [initial.quiet, Call.reading]
  oneReplacer := by simp [initial.quiet, Call.replacing]
  rotated := by
    intro jti spent
    have none : successors s jti = 0 := by
      apply List.countP_eq_zero.mpr
      intro session member
      simp [initial.unrelated session member]
    simp [none, initial.quiet, Call.replacing] at spent
  unspent := by simp [initial.quiet, Call.replacing]
  oneSuccessor := by
    intro jti
    have none : successors s jti = 0 := by
      apply List.countP_eq_zero.mpr
      intro session member
      simp [initial.unrelated session member]
    omega
  revoked := by simp [initial.fresh]
  abandoned := by simp [initial.fresh]
  closed := by simp [initial.fresh]

/-- What every UPDATE of the table leaves alone, and that none clears `revoked_at`. -/
structure KeepsRow (f : RefreshSession Hash → RefreshSession Hash) : Prop where
  id : ∀ session, (f session).id = session.id
  adminId : ∀ session, (f session).adminId = session.adminId
  parent : ∀ session, (f session).parent = session.parent
  revoked : ∀ session, session.revokedAt ≠ none → (f session).revokedAt ≠ none

variable {s : State Hash}

theorem revoked_mapped {f : RefreshSession Hash → RefreshSession Hash} (keeps : KeepsRow f)
    {jti : Jti} (revoked : Revoked s jti) :
    Revoked { s with sessions := s.sessions.map f } jti := by
  obtain ⟨session, member, same, marked⟩ := revoked
  exact ⟨f session, List.mem_map_of_mem member, by rw [keeps.id, same], keeps.revoked _ marked⟩

theorem successors_mapped {f : RefreshSession Hash → RefreshSession Hash} (keeps : KeepsRow f)
    (jti : Jti) : successors { s with sessions := s.sessions.map f } jti = successors s jti := by
  simp only [successors, List.countP_map, Function.comp_def, keeps.parent]

theorem inv_mapped {f : RefreshSession Hash → RefreshSession Hash} (keeps : KeepsRow f)
    (inv : Inv s) : Inv { s with sessions := s.sessions.map f } where
  ids := by
    simpa only [List.map_map, Function.comp_def, keeps.id] using inv.ids
  lineage := by
    intro session member parent rotated
    obtain ⟨original, inside, rfl⟩ := List.mem_map.mp member
    rw [keeps.parent] at rotated
    obtain ⟨origin, present, same, admin⟩ := inv.lineage original inside parent rotated
    exact ⟨f origin, List.mem_map_of_mem present, by rw [keeps.id, same],
      by rw [keeps.adminId, keeps.adminId, admin]⟩
  located := by
    intro call jti adminId underway
    obtain ⟨origin, present, same, admin⟩ := inv.located call jti adminId underway
    exact ⟨f origin, List.mem_map_of_mem present, by rw [keeps.id, same],
      by rw [keeps.adminId, admin]⟩
  oneReader := inv.oneReader
  oneReplacer := inv.oneReplacer
  rotated := by
    intro jti spent
    rw [successors_mapped keeps] at spent
    exact ⟨revoked_mapped keeps (inv.rotated jti spent).1, (inv.rotated jti spent).2⟩
  unspent := by
    intro call jti a replacing
    rw [successors_mapped keeps]
    exact inv.unspent call jti a replacing
  oneSuccessor := by
    intro jti
    rw [successors_mapped keeps]
    exact inv.oneSuccessor jti
  revoked := fun jti member => revoked_mapped keeps (inv.revoked jti member)
  abandoned := inv.abandoned
  closed := by
    intro session member parent inside rotated
    obtain ⟨original, present, rfl⟩ := List.mem_map.mp member
    rw [keeps.parent] at rotated
    rw [keeps.id]
    exact inv.closed original present parent inside rotated

theorem keepsRow_revoke (jti : Jti) (now : Nat) :
    KeepsRow fun session : RefreshSession Hash =>
      if session.id = jti then { session with revokedAt := some now } else session where
  id := by intro session; split <;> rfl
  adminId := by intro session; split <;> rfl
  parent := by intro session; split <;> rfl
  revoked := by
    intro session marked
    split
    · exact Option.some_ne_none now
    · exact marked

theorem keepsRow_revokeAdmin (adminId : AdminId) (now : Nat) :
    KeepsRow fun session : RefreshSession Hash =>
      if session.adminId = adminId ∧ session.revokedAt = none then
        { session with revokedAt := some now } else session where
  id := by intro session; split <;> rfl
  adminId := by intro session; split <;> rfl
  parent := by intro session; split <;> rfl
  revoked := by
    intro session marked
    split
    · exact Option.some_ne_none now
    · exact marked

theorem inv_revokeSession (inv : Inv s) (jti : Jti) : Inv (revokeSession s jti) :=
  inv_mapped (keepsRow_revoke jti s.now) inv

theorem inv_setCall (inv : Inv s) (call : CallId) (next : Call Hash)
    (reading : next.reading = none ∨ next.reading = (s.calls call).reading)
    (replacing : next.replacing = none) : Inv (s.setCall call next) := by
  have reads : ∀ other jti a, ((s.setCall call next).calls other).reading = some (jti, a) →
      (s.calls other).reading = some (jti, a) := by
    intro other jti a found
    by_cases same : other = call
    · subst same
      simp only [setCall_calls, Function.update_self] at found
      rcases reading with stopped | kept
      · rw [stopped] at found
        cases found
      · rw [← kept, found]
    · simpa only [setCall_calls, Function.update_of_ne same] using found
  have replaces : ∀ other jti a, ((s.setCall call next).calls other).replacing = some (jti, a) →
      (s.calls other).replacing = some (jti, a) := by
    intro other jti a found
    by_cases same : other = call
    · subst same
      simp only [setCall_calls, Function.update_self, replacing] at found
      cases found
    · simpa only [setCall_calls, Function.update_of_ne same] using found
  exact {
    ids := inv.ids
    lineage := inv.lineage
    located := fun other jti a underway =>
      inv.located other jti a (underway.imp (reads other jti a) (replaces other jti a))
    oneReader := fun one other jti a b first second =>
      inv.oneReader one other jti a b (reads _ _ _ first) (reads _ _ _ second)
    oneReplacer := fun one other jti a b first second =>
      inv.oneReplacer one other jti a b (replaces _ _ _ first) (replaces _ _ _ second)
    rotated := by
      intro jti spent
      have earlier := inv.rotated jti
        (spent.imp id (fun ⟨other, a, found⟩ => ⟨other, a, replaces other jti a found⟩))
      exact ⟨earlier.1, fun other a found => earlier.2 other a (reads other jti a found)⟩
    unspent := fun other jti a found => inv.unspent other jti a (replaces other jti a found)
    oneSuccessor := inv.oneSuccessor
    revoked := inv.revoked
    abandoned := fun jti member other a =>
      ⟨fun found => (inv.abandoned jti member other a).1 (reads other jti a found),
        fun found => (inv.abandoned jti member other a).2 (replaces other jti a found)⟩
    closed := inv.closed }

theorem same_row (inv : Inv s) {first second : RefreshSession Hash} (one : first ∈ s.sessions)
    (other : second ∈ s.sessions) (same : first.id = second.id) : first = second :=
  List.inj_on_of_nodup_map inv.ids one other same

theorem update_cases (P : Call Hash → Prop) {call other : CallId} {next : Call Hash}
    (found : P ((s.setCall call next).calls other)) :
    (other = call ∧ P next) ∨ (other ≠ call ∧ P (s.calls other)) := by
  by_cases same : other = call
  · subst same
    exact .inl ⟨rfl, by simpa only [setCall_calls, Function.update_self] using found⟩
  · exact .inr ⟨same, by simpa only [setCall_calls, Function.update_of_ne same] using found⟩

theorem inv_startReading (inv : Inv s) (call : CallId) {session : RefreshSession Hash}
    (member : session ∈ s.sessions) (unrevoked : session.revokedAt = none)
    (alone : ∀ other a, (s.calls other).reading ≠ some (session.id, a)) :
    Inv (s.setCall call (.findingAdmin session.id session.adminId)) := by
  have live : ¬ Revoked s session.id := by
    rintro ⟨row, present, same, marked⟩
    exact marked (same_row inv present member same ▸ unrevoked)
  have reads : ∀ other jti a,
      ((s.setCall call (.findingAdmin session.id session.adminId)).calls other).reading =
        some (jti, a) →
      (other = call ∧ jti = session.id ∧ a = session.adminId) ∨
        (s.calls other).reading = some (jti, a) := by
    intro other jti a found
    rcases update_cases (fun next => next.reading = some (jti, a)) found with
      ⟨same, now⟩ | ⟨_, before⟩
    · simp only [Call.reading, Option.some.injEq, Prod.mk.injEq] at now
      exact .inl ⟨same, now.1.symm, now.2.symm⟩
    · exact .inr before
  have replaces : ∀ other jti a,
      ((s.setCall call (.findingAdmin session.id session.adminId)).calls other).replacing =
        some (jti, a) → (s.calls other).replacing = some (jti, a) := by
    intro other jti a found
    rcases update_cases (fun next => next.replacing = some (jti, a)) found with
      ⟨_, now⟩ | ⟨_, before⟩
    · cases now
    · exact before
  exact {
    ids := inv.ids
    lineage := inv.lineage
    located := by
      intro other jti a underway
      rcases underway with found | found
      · rcases reads other jti a found with ⟨_, rfl, rfl⟩ | before
        · exact ⟨session, member, rfl, rfl⟩
        · exact inv.located other jti a (.inl before)
      · exact inv.located other jti a (.inr (replaces other jti a found))
    oneReader := by
      intro one other jti a b first second
      rcases reads one jti a first with ⟨rfl, rfl, _⟩ | earlier
      · rcases reads other _ b second with ⟨rfl, _, _⟩ | before
        · rfl
        · exact absurd before (alone other b)
      · rcases reads other jti b second with ⟨_, rfl, _⟩ | before
        · exact absurd earlier (alone one a)
        · exact inv.oneReader one other jti a b earlier before
    oneReplacer := fun one other jti a b first second =>
      inv.oneReplacer one other jti a b (replaces _ _ _ first) (replaces _ _ _ second)
    rotated := by
      intro jti spent
      have earlier := inv.rotated jti
        (spent.imp id (fun ⟨other, a, found⟩ => ⟨other, a, replaces other jti a found⟩))
      refine ⟨earlier.1, fun other a found => ?_⟩
      rcases reads other jti a found with ⟨_, rfl, _⟩ | before
      · exact live earlier.1
      · exact earlier.2 other a before
    unspent := fun other jti a found => inv.unspent other jti a (replaces other jti a found)
    oneSuccessor := inv.oneSuccessor
    revoked := inv.revoked
    abandoned := by
      intro jti gone other a
      refine ⟨fun found => ?_, fun found =>
        (inv.abandoned jti gone other a).2 (replaces other jti a found)⟩
      rcases reads other jti a found with ⟨_, rfl, _⟩ | before
      · exact live (inv.revoked _ gone)
      · exact (inv.abandoned jti gone other a).1 before
    closed := inv.closed }

theorem inv_startReplacing (inv : Inv s) (call : CallId) {jti : Jti} {adminId : AdminId}
    (reading : (s.calls call).reading = some (jti, adminId)) (revoked : Revoked s jti) :
    Inv (s.setCall call (.storing jti adminId)) := by
  have fresh : successors s jti = 0 ∧ ∀ other a, (s.calls other).replacing ≠ some (jti, a) := by
    constructor
    · exact Nat.eq_zero_of_not_pos fun spent => (inv.rotated jti (.inl spent)).2 call adminId reading
    · exact fun other a found => (inv.rotated jti (.inr ⟨other, a, found⟩)).2 call adminId reading
  have reads : ∀ other id a,
      ((s.setCall call (.storing jti adminId)).calls other).reading = some (id, a) →
      other ≠ call ∧ (s.calls other).reading = some (id, a) := by
    intro other id a found
    rcases update_cases (fun next => next.reading = some (id, a)) found with
      ⟨_, now⟩ | before
    · cases now
    · exact before
  have replaces : ∀ other id a,
      ((s.setCall call (.storing jti adminId)).calls other).replacing = some (id, a) →
      (other = call ∧ id = jti ∧ a = adminId) ∨ (s.calls other).replacing = some (id, a) := by
    intro other id a found
    rcases update_cases (fun next => next.replacing = some (id, a)) found with
      ⟨same, now⟩ | ⟨_, before⟩
    · simp only [Call.replacing, Option.some.injEq, Prod.mk.injEq] at now
      exact .inl ⟨same, now.1.symm, now.2.symm⟩
    · exact .inr before
  have unread : ∀ other a,
      ((s.setCall call (.storing jti adminId)).calls other).reading ≠ some (jti, a) := by
    intro other a found
    obtain ⟨different, before⟩ := reads other jti a found
    exact different (inv.oneReader other call jti a adminId before reading)
  exact {
    ids := inv.ids
    lineage := inv.lineage
    located := by
      intro other id a underway
      rcases underway with found | found
      · exact inv.located other id a (.inl (reads other id a found).2)
      · rcases replaces other id a found with ⟨_, rfl, rfl⟩ | before
        · exact inv.located call _ _ (.inl reading)
        · exact inv.located other id a (.inr before)
    oneReader := fun one other id a b first second =>
      inv.oneReader one other id a b (reads _ _ _ first).2 (reads _ _ _ second).2
    oneReplacer := by
      intro one other id a b first second
      rcases replaces one id a first with ⟨rfl, rfl, _⟩ | earlier
      · rcases replaces other _ b second with ⟨rfl, _, _⟩ | before
        · rfl
        · exact absurd before (fresh.2 other b)
      · rcases replaces other id b second with ⟨_, rfl, _⟩ | before
        · exact absurd earlier (fresh.2 one a)
        · exact inv.oneReplacer one other id a b earlier before
    rotated := by
      intro id spent
      by_cases same : id = jti
      · subst same
        exact ⟨revoked, unread⟩
      · have before : 0 < successors s id ∨ ∃ other a, (s.calls other).replacing = some (id, a) := by
          refine spent.imp (fun positive => positive) (fun ⟨other, a, found⟩ => ?_)
          rcases replaces other id a found with ⟨_, now, _⟩ | before
          · exact absurd now same
          · exact ⟨other, a, before⟩
        have earlier := inv.rotated id before
        exact ⟨earlier.1, fun other a found => earlier.2 other a (reads other id a found).2⟩
    unspent := by
      intro other id a found
      rcases replaces other id a found with ⟨_, rfl, _⟩ | before
      · exact fresh.1
      · exact inv.unspent other id a before
    oneSuccessor := inv.oneSuccessor
    revoked := inv.revoked
    abandoned := by
      intro id gone other a
      refine ⟨fun found => (inv.abandoned id gone other a).1 (reads other id a found).2,
        fun found => ?_⟩
      rcases replaces other id a found with ⟨_, rfl, _⟩ | before
      · exact (inv.abandoned id gone call adminId).1 reading
      · exact (inv.abandoned id gone other a).2 before
    closed := inv.closed }

theorem successors_insert (added : RefreshSession Hash) (jti : Jti) :
    successors { s with sessions := s.sessions ++ [added] } jti =
      successors s jti + if added.parent = some jti then 1 else 0 := by
  simp [successors, List.countP_append, List.countP_singleton]

theorem revoked_insert (added : RefreshSession Hash) {jti : Jti} (revoked : Revoked s jti) :
    Revoked { s with sessions := s.sessions ++ [added] } jti := by
  obtain ⟨session, member, facts⟩ := revoked
  exact ⟨session, List.mem_append_left _ member, facts⟩

/-- A row under an unused id, of a revoked session that has no successor yet and
that no call reads or replaces, if of any. -/
theorem inv_insert (inv : Inv s) (added : RefreshSession Hash)
    (fresh : ∀ session ∈ s.sessions, session.id ≠ added.id)
    (origin : ∀ parent, added.parent = some parent →
      Revoked s parent ∧ successors s parent = 0 ∧ parent ∉ s.loggedOut ∧
      (∃ row ∈ s.sessions, row.id = parent ∧ row.adminId = added.adminId) ∧
      ∀ call a, (s.calls call).reading ≠ some (parent, a) ∧
        (s.calls call).replacing ≠ some (parent, a)) :
    Inv { s with sessions := s.sessions ++ [added] } where
  ids := by
    rw [List.map_append, List.nodup_append]
    refine ⟨inv.ids, by simp, ?_⟩
    intro id member other present
    obtain ⟨session, inside, rfl⟩ := List.mem_map.mp member
    simp only [List.map_cons, List.map_nil, List.mem_singleton] at present
    subst present
    exact fresh session inside
  lineage := by
    intro session member parent rotated
    rcases List.mem_append.mp member with old | new
    · obtain ⟨row, present, facts⟩ := inv.lineage session old parent rotated
      exact ⟨row, List.mem_append_left _ present, facts⟩
    · cases List.mem_singleton.mp new
      obtain ⟨row, present, facts⟩ := (origin parent rotated).2.2.2.1
      exact ⟨row, List.mem_append_left _ present, facts⟩
  located := by
    intro call jti a underway
    obtain ⟨row, present, facts⟩ := inv.located call jti a underway
    exact ⟨row, List.mem_append_left _ present, facts⟩
  oneReader := inv.oneReader
  oneReplacer := inv.oneReplacer
  rotated := by
    intro jti spent
    rw [successors_insert] at spent
    by_cases child : added.parent = some jti
    · obtain ⟨revoked, _, _, _, quiet⟩ := origin jti child
      exact ⟨revoked_insert added revoked, fun call a => (quiet call a).1⟩
    · simp only [child, if_false, Nat.add_zero] at spent
      exact ⟨revoked_insert added (inv.rotated jti spent).1, (inv.rotated jti spent).2⟩
  unspent := by
    intro call jti a replacing
    rw [successors_insert]
    by_cases child : added.parent = some jti
    · exact absurd replacing ((origin jti child).2.2.2.2 call a).2
    · simpa only [child, if_false, Nat.add_zero] using inv.unspent call jti a replacing
  oneSuccessor := by
    intro jti
    rw [successors_insert]
    by_cases child : added.parent = some jti
    · have none := (origin jti child).2.1
      simp only [child, if_true]
      omega
    · simpa only [child, if_false, Nat.add_zero] using inv.oneSuccessor jti
  revoked := fun jti member => revoked_insert added (inv.revoked jti member)
  abandoned := inv.abandoned
  closed := by
    intro session member parent gone rotated
    rcases List.mem_append.mp member with old | new
    · exact inv.closed session old parent gone rotated
    · cases List.mem_singleton.mp new
      exact absurd gone (origin parent rotated).2.2.1

/-- After an admin's sessions are all revoked, with no refresh of that admin in
flight, nothing can be rotated out of them any more. -/
theorem inv_loggedOut (inv : Inv s) (adminId : AdminId)
    (dead : ∀ session ∈ s.sessions, session.adminId = adminId → session.revokedAt ≠ none)
    (quiet : ∀ call jti, (s.calls call).reading ≠ some (jti, adminId) ∧
      (s.calls call).replacing ≠ some (jti, adminId)) :
    Inv { s with loggedOut := s.loggedOut ++
      (s.sessions.filter fun session => session.adminId == adminId).map (·.id) } := by
  have found : ∀ jti ∈ (s.sessions.filter fun session => session.adminId == adminId).map (·.id),
      ∃ session ∈ s.sessions, session.id = jti ∧ session.adminId = adminId := by
    intro jti member
    obtain ⟨session, inside, rfl⟩ := List.mem_map.mp member
    rw [List.mem_filter] at inside
    exact ⟨session, inside.1, rfl, by simpa using inside.2⟩
  exact {
    inv with
    revoked := by
      intro jti member
      rcases List.mem_append.mp member with old | new
      · exact inv.revoked jti old
      · obtain ⟨session, inside, same, admin⟩ := found jti new
        exact ⟨session, inside, same, dead session inside admin⟩
    abandoned := by
      intro jti member call a
      rcases List.mem_append.mp member with old | new
      · exact inv.abandoned jti old call a
      · obtain ⟨session, inside, same, admin⟩ := found jti new
        have owner : ∀ b, (s.calls call).reading = some (jti, b) ∨
            (s.calls call).replacing = some (jti, b) → b = adminId := by
          intro b underway
          obtain ⟨row, present, id, owner⟩ := inv.located call jti b underway
          rw [← owner, same_row inv present inside (id.trans same.symm), admin]
        refine ⟨fun reading => ?_, fun replacing => ?_⟩
        · cases owner a (.inl reading)
          exact (quiet call jti).1 reading
        · cases owner a (.inr replacing)
          exact (quiet call jti).2 replacing
    closed := by
      intro session member parent gone rotated
      rcases List.mem_append.mp gone with old | new
      · exact List.mem_append_left _ (inv.closed session member parent old rotated)
      · apply List.mem_append_right
        obtain ⟨row, inside, same, admin⟩ := found parent new
        obtain ⟨origin, present, id, owner⟩ := inv.lineage session member parent rotated
        rw [same_row inv present inside (id.trans same.symm)] at owner
        exact List.mem_map.mpr ⟨session, List.mem_filter.mpr ⟨member, by simp [← owner, admin]⟩, rfl⟩ }

theorem inv_revokeAdminSessions (inv : Inv s) (adminId : AdminId)
    (quiet : ∀ call jti, (s.calls call).reading ≠ some (jti, adminId) ∧
      (s.calls call).replacing ≠ some (jti, adminId)) : Inv (revokeAdminSessions s adminId) := by
  have keeps := @keepsRow_revokeAdmin Hash adminId s.now
  have closed := inv_loggedOut (inv_mapped keeps inv) adminId (by
    intro session member admin
    obtain ⟨original, _, rfl⟩ := List.mem_map.mp member
    rw [keeps.adminId] at admin
    simp only [admin, true_and]
    split
    · exact Option.some_ne_none _
    · assumption) quiet
  have same : (((s.sessions.map fun session =>
      if session.adminId = adminId ∧ session.revokedAt = none then
        { session with revokedAt := some s.now } else session).filter
        fun session => session.adminId == adminId).map (·.id)) =
      (s.sessions.filter fun session => session.adminId == adminId).map (·.id) := by
    rw [List.filter_map, List.map_map]
    simp only [Function.comp_def, keeps.id, keeps.adminId]
  rw [same] at closed
  exact closed

theorem storeRefreshSession_fresh {service : TokenService Token Hash} {adminId : AdminId}
    {jti : Jti} {parent : Option Jti} {t : State Hash}
    (stored : storeRefreshSession service s adminId jti parent = some t) :
    (∀ session ∈ s.sessions, session.id ≠ jti) ∧
      t = { s with sessions := s.sessions ++
        [{ id := jti
           adminId := adminId
           tokenHash := service.hashToken (service.signRefreshToken adminId jti)
           expiresAt := s.now + refreshMaxAgeMs
           revokedAt := none
           parent := parent }] } := by
  unfold storeRefreshSession at stored
  split at stored
  · cases stored
  · rename_i fresh
    refine ⟨?_, (Option.some.inj stored).symm⟩
    simpa using fresh

theorem revokeSession_revoked {jti : Jti} (present : ∃ row ∈ s.sessions, row.id = jti) :
    Revoked (revokeSession s jti) jti := by
  obtain ⟨row, member, rfl⟩ := present
  exact ⟨_, List.mem_map_of_mem member, by simp⟩

theorem inv_storeSession (inv : Inv s) {service : TokenService Token Hash} {call : CallId}
    {jti newJti : Jti} {adminId : AdminId} {t : State Hash}
    (storing : s.calls call = .storing jti adminId)
    (stored : storeRefreshSession service s adminId newJti (some jti) = some t) :
    Inv (t.setCall call .ended) := by
  obtain ⟨fresh, rfl⟩ := storeRefreshSession_fresh stored
  have replacing : (s.calls call).replacing = some (jti, adminId) := by rw [storing, Call.replacing]
  have ended := inv_setCall inv call .ended (.inl rfl) rfl
  have rotated := inv.rotated jti (.inr ⟨call, adminId, replacing⟩)
  refine inv_insert ended
    { id := newJti
      adminId := adminId
      tokenHash := service.hashToken (service.signRefreshToken adminId newJti)
      expiresAt := s.now + refreshMaxAgeMs
      revokedAt := none
      parent := some jti } fresh ?_
  intro parent child
  cases child
  refine ⟨rotated.1, inv.unspent call jti adminId replacing, ?_,
    inv.located call jti adminId (.inr replacing), fun other a => ⟨fun found => ?_, fun found => ?_⟩⟩
  · exact fun gone => (inv.abandoned jti gone call adminId).2 replacing
  · rcases update_cases (fun next => next.reading = some (jti, a)) found with
      ⟨_, now⟩ | ⟨_, before⟩
    · cases now
    · exact rotated.2 other a before
  · rcases update_cases (fun next => next.replacing = some (jti, a)) found with
      ⟨_, now⟩ | ⟨different, before⟩
    · cases now
    · exact different (inv.oneReplacer other call jti a adminId before replacing)

theorem inv_selectSession [DecidableEq Hash] (inv : Inv s) {call : CallId} {jti : Jti}
    {tokenHash : Hash} {session : RefreshSession Hash}
    (found : findSession s jti tokenHash = some session) (usable : Usable s session)
    (alone : ∀ other a, (s.calls other).reading ≠ some (jti, a)) :
    Inv (s.setCall call (.findingAdmin jti session.adminId)) := by
  have member := List.mem_of_find?_eq_some found
  have same : session.id = jti := by
    have tested := List.find?_some found
    simp only [Bool.and_eq_true, beq_iff_eq] at tested
    exact tested.1
  subst same
  exact inv_startReading inv call member usable.1 alone

theorem inv_step [DecidableEq Hash] {service : TokenService Token Hash} {label : Label Token}
    {t : State Hash} (inv : Inv s) (serialized : Serialized s label)
    (taken : step service s label = some t) : Inv t := by
  cases label with
  | tick => cases taken; exact { inv with }
  | setActive adminId active => cases taken; exact { inv with }
  | login adminId jti =>
      obtain ⟨fresh, rfl⟩ := storeRefreshSession_fresh taken
      exact inv_insert inv _ fresh (by intro parent child; cases child)
  | refresh call token =>
      simp only [step] at taken
      split at taken <;> try contradiction
      split at taken <;> cases taken <;> exact inv_setCall inv call _ (.inl rfl) rfl
  | selectSession call =>
      simp only [step] at taken
      split at taken <;> try contradiction
      rename_i jti tokenHash selecting
      split at taken
      · rename_i session found
        split at taken <;> cases taken
        · rename_i usable
          exact inv_selectSession inv found usable
            (serialized jti tokenHash session selecting found usable)
        · exact inv_setCall inv call _ (.inl rfl) rfl
      · cases taken
        exact inv_setCall inv call _ (.inl rfl) rfl
  | findAdmin call =>
      simp only [step] at taken
      split at taken <;> try contradiction
      rename_i jti adminId finding
      split at taken <;> cases taken
      · exact inv_setCall inv call _ (.inr (by rw [finding]; rfl)) rfl
      · exact inv_setCall inv call _ (.inl rfl) rfl
  | revokeSession call =>
      simp only [step] at taken
      split at taken <;> try contradiction
      rename_i jti adminId revoking
      cases taken
      have reading : (s.calls call).reading = some (jti, adminId) := by rw [revoking, Call.reading]
      obtain ⟨origin, present, same, _⟩ := inv.located call jti adminId (.inl reading)
      exact inv_startReplacing (inv_revokeSession inv jti) call reading
        (revokeSession_revoked ⟨origin, present, same⟩)
  | storeSession call newJti =>
      simp only [step] at taken
      split at taken <;> try contradiction
      rename_i jti adminId storing
      split at taken <;> cases taken
      · exact inv_storeSession inv storing (by assumption)
      · exact inv_setCall inv call _ (.inl rfl) rfl
  | logout call token adminId =>
      simp only [step] at taken
      split at taken <;> try contradiction
      split at taken
      · cases taken
        exact inv_setCall inv call _ (.inl rfl) rfl
      · split at taken <;> cases taken <;> exact inv_setCall inv call _ (.inl rfl) rfl
  | logoutRevokeOne call stored =>
      simp only [step] at taken
      split at taken <;> try contradiction
      rename_i jti adminId revoking
      have revoked : Inv (if stored then revokeSession s jti else s) := by
        split
        · exact inv_revokeSession inv jti
        · exact inv
      split at taken <;> cases taken <;> exact inv_setCall revoked call _ (.inl rfl) rfl
  | logoutRevokeAll call =>
      simp only [step] at taken
      split at taken <;> try contradiction
      rename_i adminId revoking
      cases taken
      exact inv_setCall (inv_revokeAdminSessions inv adminId (serialized adminId revoking)) call _
        (.inl rfl) rfl
  | crash call =>
      cases taken
      exact inv_setCall inv call _ (.inl rfl) rfl

theorem Inv.safe (inv : Inv s) : RotationSafe s where
  oneSuccessor := inv.oneSuccessor
  logoutFinal := by
    have inside : ∀ id, Descends s.sessions s.loggedOut id → id ∈ s.loggedOut := by
      intro id descends
      induction descends with
      | root member => exact member
      | rotated member child _ ih => exact inv.closed _ member _ ih child
    intro session member descends usable
    obtain ⟨row, present, same, marked⟩ := inv.revoked session.id (inside _ descends)
    exact marked (same_row inv present member same ▸ usable.1)

/-- Rotation is safe on every schedule that keeps clear of the two races. -/
theorem serialized_rotation_safe [DecidableEq Hash] (service : TokenService Token Hash)
    {start t : State Hash} {labels : List (Label Token)} (initial : Initial start)
    (run : Run (Guarded Serialized fun s label t => step service s label = some t) start labels t) :
    RotationSafe t := by
  have reached : Inv t := run.invariant
    (fun _ _ _ inv taken => inv_step inv taken.1 taken.2) initial.inv
  exact reached.safe

end Properties

/-- Tokens that are their own session id and hash, all of admin 1. -/
def plainTokens : TokenService Nat Nat where
  verify := fun token => some ⟨1, .refresh, some token⟩
  hashToken := id
  signRefreshToken := fun _ jti => jti

def loggedIn : State Nat where
  now := 0
  sessions := [⟨1, 1, 1, refreshMaxAgeMs, none, none⟩]
  activeAdmin := fun _ => true
  calls := fun _ => .idle
  loggedOut := []

theorem loggedIn_initial : Initial loggedIn where
  ids := by simp [loggedIn]
  unrelated := by simp [loggedIn]
  quiet := fun _ => rfl
  fresh := rfl

def rotateThenLogout : List (Label Nat) :=
  [.refresh 0 1, .selectSession 0, .findAdmin 0, .revokeSession 0, .storeSession 0 2,
    .logout 1 none (some 1), .logoutRevokeAll 1]

/-- A rotation followed by a logout keeps clear of both races. -/
theorem rotateThenLogout_safe :
    ∃ t, Run (Guarded Serialized fun s label t => step plainTokens s label = some t)
      loggedIn rotateThenLogout t ∧ RotationSafe t := by
  have run : ∃ t, Run (Guarded Serialized fun s label t => step plainTokens s label = some t)
      loggedIn rotateThenLogout t := by
    refine ⟨_, .cons ⟨trivial, rfl⟩ (.cons ⟨?_, rfl⟩ (.cons ⟨trivial, rfl⟩ (.cons ⟨trivial, rfl⟩
      (.cons ⟨trivial, rfl⟩ (.cons ⟨trivial, rfl⟩ (.cons ⟨?_, rfl⟩ (.nil _)))))))⟩
    · intro jti _ _ _ _ _ other adminId found
      by_cases zero : other = 0 <;>
        simp [zero, Function.update, loggedIn, Call.reading, State.setCall] at found
    · intro adminId _ other jti
      by_cases zero : other = 0 <;> by_cases one : other = 1 <;>
        simp [zero, one, Function.update, loggedIn, Call.reading, Call.replacing, State.setCall,
          revokeSession]
  obtain ⟨t, run⟩ := run
  exact ⟨t, run, serialized_rotation_safe plainTokens loggedIn_initial run⟩

/-- Both calls read session 1 before either has revoked it. -/
def twoRefreshes : List (Label Nat) :=
  [.refresh 0 1, .refresh 1 1, .selectSession 0, .selectSession 1, .findAdmin 0, .findAdmin 1,
    .revokeSession 0, .revokeSession 1, .storeSession 0 2, .storeSession 1 3]

/-- The logout revokes session 1 while a refresh that read it is in flight. -/
def refreshDuringLogout : List (Label Nat) :=
  [.refresh 0 1, .selectSession 0, .logout 1 none (some 1), .logoutRevokeAll 1, .findAdmin 0,
    .revokeSession 0, .storeSession 0 2]

theorem rotation_races :
    Initial loggedIn ∧
    (∃ t, Run (fun s label t => step plainTokens s label = some t) loggedIn twoRefreshes t ∧
      successors t 1 = 2 ∧ ¬ RotationSafe t) ∧
    ∃ t, Run (fun s label t => step plainTokens s label = some t) loggedIn refreshDuringLogout t ∧
      1 ∈ t.loggedOut ∧ (∃ session ∈ t.sessions, session.parent = some 1 ∧ Usable t session) ∧
      ¬ RotationSafe t := by
  refine ⟨loggedIn_initial, ?_, ?_⟩
  · obtain ⟨t, folded, two⟩ : ∃ t, twoRefreshes.foldlM (step plainTokens) loggedIn = some t ∧
        successors t 1 = 2 := ⟨_, rfl, by decide⟩
    refine ⟨t, .of_foldlM folded, two, fun safe => ?_⟩
    have atMost := safe.oneSuccessor 1
    omega
  · obtain ⟨t, folded, out, session, member, rotated, usable⟩ :
        ∃ t, refreshDuringLogout.foldlM (step plainTokens) loggedIn = some t ∧ 1 ∈ t.loggedOut ∧
          ∃ session ∈ t.sessions, session.parent = some 1 ∧ Usable t session :=
      ⟨_, rfl, by decide, by decide⟩
    refine ⟨t, .of_foldlM folded, out, ⟨session, member, rotated, usable⟩, fun safe => ?_⟩
    exact safe.logoutFinal session member (.rotated member rotated (.root out)) usable

end PublicLighting.RefreshRotation
