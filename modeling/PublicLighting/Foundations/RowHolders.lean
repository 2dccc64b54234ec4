import PublicLighting.Foundations.RowLocks

/-! Row locks from the side of one session: what it holds, what the others leave of it, what its
commit changes, and rows that stay absent once they are. -/

namespace PublicLighting.Foundations.RowLocks

variable {Key Row Session : Type*}

def HoldsNone (rows : RowLocks Key Row Session) (session : Session) : Prop :=
  ∀ key, ∀ lock ∈ rows.locks key, lock.1 ≠ session

/-- The session has locked one row, with this version of it. -/
structure HoldsOnly (rows : RowLocks Key Row Session) (session : Session) (key : Key) (version : Row) : Prop where
  here : rows.locks key = some (session, version)
  elsewhere : ∀ other, other ≠ key → ∀ lock ∈ rows.locks other, lock.1 ≠ session

/-- Nothing happens to what a session has locked. -/
structure Spares (session : Session) (rows later : RowLocks Key Row Session) : Prop where
  locks : ∀ key version, later.locks key = some (session, version) ↔ rows.locks key = some (session, version)
  committed : ∀ key version, rows.locks key = some (session, version) → later.committed key = rows.committed key

section Spares

variable {rows later : RowLocks Key Row Session} {session other : Session} {key : Key} {version row : Row}

theorem Spares.refl (session : Session) (rows : RowLocks Key Row Session) : Spares session rows rows where
  locks := fun _ _ => Iff.rfl
  committed := fun _ _ _ => rfl

theorem Spares.holdsNone (spares : Spares session rows later) (none : rows.HoldsNone session) :
    later.HoldsNone session := by
  intro key lock held mine
  obtain ⟨holder, version⟩ := lock
  cases mine
  exact none key _ ((spares.locks key version).mp held) rfl

theorem Spares.holdsOnly (spares : Spares session rows later) (only : rows.HoldsOnly session key version) :
    later.HoldsOnly session key version where
  here := (spares.locks key version).mpr only.here
  elsewhere := by
    intro other different lock held mine
    obtain ⟨holder, found⟩ := lock
    cases mine
    exact only.elsewhere other different _ ((spares.locks other found).mp held) rfl

theorem Spares.write [DecidableEq Key] (free : rows.Free other key) (different : other ≠ session) :
    Spares session rows (rows.write other key row) where
  locks := by
    intro elsewhere version
    by_cases same : elsewhere = key
    · subst same
      rw [write_locks_self]
      constructor
      · intro held
        cases held
        exact absurd rfl different
      · intro held
        exact absurd (free _ held) different.symm
    · rw [write_locks_of_ne same]
  committed := fun _ _ _ => rfl

variable [DecidableEq Session]

theorem released_of_other (different : other ≠ session) :
    rows.released other key = some (session, version) ↔ rows.locks key = some (session, version) := by
  rw [released_eq_some]
  exact ⟨And.left, fun held => ⟨held, different.symm⟩⟩

theorem Spares.commit (different : other ≠ session) : Spares session rows (rows.commit other) where
  locks := fun _ _ => released_of_other different
  committed := by
    intro key version held
    rw [commit_committed, view_of_other held different.symm]

theorem Spares.rollback (different : other ≠ session) : Spares session rows (rows.rollback other) where
  locks := fun _ _ => released_of_other different
  committed := fun _ _ _ => rfl

end Spares

section Holders

variable {rows : RowLocks Key Row Session} {session : Session} {key : Key} {version row : Row}

theorem HoldsNone.write [DecidableEq Key] (none : rows.HoldsNone session) :
    (rows.write session key row).HoldsOnly session key row where
  here := write_locks_self
  elsewhere := by
    intro other different lock held
    rw [write_locks_of_ne different] at held
    exact none other lock held

theorem HoldsOnly.write [DecidableEq Key] (only : rows.HoldsOnly session key version) :
    (rows.write session key row).HoldsOnly session key row where
  here := write_locks_self
  elsewhere := by
    intro other different lock held
    rw [write_locks_of_ne different] at held
    exact only.elsewhere other different lock held

variable [DecidableEq Session]

theorem commit_holdsNone : (rows.commit session).HoldsNone session :=
  fun _ _ held => (released_eq_some.mp held).2

theorem rollback_holdsNone : (rows.rollback session).HoldsNone session :=
  fun _ _ held => (released_eq_some.mp held).2

theorem view_not_held (free : ∀ lock ∈ rows.locks key, lock.1 ≠ session) :
    rows.view session key = rows.committed key := by
  cases held : rows.locks key with
  | none => exact view_unlocked held
  | some lock => exact view_of_other held (free lock held)

theorem HoldsNone.commit (none : rows.HoldsNone session) : (rows.commit session).committed = rows.committed := by
  funext key
  rw [commit_committed, view_not_held (none key)]

theorem HoldsOnly.commit [DecidableEq Key] (only : rows.HoldsOnly session key version) :
    (rows.commit session).committed = Function.update rows.committed key version := by
  funext elsewhere
  rw [commit_committed]
  by_cases same : elsewhere = key
  · subst same
    rw [view_of_holder only.here, Function.update_self]
  · rw [view_not_held (only.elsewhere elsewhere same), Function.update_of_ne same]

end Holders

/-! A row that is there is absent from the commit of its deletion on: nobody can write it again. -/

section Absence

variable {Item : Type*} [DecidableEq Session]
variable {rows : RowLocks Key (Option Item) Session} {session : Session} {key elsewhere : Key} {row : Option Item}

structure Absent (rows : RowLocks Key (Option Item) Session) (key : Key) : Prop where
  committed : rows.committed key = none
  locks : ∀ lock ∈ rows.locks key, lock.2 = none

/-- The row is there, or it will never be again. -/
def Settled (rows : RowLocks Key (Option Item) Session) (key : Key) : Prop :=
  rows.committed key ≠ none ∨ rows.Absent key

theorem Absent.view (absent : rows.Absent key) : rows.view session key = none := by
  unfold RowLocks.view
  split
  · rename_i holder version held
    split
    · exact absent.locks _ held
    · exact absent.committed
  · exact absent.committed

/-- The statement rule: who sees no row writes none. -/
theorem Absent.write [DecidableEq Key] (absent : rows.Absent key)
    (unseen : elsewhere = key → rows.view session key = none → row = none) :
    (rows.write session elsewhere row).Absent key where
  committed := absent.committed
  locks := by
    intro lock held
    by_cases same : key = elsewhere
    · subst same
      rw [write_locks_self] at held
      cases held
      exact unseen rfl absent.view
    · rw [write_locks_of_ne same] at held
      exact absent.locks lock held

theorem Absent.commit (absent : rows.Absent key) : (rows.commit session).Absent key where
  committed := absent.view
  locks := fun lock held => absent.locks lock (released_eq_some.mp held).1

theorem Absent.rollback (absent : rows.Absent key) : (rows.rollback session).Absent key where
  committed := absent.committed
  locks := fun lock held => absent.locks lock (released_eq_some.mp held).1

theorem Settled.write [DecidableEq Key] (settled : rows.Settled key)
    (unseen : elsewhere = key → rows.view session key = none → row = none) :
    (rows.write session elsewhere row).Settled key :=
  settled.imp id fun absent => absent.write unseen

theorem Settled.commit (settled : rows.Settled key) : (rows.commit session).Settled key := by
  rcases settled with present | absent
  · by_cases gone : rows.view session key = none
    · refine Or.inr ⟨gone, ?_⟩
      intro lock held
      obtain ⟨before, other⟩ := released_eq_some.mp held
      rw [view_of_other before other] at gone
      exact absurd gone present
    · exact Or.inl gone
  · exact Or.inr absent.commit

theorem Settled.rollback (settled : rows.Settled key) : (rows.rollback session).Settled key :=
  settled.imp id Absent.rollback

/-- What happens to the rows in one step, where nobody writes `key` who does not see it. -/
inductive Moves [DecidableEq Key] (key : Key) (rows : RowLocks Key (Option Item) Session) :
    RowLocks Key (Option Item) Session → Prop
  | still : Moves key rows rows
  | write (session : Session) (elsewhere : Key) (row : Option Item)
      (unseen : elsewhere = key → rows.view session key = none → row = none) :
      Moves key rows (rows.write session elsewhere row)
  | commit (session : Session) : Moves key rows (rows.commit session)
  | rollback (session : Session) : Moves key rows (rows.rollback session)

variable [DecidableEq Key] {later : RowLocks Key (Option Item) Session}

theorem Moves.absent (moves : Moves key rows later) (absent : rows.Absent key) : later.Absent key := by
  cases moves with
  | still => exact absent
  | write session elsewhere row unseen => exact absent.write unseen
  | commit => exact absent.commit
  | rollback => exact absent.rollback

theorem Moves.settled (moves : Moves key rows later) (settled : rows.Settled key) : later.Settled key := by
  cases moves with
  | still => exact settled
  | write session elsewhere row unseen => exact settled.write unseen
  | commit => exact settled.commit
  | rollback => exact settled.rollback

end Absence

end PublicLighting.Foundations.RowLocks
