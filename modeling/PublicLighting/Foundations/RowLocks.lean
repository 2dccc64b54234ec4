import Mathlib.Logic.Function.Basic
import Mathlib.Tactic.Common

/-! Keyed rows under row locks, as a database at read committed shows them: a
statement sees the committed version of a row or the version its own transaction
has written, and it writes only what no other transaction has locked. -/

namespace PublicLighting.Foundations

variable {Key Row Session : Type*}

structure RowLocks (Key Row Session : Type*) where
  committed : Key → Row
  locks : Key → Option (Session × Row)

namespace RowLocks

section Operations

variable [DecidableEq Session]

/-- What a statement of `session` reads. -/
def view (rows : RowLocks Key Row Session) (session : Session) (key : Key) : Row :=
  match rows.locks key with
  | some (holder, version) => if holder = session then version else rows.committed key
  | none => rows.committed key

def Free (rows : RowLocks Key Row Session) (session : Session) (key : Key) : Prop :=
  ∀ lock ∈ rows.locks key, lock.1 = session

instance (rows : RowLocks Key Row Session) (session : Session) (key : Key) :
    Decidable (rows.Free session key) :=
  match found : rows.locks key with
  | none => .isTrue (by simp [Free, found])
  | some lock => decidable_of_iff (lock.1 = session) (by simp [Free, found])

def write [DecidableEq Key] (rows : RowLocks Key Row Session) (session : Session) (key : Key) (row : Row) :
    RowLocks Key Row Session :=
  { rows with locks := Function.update rows.locks key (some (session, row)) }

/-- The locks that are left when `session` ends its transaction. -/
def released (rows : RowLocks Key Row Session) (session : Session) (key : Key) :
    Option (Session × Row) :=
  (rows.locks key).filter fun lock => lock.1 ≠ session

def commit (rows : RowLocks Key Row Session) (session : Session) : RowLocks Key Row Session where
  committed := rows.view session
  locks := rows.released session

def rollback (rows : RowLocks Key Row Session) (session : Session) : RowLocks Key Row Session :=
  { rows with locks := rows.released session }

end Operations

section Views

variable [DecidableEq Session]
variable {rows : RowLocks Key Row Session} {session other : Session} {key : Key} {version : Row}

theorem view_of_holder (held : rows.locks key = some (session, version)) :
    rows.view session key = version := by
  simp [view, held]

theorem view_of_other (held : rows.locks key = some (other, version))
    (different : other ≠ session) : rows.view session key = rows.committed key := by
  simp [view, held, different]

theorem view_unlocked (unlocked : rows.locks key = none) :
    rows.view session key = rows.committed key := by
  simp [view, unlocked]

@[simp] theorem commit_committed : (rows.commit session).committed = rows.view session := rfl

@[simp] theorem rollback_committed : (rows.rollback session).committed = rows.committed := rfl

theorem released_eq_some {lock : Session × Row} :
    rows.released session key = some lock ↔ rows.locks key = some lock ∧ lock.1 ≠ session := by
  simp [released]

theorem view_commit_self : (rows.commit session).view session key = rows.view session key := by
  cases held : (rows.commit session).locks key with
  | none => rw [view_unlocked held, commit_committed]
  | some lock =>
      have different := (released_eq_some.mp held).2
      rw [view_of_other held different, commit_committed]

theorem view_commit_other (different : other ≠ session) :
    (rows.commit session).view other key = rows.view other key ∨
      ∃ version, rows.locks key = some (session, version) ∧
        rows.view other key = rows.committed key ∧ (rows.commit session).view other key = version := by
  cases held : rows.locks key with
  | none =>
      left
      have unlocked : (rows.commit session).locks key = none := by simp [commit, released, held]
      rw [view_unlocked unlocked, commit_committed, view_unlocked held, view_unlocked held]
  | some lock =>
      obtain ⟨holder, version⟩ := lock
      by_cases mine : holder = session
      · subst mine
        right
        have unlocked : (rows.commit holder).locks key = none := by simp [commit, released, held]
        refine ⟨version, rfl, view_of_other held different.symm, ?_⟩
        rw [view_unlocked unlocked, commit_committed, view_of_holder held]
      · left
        have kept : (rows.commit session).locks key = some (holder, version) :=
          released_eq_some.mpr ⟨held, mine⟩
        by_cases theirs : holder = other
        · subst theirs
          rw [view_of_holder kept, view_of_holder held]
        · rw [view_of_other kept theirs, view_of_other held theirs, commit_committed,
            view_of_other held mine]

theorem view_rollback_other (different : other ≠ session) :
    (rows.rollback session).view other key = rows.view other key := by
  cases held : rows.locks key with
  | none =>
      have unlocked : (rows.rollback session).locks key = none := by simp [rollback, released, held]
      rw [view_unlocked unlocked, view_unlocked held, rollback_committed]
  | some lock =>
      obtain ⟨holder, version⟩ := lock
      by_cases mine : holder = session
      · subst mine
        have unlocked : (rows.rollback holder).locks key = none := by
          simp [rollback, released, held]
        rw [view_unlocked unlocked, rollback_committed, view_of_other held different.symm]
      · have kept : (rows.rollback session).locks key = some (holder, version) :=
          released_eq_some.mpr ⟨held, mine⟩
        simp [view, kept, held]

end Views

section Writes

variable [DecidableEq Key]
variable {rows : RowLocks Key Row Session} {session other : Session} {key elsewhere : Key} {row : Row}

@[simp] theorem write_committed : (rows.write session key row).committed = rows.committed := rfl

@[simp] theorem write_locks_self :
    (rows.write session key row).locks key = some (session, row) := by
  simp [write]

theorem write_locks_of_ne (different : elsewhere ≠ key) :
    (rows.write session key row).locks elsewhere = rows.locks elsewhere := by
  simp [write, different]

variable [DecidableEq Session]

@[simp] theorem view_write_self : (rows.write session key row).view session key = row :=
  view_of_holder write_locks_self

theorem view_write_of_ne (different : elsewhere ≠ key) :
    (rows.write session key row).view other elsewhere = rows.view other elsewhere := by
  simp [view, write_locks_of_ne different]

theorem view_write_other (free : rows.Free session key) (different : other ≠ session) :
    (rows.write session key row).view other elsewhere = rows.view other elsewhere := by
  by_cases same : elsewhere = key
  · subst same
    rw [view_of_other write_locks_self different.symm, write_committed]
    cases held : rows.locks elsewhere with
    | none => rw [view_unlocked held]
    | some lock =>
        have owner : lock.1 ≠ other := by
          rw [free lock held]
          exact different.symm
        exact (view_of_other held owner).symm
  · exact view_write_of_ne same

end Writes

/-! A property of every version of every row, and a relation from each committed
version to the version written over it. -/

section Versions

structure Versions (P : Key → Row → Prop) (R : Row → Row → Prop)
    (rows : RowLocks Key Row Session) : Prop where
  committed : ∀ key, P key (rows.committed key)
  written : ∀ key lock, rows.locks key = some lock → P key lock.2 ∧ R (rows.committed key) lock.2

variable {P : Key → Row → Prop} {R : Row → Row → Prop}
variable [DecidableEq Session]
variable {rows : RowLocks Key Row Session} {session other : Session} {key : Key}

theorem Versions.view (all : Versions P R rows) : P key (rows.view session key) := by
  unfold RowLocks.view
  split
  · rename_i holder version held
    split
    · exact (all.written key _ held).1
    · exact all.committed key
  · exact all.committed key

theorem Versions.extends (refl : ∀ row, R row row) (all : Versions P R rows) :
    R (rows.committed key) (rows.view session key) := by
  unfold RowLocks.view
  split
  · rename_i holder version held
    split
    · exact (all.written key _ held).2
    · exact refl _
  · exact refl _

/-- The statement rule: what a transaction writes need only be right given what it read. -/
theorem Versions.write [DecidableEq Key] (refl : ∀ row, R row row) (trans : ∀ a b c, R a b → R b c → R a c)
    (all : Versions P R rows) {row : Row} (holds : P key row)
    (follows : R (rows.view session key) row) : Versions P R (rows.write session key row) where
  committed := all.committed
  written := by
    intro elsewhere lock held
    by_cases same : elsewhere = key
    · subst same
      rw [write_locks_self, Option.some.injEq] at held
      subst held
      have grown : R (rows.committed elsewhere) row := trans _ _ _ (all.extends refl) follows
      exact ⟨holds, grown⟩
    · rw [write_locks_of_ne same] at held
      exact all.written elsewhere lock held

theorem Versions.commit (all : Versions P R rows) : Versions P R (rows.commit session) where
  committed := fun _ => all.view
  written := by
    intro key lock held
    obtain ⟨before, different⟩ := released_eq_some.mp held
    rw [commit_committed, view_of_other before different]
    exact all.written key lock before

theorem Versions.rollback (all : Versions P R rows) : Versions P R (rows.rollback session) where
  committed := all.committed
  written := fun key lock held => all.written key lock (released_eq_some.mp held).1

/-- What another transaction reads only moves along the relation. -/
theorem Versions.commit_moves (refl : ∀ row, R row row) (all : Versions P R rows) :
    R (rows.view other key) ((rows.commit session).view other key) := by
  by_cases same : other = session
  · subst same
    rw [view_commit_self]
    exact refl _
  · rcases @view_commit_other _ _ _ _ rows session other key same with kept | ⟨version, held, before, after⟩
    · rw [kept]
      exact refl _
    · rw [before, after]
      exact (all.written key _ held).2

end Versions

end RowLocks

end PublicLighting.Foundations
