import PublicLighting.Foundations.Effects

/-! One database connection, its transaction and the caller's own variables, as programs over a schedule of
faults, with a rule for each statement. -/

namespace PublicLighting.Foundations.Transactions

open Program (Scheduled On Triple await)

inductive Session (Db : Type)
  | idle
  | working (work : Db)
  | aborted
  deriving DecidableEq

structure Client (Db Locals : Type) where
  committed : Db
  session : Session Db
  locals : Locals
  deriving DecidableEq

variable {Db Locals Error α : Type}

abbrev Task (Db Locals Error α : Type) := Program (Scheduled (Client Db Locals)) Error α

/-- A statement that raises aborts the transaction it stands in. -/
def refuse (client : Client Db Locals) : Client Db Locals :=
  match client.session with
  | .working _ => { client with session := .aborted }
  | _ => client

/-- The server drops what a lost connection had not committed. -/
def lose (client : Client Db Locals) : Client Db Locals := { client with session := .idle }

section Statements

variable (failed : Error)

/-- On its own a statement commits at once, in a transaction it stays in the transaction's work. -/
def statement (effect : Db → Except Error (α × Db)) (client : Client Db Locals) :
    Except Error α × Client Db Locals :=
  match client.session with
  | .idle =>
      match effect client.committed with
      | .ok (value, db) => (.ok value, { client with committed := db })
      | .error error => (.error error, client)
  | .working work =>
      match effect work with
      | .ok (value, db) => (.ok value, { client with session := .working db })
      | .error error => (.error error, refuse client)
  | .aborted => (.error failed, client)

def query (effect : Db → Except Error (α × Db)) : Task Db Locals Error α :=
  await failed refuse lose (statement failed effect)

def select (f : Db → α) : Task Db Locals Error α := query failed fun db => .ok (f db, db)

/-- A `BEGIN` inside a transaction only warns. -/
def sqlBegin : Task Db Locals Error Unit :=
  await failed refuse lose fun client =>
    match client.session with
    | .idle => (.ok (), { client with session := .working client.committed })
    | .working _ => (.ok (), client)
    | .aborted => (.error failed, client)

/-- The `COMMIT` of an aborted transaction rolls it back, and a refused one does too. What the caller's
variables are to record of a `COMMIT` whose answer is lost is an argument. -/
def sqlCommit (unheard : Locals → Locals) : Task Db Locals Error Unit :=
  await failed lose (fun client => { lose client with locals := unheard client.locals }) fun client =>
    match client.session with
    | .working work => (.ok (), { client with committed := work, session := .idle })
    | _ => (.ok (), { client with session := .idle })

def sqlRollback : Task Db Locals Error Unit :=
  await failed refuse lose fun client => (.ok (), { client with session := .idle })

end Statements

def assign (f : Locals → Locals) : Task Db Locals Error Unit :=
  Program.update fun w => { w with state := { w.state with locals := f w.state.locals } }

/-- `.catch(() => undefined)`. -/
def ignoring (task : Task Db Locals Error Unit) : Task Db Locals Error Unit :=
  Program.catching task fun _ => pure ()

/-- Nothing is left for a later `COMMIT` to commit. -/
def Quiet (client : Client Db Locals) : Prop := ∀ work, client.session ≠ .working work

theorem quiet_lose (client : Client Db Locals) : Quiet (lose client) := nofun

theorem quiet_refuse (client : Client Db Locals) : Quiet (refuse client) := by
  unfold refuse
  split
  · exact nofun
  · rename_i other
    intro work working
    exact other work working

@[simp] theorem refuse_committed (client : Client Db Locals) :
    (refuse client).committed = client.committed := by
  unfold refuse
  split <;> rfl

@[simp] theorem refuse_locals (client : Client Db Locals) : (refuse client).locals = client.locals := by
  unfold refuse
  split <;> rfl

/-- What is committed and what the caller knows, whatever becomes of the transaction. -/
def Holds (db : Db) (locals : Locals) (client : Client Db Locals) : Prop :=
  client.committed = db ∧ client.locals = locals

variable {failed : Error} {db work : Db} {locals : Locals}

/-- A statement inside a transaction leaves what is committed alone, however it goes. -/
theorem query_working {effect : Db → Except Error (α × Db)} :
    Triple (On (· = ⟨db, .working work, locals⟩)) (query failed effect)
      (fun answer => On fun s => ∃ next, effect work = .ok (answer, next) ∧ s = ⟨db, .working next, locals⟩)
      (fun _ => On (Holds db locals)) (On (Holds db locals)) := by
  have kept : Holds db locals (statement failed effect ⟨db, .working work, locals⟩).2 := by
    simp only [statement]
    split <;> exact ⟨rfl, rfl⟩
  apply Triple.await
  · intro s answer t same answered
    subst same
    simp only [statement] at answered
    split at answered
    · rename_i value next done
      cases answered
      exact ⟨next, done, rfl⟩
    · cases answered
  · intro s error t same raised
    subst same
    rw [raised] at kept
    exact kept
  · intro s same
    subst same
    exact ⟨rfl, rfl⟩
  · intro s same
    subst same
    exact kept
  · intro s same
    subst same
    exact ⟨rfl, rfl⟩
  · intro s same
    subst same
    exact kept

/-- Within a transaction whose work is known to have a property. -/
def Working (db : Db) (locals : Locals) (holds : Db → Prop) (client : Client Db Locals) : Prop :=
  ∃ work, client = ⟨db, .working work, locals⟩ ∧ holds work

theorem query_rule {effect : Db → Except Error (α × Db)} {holds : Db → Prop} {next : α → Db → Prop}
    (step : ∀ work answer done, holds work → effect work = .ok (answer, done) → next answer done) :
    Triple (On (Working db locals holds)) (query failed effect)
      (fun answer => On (Working db locals (next answer))) (fun _ => On (Holds db locals))
      (On (Holds db locals)) := by
  intro w ⟨work, same, here⟩
  have ran := @query_working _ _ _ _ failed db work locals effect w same
  rcases ended : query failed effect w with ⟨answer | error | _, w'⟩ <;> rw [ended] at ran
  · obtain ⟨done, stepped, now⟩ := ran
    exact ⟨done, now, step work answer done here stepped⟩
  · exact ran
  · exact ran

theorem begin_idle :
    Triple (On (· = ⟨db, .idle, locals⟩)) (sqlBegin failed) (fun _ => On (· = ⟨db, .working db, locals⟩))
      (fun _ => On fun s => Holds db locals s ∧ Quiet s) (On (Holds db locals)) := by
  apply Triple.await
  · intro s answer t same answered
    subst same
    cases answered
    rfl
  · intro s error t same raised
    subst same
    cases raised
  · intro s same
    subst same
    exact ⟨⟨rfl, rfl⟩, quiet_refuse _⟩
  · intro s same
    subst same
    exact ⟨⟨rfl, rfl⟩, quiet_lose _⟩
  · intro s same
    subst same
    exact ⟨rfl, rfl⟩
  · intro s same
    subst same
    exact ⟨rfl, rfl⟩

/-- A `COMMIT` that raises has either not happened or is recorded as unheard. -/
theorem commit_working {unheard : Locals → Locals} :
    Triple (On (· = ⟨db, .working work, locals⟩)) (sqlCommit failed unheard)
      (fun _ => On (· = ⟨work, .idle, locals⟩))
      (fun _ => On fun s => s = ⟨db, .idle, locals⟩ ∨ s = ⟨work, .idle, unheard locals⟩)
      (On fun s => Holds db locals s ∨ Holds work locals s) := by
  apply Triple.await
  · intro s answer t same answered
    subst same
    cases answered
    rfl
  · intro s error t same raised
    subst same
    cases raised
  · intro s same
    subst same
    exact Or.inl rfl
  · intro s same
    subst same
    exact Or.inr rfl
  · intro s same
    subst same
    exact Or.inl ⟨rfl, rfl⟩
  · intro s same
    subst same
    exact Or.inr ⟨rfl, rfl⟩

theorem rollback_holds :
    Triple (On (Holds db locals)) (sqlRollback failed) (fun _ => On fun s => Holds db locals s ∧ Quiet s)
      (fun _ => On fun s => Holds db locals s ∧ Quiet s) (On (Holds db locals)) := by
  apply Triple.await
  · intro s answer t before answered
    cases answered
    exact ⟨before, nofun⟩
  · intro s error t before raised
    cases raised
  · intro s before
    refine ⟨?_, quiet_refuse s⟩
    unfold Holds
    rw [refuse_committed, refuse_locals]
    exact before
  · intro s before
    exact ⟨before, quiet_lose _⟩
  · intro s before
    exact before
  · intro s before
    exact before

theorem ignored_rollback :
    Triple (On (Holds db locals)) (ignoring (sqlRollback failed))
      (fun _ => On fun s => Holds db locals s ∧ Quiet s)
      (fun _ => On fun s => Holds db locals s ∧ Quiet s) (On (Holds db locals)) :=
  Triple.catching rollback_holds fun _ => Triple.pure fun _ => id

theorem assign_rule {f : Locals → Locals} {before after : Client Db Locals → Prop}
    {broken : Error → Scheduled (Client Db Locals) → Prop} {dead : Scheduled (Client Db Locals) → Prop}
    (assigned : ∀ s, before s → after { s with locals := f s.locals }) :
    Triple (On before) (assign f : Task Db Locals Error Unit) (fun _ => On after) broken dead :=
  Triple.update fun w here => assigned w.state here

end PublicLighting.Foundations.Transactions
