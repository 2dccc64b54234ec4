import PublicLighting.Migrations.Runner

/-! What the runner's statements, its read-only inspections and one migration's transaction do. -/

namespace PublicLighting.Migrations.Runner

open Foundations
open Foundations.Program (On Triple)

variable {Schema Data α β : Type}

section Statements

def Quiet (server : Server Schema Data) : Prop := ∀ work, server.session ≠ .working work

theorem quiet_lose (server : Server Schema Data) : Quiet (lose server) := nofun

theorem quiet_refuse (server : Server Schema Data) : Quiet (refuse server) := by
  intro work
  unfold refuse
  split
  · exact nofun
  · rename_i other
    exact other work

@[simp] theorem refuse_committed (server : Server Schema Data) :
    (refuse server).committed = server.committed := by
  unfold refuse
  split <;> rfl

@[simp] theorem refuse_sent (server : Server Schema Data) : (refuse server).sent = server.sent := by
  unfold refuse
  split <;> rfl

/-- What a task that only reads may leave behind. -/
structure Kept (before after : Server Schema Data) : Prop where
  committed : after.committed = before.committed
  sent : after.sent = before.sent
  quiet : Quiet before → Quiet after

theorem Kept.refl (server : Server Schema Data) : Kept server server := ⟨rfl, rfl, id⟩

theorem Kept.refuse (server : Server Schema Data) : Kept server (refuse server) :=
  ⟨refuse_committed _, refuse_sent _, fun _ => quiet_refuse _⟩

def Sees (server : Server Schema Data) (db : Database Schema Data) : Prop :=
  match server.session with
  | .idle => db = server.committed
  | .working work => db = work
  | .aborted => False

theorem Sees.unique {server : Server Schema Data} {a b : Database Schema Data} (left : Sees server a)
    (right : Sees server b) : a = b := by
  rcases server with ⟨committed, session, sent⟩
  cases session with
  | idle => exact Eq.trans left (Eq.symm right)
  | working => exact Eq.trans left (Eq.symm right)
  | aborted => exact left.elim

/-- The task changes nothing, and its value is true of the database that it saw. -/
def Reads (task : Task Schema Data α) (about : Database Schema Data → α → Prop) : Prop :=
  ∀ s₀, Triple (On (· = s₀)) task (fun value => On fun s => s = s₀ ∧ ∀ db, Sees s₀ db → about db value)
    (fun _ => On (Kept s₀)) (On (Kept s₀))

theorem Reads.pure {value : α} {about : Database Schema Data → α → Prop} (holds : ∀ db, about db value) :
    Reads (Pure.pure value) about :=
  fun _ => Triple.pure fun _ same => ⟨same, fun db _ => holds db⟩

theorem Reads.weaken {task : Task Schema Data α} {about about' : Database Schema Data → α → Prop}
    (reads : Reads task about) (implies : ∀ db value, about db value → about' db value) :
    Reads task about' :=
  fun s₀ => (reads s₀).weaken (fun _ => id)
    (fun _ _ ended => ⟨ended.1, fun db seen => implies _ _ (ended.2 db seen)⟩) (fun _ _ => id) fun _ => id

theorem Reads.bind {first : Task Schema Data α} {rest : α → Task Schema Data β}
    {about : Database Schema Data → α → Prop} {about' : Database Schema Data → β → Prop}
    (reads : Reads first about)
    (reads' : ∀ value, Reads (rest value) fun db result => about db value → about' db result) :
    Reads (first >>= rest) about' := by
  intro s₀
  refine Triple.bind (reads s₀) fun value => ?_
  intro w holds
  obtain ⟨same, holds⟩ := holds
  have here := reads' value s₀ w same
  rcases ran : rest value w with ⟨result | _ | _, w'⟩ <;> rw [ran] at here
  · exact ⟨here.1, fun db seen => here.2 db seen (holds db seen)⟩
  · exact here
  · exact here

theorem Reads.require {holds : Bool} {error : RunnerError} :
    Reads (require holds error : Task Schema Data Unit) fun _ _ => holds = true := by
  intro s₀ w same
  unfold Runner.require
  cases holds with
  | true => exact ⟨same, fun _ _ => rfl⟩
  | false => exact same ▸ Kept.refl _

/-- A query that changes nothing is answered only where the transaction is not aborted. -/
theorem query_answered {effect : Database Schema Data → Except String (α × Database Schema Data)}
    (same : ∀ db value db', effect db = .ok (value, db') → db' = db) (s₀ : Server Schema Data) :
    Triple (On (· = s₀)) (query effect)
      (fun value => On fun s => s = s₀ ∧ ∃ db, Sees s₀ db ∧ effect db = .ok (value, db))
      (fun _ => On (Kept s₀)) (On (Kept s₀)) := by
  have ended : Kept s₀ (statement effect s₀).2 ∧ ∀ value t, statement effect s₀ = (.ok value, t) →
      t = s₀ ∧ ∃ db, Sees s₀ db ∧ effect db = .ok (value, db) := by
    rcases s₀ with ⟨committed, session, sent⟩
    cases session with
    | idle =>
        simp only [statement]
        split
        · rename_i value db done
          obtain rfl := same _ _ _ done
          refine ⟨Kept.refl _, fun value t answered => ?_⟩
          cases answered
          exact ⟨rfl, db, rfl, done⟩
        · exact ⟨Kept.refl _, nofun⟩
    | working work =>
        simp only [statement]
        split
        · rename_i value db done
          obtain rfl := same _ _ _ done
          refine ⟨Kept.refl _, fun value t answered => ?_⟩
          cases answered
          exact ⟨rfl, db, rfl, done⟩
        · exact ⟨Kept.refuse _, nofun⟩
    | aborted => exact ⟨Kept.refl _, nofun⟩
  apply Triple.await
  · rintro s value t rfl answered
    exact ended.2 value t answered
  · rintro s error t rfl raised
    have kept := ended.1
    rw [raised] at kept
    exact kept
  · rintro s rfl
    exact Kept.refuse s
  · rintro s rfl
    exact ⟨ended.1.committed, ended.1.sent, fun _ => quiet_lose _⟩
  · rintro s rfl
    exact Kept.refl s
  · rintro s rfl
    exact ended.1

theorem Reads.query {effect : Database Schema Data → Except String (α × Database Schema Data)}
    (same : ∀ db value db', effect db = .ok (value, db') → db' = db) :
    Reads (Runner.query effect) fun db value => effect db = .ok (value, db) := by
  intro s₀
  apply (query_answered same s₀).weaken (fun _ => id) _ (fun _ _ => id) (fun _ => id)
  rintro value w ⟨unchanged, db, seen, answer⟩
  refine ⟨unchanged, fun db' seen' => ?_⟩
  cases seen'.unique seen
  exact answer

theorem Reads.select {f : Database Schema Data → α} :
    Reads (select f) fun db value => value = f db := by
  apply (Reads.query fun db value db' answered => by cases answered; rfl).weaken
  intro db value answered
  cases answered
  rfl

theorem Reads.forEach {items : List β} {body : β → Task Schema Data Unit}
    (each : ∀ item, Reads (body item) fun _ _ => True) :
    Reads (Program.forEach body items) fun _ _ => True := by
  induction items with
  | nil => exact Reads.pure fun _ => trivial
  | cons item items ih => exact Reads.bind (each item) fun _ => ih.weaken fun _ _ _ _ => trivial

theorem query_idle {effect : Database Schema Data → Except String (α × Database Schema Data)}
    {db db' : Database Schema Data} {value : α} {sent : List String} (done : effect db = .ok (value, db')) :
    Triple (On (· = ⟨db, .idle, sent⟩)) (query effect)
      (fun answer => On fun s => answer = value ∧ s = ⟨db', .idle, sent⟩)
      (fun _ => On fun s => s = ⟨db, .idle, sent⟩ ∨ s = ⟨db', .idle, sent⟩)
      (On fun s => s = ⟨db, .idle, sent⟩ ∨ s = ⟨db', .idle, sent⟩) := by
  have ended : statement effect ⟨db, .idle, sent⟩ = (.ok value, ⟨db', .idle, sent⟩) := by
    simp only [statement, done]
  apply Triple.await
  · rintro s answer t rfl answered
    rw [ended] at answered
    cases answered
    exact ⟨rfl, rfl⟩
  · rintro s error t rfl raised
    rw [ended] at raised
    cases raised
  · rintro s rfl
    exact Or.inl rfl
  · rintro s rfl
    rw [ended]
    exact Or.inr rfl
  · rintro s rfl
    exact Or.inl rfl
  · rintro s rfl
    rw [ended]
    exact Or.inr rfl

/-- A write inside a transaction leaves what is committed alone, however it goes. -/
theorem query_working {effect : Database Schema Data → Except String (α × Database Schema Data)}
    {db work : Database Schema Data} {sent : List String} :
    Triple (On (· = ⟨db, .working work, sent⟩)) (query effect)
      (fun answer => On fun s => ∃ work', effect work = .ok (answer, work') ∧
        s = ⟨db, .working work', sent⟩)
      (fun _ => On fun s => s.committed = db ∧ s.sent = sent)
      (On fun s => s.committed = db ∧ s.sent = sent) := by
  have kept : (statement effect ⟨db, .working work, sent⟩).2.committed = db ∧
      (statement effect ⟨db, .working work, sent⟩).2.sent = sent := by
    simp only [statement]
    split <;> exact ⟨rfl, rfl⟩
  apply Triple.await
  · rintro s answer t rfl answered
    simp only [statement] at answered
    split at answered
    · rename_i value db' done
      cases answered
      exact ⟨db', done, rfl⟩
    · cases answered
  · rintro s error t rfl raised
    rw [raised] at kept
    exact kept
  · rintro s rfl
    exact ⟨rfl, rfl⟩
  · rintro s rfl
    exact kept
  · rintro s rfl
    exact ⟨rfl, rfl⟩
  · rintro s rfl
    exact kept

theorem begin_idle {db : Database Schema Data} {sent : List String} :
    Triple (On (· = ⟨db, .idle, sent⟩)) sqlBegin (fun _ => On (· = ⟨db, .working db, sent⟩))
      (fun _ => On fun s => s.committed = db ∧ s.sent = sent ∧ Quiet s)
      (On fun s => s.committed = db ∧ s.sent = sent) := by
  apply Triple.await
  · rintro s answer t rfl answered
    cases answered
    rfl
  · rintro s error t rfl raised
    cases raised
  · rintro s rfl
    exact ⟨rfl, rfl, quiet_refuse _⟩
  · rintro s rfl
    exact ⟨rfl, rfl, quiet_lose _⟩
  · rintro s rfl
    exact ⟨rfl, rfl⟩
  · rintro s rfl
    exact ⟨rfl, rfl⟩

theorem commit_working {db work : Database Schema Data} {sent : List String} :
    Triple (On (· = ⟨db, .working work, sent⟩)) sqlCommit (fun _ => On (· = ⟨work, .idle, sent⟩))
      (fun _ => On fun s => (s.committed = db ∨ s.committed = work) ∧ s.sent = sent)
      (On fun s => (s.committed = db ∨ s.committed = work) ∧ s.sent = sent) := by
  apply Triple.await
  · rintro s answer t rfl answered
    cases answered
    rfl
  · rintro s error t rfl raised
    cases raised
  · rintro s rfl
    exact ⟨Or.inl rfl, rfl⟩
  · rintro s rfl
    exact ⟨Or.inr rfl, rfl⟩
  · rintro s rfl
    exact ⟨Or.inl rfl, rfl⟩
  · rintro s rfl
    exact ⟨Or.inr rfl, rfl⟩

theorem rollback_quiet {holds : Database Schema Data → List String → Prop} :
    Triple (On fun s : Server Schema Data => holds s.committed s.sent) (ignoring sqlRollback)
      (fun _ => On fun s => holds s.committed s.sent ∧ Quiet s)
      (fun _ => On fun s => holds s.committed s.sent ∧ Quiet s)
      (On fun s => holds s.committed s.sent) := by
  have rolled : Triple (On fun s : Server Schema Data => holds s.committed s.sent) sqlRollback
      (fun _ => On fun s => holds s.committed s.sent ∧ Quiet s)
      (fun _ => On fun s => holds s.committed s.sent ∧ Quiet s)
      (On fun s => holds s.committed s.sent) := by
    apply Triple.await
    · rintro s answer t before answered
      cases answered
      exact ⟨before, nofun⟩
    · rintro s error t before raised
      cases raised
    · rintro s before
      exact ⟨by simpa using before, quiet_refuse _⟩
    · rintro s before
      exact ⟨before, quiet_lose _⟩
    · rintro s before
      exact before
    · rintro s before
      exact before
  exact Triple.catching rolled fun _ => Triple.pure fun _ => id

/-- The handler of the runner's transactions: roll back, and raise. -/
theorem rollback_throw {holds : Database Schema Data → List String → Prop} {error : RunnerError} :
    Triple (On fun s : Server Schema Data => holds s.committed s.sent)
      (do ignoring sqlRollback; (Program.throw error : Task Schema Data α)) (fun _ _ => False)
      (fun _ => On fun s => holds s.committed s.sent ∧ Quiet s)
      (On fun s => holds s.committed s.sent) :=
  Triple.bind rollback_quiet fun _ => Triple.throw fun _ => id

theorem reads_connect : Reads (Program.await (.sql "connection failed") id id fun server => (.ok (), server) :
    Task Schema Data Unit) fun _ _ => True := by
  intro s
  apply Triple.await
  · rintro s answer t rfl answered
    cases answered
    exact ⟨rfl, fun _ _ => trivial⟩
  · rintro s error t rfl raised
    cases raised
  all_goals
    rintro s rfl
    exact Kept.refl s

end Statements

section Preflight

variable {schemas : ServerSchemas Schema Data}

theorem reads_encoding : Reads (assertP3MigrationPreflightEncoding schemas) fun _ _ => True :=
  Reads.bind Reads.select fun _ => Reads.require.weaken fun _ _ _ _ => trivial

theorem reads_recognizedSchema {tables : List String} :
    Reads (assertRecognizedLegacySchema schemas tables) fun _ _ => tables = legacyTables := by
  refine Reads.bind Reads.require fun _ => ?_
  refine @Reads.weaken _ _ _ _ (fun _ _ => True) _ ?_ fun _ _ _ named => by simpa using named
  refine Reads.bind Reads.select fun _ => Reads.bind Reads.require fun _ => ?_
  refine Reads.bind Reads.require fun _ => ?_
  refine (Reads.forEach fun _ => ?_).weaken fun _ _ _ _ _ _ => trivial
  exact Reads.bind Reads.select fun _ => Reads.require.weaken fun _ _ _ _ => trivial

theorem reads_inspect : Reads (inspectP3MigrationPreflight schemas) fun db state =>
    state = .recognizedPreP3 → schemas.tables db.schema = legacyTables := by
  refine Reads.bind reads_encoding fun _ => Reads.bind Reads.select fun tables => ?_
  split
  · refine Reads.bind Reads.select fun _ => Reads.pure fun _ _ _ _ recognized => ?_
    cases recognized
  · refine Reads.bind reads_recognizedSchema fun _ => ?_
    refine Reads.bind Reads.select fun _ => Reads.bind Reads.select fun _ => ?_
    refine Reads.bind Reads.select fun _ => Reads.bind Reads.select fun _ => ?_
    refine Reads.bind Reads.require fun _ => Reads.pure fun db => ?_
    intro _ _ _ _ _ named seen _ _
    exact seen ▸ named

theorem reads_lockLightPoints : Reads (lockLightPoints schemas) fun _ _ => True := by
  apply (Reads.query fun db value db' answered => ?_).weaken fun _ _ _ => trivial
  split at answered
  · cases answered
    rfl
  · cases answered

theorem reads_preflightOf {migration : Migration} :
    Reads (preflightOf schemas migration) fun _ _ => True := by
  unfold preflightOf
  split
  · exact Reads.bind reads_lockLightPoints fun _ =>
      Reads.bind reads_inspect fun _ => Reads.pure fun _ _ _ => trivial
  · exact Reads.pure fun _ => trivial

end Preflight

section Transaction

variable (schemas : ServerSchemas Schema Data)

def migrated (migration : Migration) (rows : List AppliedMigration) (schema : Schema) (data : Data) :
    Database Schema Data :=
  ⟨some (rows ++ [migration.row]), schemas.effect migration.sql schema, data⟩

/-- All of a migration has happened, or nothing of it. -/
def AllOrNothing (migration : Migration) (rows : List AppliedMigration) (db after : Database Schema Data) :
    Prop :=
  after = db ∨ ∃ data, schemas.execute migration.sql db.schema db.data = .ok data ∧
    after = migrated schemas migration rows db.schema data

variable {schemas} {migration : Migration} {rows : List AppliedMigration} {db : Database Schema Data}
  {sent : List String}

theorem executeMigration_triple :
    Triple (On (· = ⟨db, .working db, sent⟩)) (executeMigration schemas migration)
      (fun _ => On fun s => ∃ data, schemas.execute migration.sql db.schema db.data = .ok data ∧
        s = ⟨db, .working ⟨db.ledger, schemas.effect migration.sql db.schema, data⟩, sent ++ [migration.sql]⟩)
      (fun _ => On fun s => s.committed = db) (On fun s => s.committed = db) := by
  apply @Triple.bind _ _ _ _ _ _ _ _ _ (fun _ => On (· = ⟨db, .working db, sent ++ [migration.sql]⟩))
  · apply Triple.update
    rintro w same
    have state : w.state = ⟨db, .working db, sent⟩ := same
    change ({ w.state with sent := w.state.sent ++ [migration.sql] } : Server Schema Data) = _
    rw [state]
  · intro _
    apply query_working.weaken (fun _ => id) _ (fun _ _ ended => ended.1) (fun _ ended => ended.1)
    rintro answer w ⟨work, done, same⟩
    cases executed : schemas.execute migration.sql db.schema db.data with
    | error message =>
        rw [executed] at done
        cases done
    | ok data =>
        rw [executed] at done
        cases done
        exact ⟨data, rfl, same⟩

theorem recordMigration_triple {work : Database Schema Data} (ledger : work.ledger = some rows) :
    Triple (On (· = ⟨db, .working work, sent⟩)) (recordMigration migration)
      (fun _ => On (· = ⟨db, .working { work with ledger := some (rows ++ [migration.row]) }, sent⟩))
      (fun _ => On fun s => s.committed = db ∧ s.sent = sent)
      (On fun s => s.committed = db ∧ s.sent = sent) := by
  apply query_working.weaken (fun _ => id) _ (fun _ _ => id) (fun _ => id)
  rintro answer w ⟨work', done, same⟩
  simp only [ledger] at done
  split at done
  · cases done
  · cases done
    exact same

theorem migrationTransaction_triple (ledger : db.ledger = some rows) :
    Triple (On (· = ⟨db, .idle, sent⟩)) (do
        sqlBegin
        preflightOf schemas migration
        executeMigration schemas migration
        recordMigration migration
        sqlCommit)
      (fun _ => On fun s => ∃ data, schemas.execute migration.sql db.schema db.data = .ok data ∧
        s = ⟨migrated schemas migration rows db.schema data, .idle, sent ++ [migration.sql]⟩)
      (fun _ => On fun s => AllOrNothing schemas migration rows db s.committed)
      (On fun s => AllOrNothing schemas migration rows db s.committed) := by
  have begun := (@begin_idle _ _ db sent).weaken (fun _ => id) (fun _ _ => id)
    (fun _ w stopped => (Or.inl stopped.1 : AllOrNothing schemas migration rows db w.state.committed))
    (fun w stopped => (Or.inl stopped.1 : AllOrNothing schemas migration rows db w.state.committed))
  refine Triple.bind begun fun _ => ?_
  have inspected := (@reads_preflightOf _ _ schemas migration ⟨db, .working db, sent⟩).weaken (fun _ => id)
    (fun _ _ ended => ended.1)
    (fun _ w kept => (Or.inl kept.committed : AllOrNothing schemas migration rows db w.state.committed))
    (fun w kept => (Or.inl kept.committed : AllOrNothing schemas migration rows db w.state.committed))
  refine Triple.bind inspected fun _ => ?_
  have executed := (@executeMigration_triple _ _ schemas migration db sent).weaken (fun _ => id)
    (fun _ _ => id) (fun _ w same => (Or.inl same : AllOrNothing schemas migration rows db w.state.committed))
    (fun w same => (Or.inl same : AllOrNothing schemas migration rows db w.state.committed))
  refine Triple.bind executed fun _ => ?_
  rintro w ⟨data, done, same⟩
  have recorded := (@recordMigration_triple _ _ migration rows db (sent ++ [migration.sql])
    ⟨db.ledger, schemas.effect migration.sql db.schema, data⟩ ledger).weaken (fun _ => id) (fun _ _ => id)
    (fun _ w same => (Or.inl same.1 : AllOrNothing schemas migration rows db w.state.committed))
    (fun w same => (Or.inl same.1 : AllOrNothing schemas migration rows db w.state.committed))
  refine Triple.bind recorded (fun _ => ?_) w same
  apply commit_working.weaken (fun _ => id)
  · rintro _ w same
    exact ⟨data, done, same⟩
  · rintro _ w ⟨unchanged | applied, -⟩
    · exact Or.inl unchanged
    · exact Or.inr ⟨data, done, applied⟩
  · rintro w ⟨unchanged | applied, -⟩
    · exact Or.inl unchanged
    · exact Or.inr ⟨data, done, applied⟩

theorem applyMigration_triple (ledger : db.ledger = some rows) :
    Triple (On (· = ⟨db, .idle, sent⟩)) (applyMigration schemas migration)
      (fun _ => On fun s => ∃ data, schemas.execute migration.sql db.schema db.data = .ok data ∧
        s = ⟨migrated schemas migration rows db.schema data, .idle, sent ++ [migration.sql]⟩)
      (fun _ => On fun s => AllOrNothing schemas migration rows db s.committed ∧ Quiet s)
      (On fun s => AllOrNothing schemas migration rows db s.committed) := by
  refine Triple.catching (migrationTransaction_triple ledger) fun _ => ?_
  exact (@rollback_throw _ _ _ (fun after _ => AllOrNothing schemas migration rows db after) _).weaken
    (fun _ => id) (fun _ _ => False.elim) (fun _ _ => id) fun _ => id

end Transaction

end PublicLighting.Migrations.Runner
