import PublicLighting.Foundations.Runs
import PublicLighting.Migrations.RunnerChain

/-! The ledger and the schema agree wherever the runner is stopped, and the check of the ledger. -/

namespace PublicLighting.Migrations.Runner

open Foundations
open Foundations.Program (On Triple)

variable {Schema Data α β : Type}

section CurrencyCheck

theorem Kept.trans {a b c : Server Schema Data} (first : Kept a b) (second : Kept b c) : Kept a c :=
  ⟨second.committed.trans first.committed, second.sent.trans first.sent, second.quiet ∘ first.quiet⟩

theorem Reads.kept {task : Task Schema Data α} {about : Database Schema Data → α → Prop}
    (reads : Reads task about) (s₀ : Server Schema Data) :
    Triple (On (Kept s₀)) task (fun _ => On (Kept s₀)) (fun _ => On (Kept s₀)) (On (Kept s₀)) := by
  intro w kept
  refine (reads w.state).weaken (fun _ => id) ?_ ?_ ?_ w rfl
  · intro _ t ended
    exact Program.On.at ended.1 kept
  · exact fun _ t ended => kept.trans ended
  · exact fun t ended => kept.trans ended

variable {options : CheckOptions} {chain : List Migration}

def Calm (s₀ : Server Schema Data) (w : Program.Scheduled (Server Schema Data)) : Prop :=
  w.state = s₀ ∧ ∀ n, w.faults n = .none

/-- The task returns the value, and changes nothing, where no await fails. -/
def Answers (s₀ : Server Schema Data) (task : Task Schema Data α) (value : α) : Prop :=
  Triple (Calm s₀) task (fun answer w => answer = value ∧ Calm s₀ w) (fun _ _ => False) fun _ => False

theorem Answers.bind {s₀ : Server Schema Data} {first : Task Schema Data α} {rest : α → Task Schema Data β}
    {value : α} {result : β} (answers : Answers s₀ first value) (answers' : Answers s₀ (rest value) result) :
    Answers s₀ (first >>= rest) result := by
  refine Triple.bind answers fun answer => ?_
  rintro w ⟨rfl, calm⟩
  exact answers' w calm

theorem Answers.require {s₀ : Server Schema Data} {holds : Bool} {error : RunnerError} (true : holds = true) :
    Answers s₀ (require holds error) () := by
  intro w calm
  rw [Runner.require, true]
  exact ⟨rfl, calm⟩

theorem Answers.query {s₀ : Server Schema Data} {db : Database Schema Data} {value : α}
    {effect : Database Schema Data → Except String (α × Database Schema Data)} (seen : Sees s₀ db)
    (done : effect db = .ok (value, db)) : Answers s₀ (query effect) value := by
  have ended : statement effect s₀ = (.ok value, s₀) := by
    rcases s₀ with ⟨committed, session, sent⟩
    cases session with
    | idle =>
        cases seen
        simp only [statement, done]
    | working work =>
        cases seen
        simp only [statement, done]
    | aborted => exact seen.elim
  rintro ⟨state, faults, awaits⟩ ⟨rfl, calm⟩
  have here : faults awaits = .none := calm awaits
  unfold Runner.query Program.await
  simp only [ended, here]
  exact ⟨trivial, rfl, calm⟩

end CurrencyCheck

section Calls

variable (schemas : ServerSchemas Schema Data) (package : Package) (chain : List Migration)

def Call.found (call : Call Data) (server : Server Schema Data) : Database Schema Data :=
  { server.committed with data := call.data }

/-- The call neither returns nor changes anything, and sends no migration. -/
def Stopped (call : Call Data) (server : Server Schema Data) : Prop :=
  (∀ done, (call.outcome schemas package server).1 ≠ .returned done) ∧
    (call.outcome schemas package server).2.committed = call.found server ∧
    (call.outcome schemas package server).2.sent = server.sent

variable {schemas package chain} {call : Call Data} {server : Server Schema Data}
  {ending : Ending Schema Data}

theorem Call.begin_quiet (quiet : Quiet server) : Quiet (call.begin server) := by
  intro work
  unfold Call.begin
  by_cases new : call.reconnected = true
  · rw [if_pos new]
    exact nofun
  · rw [if_neg new]
    exact quiet work

theorem Call.ends (ends : Ends ending (call.begin server) (call.command.task schemas package)) :
    Quiet (call.outcome schemas package server).2 ∧
      ((∀ done, (call.outcome schemas package server).1 = .returned done →
          ending.returned (call.outcome schemas package server).2.committed
            (call.outcome schemas package server).2.sent) ∧
        (ending.returned (call.outcome schemas package server).2.committed
            (call.outcome schemas package server).2.sent ∨
          ending.threw (call.outcome schemas package server).2.committed
            (call.outcome schemas package server).2.sent ∨
          ending.died (call.outcome schemas package server).2.committed
            (call.outcome schemas package server).2.sent)) := by
  have here := ends ⟨call.begin server, call.faults, 0⟩ rfl
  unfold Call.outcome
  rcases ran : call.command.task schemas package ⟨call.begin server, call.faults, 0⟩ with
    ⟨done | error | _, w⟩ <;> rw [ran] at here
  · exact ⟨here.2, fun _ _ => here.1, Or.inl here.1⟩
  · exact ⟨here.2, nofun, Or.inr (Or.inl here.1)⟩
  · exact ⟨quiet_lose _, nofun, Or.inr (Or.inr here)⟩

theorem Call.task_ends (loaded : loadMigrations package = .ok chain) (quiet : Quiet server)
    (allowed : ending.Allows (call.begin server))
    (late : ∀ db sent, ending.returned db sent ∨ ending.threw db sent → ending.died db sent)
    (run : call.command = .runMigrations →
      Ends ending ⟨call.found server, .idle, server.sent⟩ (runUnderLock schemas chain))
    (adopt : ∀ baseline, call.command = .adoptRecognizedPreP3Database →
      chain.find? (fun migration => migration.version = "0001") = some baseline →
      Ends ending ⟨call.found server, .idle, server.sent⟩ (adoptUnderLock schemas chain baseline)) :
    Ends ending (call.begin server) (call.command.task schemas package) := by
  have started : (call.begin server).session = .idle →
      call.begin server = ⟨call.found server, .idle, server.sent⟩ := by
    intro idle
    rw [← idle]
    rfl
  unfold Command.task
  cases command : call.command with
  | runMigrations =>
      simp only [Runner.runMigrations, loaded]
      exact lock_ends (fun idle => started idle ▸ run command) allowed (Call.begin_quiet quiet) late
  | adoptRecognizedPreP3Database =>
      simp only [Runner.adoptRecognizedPreP3Database, loaded]
      split
      · exact Triple.throw fun w same => Program.On.at same ⟨allowed.threw, Call.begin_quiet quiet⟩
      · rename_i baseline found
        exact lock_ends (fun idle => started idle ▸ adopt baseline command found) allowed
          (Call.begin_quiet quiet) late

theorem LedgerSound.found (sound : LedgerSound schemas chain server.committed) (call : Call Data) :
    LedgerSound schemas chain (call.found server) := by
  rcases sound with unversioned | ⟨count, applied⟩
  · exact Or.inl unversioned
  · exact Or.inr ⟨count, applied.within, applied.ledger, applied.schema⟩

theorem Call.sound_ends (loaded : loadMigrations package = .ok chain) (quiet : Quiet server)
    (sound : LedgerSound schemas chain server.committed) :
    Ends (soundEnding schemas chain) (call.begin server) (call.command.task schemas package) := by
  have packaged := loadMigrations_packaged loaded
  have found := sound.found call
  apply Call.task_ends loaded quiet (soundEnding_allows found _)
  · rintro db sent (applied | sound)
    · exact Or.inr ⟨_, applied⟩
    · exact sound
  · exact fun _ => runUnderLock_sound packaged found
  · exact fun baseline _ first => adoptUnderLock_sound packaged found first

theorem Call.sound (loaded : loadMigrations package = .ok chain) (quiet : Quiet server)
    (sound : LedgerSound schemas chain server.committed) :
    Quiet (call.outcome schemas package server).2 ∧
      LedgerSound schemas chain (call.outcome schemas package server).2.committed := by
  obtain ⟨quiet', -, ended⟩ := Call.ends (@Call.sound_ends _ _ _ _ _ call _ loaded quiet sound)
  refine ⟨quiet', ?_⟩
  rcases ended with applied | sound | sound
  · exact Or.inr ⟨_, applied⟩
  · exact sound
  · exact sound

theorem Call.stopped (ends : Ends (stoppedEnding (call.found server) server.sent) (call.begin server)
    (call.command.task schemas package)) : Stopped schemas package call server := by
  obtain ⟨-, returned, ended⟩ := Call.ends ends
  refine ⟨fun done same => returned done same, ?_⟩
  rcases ended with impossible | same | same
  · exact impossible.elim
  · exact same
  · exact same

def admins : Migration where
  version := "0001"
  name := "initial_schema"
  filename := "0001_initial_schema.sql"
  checksum := "1c240bcec3af08e1ded26e313d7a1dbf5eed80ef37e9929d48deb4d147d170e6"
  sql := "CREATE TABLE admins (id SERIAL PRIMARY KEY);\n"

end Calls

end PublicLighting.Migrations.Runner
