import Mathlib.Data.List.Nodup
import PublicLighting.Migrations.RunnerRules

/-! The loop over the chain, and the two commands under the migration lock. -/

namespace PublicLighting.Migrations.Runner

open Foundations
open Foundations.Program (On Triple)

variable {Schema Data α β : Type}

section Chain

def rowsOf (chain : List Migration) : List AppliedMigration := chain.map Migration.row

def schemaOf (schemas : ServerSchemas Schema Data) (chain : List Migration) : Schema :=
  chain.foldl (fun schema migration => schemas.effect migration.sql schema) schemas.empty

/-- The ledger names the first migrations of the chain, and the schema is what they make. -/
structure AppliedPrefix (schemas : ServerSchemas Schema Data) (chain : List Migration) (count : Nat)
    (db : Database Schema Data) : Prop where
  within : count ≤ chain.length
  ledger : db.ledger = some (rowsOf (chain.take count))
  schema : db.schema = schemaOf schemas (chain.take count)

variable {schemas : ServerSchemas Schema Data} {chain : List Migration}

theorem versions_nodup (packaged : Packaged chain) : (chain.map (·.version)).Nodup :=
  List.pairwise_map.mpr (packaged.sorted.imp ne_of_lt)

theorem version_injective (packaged : Packaged chain) {a b : Migration} (left : a ∈ chain) (right : b ∈ chain)
    (same : a.version = b.version) : a = b :=
  List.inj_on_of_nodup_map (versions_nodup packaged) left right same

theorem byVersion_sorted (packaged : Packaged chain) (count : Nat) :
    byVersion (rowsOf (chain.take count)) = rowsOf (chain.take count) := by
  apply List.mergeSort_of_pairwise
  apply List.pairwise_map.mpr
  apply (List.Pairwise.sublist (List.take_sublist count chain) packaged.sorted).imp
  intro a b before
  exact decide_eq_true (le_of_lt before)

theorem hasVersion_take (packaged : Packaged chain) {front rest : List Migration} {migration : Migration}
    (parts : chain = front ++ migration :: rest) (count : Nat) :
    ((rowsOf (chain.take count)).any (·.version = migration.version) = true) ↔ front.length < count := by
  have member : migration ∈ chain := parts ▸ List.mem_append_right _ List.mem_cons_self
  constructor
  · intro present
    obtain ⟨row, named, same⟩ := List.any_eq_true.mp present
    obtain ⟨other, taken, rfl⟩ := List.mem_map.mp named
    cases version_injective packaged (List.mem_of_mem_take taken) member (of_decide_eq_true same)
    by_contra early
    have within : migration ∈ front := by
      rw [parts, List.take_append_of_le_length (by omega)] at taken
      exact List.mem_of_mem_take taken
    have repeated := versions_nodup packaged
    rw [parts, List.map_append, List.nodup_append] at repeated
    exact repeated.2.2 _ (List.mem_map_of_mem within) _ (List.mem_map_of_mem List.mem_cons_self) rfl
  · intro early
    apply List.any_eq_true.mpr
    refine ⟨migration.row, List.mem_map_of_mem ?_, decide_eq_true rfl⟩
    rw [parts, List.take_append]
    apply List.mem_append_right
    have room : count - front.length = count - front.length - 1 + 1 := by omega
    rw [room]
    exact List.mem_cons_self

theorem AppliedPrefix.next {front rest : List Migration} {migration : Migration} {db : Database Schema Data}
    (applied : AppliedPrefix schemas chain front.length db) (parts : chain = front ++ migration :: rest)
    (data : Data) : AppliedPrefix schemas chain (front.length + 1)
      (migrated schemas migration (rowsOf (chain.take front.length)) db.schema data) := by
  have before : chain.take front.length = front := by rw [parts, List.take_left]
  have after : chain.take (front.length + 1) = front ++ [migration] := by
    rw [parts, List.take_length_add_append]
    rfl
  constructor
  · rw [parts, List.length_append, List.length_cons]
    omega
  · rw [after, before]
    simp only [migrated, rowsOf, List.map_append, List.map_cons, List.map_nil]
  · rw [after, schemaOf, List.foldl_append]
    change schemas.effect migration.sql db.schema = _
    rw [applied.schema, before]
    rfl

/-- Where a run that found `count` migrations applied may be stopped. -/
structure Progress (schemas : ServerSchemas Schema Data) (chain : List Migration) (count : Nat)
    (found : Server Schema Data) (reached : Nat) (s : Server Schema Data) : Prop where
  forward : count ≤ reached
  applied : AppliedPrefix schemas chain reached s.committed
  replay : count = chain.length → s.committed = found.committed ∧ s.sent = found.sent

theorem applyNext_triple {front rest : List Migration} {migration : Migration} {count : Nat}
    {found : Server Schema Data} (parts : chain = front ++ migration :: rest) (late : count ≤ front.length) :
    Triple (On fun s => s.session = .idle ∧ Progress schemas chain count found front.length s)
      (applyMigration schemas migration)
      (fun _ => On fun s => s.session = .idle ∧ Progress schemas chain count found (front.length + 1) s)
      (fun _ => On fun s => Quiet s ∧ ∃ reached, Progress schemas chain count found reached s)
      (On fun s => ∃ reached, Progress schemas chain count found reached s) := by
  rintro w ⟨idle, progress⟩
  have size : front.length < chain.length := by
    rw [parts, List.length_append, List.length_cons]
    omega
  have after : ∀ t : Server Schema Data, (∃ data, t.committed = migrated schemas migration
      (rowsOf (chain.take front.length)) w.state.committed.schema data) →
      Progress schemas chain count found (front.length + 1) t := by
    rintro t ⟨data, done⟩
    exact ⟨by omega, done ▸ progress.applied.next parts data, fun all => by omega⟩
  have stopped : ∀ t : Server Schema Data, AllOrNothing schemas migration (rowsOf (chain.take front.length))
      w.state.committed t.committed → ∃ reached, Progress schemas chain count found reached t := by
    rintro t (same | ⟨data, -, done⟩)
    · exact ⟨front.length, late, same ▸ progress.applied, fun all => by omega⟩
    · exact ⟨front.length + 1, after t ⟨data, done⟩⟩
  have state : w.state = ⟨w.state.committed, .idle, w.state.sent⟩ := by rw [← idle]
  apply (applyMigration_triple progress.applied.ledger).weaken (fun _ => id) _ _ _ w state
  · rintro _ t ⟨data, -, done⟩
    have ended : t.state = ⟨_, .idle, _⟩ := done
    exact ⟨congrArg Server.session ended, after _ ⟨data, congrArg Server.committed ended⟩⟩
  · exact fun _ t ended => ⟨ended.2, stopped _ ended.1⟩
  · exact fun t ended => stopped _ ended

theorem applyChain_triple (packaged : Packaged chain) {count : Nat} {db : Database Schema Data}
    {sent : List String} (applied : AppliedPrefix schemas chain count db) :
    Triple (On (· = ⟨db, .idle, sent⟩)) (Program.forEach (fun migration =>
        if (rowsOf (chain.take count)).any (·.version = migration.version) then pure ()
        else applyMigration schemas migration) chain)
      (fun _ => On fun s => s.session = .idle ∧ Progress schemas chain count ⟨db, .idle, sent⟩ chain.length s)
      (fun _ => On fun s => Quiet s ∧ ∃ reached, Progress schemas chain count ⟨db, .idle, sent⟩ reached s)
      (On fun s => ∃ reached, Progress schemas chain count ⟨db, .idle, sent⟩ reached s) := by
  have loop := @Triple.forEach _ _ _
    (fun _ => On fun s => Quiet s ∧ ∃ reached, Progress schemas chain count ⟨db, .idle, sent⟩ reached s)
    (On fun s => ∃ reached, Progress schemas chain count ⟨db, .idle, sent⟩ reached s)
    (fun migration => if (rowsOf (chain.take count)).any (·.version = migration.version) then pure ()
      else applyMigration schemas migration)
    (fun rest => On fun s => s.session = .idle ∧
      Progress schemas chain count ⟨db, .idle, sent⟩ (max count (chain.length - rest.length)) s) chain
  apply (loop _).weaken
  · rintro w same
    have state : w.state = ⟨db, .idle, sent⟩ := same
    change w.state.session = .idle ∧ _
    rw [state, Nat.sub_self, Nat.max_zero]
    exact ⟨rfl, le_rfl, applied, fun _ => ⟨rfl, rfl⟩⟩
  · rintro _ w ⟨idle, progress⟩
    rw [List.length_nil, Nat.sub_zero, Nat.max_eq_right applied.within] at progress
    exact ⟨idle, progress⟩
  · exact fun _ _ => id
  · exact fun _ => id
  · rintro migration rest ⟨front, parts⟩
    have size : chain.length = front.length + (rest.length + 1) := by
      rw [parts, List.length_append, List.length_cons]
    have done : chain.length - (migration :: rest).length = front.length := by
      rw [List.length_cons]
      omega
    have left : chain.length - rest.length = front.length + 1 := by omega
    rw [done, left]
    by_cases early : front.length < count
    · rw [if_pos ((hasVersion_take packaged parts count).mpr early), Nat.max_eq_left (by omega),
        Nat.max_eq_left (by omega)]
      exact Triple.pure fun _ => id
    · rw [if_neg (mt (hasVersion_take packaged parts count).mp early), Nat.max_eq_right (by omega),
        Nat.max_eq_right (by omega)]
      exact applyNext_triple parts (by omega)

end Chain

section ApplyRemaining

variable {schemas : ServerSchemas Schema Data} {chain : List Migration} {db : Database Schema Data}
  {sent : List String} {rows : List AppliedMigration}

theorem reads_readApplied : Reads (readApplied : Task Schema Data (List AppliedMigration)) fun db applied =>
    ∃ rows, db.ledger = some rows ∧ applied = byVersion rows := by
  apply (Reads.query fun db value db' answered => ?_).weaken
  · intro db value answered
    split at answered
    · cases answered
    · rename_i rows ledger
      cases answered
      exact ⟨rows, ledger, rfl⟩
  · split at answered
    · cases answered
    · cases answered
      rfl

theorem reads_checkApplied {applied : List AppliedMigration} :
    Reads (Program.forEach (fun row => require (matchesPackaged chain row)
        (.migration s!"Applied migration checksum/name mismatch at version {row.version}.")) applied :
      Task Schema Data Unit) fun _ _ => ∀ row ∈ applied, matchesPackaged chain row = true := by
  induction applied with
  | nil => exact Reads.pure fun _ _ found => nomatch found
  | cons row applied ih =>
      refine Reads.bind Reads.require fun _ => ih.weaken fun _ _ others first => ?_
      exact List.forall_mem_cons.mpr ⟨first, others⟩

theorem createLedger_present (ledger : db.ledger = some rows) :
    Triple (On (· = ⟨db, .idle, sent⟩)) createLedger (fun _ => On (· = ⟨db, .idle, sent⟩))
      (fun _ => On (Kept ⟨db, .idle, sent⟩)) (On (Kept ⟨db, .idle, sent⟩)) := by
  have same : ({ db with ledger := some (db.ledger.getD []) } : Database Schema Data) = db := by
    rcases db with ⟨_, _, _⟩
    cases ledger
    rfl
  have created := @query_idle Schema Data Unit
    (fun db => .ok ((), { db with ledger := some (db.ledger.getD []) })) db db () sent (by rw [same])
  refine created.weaken (fun _ => id) (fun _ _ ended => ended.2) ?_ ?_
  · rintro _ w (ended | ended) <;> exact (show w.state = _ from ended) ▸ Kept.refl _
  · rintro w (ended | ended) <;> exact (show w.state = _ from ended) ▸ Kept.refl _

theorem applyRemaining_triple (packaged : Packaged chain) {count : Nat}
    (applied : AppliedPrefix schemas chain count db) :
    Triple (On (· = ⟨db, .idle, sent⟩)) (applyRemaining schemas chain)
      (fun _ => On fun s => s.session = .idle ∧ Progress schemas chain count ⟨db, .idle, sent⟩ chain.length s)
      (fun _ => On fun s => Quiet s ∧ ∃ reached, Progress schemas chain count ⟨db, .idle, sent⟩ reached s)
      (On fun s => ∃ reached, Progress schemas chain count ⟨db, .idle, sent⟩ reached s) := by
  have stopped : ∀ s, Kept ⟨db, .idle, sent⟩ s →
      Quiet s ∧ ∃ reached, Progress schemas chain count ⟨db, .idle, sent⟩ reached s := by
    intro s kept
    exact ⟨kept.quiet nofun, count, le_rfl, kept.committed ▸ applied, fun _ => ⟨kept.committed, kept.sent⟩⟩
  have early : ∀ {β : Type} {task : Task Schema Data β} {post : β → Server Schema Data → Prop},
      Triple (On (· = ⟨db, .idle, sent⟩)) task (fun value => On (post value))
        (fun _ => On (Kept ⟨db, .idle, sent⟩)) (On (Kept ⟨db, .idle, sent⟩)) →
      Triple (On (· = ⟨db, .idle, sent⟩)) task (fun value => On (post value))
        (fun _ => On fun s => Quiet s ∧ ∃ reached, Progress schemas chain count ⟨db, .idle, sent⟩ reached s)
        (On fun s => ∃ reached, Progress schemas chain count ⟨db, .idle, sent⟩ reached s) :=
    fun triple => triple.weaken (fun _ => id) (fun _ _ => id) (fun _ w => stopped w.state)
      fun w kept => (stopped w.state kept).2
  refine Triple.bind (early (createLedger_present applied.ledger)) fun _ => ?_
  refine Triple.bind (early (reads_readApplied _)) fun answer => ?_
  rintro w ⟨same, read⟩
  obtain ⟨rows, ledger, rfl⟩ := read db rfl
  cases applied.ledger.symm.trans ledger
  rw [byVersion_sorted packaged]
  refine Triple.bind (early (reads_checkApplied _)) (fun _ => ?_) w same
  rintro w ⟨same, -⟩
  refine Triple.bind (early (Reads.require _)) (fun _ => ?_) w same
  rintro w ⟨same, -⟩
  exact applyChain_triple packaged applied w same

end ApplyRemaining

section Locked

/-- The ways a call may end, each said of what is committed and of what was sent. -/
structure Ending (Schema Data : Type) where
  returned : Database Schema Data → List String → Prop
  threw : Database Schema Data → List String → Prop
  died : Database Schema Data → List String → Prop

def Ends (ending : Ending Schema Data) (s₀ : Server Schema Data) (task : Task Schema Data Unit) : Prop :=
  Triple (On (· = s₀)) task (fun _ => On fun s => ending.returned s.committed s.sent ∧ Quiet s)
    (fun _ => On fun s => ending.threw s.committed s.sent ∧ Quiet s)
    (On fun s => ending.died s.committed s.sent)

structure Ending.Allows (ending : Ending Schema Data) (s : Server Schema Data) : Prop where
  threw : ending.threw s.committed s.sent
  died : ending.died s.committed s.sent

theorem Reads.early {ending : Ending Schema Data} {s₀ : Server Schema Data} {task : Task Schema Data α}
    {about : Database Schema Data → α → Prop} (reads : Reads task about) (allowed : ending.Allows s₀)
    (quiet : Quiet s₀) :
    Triple (On (· = s₀)) task (fun value => On fun s => s = s₀ ∧ ∀ db, Sees s₀ db → about db value)
      (fun _ => On fun s => ending.threw s.committed s.sent ∧ Quiet s)
      (On fun s => ending.died s.committed s.sent) := by
  refine (reads s₀).weaken (fun _ => id) (fun _ _ => id) ?_ ?_
  · intro _ w kept
    exact ⟨kept.committed ▸ kept.sent ▸ allowed.threw, kept.quiet quiet⟩
  · intro w kept
    exact (kept.committed ▸ kept.sent ▸ allowed.died : ending.died w.state.committed w.state.sent)

theorem unlock_triple {holds : Database Schema Data → List String → Prop} :
    Triple (On fun s : Server Schema Data => holds s.committed s.sent ∧ Quiet s)
      (ignoring (select fun _ => ())) (fun _ => On fun s => holds s.committed s.sent ∧ Quiet s)
      (fun _ _ => False) (On fun s => holds s.committed s.sent) := by
  rintro w ⟨before, quiet⟩
  have kept : ∀ s, Kept w.state s → holds s.committed s.sent ∧ Quiet s :=
    fun s kept => ⟨kept.committed ▸ kept.sent ▸ before, kept.quiet quiet⟩
  have unlocked := (@Reads.select Schema Data Unit (fun _ => ()) w.state).weaken (fun _ => id)
    (fun _ t ended => (kept t.state (ended.1 ▸ Kept.refl _) : holds t.state.committed t.state.sent ∧ Quiet t.state))
    (fun _ t ended => (kept t.state ended : holds t.state.committed t.state.sent ∧ Quiet t.state))
    (fun t ended => ((kept t.state ended).1 : holds t.state.committed t.state.sent))
  exact Triple.catching unlocked (fun _ => Triple.pure fun _ => id) w rfl

theorem lock_ends {ending : Ending Schema Data} {s₀ : Server Schema Data} {run : Task Schema Data Unit}
    (inner : s₀.session = .idle → Ends ending s₀ run) (allowed : ending.Allows s₀) (quiet : Quiet s₀)
    (late : ∀ db sent, ending.returned db sent ∨ ending.threw db sent → ending.died db sent) :
    Ends ending s₀ (withMigrationLock run) := by
  refine Triple.bind (reads_connect.early allowed quiet) fun _ => ?_
  rintro w ⟨same, -⟩
  have locked := (@query_answered Schema Data Unit (fun db => .ok ((), db))
    (fun db value db' answered => by cases answered; rfl) s₀).weaken
    (fun _ => id) (fun _ _ => id)
    (fun _ w kept => (⟨kept.committed ▸ kept.sent ▸ allowed.threw, kept.quiet quiet⟩ :
      ending.threw w.state.committed w.state.sent ∧ Quiet w.state))
    (fun w kept => (kept.committed ▸ kept.sent ▸ allowed.died : ending.died w.state.committed w.state.sent))
  refine Triple.bind locked (fun _ => ?_) w same
  rintro w ⟨same, db, seen, -⟩
  have idle : s₀.session = .idle := by
    unfold Sees at seen
    split at seen
    · assumption
    · rename_i work working
      exact absurd working (quiet work)
    · exact seen.elim
  refine Triple.ending (inner idle) (fun _ => ?_) (fun _ => ?_) w same
  · exact unlock_triple.weaken (fun _ => id) (fun _ _ => id)
      (fun _ _ => False.elim) (fun _ ended => late _ _ (Or.inl ended))
  · exact unlock_triple.weaken (fun _ => id) (fun _ _ => id) (fun _ _ => False.elim)
      fun _ ended => late _ _ (Or.inr ended)

end Locked

section Commands

variable (schemas : ServerSchemas Schema Data) (chain : List Migration)

/-- The exact fingerprint of the schema before the inventory migration. -/
def RecognizedPreP3 (schema : Schema) : Prop :=
  schemas.tables schema = legacyTables ∧ ∀ part, schemas.shows part schema = true

/-- An empty database, or the recognized one of before the ledger. -/
def Unversioned (db : Database Schema Data) : Prop :=
  db.ledger = none ∧ (db.schema = schemas.empty ∨
    RecognizedPreP3 schemas db.schema ∧ db.schema = schemaOf schemas (chain.take 1))

def LedgerSound (db : Database Schema Data) : Prop :=
  Unversioned schemas chain db ∨ ∃ count, AppliedPrefix schemas chain count db

/-- Success has applied the whole chain, and anything else a prefix of it. -/
def soundEnding : Ending Schema Data where
  returned db _ := AppliedPrefix schemas chain chain.length db
  threw db _ := LedgerSound schemas chain db
  died db _ := LedgerSound schemas chain db

def replayEnding (db : Database Schema Data) (sent : List String) : Ending Schema Data where
  returned db' sent' := db' = db ∧ sent' = sent
  threw db' sent' := db' = db ∧ sent' = sent
  died db' sent' := db' = db ∧ sent' = sent

def stoppedEnding (db : Database Schema Data) (sent : List String) : Ending Schema Data :=
  { replayEnding db sent with returned := fun _ _ => False }

variable {schemas chain} {db : Database Schema Data} {sent : List String} {rows : List AppliedMigration}
  {ending : Ending Schema Data}

theorem soundEnding_allows (sound : LedgerSound schemas chain db) (session : Session Schema Data) :
    (soundEnding schemas chain).Allows ⟨db, session, sent⟩ := ⟨sound, sound⟩

theorem Kept.stopped {after : Server Schema Data} (kept : Kept ⟨db, .idle, sent⟩ after) :
    (after.committed = db ∧ after.sent = sent) ∧ Quiet after :=
  ⟨⟨kept.committed, kept.sent⟩, kept.quiet nofun⟩

theorem applyRemaining_sound (packaged : Packaged chain) {count : Nat}
    (applied : AppliedPrefix schemas chain count db) :
    Ends (soundEnding schemas chain) ⟨db, .idle, sent⟩ (applyRemaining schemas chain) := by
  apply (applyRemaining_triple packaged applied).weaken (fun _ => id)
  · rintro _ w ⟨idle, progress⟩
    exact ⟨progress.applied, by simp [Quiet, idle]⟩
  · rintro _ w ⟨quiet, reached, progress⟩
    exact ⟨Or.inr ⟨reached, progress.applied⟩, quiet⟩
  · rintro w ⟨reached, progress⟩
    exact Or.inr ⟨reached, progress.applied⟩

theorem runUnderLock_begins (allowed : ending.Allows ⟨db, .idle, sent⟩)
    (rest : Ends ending ⟨db, .idle, sent⟩
      (if db.ledger.isSome then applyRemaining schemas chain else runUnversioned schemas chain)) :
    Ends ending ⟨db, .idle, sent⟩ (runUnderLock schemas chain) := by
  refine Triple.bind (reads_encoding.early allowed nofun) fun _ => ?_
  rintro w ⟨same, -⟩
  refine Triple.bind (Reads.select.early allowed nofun) (fun present => ?_) w same
  rintro w ⟨same, answer⟩
  rw [answer db rfl]
  exact rest w same

theorem runUnderLock_versioned (ledger : db.ledger = some rows) (allowed : ending.Allows ⟨db, .idle, sent⟩)
    (rest : Ends ending ⟨db, .idle, sent⟩ (applyRemaining schemas chain)) :
    Ends ending ⟨db, .idle, sent⟩ (runUnderLock schemas chain) := by
  apply runUnderLock_begins allowed
  rw [ledger]
  exact rest

theorem runUnderLock_foreign (ledger : db.ledger = none) (tables : schemas.tables db.schema ≠ [])
    (allowed : ending.Allows ⟨db, .idle, sent⟩) :
    Ends ending ⟨db, .idle, sent⟩ (runUnderLock schemas chain) := by
  apply runUnderLock_begins allowed
  rw [ledger]
  refine Triple.bind (Reads.select.early allowed nofun) fun found => ?_
  rintro w ⟨same, answer⟩
  refine Triple.bind (Reads.require.early allowed nofun) (fun _ => ?_) w same
  rintro w ⟨same, none⟩
  have empty := none db rfl
  rw [answer db rfl] at empty
  exact absurd (List.eq_nil_of_length_eq_zero (by simpa using empty)) tables

theorem runUnderLock_empty (packaged : Packaged chain) (ledger : db.ledger = none)
    (empty : db.schema = schemas.empty) :
    Ends (soundEnding schemas chain) ⟨db, .idle, sent⟩ (runUnderLock schemas chain) := by
  have allowed := @soundEnding_allows _ _ schemas chain db sent (Or.inl ⟨ledger, Or.inl empty⟩) .idle
  have started : AppliedPrefix schemas chain 0 { db with ledger := some [] } := ⟨Nat.zero_le _, rfl, empty⟩
  apply runUnderLock_begins allowed
  rw [ledger]
  refine Triple.bind (Reads.select.early allowed nofun) fun found => ?_
  rintro w ⟨same, answer⟩
  refine Triple.bind (Reads.require.early allowed nofun) (fun _ => ?_) w same
  rintro w ⟨same, -⟩
  have created := @query_idle Schema Data Unit
    (fun db => .ok ((), { db with ledger := some (db.ledger.getD []) })) db { db with ledger := some [] } ()
    sent (by rw [ledger]; rfl)
  refine Triple.bind (created.weaken (fun _ => id) (fun _ _ => id) ?_ ?_) (fun _ => ?_) w same
  · rintro _ w (ended | ended)
    · exact Program.On.at ended ⟨allowed.threw, nofun⟩
    · exact Program.On.at ended ⟨Or.inr ⟨0, started⟩, nofun⟩
  · rintro w (ended | ended)
    · exact Program.On.at ended allowed.died
    · exact Program.On.at ended (Or.inr ⟨0, started⟩)
  · rintro w ⟨-, same⟩
    exact applyRemaining_sound packaged started w same

theorem runUnderLock_sound (packaged : Packaged chain) (sound : LedgerSound schemas chain db) :
    Ends (soundEnding schemas chain) ⟨db, .idle, sent⟩ (runUnderLock schemas chain) := by
  have allowed := @soundEnding_allows _ _ schemas chain db sent sound .idle
  rcases sound with ⟨ledger, empty | ⟨recognized, -⟩⟩ | ⟨count, applied⟩
  · exact runUnderLock_empty packaged ledger empty
  · apply runUnderLock_foreign ledger _ allowed
    rw [recognized.1]
    decide
  · exact runUnderLock_versioned applied.ledger allowed (applyRemaining_sound packaged applied)

/-- A stop that is allowed whether the call goes on to raise or the process dies. -/
def Stoppable (ending : Ending Schema Data) (s : Server Schema Data) : Prop :=
  ending.threw s.committed s.sent ∧ ending.died s.committed s.sent

theorem Ending.Allows.stoppable {s : Server Schema Data} (allowed : ending.Allows ⟨db, .idle, sent⟩)
    (committed : s.committed = db) (same : s.sent = sent) : Stoppable ending s := by
  rw [Stoppable, committed, same]
  exact ⟨allowed.threw, allowed.died⟩

theorem rolledBack_triple {before : Program.Scheduled (Server Schema Data) → Prop} {body : Task Schema Data α}
    {after : α → Program.Scheduled (Server Schema Data) → Prop} {raise : RunnerError → RunnerError}
    (triple : Triple before body after (fun _ => On (Stoppable ending))
      (On fun s => ending.died s.committed s.sent)) :
    Triple before (Program.catching body fun error => do ignoring sqlRollback; Program.throw (raise error))
      after (fun _ => On fun s => ending.threw s.committed s.sent ∧ Quiet s)
      (On fun s => ending.died s.committed s.sent) := by
  refine Triple.catching triple fun error => ?_
  exact (@rollback_throw _ _ _ (fun committed sent => ending.threw committed sent ∧ ending.died committed sent)
    (raise error)).weaken (fun _ => id) (fun _ _ => False.elim) (fun _ _ stopped => ⟨stopped.1.1, stopped.2⟩)
    fun _ stopped => stopped.2

theorem inspectReadOnly_triple (allowed : ending.Allows ⟨db, .idle, sent⟩) :
    Triple (On (· = ⟨db, .idle, sent⟩)) (inspectReadOnly schemas)
      (fun state => On fun s => s = ⟨db, .idle, sent⟩ ∧
        (state = .recognizedPreP3 → schemas.tables db.schema = legacyTables))
      (fun _ => On fun s => ending.threw s.committed s.sent ∧ Quiet s)
      (On fun s => ending.died s.committed s.sent) := by
  have begun := (@begin_idle _ _ db sent).weaken (fun _ => id) (fun _ _ => id)
    (fun _ w ended => (⟨(allowed.stoppable ended.1 ended.2.1).1, ended.2.2⟩ :
      ending.threw w.state.committed w.state.sent ∧ Quiet w.state))
    (fun w ended => ((allowed.stoppable ended.1 ended.2).2 : ending.died w.state.committed w.state.sent))
  refine Triple.bind begun fun _ => rolledBack_triple ?_
  have inspected := (@reads_inspect _ _ schemas ⟨db, .working db, sent⟩).weaken (fun _ => id) (fun _ _ => id)
    (fun _ w kept => (allowed.stoppable kept.committed kept.sent : Stoppable ending w.state))
    (fun w kept => ((allowed.stoppable kept.committed kept.sent).2 :
      ending.died w.state.committed w.state.sent))
  refine Triple.bind inspected fun state => ?_
  rintro w ⟨same, recognized⟩
  have committed := (@commit_working _ _ db db sent).weaken (fun _ => id) (fun _ _ => id)
    (fun _ w ended => (allowed.stoppable (ended.1.elim id id) ended.2 : Stoppable ending w.state))
    (fun w ended => ((allowed.stoppable (ended.1.elim id id) ended.2).2 :
      ending.died w.state.committed w.state.sent))
  refine Triple.bind committed (fun _ => ?_) w same
  exact Triple.pure fun w same => ⟨same, recognized db rfl⟩

theorem stampBaseline_triple {baseline : Migration} (ledger : db.ledger = none)
    (unstamped : ending.Allows ⟨db, .idle, sent⟩)
    (stamped : ending.Allows ⟨{ db with ledger := some [baseline.row] }, .idle, sent⟩) :
    Triple (On (· = ⟨db, .idle, sent⟩)) (stampBaseline baseline)
      (fun _ => On (· = ⟨{ db with ledger := some [baseline.row] }, .idle, sent⟩))
      (fun _ => On fun s => ending.threw s.committed s.sent ∧ Quiet s)
      (On fun s => ending.died s.committed s.sent) := by
  have unchanged : ∀ s : Server Schema Data, s.committed = db ∧ s.sent = sent → Stoppable ending s :=
    fun s ended => unstamped.stoppable ended.1 ended.2
  refine @rolledBack_triple _ _ _ ending _ _ _ _ ?_
  have begun := (@begin_idle _ _ db sent).weaken (fun _ => id) (fun _ _ => id)
    (fun _ w ended => (unchanged w.state ⟨ended.1, ended.2.1⟩ : Stoppable ending w.state))
    (fun w ended => ((unchanged w.state ended).2 : ending.died w.state.committed w.state.sent))
  refine Triple.bind begun fun _ => ?_
  have created := (@query_working _ _ Unit
    (fun db => .ok ((), { db with ledger := some (db.ledger.getD []) })) db db sent).weaken (fun _ => id)
    (fun _ _ => id) (fun _ w ended => (unchanged w.state ended : Stoppable ending w.state))
    (fun w ended => ((unchanged w.state ended).2 : ending.died w.state.committed w.state.sent))
  refine Triple.bind created fun _ => ?_
  rintro w ⟨work, done, same⟩
  cases done
  have recorded := (@recordMigration_triple _ _ baseline [] db sent
    { db with ledger := some (db.ledger.getD []) } (by rw [ledger]; rfl)).weaken (fun _ => id) (fun _ _ => id)
    (fun _ w ended => (unchanged w.state ended : Stoppable ending w.state))
    (fun w ended => ((unchanged w.state ended).2 : ending.died w.state.committed w.state.sent))
  refine Triple.bind recorded (fun _ => ?_) w same
  have ends : ∀ s : Server Schema Data, (s.committed = db ∨
      s.committed = { db with ledger := some [baseline.row] }) ∧ s.sent = sent → Stoppable ending s := by
    rintro s ⟨committed | committed, same⟩
    · exact unstamped.stoppable committed same
    · exact stamped.stoppable committed same
  exact commit_working.weaken (fun _ => id) (fun _ _ => id) (fun _ w ended => ends w.state ended)
    fun w ended => (ends w.state ended).2

theorem adoptUnderLock_begins {baseline : Migration} (allowed : ending.Allows ⟨db, .idle, sent⟩)
    (rest : db.ledger = none → Ends ending ⟨db, .idle, sent⟩ (do
      let preflight ← inspectReadOnly schemas
      require (preflight == .recognizedPreP3) (.migration
        "Adoption requires the recognized pre-P3 schema, not an empty database.")
      stampBaseline baseline
      applyRemaining schemas chain)) :
    Ends ending ⟨db, .idle, sent⟩ (adoptUnderLock schemas chain baseline) := by
  refine Triple.bind (reads_encoding.early allowed nofun) fun _ => ?_
  rintro w ⟨same, -⟩
  refine Triple.bind (Reads.select.early allowed nofun) (fun present => ?_) w same
  rintro w ⟨same, answer⟩
  refine Triple.bind (Reads.require.early allowed nofun) (fun _ => ?_) w same
  rintro w ⟨same, absent⟩
  have none := absent db rfl
  rw [answer db rfl] at none
  exact rest (by simpa using none) w same

theorem adoptUnderLock_sound (packaged : Packaged chain) (sound : LedgerSound schemas chain db)
    {baseline : Migration} (found : chain.find? (fun migration => migration.version = "0001") = some baseline) :
    Ends (soundEnding schemas chain) ⟨db, .idle, sent⟩ (adoptUnderLock schemas chain baseline) := by
  have allowed := @soundEnding_allows _ _ schemas chain db sent sound .idle
  apply adoptUnderLock_begins allowed
  intro ledger
  refine Triple.bind (inspectReadOnly_triple allowed) fun state => ?_
  rintro w ⟨same, tables⟩
  refine Triple.bind (Reads.require.early allowed nofun) (fun _ => ?_) w same
  rintro w ⟨same, recognized⟩
  have named := tables (by simpa using recognized db rfl)
  have schema : db.schema = schemaOf schemas (chain.take 1) := by
    rcases sound with ⟨-, empty | ⟨-, legacy⟩⟩ | ⟨count, applied⟩
    · rw [empty, schemas.none] at named
      cases named
    · exact legacy
    · cases ledger.symm.trans applied.ledger
  have stamped : AppliedPrefix schemas chain 1 { db with ledger := some [baseline.row] } := by
    obtain ⟨first, rest, rfl, version⟩ := packaged.baseline
    rw [List.find?_cons_of_pos (by simpa using version)] at found
    cases found
    exact ⟨Nat.succ_le_succ (Nat.zero_le _), rfl, schema⟩
  refine Triple.bind (stampBaseline_triple ledger allowed (soundEnding_allows (Or.inr ⟨1, stamped⟩) .idle))
    (fun _ => ?_) w same
  exact applyRemaining_sound packaged stamped

end Commands

end PublicLighting.Migrations.Runner
