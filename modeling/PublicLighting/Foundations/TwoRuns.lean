import PublicLighting.Foundations.Transactions

/-! Two programs run from states that are alike, as far as both of them return. -/

namespace PublicLighting.Foundations

open Program (Scheduled Fault)

/-- Where both programs return from states related by `before`, what they return and where they leave
the states is related by `after`. Each has its own schedule of faults. -/
def TwoRuns {State Error Other α β : Type} (before : State → State → Prop) (left : Program (Scheduled State) Error α)
    (right : Program (Scheduled State) Other β) (after : α → State → β → State → Prop) : Prop :=
  ∀ w v, before w.state v.state → ∀ a b, (left w).1 = .returned a → (right v).1 = .returned b →
    after a (left w).2.state b (right v).2.state

namespace TwoRuns

variable {State Error Other Next NextOther α β γ δ : Type} {before : State → State → Prop}
variable {left : Program (Scheduled State) Error α} {right : Program (Scheduled State) Other β}
variable {after : α → State → β → State → Prop}

theorem weaken {before' : State → State → Prop} {after' : α → State → β → State → Prop}
    (runs : TwoRuns before left right after) (pre : ∀ s t, before' s t → before s t)
    (post : ∀ a s b t, after a s b t → after' a s b t) : TwoRuns before' left right after' :=
  fun w v here a b ended stopped => post _ _ _ _ (runs w v (pre _ _ here) a b ended stopped)

theorem pure {a : α} {b : β} (holds : ∀ s t, before s t → after a s b t) :
    TwoRuns before (Pure.pure a : Program (Scheduled State) Error α)
      (Pure.pure b : Program (Scheduled State) Other β) after := by
  intro w v here a b ended stopped
  cases ended
  cases stopped
  exact holds _ _ here

theorem throw {error : Error} : TwoRuns before (Program.throw error) right after :=
  fun _ _ _ _ _ ended => nomatch ended

theorem bind_returned {first : Program (Scheduled State) Error α} {rest : α → Program (Scheduled State) Error γ}
    {w : Scheduled State} {c : γ} (ended : ((first >>= rest) w).1 = .returned c) :
    ∃ a, (first w).1 = .returned a ∧ (rest a (first w).2).1 = .returned c ∧
      (first >>= rest) w = rest a (first w).2 := by
  have unfolded : (first >>= rest) w = Program.bind first rest w := rfl
  rw [unfolded] at ended ⊢
  unfold Program.bind at ended ⊢
  rcases ran : first w with ⟨a | error | _, w'⟩ <;> rw [ran] at ended
  · exact ⟨a, rfl, ended, rfl⟩
  · cases ended
  · cases ended

theorem bind {rest : α → Program (Scheduled State) Error γ} {tail : β → Program (Scheduled State) Other δ}
    {last : γ → State → δ → State → Prop} (first : TwoRuns before left right after)
    (second : ∀ a b, TwoRuns (fun s t => after a s b t) (rest a) (tail b) last) :
    TwoRuns before (left >>= rest) (right >>= tail) last := by
  intro w v here c d ended stopped
  obtain ⟨a, returned, continued, same⟩ := bind_returned ended
  obtain ⟨b, answered, followed, alike⟩ := bind_returned stopped
  rw [same, alike]
  exact second a b _ _ (first w v here a b returned answered) c d continued followed

theorem await_returned {error : Error} {refuse lose : State → State} {effect : State → Except Error α × State}
    {w : Scheduled State} {a : α} (returned : (Program.await error refuse lose effect w).1 = .returned a) :
    effect w.state = (.ok a, (Program.await error refuse lose effect w).2.state) := by
  unfold Program.await at returned ⊢
  rcases ran : effect w.state with ⟨answer, s⟩
  rw [ran] at returned
  cases fault : w.faults w.awaits with
  | none =>
      rw [fault] at returned
      cases answer with
      | ok value =>
          cases returned
          rfl
      | error => cases returned
  | refused =>
      rw [fault] at returned
      cases returned
  | lost =>
      rw [fault] at returned
      cases returned
  | killed =>
      rw [fault] at returned
      cases returned
  | killedAfter =>
      rw [fault] at returned
      cases returned

theorem await {error : Error} {other : Other} {refuse lose refuse' lose' : State → State}
    {effect : State → Except Error α × State} {act : State → Except Other β × State}
    (holds : ∀ s t a b s' t', before s t → effect s = (.ok a, s') → act t = (.ok b, t') → after a s' b t') :
    TwoRuns before (Program.await error refuse lose effect) (Program.await other refuse' lose' act) after := by
  intro w v here a b ended stopped
  exact holds _ _ _ _ _ _ here (await_returned ended) (await_returned stopped)

theorem catching {handler : Error → Program (Scheduled State) Next α}
    {rescue : Other → Program (Scheduled State) NextOther β} (body : TwoRuns before left right after)
    (silent : ∀ error w a, (handler error w).1 ≠ .returned a)
    (mute : ∀ error w b, (rescue error w).1 ≠ .returned b) :
    TwoRuns before (Program.catching left handler) (Program.catching right rescue) after := by
  intro w v here a b ended stopped
  have ran := body w v here
  unfold Program.catching at ended stopped ⊢
  rcases first : left w with ⟨_ | _ | _, w'⟩ <;> rw [first] at ended ran
  · rcases second : right v with ⟨_ | _ | _, v'⟩ <;> rw [second] at stopped ran
    · cases ended
      cases stopped
      exact ran _ _ rfl rfl
    · exact absurd stopped (mute _ _ _)
    · cases stopped
  · exact absurd ended (silent _ _ _)
  · cases ended

theorem ending {cleanup : Program (Scheduled State) Error Unit} {tidy : Program (Scheduled State) Other Unit}
    {last : α → State → β → State → Prop} (body : TwoRuns before left right after)
    (cleaned : ∀ a b, TwoRuns (fun s t => after a s b t) cleanup tidy (fun _ s _ t => last a s b t)) :
    TwoRuns before (Program.ending left cleanup) (Program.ending right tidy) last := by
  intro w v here a b ended stopped
  have ran := body w v here
  unfold Program.ending at ended stopped ⊢
  rcases first : left w with ⟨a' | _ | _, w'⟩ <;> rw [first] at ended ran
  · rcases second : right v with ⟨b' | _ | _, v'⟩ <;> rw [second] at stopped ran
    · have tidied := cleaned a' b' w' v' (ran _ _ rfl rfl)
      rcases left' : cleanup w' with ⟨_ | _ | _, w''⟩ <;> rw [left'] at tidied <;> simp only [left'] at ended ⊢
      · rcases right' : tidy v' with ⟨_ | _ | _, v''⟩ <;> rw [right'] at tidied <;> simp only [right'] at stopped ⊢
        · cases ended
          cases stopped
          exact tidied _ _ rfl rfl
        · cases stopped
        · cases stopped
      · cases ended
      · cases ended
    · rcases right' : tidy v' with ⟨_ | _ | _, v''⟩ <;> simp only [right'] at stopped <;> cases stopped
    · cases stopped
  · rcases left' : cleanup w' with ⟨_ | _ | _, w''⟩ <;> simp only [left'] at ended <;> cases ended
  · cases ended

end TwoRuns

/-! The statements of one connection, run twice from the same state. -/

namespace Transactions

variable {Db Locals Error α : Type} {failed : Error}

/-- Both runs return the same and leave the same state. -/
def SameAnswer (a : α) (s : Client Db Locals) (b : α) (t : Client Db Locals) : Prop := a = b ∧ s = t

theorem alike_query {effect : Db → Except Error (α × Db)} :
    TwoRuns (· = ·) (query failed effect : Task Db Locals Error α) (query failed effect) SameAnswer := by
  apply TwoRuns.await
  intro s t a b s' t' same ended stopped
  rw [same, stopped] at ended
  cases ended
  exact ⟨rfl, rfl⟩

/-- A statement answers on its own or in a transaction. -/
theorem statement_answered {effect : Db → Except Error (α × Db)} {a : α} {s t : Client Db Locals}
    (answered : statement failed effect s = (.ok a, t)) :
    (∃ db, s.session = .idle ∧ effect s.committed = .ok (a, db) ∧ t = { s with committed := db }) ∨
      ∃ work db, s.session = .working work ∧ effect work = .ok (a, db) ∧ t = { s with session := .working db } := by
  unfold statement at answered
  split at answered
  · rename_i idle
    split at answered
    · rename_i value db ran
      cases answered
      exact Or.inl ⟨db, idle, ran, rfl⟩
    · cases answered
  · rename_i work working
    split at answered
    · rename_i value db ran
      cases answered
      exact Or.inr ⟨work, db, working, ran, rfl⟩
    · cases answered
  · cases answered

theorem statement_same {effect act : Db → Except Error (α × Db)} {a : α} {s t u : Client Db Locals}
    (same : ∀ db left right, effect db = .ok (a, left) → act db = .ok (a, right) → left = right)
    (first : statement failed effect s = (.ok a, t)) (second : statement failed act s = (.ok a, u)) : t = u := by
  rcases statement_answered first with ⟨db, idle, ran, rfl⟩ | ⟨work, db, working, ran, rfl⟩
  · rcases statement_answered second with ⟨db', _, went, rfl⟩ | ⟨work, db', other, _⟩
    · rw [same _ _ _ ran went]
    · rw [idle] at other
      cases other
  · rcases statement_answered second with ⟨db', other, _⟩ | ⟨work', db', again, went, rfl⟩
    · rw [working] at other
      cases other
    · rw [working] at again
      cases again
      rw [same _ _ _ ran went]

theorem alike_assign {f : Locals → Locals} :
    TwoRuns (· = ·) (assign f : Task Db Locals Error Unit) (assign f : Task Db Locals Error Unit) SameAnswer := by
  intro w v same a b _ _
  refine And.intro rfl ?_
  simp only [assign, Program.update, show w.state = v.state from same]

theorem alike_begin : TwoRuns (· = ·) (sqlBegin failed : Task Db Locals Error Unit)
    (sqlBegin failed) SameAnswer := by
  apply TwoRuns.await
  intro s t a b s' t' same ended stopped
  rw [same, stopped] at ended
  cases ended
  exact ⟨rfl, rfl⟩

theorem alike_commit {unheard : Locals → Locals} :
    TwoRuns (· = ·) (sqlCommit failed unheard : Task Db Locals Error Unit)
      (sqlCommit failed unheard) SameAnswer := by
  apply TwoRuns.await
  intro s t a b s' t' same ended stopped
  rw [same, stopped] at ended
  cases ended
  exact ⟨rfl, rfl⟩

theorem alike_bind {β : Type} {first : Task Db Locals Error α} {rest tail : α → Task Db Locals Error β}
    {after : β → Client Db Locals → β → Client Db Locals → Prop}
    (alike : TwoRuns (· = ·) first first SameAnswer) (second : ∀ a, TwoRuns (· = ·) (rest a) (tail a) after) :
    TwoRuns (· = ·) (first >>= rest) (first >>= tail) after := by
  refine TwoRuns.bind alike fun a b w v here => ?_
  obtain ⟨value, state⟩ := here
  rw [← value]
  exact second a w v state

end Transactions

end PublicLighting.Foundations
