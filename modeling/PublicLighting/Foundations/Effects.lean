import Mathlib.Tactic.Common

/-! Asynchronous programs with exceptions, whose every await may be refused, lose its
answer or be the last thing the process does, and their pre- and postconditions. -/

namespace PublicLighting.Foundations

inductive Outcome (Error α : Type)
  | returned (value : α)
  | threw (error : Error)
  | died
  deriving DecidableEq, Repr

def Program (World Error α : Type) := World → Outcome Error α × World

namespace Program

variable {World Error Next α β : Type}

protected def pure (value : α) : Program World Error α := fun w => (.returned value, w)

protected def bind (first : Program World Error α) (rest : α → Program World Error β) :
    Program World Error β := fun w =>
  match first w with
  | (.returned value, w) => rest value w
  | (.threw error, w) => (.threw error, w)
  | (.died, w) => (.died, w)

instance : Monad (Program World Error) where
  pure := Program.pure
  bind := Program.bind

def throw (error : Error) : Program World Error α := fun w => (.threw error, w)

/-- `try … catch`. A dead process catches nothing. -/
def catching (body : Program World Error α) (handler : Error → Program World Next α) :
    Program World Next α := fun w =>
  match body w with
  | (.returned value, w) => (.returned value, w)
  | (.threw error, w) => handler error w
  | (.died, w) => (.died, w)

/-- `try … finally`. What the cleanup throws takes the place of the body's outcome. -/
def ending (body : Program World Error α) (cleanup : Program World Error Unit) :
    Program World Error α := fun w =>
  match body w with
  | (.died, w) => (.died, w)
  | (outcome, w) =>
      match cleanup w with
      | (.returned _, w) => (outcome, w)
      | (.threw error, w) => (.threw error, w)
      | (.died, w) => (.died, w)

def read (f : World → α) : Program World Error α := fun w => (.returned (f w), w)

def update (f : World → World) : Program World Error Unit := fun w => (.returned (), f w)

def forEach (body : β → Program World Error Unit) : List β → Program World Error Unit
  | [] => pure ()
  | item :: items => do
      body item
      forEach body items

/-- Started where `before` holds, the program ends where the assertion about its outcome does. -/
def Triple (before : World → Prop) (program : Program World Error α) (after : α → World → Prop)
    (failed : Error → World → Prop) (dead : World → Prop) : Prop :=
  ∀ w, before w →
    match program w with
    | (.returned value, w) => after value w
    | (.threw error, w) => failed error w
    | (.died, w) => dead w

namespace Triple

variable {before : World → Prop} {after : α → World → Prop} {failed : Error → World → Prop}
  {dead : World → Prop}

theorem pure {value : α} (holds : ∀ w, before w → after value w) :
    Triple before (Pure.pure value : Program World Error α) after failed dead := holds

theorem throw {error : Error} (holds : ∀ w, before w → failed error w) :
    Triple before (Program.throw error : Program World Error α) after failed dead := holds

theorem update {change : World → World} {after : Unit → World → Prop}
    (holds : ∀ w, before w → after () (change w)) :
    Triple before (Program.update change : Program World Error Unit) after failed dead := holds

theorem read {f : World → α} (holds : ∀ w, before w → after (f w) w) :
    Triple before (Program.read f : Program World Error α) after failed dead := holds

theorem bind {program : Program World Error α} {rest : α → Program World Error β}
    {middle : α → World → Prop} {after : β → World → Prop}
    (first : Triple before program middle failed dead)
    (second : ∀ value, Triple (middle value) (rest value) after failed dead) :
    Triple before (program >>= rest) after failed dead := by
  intro w holds
  have here := first w holds
  change match Program.bind program rest w with
    | (.returned value, w) => after value w
    | (.threw error, w) => failed error w
    | (.died, w) => dead w
  unfold Program.bind
  rcases ran : program w with ⟨_ | _ | _, w'⟩ <;> rw [ran] at here
  · exact second _ w' here
  · exact here
  · exact here

theorem catching {Next : Type} {body : Program World Error α} {handler : Error → Program World Next α}
    {caught : Error → World → Prop} {failed : Next → World → Prop}
    (first : Triple before body after caught dead)
    (second : ∀ error, Triple (caught error) (handler error) after failed dead) :
    Triple before (Program.catching body handler) after failed dead := by
  intro w holds
  have here := first w holds
  unfold Program.catching
  rcases ran : body w with ⟨_ | _ | _, w'⟩ <;> rw [ran] at here
  · exact here
  · exact second _ w' here
  · exact here

theorem ending {body : Program World Error α} {cleanup : Program World Error Unit}
    {middle : α → World → Prop} {broken : Error → World → Prop}
    (first : Triple before body middle broken dead)
    (returned : ∀ value, Triple (middle value) cleanup (fun _ => after value) failed dead)
    (threw : ∀ error, Triple (broken error) cleanup (fun _ => failed error) failed dead) :
    Triple before (Program.ending body cleanup) after failed dead := by
  intro w holds
  have here := first w holds
  unfold Program.ending
  rcases ran : body w with ⟨value | error | _, w'⟩ <;> rw [ran] at here
  · have cleaned := returned value w' here
    rcases ended : cleanup w' with ⟨_ | _ | _, w''⟩ <;> rw [ended] at cleaned <;> simpa [ended] using cleaned
  · have cleaned := threw error w' here
    rcases ended : cleanup w' with ⟨_ | _ | _, w''⟩ <;> rw [ended] at cleaned <;> simpa [ended] using cleaned
  · exact here

theorem weaken {before' : World → Prop} {after' : α → World → Prop} {failed' : Error → World → Prop}
    {dead' : World → Prop} {program : Program World Error α}
    (triple : Triple before program after failed dead) (pre : ∀ w, before' w → before w)
    (post : ∀ value w, after value w → after' value w)
    (fail : ∀ error w, failed error w → failed' error w) (die : ∀ w, dead w → dead' w) :
    Triple before' program after' failed' dead' := by
  intro w holds
  have here := triple w (pre w holds)
  rcases ran : program w with ⟨_ | _ | _, w'⟩ <;> rw [ran] at here
  · exact post _ _ here
  · exact fail _ _ here
  · exact die _ here

theorem pre {before' : World → Prop} {program : Program World Error α}
    (triple : Triple before program after failed dead)
    (known : ∀ w, before' w → before w) : Triple before' program after failed dead :=
  triple.weaken known (fun _ _ => id) (fun _ _ => id) fun _ => id

theorem post {after' : α → World → Prop} {program : Program World Error α}
    (triple : Triple before program after failed dead)
    (known : ∀ value w, after value w → after' value w) : Triple before program after' failed dead :=
  triple.weaken (fun _ => id) known (fun _ _ => id) fun _ => id

theorem either {other : World → Prop} {program : Program World Error α}
    (first : Triple before program after failed dead)
    (second : Triple other program after failed dead) :
    Triple (fun w => before w ∨ other w) program after failed dead :=
  fun w holds => holds.elim (first w) (second w)

/-- What is known of the values may be used before the program is looked at. -/
theorem given {fact : Prop} {program : Program World Error α}
    (triple : fact → Triple before program after failed dead) :
    Triple (fun w => before w ∧ fact) program after failed dead :=
  fun w holds => triple holds.2 w holds.1

/-- The loop rule: the invariant is about the items that are left. -/
theorem forEach {body : β → Program World Error Unit} {inv : List β → World → Prop} {items : List β}
    (each : ∀ item rest, (∃ front, items = front ++ item :: rest) →
      Triple (inv (item :: rest)) (body item) (fun _ => inv rest) failed dead) :
    Triple (inv items) (Program.forEach body items) (fun _ => inv []) failed dead := by
  have all : ∀ front rest, items = front ++ rest →
      Triple (inv rest) (Program.forEach body rest) (fun _ => inv []) failed dead := by
    intro front rest
    induction rest generalizing front with
    | nil => exact fun _ w holds => holds
    | cons item rest ih =>
        intro same
        refine bind (each item rest ⟨front, same⟩) fun _ => ih (front ++ [item]) ?_
        rw [same, List.append_assoc]
        rfl
  exact all [] items rfl

end Triple

/-! Programs that run against a schedule of faults. -/

/-- How an await goes: as asked, refused without effect, done but with the answer lost,
or cut off by the death of the process before or after its effect. -/
inductive Fault
  | none
  | refused
  | lost
  | killed
  | killedAfter
  deriving DecidableEq, Repr

structure Scheduled (State : Type) where
  state : State
  faults : Nat → Fault
  awaits : Nat

variable {State : Type}

/-- An await of something that may itself raise. What a refusal and a lost answer do to the
other side is the caller's to say. -/
def await (error : Error) (refuse lose : State → State) (effect : State → Except Error α × State) :
    Program (Scheduled State) Error α := fun w =>
  let next := fun state => { w with state := state, awaits := w.awaits + 1 }
  let (answer, done) := effect w.state
  match w.faults w.awaits with
  | .none =>
      match answer with
      | .ok value => (.returned value, next done)
      | .error raised => (.threw raised, next done)
  | .refused => (.threw error, next (refuse w.state))
  | .lost => (.threw error, next (lose done))
  | .killed => (.died, next w.state)
  | .killedAfter => (.died, next done)

def On (holds : State → Prop) (w : Scheduled State) : Prop := holds w.state

theorem On.at {holds : State → Prop} {s : State} {w : Scheduled State} (same : w.state = s)
    (here : holds s) : On holds w := by
  rw [On, same]
  exact here

/-- The await rule: one obligation for each way that the effect or its lack can end. -/
theorem Triple.await {error : Error} {refuse lose : State → State}
    {effect : State → Except Error α × State} {before : State → Prop}
    {after : α → State → Prop} {failed : Error → State → Prop} {dead : State → Prop}
    (answered : ∀ s value t, before s → effect s = (.ok value, t) → after value t)
    (raised : ∀ s raised t, before s → effect s = (.error raised, t) → failed raised t)
    (refused : ∀ s, before s → failed error (refuse s))
    (lost : ∀ s, before s → failed error (lose (effect s).2))
    (killed : ∀ s, before s → dead s) (killedAfter : ∀ s, before s → dead (effect s).2) :
    Triple (On before) (Program.await error refuse lose effect) (fun value => On (after value))
      (fun error => On (failed error)) (On dead) := by
  intro w holds
  unfold Program.await
  rcases ended : effect w.state with ⟨answer, done⟩
  have late : (effect w.state).2 = done := by rw [ended]
  cases w.faults w.awaits with
  | none =>
      cases answer with
      | ok value => exact answered _ _ _ holds ended
      | error error => exact raised _ _ _ holds ended
  | refused => exact refused _ holds
  | lost => exact late ▸ lost _ holds
  | killed => exact killed _ holds
  | killedAfter => exact late ▸ killedAfter _ holds

def Calm (holds : State → Prop) (w : Scheduled State) : Prop := (∀ number, w.faults number = .none) ∧ holds w.state

/-- Where nothing goes wrong, the program returns. -/
abbrev Returns (before : State → Prop) (program : Program (Scheduled State) Error α)
    (after : α → State → Prop) : Prop :=
  Triple (Calm before) program (fun value => Calm (after value)) (fun _ _ => False) (fun _ => False)

theorem Returns.await {error : Error} {refuse lose : State → State} {effect : State → Except Error α × State}
    {before : State → Prop} {after : α → State → Prop}
    (answered : ∀ s, before s → ∃ value t, effect s = (.ok value, t) ∧ after value t) :
    Returns before (Program.await error refuse lose effect) after := by
  intro w ⟨calm, holds⟩
  obtain ⟨value, t, done, here⟩ := answered w.state holds
  unfold Program.await
  rw [calm w.awaits, done]
  exact ⟨calm, here⟩

end Program

end PublicLighting.Foundations
