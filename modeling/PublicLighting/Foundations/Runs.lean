import Mathlib.Data.List.Induction
import Mathlib.Tactic.Common

/-! Finite runs of a labelled step relation, and the induction rules that carry
an invariant, a one-way fact or a budget from one step to a whole run. -/

namespace PublicLighting.Foundations

variable {State Label : Type*}

inductive Run (step : State → Label → State → Prop) : State → List Label → State → Prop
  | nil (s : State) : Run step s [] s
  | snoc {s t u : State} {labels : List Label} {label : Label} :
      Run step s labels t → step t label u → Run step s (labels ++ [label]) u

/-- The steps of a relation that a schedule condition lets through. -/
def Guarded (condition : State → Label → Prop) (step : State → Label → State → Prop) :
    State → Label → State → Prop :=
  fun s label t => condition s label ∧ step s label t

namespace Run

variable {step : State → Label → State → Prop}

theorem single {s t : State} {label : Label} (taken : step s label t) :
    Run step s [label] t := by
  simpa using (Run.nil s).snoc taken

theorem append {s t u : State} {front back : List Label}
    (first : Run step s front t) (second : Run step t back u) :
    Run step s (front ++ back) u := by
  induction second with
  | nil => simpa using first
  | snoc _ taken ih =>
      rw [← List.append_assoc]
      exact ih.snoc taken

theorem cons {s t u : State} {label : Label} {labels : List Label}
    (taken : step s label t) (rest : Run step t labels u) : Run step s (label :: labels) u :=
  (single taken).append rest

theorem nil_eq {s t : State} (run : Run step s [] t) : t = s := by
  generalize shape : ([] : List Label) = labels at run
  cases run with
  | nil => rfl
  | snoc _ _ => simp at shape

theorem snoc_inv {s u : State} {labels : List Label} {label : Label}
    (run : Run step s (labels ++ [label]) u) :
    ∃ t, Run step s labels t ∧ step t label u := by
  generalize shape : labels ++ [label] = all at run
  cases run with
  | nil => simp at shape
  | snoc before taken =>
      obtain ⟨rfl, same⟩ := List.append_inj' shape rfl
      cases same
      exact ⟨_, before, taken⟩

theorem split {s u : State} {front back : List Label} (run : Run step s (front ++ back) u) :
    ∃ t, Run step s front t ∧ Run step t back u := by
  induction back using List.reverseRecOn generalizing u with
  | nil => exact ⟨u, by simpa using run, .nil u⟩
  | append_singleton back label ih =>
      rw [← List.append_assoc] at run
      obtain ⟨t, before, taken⟩ := snoc_inv run
      obtain ⟨middle, first, second⟩ := ih before
      exact ⟨middle, first, second.snoc taken⟩

theorem cons_inv {s u : State} {label : Label} {labels : List Label}
    (run : Run step s (label :: labels) u) :
    ∃ t, step s label t ∧ Run step t labels u := by
  obtain ⟨t, first, rest⟩ := @split _ _ step s u [label] labels run
  obtain ⟨s', start, taken⟩ := @snoc_inv _ _ step s t [] label first
  cases nil_eq start
  exact ⟨t, taken, rest⟩

theorem relabel {Other : Type*} {other : State → Other → State → Prop} {name : Label → Other}
    {s u : State} {labels : List Label} (same : ∀ s label t, step s label t → other s (name label) t)
    (run : Run step s labels u) : Run other s (labels.map name) u := by
  induction run with
  | nil => exact .nil _
  | snoc _ taken ih =>
      rw [List.map_append]
      exact ih.snoc (same _ _ _ taken)

theorem invariant {Inv : State → Prop} {s u : State} {labels : List Label}
    (keeps : ∀ s label t, Inv s → step s label t → Inv t)
    (run : Run step s labels u) (start : Inv s) : Inv u := by
  induction run with
  | nil => exact start
  | snoc _ taken ih => exact keeps _ _ _ ih taken

/-- `invariant` for what is so of a state and of the labels on the way to it. -/
theorem history {Inv : List Label → State → Prop} {s u : State} {labels : List Label} (start : Inv [] s)
    (keeps : ∀ labels s label t, Inv labels s → step s label t → Inv (labels ++ [label]) t)
    (run : Run step s labels u) : Inv labels u := by
  induction run with
  | nil => exact start
  | snoc _ taken ih => exact keeps _ _ _ _ ih taken

/-- Two-state form of `invariant`: a reflexive and transitive relation that every
step of an invariant state respects relates the ends of a run. -/
theorem related {Inv : State → Prop} {Rel : State → State → Prop}
    (refl : ∀ s, Rel s s) (trans : ∀ s t u, Rel s t → Rel t u → Rel s u)
    (keeps : ∀ s label t, Inv s → step s label t → Inv t)
    (moves : ∀ s label t, Inv s → step s label t → Rel s t)
    {s u : State} {labels : List Label} (run : Run step s labels u) (start : Inv s) : Rel s u := by
  induction run with
  | nil => exact refl _
  | snoc before taken ih =>
      have here := before.invariant keeps start
      exact trans _ _ _ ih (moves _ _ _ here taken)

/-- Each counted label is paid for out of the state's credit, so a run has no more
of them than its start has credit. -/
theorem countP_le {Inv : State → Prop} {counted : Label → Bool} {credit : State → Nat}
    (keeps : ∀ s label t, Inv s → step s label t → Inv t)
    (pays : ∀ s label t, Inv s → step s label t →
      (if counted label then 1 else 0) + credit t ≤ credit s)
    {s u : State} {labels : List Label} (run : Run step s labels u) (start : Inv s) :
    labels.countP counted + credit u ≤ credit s := by
  induction run with
  | nil => simp
  | snoc before taken ih =>
      have here := before.invariant keeps start
      have paid := pays _ _ _ here taken
      rw [List.countP_append, List.countP_singleton]
      omega

/-- Folding a partial step function over a schedule yields a run of its graph. -/
theorem of_foldlM {next : State → Label → Option State} {s u : State} {labels : List Label}
    (folded : labels.foldlM next s = some u) :
    Run (fun s label t => next s label = some t) s labels u := by
  induction labels generalizing s with
  | nil =>
      cases folded
      exact .nil _
  | cons label labels ih =>
      rw [List.foldlM_cons] at folded
      obtain ⟨t, taken, rest⟩ := Option.bind_eq_some_iff.mp folded
      exact cons taken (ih rest)

end Run

end PublicLighting.Foundations
