import Mathlib.Data.List.Nodup
import Mathlib.Logic.Function.Basic
import Mathlib.Tactic.Common

/-! What holds of a function, a count or a list of blocks after one element changes. -/

namespace PublicLighting.Foundations

open scoped List

variable {α : Type*} [DecidableEq α]

section Function

variable {β : Type*} {f : α → Option β} {changed : α} {value : β}

/-- What holds of the new value and of the others holds after the change. -/
theorem update_some (P : α → β → Prop) (there : P changed value)
    (elsewhere : ∀ other held, other ≠ changed → f other = some held → P other held) :
    ∀ other held, Function.update f changed (some value) other = some held → P other held := by
  intro other held present
  by_cases here : other = changed
  · subst here
    rw [Function.update_self] at present
    exact Option.some.inj present ▸ there
  · rw [Function.update_of_ne here] at present
    exact elsewhere other held here present

theorem update_all {γ : Type*} {g : α → γ} {next : γ} (P : α → γ → Prop) (there : P changed next)
    (elsewhere : ∀ other, other ≠ changed → P other (g other)) :
    ∀ other, P other (Function.update g changed next other) := by
  intro other
  by_cases here : other = changed
  · rw [here, Function.update_self]
    exact there
  · rw [Function.update_of_ne here]
    exact elsewhere other here

theorem update_none {other : α} {held : β} (present : Function.update f changed none other = some held) :
    other ≠ changed ∧ f other = some held := by
  by_cases here : other = changed
  · rw [here, Function.update_self] at present
    cases present
  · rw [Function.update_of_ne here] at present
    exact ⟨here, present⟩

theorem update_present {before : β} (found : f changed = some before) (other : α) :
    (∃ held, Function.update f changed (some value) other = some held) ↔ ∃ held, f other = some held := by
  by_cases here : other = changed
  · subst here
    simp [found]
  · simp [Function.update_of_ne here]

end Function

theorem countP_change {f g : α → Bool} {items : List α} {changed : α} (distinct : items.Nodup)
    (member : changed ∈ items) (same : ∀ item ∈ items, item ≠ changed → f item = g item) :
    items.countP g + (f changed).toNat = items.countP f + (g changed).toNat := by
  induction items with
  | nil => cases member
  | cons item items ih =>
      rw [List.nodup_cons] at distinct
      simp only [List.countP_cons]
      by_cases here : item = changed
      · subst here
        have others : items.countP f = items.countP g := by
          apply List.countP_congr
          intro other found
          rw [same other (List.mem_cons_of_mem _ found) fun clash => distinct.1 (clash ▸ found)]
        rw [others]
        cases f item <;> cases g item <;> simp
      · have found : changed ∈ items := (List.mem_cons.mp member).resolve_left fun clash => here clash.symm
        have rest := ih distinct.2 found fun other present => same other (List.mem_cons_of_mem _ present)
        rw [same item List.mem_cons_self here]
        omega

omit [DecidableEq α] in
theorem countP_disjoint {f g : α → Bool} {items : List α}
    (disjoint : ∀ item ∈ items, ¬(f item = true ∧ g item = true)) :
    items.countP (fun item => f item || g item) = items.countP f + items.countP g := by
  induction items with
  | nil => rfl
  | cons item items ih =>
      have here := disjoint item List.mem_cons_self
      simp only [List.countP_cons, ih fun other member => disjoint other (List.mem_cons_of_mem _ member)]
      cases first : f item <;> cases second : g item
      · rfl
      · exact Nat.add_assoc ..
      · exact Nat.add_right_comm ..
      · exact absurd ⟨first, second⟩ here

omit [DecidableEq α] in
theorem countP_lt {P Q : α → Bool} {items : List α} (implies : ∀ item ∈ items, P item = true → Q item = true)
    {lost : α} (member : lost ∈ items) (held : Q lost = true) (fails : P lost = false) :
    items.countP P < items.countP Q := by
  induction items with
  | nil => cases member
  | cons item items ih =>
      have rest := List.countP_mono_left fun other listed => implies other (List.mem_cons_of_mem _ listed)
      rw [List.countP_cons, List.countP_cons]
      cases member with
      | head =>
          simp only [held, fails, Bool.false_eq_true, if_false, if_true]
          omega
      | tail _ member =>
          have fewer := ih (fun other listed => implies other (List.mem_cons_of_mem _ listed)) member
          have first : (if P item = true then 1 else 0) ≤ if Q item = true then 1 else 0 := by
            split
            · exact Nat.le_of_eq (if_pos (implies item List.mem_cons_self ‹_›)).symm
            · exact Nat.zero_le _
          omega

/-- When chosen items change, what held of none of them is counted once more for each of which it holds now. -/
theorem countP_map_chosen {P : α → Bool} {items chosen : List α} {change : α → α} (distinct : items.Nodup)
    (once : chosen.Nodup) (among : ∀ item ∈ chosen, item ∈ items ∧ P item = false)
    (same : ∀ item ∈ items, item ∉ chosen → P (change item) = P item) :
    (items.map change).countP P = items.countP P + chosen.countP fun item => P (change item) := by
  have members : items.filter (· ∈ chosen) ~ chosen := by
    apply (List.perm_ext_iff_of_nodup (distinct.filter _) once).mpr
    intro item
    simp only [List.mem_filter, decide_eq_true_eq]
    exact ⟨And.right, fun member => ⟨(among item member).1, member⟩⟩
  calc (items.map change).countP P
    _ = items.countP fun item => P (change item) := List.countP_map
    _ = items.countP fun item => P item || (P (change item) && decide (item ∈ chosen)) := by
        apply List.countP_congr
        intro item member
        by_cases here : item ∈ chosen
        · simp [here, (among item here).2]
        · simp [here, same item member here]
    _ = items.countP P + items.countP fun item => P (change item) && decide (item ∈ chosen) := by
        apply countP_disjoint
        intro item member both
        simp only [Bool.and_eq_true, decide_eq_true_eq] at both
        rw [(among item both.2.2).2] at both
        cases both.1
    _ = items.countP P + chosen.countP fun item => P (change item) := by
        rw [← List.countP_filter, members.countP_eq]

/-- Blocks laid end to end, when one block changes. -/
theorem flatMap_change {β : Type*} {f g : α → List β} {items : List α} {changed : α}
    (distinct : items.Nodup) (member : changed ∈ items)
    (same : ∀ item ∈ items, item ≠ changed → f item = g item) :
    (items.flatMap g ++ f changed).Perm (items.flatMap f ++ g changed) := by
  induction items with
  | nil => cases member
  | cons item items ih =>
      rw [List.nodup_cons] at distinct
      rw [List.flatMap_cons, List.flatMap_cons]
      by_cases here : item = changed
      · subst here
        have others : items.flatMap f = items.flatMap g := by
          apply List.flatMap_congr
          intro other found
          exact same other (List.mem_cons_of_mem _ found) fun clash => distinct.1 (clash ▸ found)
        rw [others, List.append_assoc, List.append_assoc]
        calc g item ++ (items.flatMap g ++ f item)
          _ ~ (items.flatMap g ++ f item) ++ g item := List.perm_append_comm
          _ ~ (f item ++ items.flatMap g) ++ g item := List.perm_append_comm.append_right _
          _ ~ f item ++ (items.flatMap g ++ g item) := by rw [List.append_assoc]
      · have found : changed ∈ items := (List.mem_cons.mp member).resolve_left fun clash => here clash.symm
        have rest := ih distinct.2 found fun other present => same other (List.mem_cons_of_mem _ present)
        rw [same item List.mem_cons_self here, List.append_assoc, List.append_assoc]
        exact rest.append_left _

end PublicLighting.Foundations
