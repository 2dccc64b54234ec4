import Mathlib.Data.List.Dedup
import Mathlib.Tactic.Common

/-! The items of a list whose measure is the largest, and whether they agree on a key. -/

namespace PublicLighting.Foundations.Largest

variable {α β : Type*} {measure : α → Nat} {items : List α} {item : α}

def largest (measure : α → Nat) (items : List α) : List α :=
  items.filter fun item => (items.map measure).max? = some (measure item)

theorem mem_largest : item ∈ largest measure items ↔ item ∈ items ∧
    ∀ other ∈ items, measure other ≤ measure item := by
  rw [largest, List.mem_filter, decide_eq_true_eq, List.max?_eq_some_iff]
  constructor
  · intro top
    obtain ⟨member, -, bound⟩ := top
    exact ⟨member, fun other present => bound _ (List.mem_map_of_mem present)⟩
  · intro top
    obtain ⟨member, bound⟩ := top
    refine ⟨member, List.mem_map_of_mem member, ?_⟩
    intro size present
    obtain ⟨other, among, same⟩ := List.mem_map.mp present
    rw [← same]
    exact bound other among

theorem largest_eq_nil : largest measure items = [] ↔ items = [] := by
  constructor
  · intro empty
    cases top : (items.map measure).max? with
    | none => exact List.map_eq_nil_iff.mp (List.max?_eq_none_iff.mp top)
    | some size =>
        obtain ⟨item, member, same⟩ := List.mem_map.mp (List.max?_mem top)
        have found : item ∈ largest measure items := by
          rw [largest, List.mem_filter, top, same]
          exact ⟨member, decide_eq_true rfl⟩
        rw [empty] at found
        cases found
  · intro empty
    rw [empty]
    rfl

section Agreed

variable [DecidableEq β] {key : α → β}

def agreed (key : α → β) (items : List α) : Option α :=
  if (items.map key).dedup.length = 1 then items.head? else none

theorem agreed_iff : (items.map key).dedup.length = 1 ↔ ∃ item ∈ items, ∀ other ∈ items, key other = key item := by
  rw [List.length_eq_one_iff]
  constructor
  · intro single
    obtain ⟨value, whole⟩ := single
    have among : value ∈ (items.map key).dedup := by rw [whole]; exact List.mem_singleton_self value
    obtain ⟨item, member, same⟩ := List.mem_map.mp (List.mem_dedup.mp among)
    refine ⟨item, member, ?_⟩
    intro other present
    have listed := List.mem_dedup.mpr (List.mem_map_of_mem (f := key) present)
    rw [whole, List.mem_singleton] at listed
    rw [listed, same]
  · intro found
    obtain ⟨item, member, same⟩ := found
    refine ⟨key item, ?_⟩
    have unique : ∀ value ∈ (items.map key).dedup, value = key item := by
      intro value present
      obtain ⟨other, among, equal⟩ := List.mem_map.mp (List.mem_dedup.mp present)
      rw [← equal, same other among]
    have among := List.mem_dedup.mpr (List.mem_map_of_mem (f := key) member)
    have distinct := List.nodup_dedup (items.map key)
    cases whole : (items.map key).dedup with
    | nil =>
        rw [whole] at among
        cases among
    | cons first rest =>
        rw [whole] at unique distinct
        have first' := unique first List.mem_cons_self
        cases rest with
        | nil => rw [first']
        | cons second rest =>
            have second' := unique second (List.mem_cons_of_mem _ List.mem_cons_self)
            rw [first', second'] at distinct
            exact absurd List.mem_cons_self (List.nodup_cons.mp distinct).1

theorem agreed_eq_none : agreed key items = none ↔ items = [] ∨
    ∃ one ∈ items, ∃ other ∈ items, key one ≠ key other := by
  rw [agreed]
  split_ifs with single
  · obtain ⟨item, member, same⟩ := agreed_iff.mp single
    rw [List.head?_eq_none_iff]
    constructor
    · exact Or.inl
    · intro apart
      cases apart with
      | inl empty => exact empty
      | inr apart =>
          obtain ⟨one, first, other, second, different⟩ := apart
          exact absurd ((same one first).trans (same other second).symm) different
  · refine iff_of_true rfl ?_
    rw [agreed_iff] at single
    push Not at single
    cases items with
    | nil => exact Or.inl rfl
    | cons first rest =>
        obtain ⟨other, member, different⟩ := single first List.mem_cons_self
        exact Or.inr ⟨other, member, first, List.mem_cons_self, different⟩

/-- Where the key tells items apart, the agreed item depends on the members alone. -/
theorem agreed_eq_some (apart : ∀ one ∈ items, ∀ other ∈ items, key one = key other → one = other) :
    agreed key items = some item ↔ item ∈ items ∧ ∀ other ∈ items, key other = key item := by
  rw [agreed]
  split_ifs with single
  · obtain ⟨shared, member, same⟩ := agreed_iff.mp single
    constructor
    · intro first
      have among := List.mem_of_mem_head? first
      exact ⟨among, fun other present => (same other present).trans (same item among).symm⟩
    · intro agreement
      cases items with
      | nil => cases member
      | cons first rest =>
          have head := agreement.2 first List.mem_cons_self
          exact congrArg some (apart first List.mem_cons_self item agreement.1 head)
  · refine iff_of_false (by simp) ?_
    intro agreement
    exact single (agreed_iff.mpr ⟨item, agreement⟩)

end Agreed

end PublicLighting.Foundations.Largest
