import Mathlib.Data.List.Lookmap
import Mathlib.Data.List.Nodup
import Mathlib.Tactic.Common

/-! Maps kept as lists of entries with distinct keys. -/

namespace PublicLighting.Foundations.Entries

variable {Key Value : Type*} [DecidableEq Key]

/-- The value of a key that the list has is replaced where it stands. -/
def replace (entries : List (Key × Value)) (key : Key) (value : Value) : List (Key × Value) :=
  entries.map fun entry => if entry.1 = key then (key, value) else entry

variable {entries : List (Key × Value)} {key other : Key} {value : Value}

theorem replace_length : (replace entries key value).length = entries.length := List.length_map _

theorem replace_keys : (replace entries key value).map Prod.fst = entries.map Prod.fst := by
  rw [replace, List.map_map]
  apply List.map_congr_left
  intro entry _
  by_cases same : entry.1 = key
  · rw [Function.comp_apply, if_pos same, same]
  · rw [Function.comp_apply, if_neg same]

theorem lookup_eq_none : entries.lookup key = none ↔ key ∉ entries.map Prod.fst := by
  induction entries with
  | nil => simp
  | cons entry entries ih =>
      rw [List.lookup_cons, List.map_cons, List.mem_cons]
      by_cases same : key = entry.1
      · simp [same]
      · have differs : (key == entry.1) = false := beq_eq_false_iff_ne.mpr same
        rw [differs]
        simp only [same, false_or]
        exact ih

theorem lookup_replace_self (given : entries.lookup key ≠ none) :
    (replace entries key value).lookup key = some value := by
  induction entries with
  | nil => exact absurd rfl given
  | cons entry entries ih =>
      rw [replace, List.map_cons, List.lookup_cons]
      by_cases same : entry.1 = key
      · rw [if_pos same]
        simp
      · have differs : (key == entry.1) = false := beq_eq_false_iff_ne.mpr fun equal => same equal.symm
        rw [if_neg same, differs]
        rw [List.lookup_cons, differs] at given
        exact ih given

theorem lookup_replace_other (different : other ≠ key) :
    (replace entries key value).lookup other = entries.lookup other := by
  induction entries with
  | nil => rfl
  | cons entry entries ih =>
      rw [replace, List.map_cons, List.lookup_cons, List.lookup_cons]
      by_cases same : entry.1 = key
      · have differs : (other == key) = false := beq_eq_false_iff_ne.mpr different
        rw [if_pos same, same, differs]
        exact ih
      · rw [if_neg same, ← replace, ih]

theorem mem_replace {entry : Key × Value} (member : entry ∈ replace entries key value) :
    entry ∈ entries ∨ entry = (key, value) := by
  obtain ⟨old, within, rfl⟩ := List.mem_map.mp member
  by_cases same : old.1 = key
  · exact .inr (if_pos same)
  · rw [if_neg same]
    exact .inl within

theorem replace_concat (absent : entries.lookup key = none) (old : Value) :
    replace (entries ++ [(key, old)]) key value = entries ++ [(key, value)] := by
  have untouched : replace entries key value = entries := by
    have other : ∀ entry ∈ entries, (if entry.1 = key then (key, value) else entry) = id entry := by
      intro entry member
      exact if_neg fun same : entry.1 = key => lookup_eq_none.mp absent (same ▸ List.mem_map_of_mem member)
    rw [replace, List.map_congr_left other, List.map_id]
  rw [replace, List.map_append, ← replace, untouched]
  simp

theorem lookup_concat (absent : entries.lookup key = none) :
    (entries ++ [(key, value)]).lookup key = some value := by
  rw [List.lookup_append, absent]
  simp

theorem lookup_concat_other (different : other ≠ key) :
    (entries ++ [(key, value)]).lookup other = entries.lookup other := by
  have differs : (other == key) = false := beq_eq_false_iff_ne.mpr different
  rw [List.lookup_append, List.lookup_cons, differs, List.lookup_nil, Option.or_none]

theorem mem_of_lookup (found : entries.lookup key = some value) : (key, value) ∈ entries := by
  obtain ⟨front, back, rfl, -⟩ := List.lookup_eq_some_iff.mp found
  exact List.mem_append_right _ List.mem_cons_self

theorem lookup_filter (distinct : (entries.map Prod.fst).Nodup) (p : Key × Value → Bool) :
    (entries.filter p).lookup key = (entries.lookup key).filter fun value => p (key, value) := by
  induction entries with
  | nil => rfl
  | cons entry entries ih =>
      rw [List.map_cons, List.nodup_cons] at distinct
      rw [List.filter_cons, List.lookup_cons]
      obtain ⟨own, value⟩ := entry
      by_cases same : key = own
      · subst same
        have absent : (entries.filter p).lookup key = none :=
          List.filter_sublist.lookup_eq_none (lookup_eq_none.mpr distinct.1)
        cases passes : p (key, value) with
        | true => simp [Option.filter_some, passes]
        | false => simp [Option.filter_some, passes, absent]
      · have differs : (key == own) = false := beq_eq_false_iff_ne.mpr same
        rw [differs]
        cases passes : p (own, value) with
        | true =>
            rw [if_pos rfl, List.lookup_cons, differs]
            exact ih distinct.2
        | false =>
            rw [if_neg Bool.false_ne_true]
            exact ih distinct.2

omit [DecidableEq Key] in
theorem filter_keys (distinct : (entries.map Prod.fst).Nodup) (p : Key × Value → Bool) :
    ((entries.filter p).map Prod.fst).Nodup :=
  distinct.sublist ((List.filter_sublist).map _)

end PublicLighting.Foundations.Entries
