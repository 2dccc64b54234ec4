import Mathlib.Tactic.Common
import PublicLighting.Foundations.Keyset

/-! Rows deleted in the order of a key, some at a time. -/

namespace PublicLighting.Foundations.OldestFirst

open Keyset

variable {α κ : Type*} {rows : List α} {row : α} {count more : Nat}

theorem distinct_filter {key : α → κ} {eligible : α → Bool} (distinct : (rows.map key).Nodup) :
    ((rows.filter eligible).map key).Nodup :=
  distinct.sublist (List.filter_sublist.map key)

variable [LinearOrder κ] (key : α → κ) (eligible : α → Bool)

/-- The first rows of the order, of those that may be deleted. -/
def eldest (count : Nat) (rows : List α) : List α := (ordered key (rows.filter eligible)).take count

variable {key eligible}

theorem mem_eldest (member : row ∈ eldest key eligible count rows) : row ∈ rows ∧ eligible row = true :=
  List.mem_filter.mp (mem_ordered.mp (List.mem_of_mem_take member))

theorem eldest_length : (eldest key eligible count rows).length = min count (rows.filter eligible).length := by
  rw [eldest, List.length_take, ordered_perm.length_eq]

theorem ordered_nodup (distinct : (rows.map key).Nodup) : (ordered key (rows.filter eligible)).Nodup :=
  (ordered_lt (distinct_filter distinct)).imp fun before same => (ne_of_lt before) (congrArg key same)

variable [DecidableEq α] (key eligible)

def left (count : Nat) (rows : List α) : List α := rows.filter fun row => row ∉ eldest key eligible count rows

variable {key eligible}

theorem mem_left : row ∈ left key eligible count rows ↔ row ∈ rows ∧ row ∉ eldest key eligible count rows := by
  rw [left, List.mem_filter, decide_eq_true_eq]

theorem left_zero : left key eligible 0 rows = rows := List.filter_eq_self.mpr fun _ _ => rfl

theorem left_min : left key eligible (min count (rows.filter eligible).length) rows =
    left key eligible count rows := by
  have same : eldest key eligible (min count (rows.filter eligible).length) rows =
    eldest key eligible count rows := by
    rw [eldest, eldest, ← (@ordered_perm _ _ _ key (rows.filter eligible)).length_eq, List.take_eq_take_min,
      min_assoc, min_self, ← List.take_eq_take_min]
  rw [left, left, same]

theorem ordered_left (distinct : (rows.map key).Nodup) :
    ordered key ((left key eligible count rows).filter eligible) =
      (ordered key (rows.filter eligible)).drop count := by
  have swapped : (left key eligible count rows).filter eligible =
      (rows.filter eligible).filter fun row => row ∉ eldest key eligible count rows := by
    rw [left, List.filter_filter, List.filter_filter]
    exact List.filter_congr fun row _ => Bool.and_comm _ _
  have once : (ordered key (rows.filter eligible)).Nodup := ordered_nodup distinct
  rw [swapped, ordered_filter _ (distinct_filter distinct), eldest]
  generalize ordered key (rows.filter eligible) = all at *
  rw [← List.take_append_drop count all, List.nodup_append] at once
  have split := List.take_append_drop count all
  calc
    all.filter (fun row => row ∉ all.take count) = (all.take count ++ all.drop count).filter fun row =>
      row ∉ all.take count := by
      rw [split]
    _ = all.drop count := by
      rw [List.filter_append, List.filter_eq_nil_iff.mpr, List.filter_eq_self.mpr, List.nil_append]
      · intro row later
        exact decide_eq_true fun earlier => once.2.2 row earlier row later rfl
      · intro row earlier kept
        exact of_decide_eq_true kept earlier

theorem left_left (distinct : (rows.map key).Nodup) :
    left key eligible more (left key eligible count rows) = left key eligible (count + more) rows := by
  have again : eldest key eligible more (left key eligible count rows) =
      ((ordered key (rows.filter eligible)).drop count).take more := by
    rw [eldest, ordered_left distinct]
  rw [left, again, left, left, List.filter_filter]
  refine List.filter_congr fun row _ => ?_
  rw [eldest, eldest, List.take_add, ← Bool.decide_and]
  refine decide_eq_decide.mpr ?_
  rw [List.mem_append, not_or, and_comm]

theorem eldest_left (distinct : (rows.map key).Nodup) :
    (eldest key eligible more (left key eligible count rows)).length = min more
      ((rows.filter eligible).length - count) := by
  rw [eldest, ordered_left distinct, List.length_take, List.length_drop, ordered_perm.length_eq]

theorem left_again (distinct : (rows.map key).Nodup) :
    left key eligible more (left key eligible count rows) =
      left key eligible (count + (eldest key eligible more (left key eligible count rows)).length) rows := by
  rw [left_left distinct, ← left_min, eldest_left distinct, ← @left_min _ _ _ (count + min more _)]
  congr 1
  omega

theorem left_length (distinct : (rows.map key).Nodup) :
    (left key eligible count rows).length + min count (rows.filter eligible).length = rows.length := by
  have once : rows.Nodup := distinct.of_map key
  have deleted : (rows.filter fun row => !decide (row ∉ eldest key eligible count rows)).Perm
    (eldest key eligible count rows) := by
    apply (List.perm_ext_iff_of_nodup (once.filter _) ((ordered_nodup distinct).sublist (List.take_sublist _ _))).mpr
    intro row
    rw [List.mem_filter, Bool.not_eq_true', decide_eq_false_iff_not, not_not]
    exact ⟨And.right, fun member => ⟨(mem_eldest member).1, member⟩⟩
  have whole := (List.filter_append_perm (fun row => decide (row ∉ eldest key eligible count rows)) rows).length_eq
  rw [List.length_append, deleted.length_eq, eldest_length] at whole
  exact whole

theorem deleted_eldest (member : row ∈ rows) (deleted : row ∉ left key eligible count rows) :
    row ∈ eldest key eligible count rows := by
  by_contra late
  exact deleted (mem_left.mpr ⟨member, late⟩)

/-- A deleted row comes before every row that could be deleted and is left. -/
theorem left_oldest (distinct : (rows.map key).Nodup) {other : α} (member : row ∈ rows)
    (deleted : row ∉ left key eligible count rows)
    (kept : other ∈ left key eligible count rows) (could : eligible other = true) : key row < key other := by
  have late : other ∈ (ordered key (rows.filter eligible)).drop count := by
    rw [← ordered_left distinct, mem_ordered, List.mem_filter]
    exact ⟨kept, could⟩
  have sorted : (ordered key (rows.filter eligible)).Pairwise fun one other => key one < key other :=
    ordered_lt (distinct_filter distinct)
  rw [← List.take_append_drop count (ordered key (rows.filter eligible)), List.pairwise_append] at sorted
  exact sorted.2.2 row (deleted_eldest member deleted) other late

end PublicLighting.Foundations.OldestFirst
