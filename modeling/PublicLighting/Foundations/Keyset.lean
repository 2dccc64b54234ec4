import Mathlib.Data.List.Sort
import Mathlib.Order.Basic

/-! Rows in the order of a key that no two of them share, read page by page after the
last key seen. -/

namespace PublicLighting.Foundations.Keyset

variable {α κ : Type*} [LinearOrder κ] (key : α → κ)

/-- `ORDER BY key`. -/
def ordered (rows : List α) : List α := rows.mergeSort fun one other => key one ≤ key other

/-- `WHERE key > after ORDER BY key LIMIT limit`. -/
def page (limit : Nat) (after : Option κ) (rows : List α) : List α :=
  (ordered key (rows.filter fun row => after.all fun last => last < key row)).take limit

variable {key} {rows : List α}

theorem ordered_perm : (ordered key rows).Perm rows := List.mergeSort_perm _ _

theorem mem_ordered {row : α} : row ∈ ordered key rows ↔ row ∈ rows := ordered_perm.mem_iff

theorem ordered_le : (ordered key rows).Pairwise fun one other => key one ≤ key other := by
  have sorted := @List.pairwise_mergeSort _ (fun one other : α => decide (key one ≤ key other))
    (fun a b c first second => by
      rw [decide_eq_true_eq] at *
      exact first.trans second)
    (fun a b => by
      rw [Bool.or_eq_true, decide_eq_true_eq, decide_eq_true_eq]
      exact le_total _ _) rows
  exact sorted.imp of_decide_eq_true

theorem ordered_lt (distinct : (rows.map key).Nodup) :
    (ordered key rows).Pairwise fun one other => key one < key other := by
  have apart : (ordered key rows).Pairwise fun one other => key one ≠ key other :=
    List.pairwise_map.mp ((ordered_perm.map key).nodup_iff.mpr distinct)
  exact ordered_le.imp₂ (fun _ _ below other => lt_of_le_of_ne below other) apart

theorem eq_ordered {other : List α} (perm : other.Perm rows) (distinct : (rows.map key).Nodup)
    (sorted : other.Pairwise fun one other => key one < key other) : other = ordered key rows := by
  apply (perm.trans ordered_perm.symm).eq_of_pairwise _ sorted (ordered_lt distinct)
  intro a b _ _ before after
  exact absurd before after.asymm

theorem ordered_filter (keeps : α → Bool) (distinct : (rows.map key).Nodup) :
    ordered key (rows.filter keeps) = (ordered key rows).filter keeps := by
  symm
  apply eq_ordered (ordered_perm.filter keeps)
  · exact distinct.sublist (List.filter_sublist.map key)
  · exact (ordered_lt distinct).sublist List.filter_sublist

theorem page_first (limit : Nat) : page key limit none rows = (ordered key rows).take limit := by
  have all : (rows.filter fun row => (none : Option κ).all fun last => last < key row) = rows :=
    List.filter_eq_self.mpr fun _ _ => rfl
  rw [page, all]

/-- The page after a row of the order continues right behind it. -/
theorem page_next (limit : Nat) (distinct : (rows.map key).Nodup) {front back : List α} {last : α}
    (split : ordered key rows = front ++ last :: back) :
      page key limit (some (key last)) rows = back.take limit := by
  have sorted := ordered_lt distinct
  rw [split, List.pairwise_append] at sorted
  obtain ⟨-, behind, before⟩ := sorted
  rw [page, ordered_filter _ distinct, split, List.filter_append, List.filter_cons_of_neg,
    List.filter_eq_nil_iff.mpr,
    List.filter_eq_self.mpr, List.nil_append]
  · intro row member
    exact decide_eq_true ((List.pairwise_cons.mp behind).1 row member)
  · intro row member kept
    have earlier := before row member last List.mem_cons_self
    exact absurd (of_decide_eq_true kept) earlier.asymm
  · intro kept
    exact absurd (of_decide_eq_true kept) (lt_irrefl _)

/-! Pages of an order by their number. -/

section Offsets

variable (key) in
/-- `ORDER BY key LIMIT limit OFFSET offset`. -/
def offsetPage (limit offset : Nat) (rows : List α) : List α := ((ordered key rows).drop offset).take limit

theorem offsetPages (limit count : Nat) :
    (List.range count).flatMap (fun number => offsetPage key limit (number * limit) rows) =
      (ordered key rows).take (count * limit) := by
  induction count with
  | zero => rw [Nat.zero_mul, List.take_zero]; rfl
  | succ count ih =>
      rw [List.range_succ, List.flatMap_append, ih, List.flatMap_singleton, Nat.succ_mul, List.take_add]
      rfl

/-- With as many pages as it takes, every row is on one of them. -/
theorem offsetPages_whole {limit count : Nat} (enough : rows.length ≤ count * limit) :
    (List.range count).flatMap (fun number => offsetPage key limit (number * limit) rows) = ordered key rows := by
  rw [offsetPages, List.take_of_length_le]
  rw [ordered_perm.length_eq]
  exact enough

end Offsets

end PublicLighting.Foundations.Keyset
