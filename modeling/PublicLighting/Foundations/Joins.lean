import Mathlib.Algebra.BigOperators.Group.List.Basic
import Mathlib.Algebra.GroupWithZero.Nat
import Mathlib.Data.List.Dedup
import Mathlib.Data.List.Perm.Basic
import Mathlib.Data.List.Nodup
import Mathlib.Tactic.Common

/-! Outer joins of tables, the groups of their rows and the counts in them. -/

namespace PublicLighting.Foundations.Joins

variable {α β κ : Type*}

def joinRow (others : List β) (on : α → β → Bool) (row : α) : List (α × Option β) :=
  match others.filter (on row) with
  | [] => [(row, none)]
  | found => found.map fun other => (row, some other)

/-- `rows LEFT JOIN others ON on`. -/
def leftJoin (rows : List α) (others : List β) (on : α → β → Bool) : List (α × Option β) :=
  rows.flatMap (joinRow others on)

/-- `GROUP BY key`. -/
def groups [DecidableEq κ] (key : α → κ) (rows : List α) : List (List α) :=
  (rows.map key).dedup.map fun value => rows.filter fun row => key row = value

section Join

variable {rows : List α} {others : List β} {on : α → β → Bool}

theorem joinRow_fst {row : α} {pair : α × Option β} (member : pair ∈ joinRow others on row) : pair.1 = row := by
  rw [joinRow] at member
  split at member
  · rw [List.mem_singleton.mp member]
  · obtain ⟨other, -, same⟩ := List.mem_map.mp member
    rw [← same]

theorem joinRow_given (row : α) : joinRow others on row ≠ [] := by
  intro empty
  rw [joinRow] at empty
  split at empty
  · cases empty
  · rename_i shape
    exact shape (List.map_eq_nil_iff.mp empty)

theorem joinRow_matches (row : α) : (joinRow others on row).filterMap Prod.snd = others.filter (on row) := by
  rw [joinRow]
  split
  · rename_i none
    rw [none]
    rfl
  · rw [List.filterMap_map]
    exact List.filterMap_some

theorem joinRow_count (row : α) : (joinRow others on row).countP (fun pair => pair.2.isSome) = others.countP
    (on row) := by
  have counted : ∀ pairs : List (α × Option β),
    pairs.countP (fun pair => pair.2.isSome) = (pairs.filterMap Prod.snd).length := by
    intro pairs
    rw [List.length_filterMap_eq_countP]
  rw [counted, joinRow_matches, List.countP_eq_length_filter]

theorem joinRow_unique {row : α} (unique : (others.filter (on row)).length ≤ 1) :
    joinRow others on row = [(row, others.find? (on row))] := by
  rw [joinRow, ← List.head?_filter]
  cases shape : others.filter (on row) with
  | nil => rfl
  | cons first rest =>
      rw [shape] at unique
      have alone : rest = [] := List.length_eq_zero_iff.mp (Nat.le_zero.mp (Nat.le_of_succ_le_succ unique))
      rw [alone]
      rfl

theorem mem_leftJoin {pair : α × Option β} : pair ∈ leftJoin rows others on ↔
    ∃ row ∈ rows, pair ∈ joinRow others on row :=
  List.mem_flatMap

theorem leftJoin_fst (row : α) : row ∈ (leftJoin rows others on).map Prod.fst ↔ row ∈ rows := by
  rw [List.mem_map]
  constructor
  · intro found
    obtain ⟨pair, member, same⟩ := found
    obtain ⟨one, among, joined⟩ := mem_leftJoin.mp member
    rw [← same, joinRow_fst joined]
    exact among
  · intro among
    obtain ⟨pair, joined⟩ := List.exists_mem_of_ne_nil _ (@joinRow_given _ _ others on row)
    exact ⟨pair, mem_leftJoin.mpr ⟨row, among, joined⟩, joinRow_fst joined⟩

theorem leftJoin_filter (keeps : α → Bool) :
    (leftJoin rows others on).filter (fun pair => keeps pair.1) = leftJoin (rows.filter keeps) others on := by
  induction rows with
  | nil => rfl
  | cons head tail ih =>
      rw [leftJoin] at ih ⊢
      rw [List.flatMap_cons, List.filter_append, ih]
      by_cases kept : keeps head = true
      · rw [List.filter_cons_of_pos kept, leftJoin, leftJoin, List.flatMap_cons, List.filter_eq_self.mpr]
        intro pair member
        rw [joinRow_fst member, kept]
      · rw [List.filter_cons_of_neg kept, List.filter_eq_nil_iff.mpr, List.nil_append]
        intro pair member
        rw [joinRow_fst member]
        exact kept

/-- Where no row meets two others, the join looks the other up. -/
theorem leftJoin_unique (unique : ∀ row ∈ rows, (others.filter (on row)).length ≤ 1) :
    leftJoin rows others on = rows.map fun row => (row, others.find? (on row)) := by
  rw [leftJoin, ← List.flatMap_pure_eq_map]
  exact List.flatMap_congr fun row member => joinRow_unique (unique row member)

end Join

section Groups

variable [DecidableEq κ] {rows : List α} {others : List β} {on : α → β → Bool} {key : α → κ}

theorem groups_leftJoin (distinct : (rows.map key).Nodup) :
    (groups (fun pair => key pair.1) (leftJoin rows others on)).Perm (rows.map (joinRow others on)) := by
  have keys : ((leftJoin rows others on).map fun pair => key pair.1).dedup.Perm (rows.map key) := by
    apply (List.perm_ext_iff_of_nodup (List.nodup_dedup _) distinct).mpr
    intro value
    rw [List.mem_dedup, List.mem_map, List.mem_map]
    constructor
    · intro found
      obtain ⟨pair, member, same⟩ := found
      exact ⟨pair.1, (leftJoin_fst pair.1).mp (List.mem_map_of_mem member), same⟩
    · intro found
      obtain ⟨row, member, same⟩ := found
      obtain ⟨pair, joined, first⟩ := List.mem_map.mp ((leftJoin_fst row).mpr member)
      exact ⟨pair, joined, by rw [first, same]⟩
  have each : ∀ row ∈ rows, (leftJoin rows others on).filter (fun pair => key pair.1 = key row) =
    joinRow others on row := by
    intro row member
    have alone : rows.filter (fun other => key other = key row) = [row] := by
      have once : (rows.filter fun other => key other = key row).Nodup := (distinct.of_map key).filter _
      apply List.perm_singleton.mp
      apply (List.perm_ext_iff_of_nodup once (List.nodup_singleton row)).mpr
      intro other
      rw [List.mem_filter, decide_eq_true_eq, List.mem_singleton]
      constructor
      · intro among
        exact List.inj_on_of_nodup_map distinct among.1 member among.2
      · intro same
        rw [same]
        exact ⟨member, rfl⟩
    rw [leftJoin_filter fun other => decide (key other = key row), alone, leftJoin, List.flatMap_singleton]
  have renamed : rows.map (joinRow others on) =
      (rows.map key).map fun value => (leftJoin rows others on).filter fun pair => key pair.1 = value := by
    rw [List.map_map]
    exact List.map_congr_left fun row member => (each row member).symm
  rw [groups, renamed]
  exact keys.map _

theorem groups_single {value : κ} (given : rows ≠ []) (same : ∀ row ∈ rows, key row = value) :
    groups key rows = [rows] := by
  have keys : (rows.map key).dedup = [value] := by
    apply List.perm_singleton.mp
    apply (List.perm_ext_iff_of_nodup (List.nodup_dedup _) (List.nodup_singleton value)).mpr
    intro other
    rw [List.mem_dedup, List.mem_map, List.mem_singleton]
    constructor
    · intro found
      obtain ⟨row, member, here⟩ := found
      rw [← here, same row member]
    · intro here
      obtain ⟨row, member⟩ := List.exists_mem_of_ne_nil _ given
      exact ⟨row, member, (same row member).trans here.symm⟩
  rw [groups, keys, List.map_singleton, List.filter_eq_self.mpr fun row member => decide_eq_true (same row member)]

omit [DecidableEq κ] in
theorem filter_key_le {p : α → Bool} {value : κ} (distinct : (rows.map key).Nodup)
    (same : ∀ row, p row = true → key row = value) : (rows.filter p).length ≤ 1 := by
  have once : ((rows.filter p).map key).Nodup := distinct.sublist (List.filter_sublist.map key)
  have all : ∀ row ∈ rows.filter p, key row = value := fun row member => same row (List.mem_filter.mp member).2
  match shape : rows.filter p with
  | [] => exact Nat.zero_le 1
  | [_] => exact Nat.le_refl 1
  | first :: second :: rest =>
      rw [shape] at once all
      have first' := all first List.mem_cons_self
      have second' := all second (List.mem_cons_of_mem _ List.mem_cons_self)
      rw [List.map_cons, List.map_cons, first', second'] at once
      exact absurd List.mem_cons_self (List.nodup_cons.mp once).1

end Groups

section Counts

variable {rows : List α} {others : List β} {on : α → β → Bool}

/-- Counted row by row, an item that meets one row at most is counted once or not at all. -/
theorem sum_countP (unique : ∀ other ∈ others, (rows.filter fun row => on row other).length ≤ 1) :
    (rows.map fun row => others.countP (on row)).sum = others.countP fun other => rows.any fun row =>
      on row other := by
  induction others with
  | nil => exact List.sum_eq_zero (by simp)
  | cons head tail ih =>
      have rest := ih fun other member => unique other (List.mem_cons_of_mem _ member)
      have one := unique head List.mem_cons_self
      have first : (rows.map fun row => if on row head = true then 1 else 0).sum =
          if (rows.any fun row => on row head) = true then 1 else 0 := by
        have counted : ∀ rows : List α, (rows.map fun row => if on row head = true then 1 else 0).sum =
            (rows.filter fun row => on row head).length := by
          intro rows
          rw [← List.countP_eq_length_filter]
          induction rows with
          | nil => rfl
          | cons row rows ih => rw [List.map_cons, List.sum_cons, ih, List.countP_cons, Nat.add_comm]
        rw [counted]
        split_ifs with met
        · obtain ⟨row, member, meets⟩ := List.any_eq_true.mp met
          have among : row ∈ rows.filter fun row => on row head := List.mem_filter.mpr ⟨member, meets⟩
          have given := List.length_pos_of_mem among
          omega
        · rw [List.length_eq_zero_iff, List.filter_eq_nil_iff]
          intro row member meets
          exact met (List.any_eq_true.mpr ⟨row, member, meets⟩)
      simp only [List.countP_cons, List.sum_map_add, rest, first]

theorem countP_split (p q : α → Bool) :
    rows.countP p = (rows.countP fun row => p row && q row) + rows.countP fun row => p row && !q row := by
  induction rows with
  | nil => rfl
  | cons head tail ih =>
      rw [List.countP_cons, List.countP_cons, List.countP_cons, ih]
      cases p head <;> cases q head <;> simp only [Bool.and_true, Bool.and_false, Bool.not_true, Bool.not_false] <;>
        simp <;> omega

theorem countP_any (pairs : List (α × Option β)) (p : β → Bool) :
    (pairs.countP fun pair => pair.2.any p) = (pairs.filterMap Prod.snd).countP p := by
  rw [List.countP_filterMap]
  refine List.countP_congr fun pair _ => ?_
  cases pair.2 <;> exact Iff.rfl

end Counts

end PublicLighting.Foundations.Joins
