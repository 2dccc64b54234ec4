import Mathlib.Data.List.Dedup
import Mathlib.Tactic.Common

/-! SQL's truth values, where `none` is unknown, and the clauses that decide by them. -/

namespace PublicLighting.Foundations.SqlLogic

abbrev Truth := Option Bool

def not : Truth → Truth := Option.map (!·)

def and : Truth → Truth → Truth
  | some false, _ => some false
  | _, some false => some false
  | some true, some true => some true
  | _, _ => none

def or : Truth → Truth → Truth
  | some true, _ => some true
  | _, some true => some true
  | some false, some false => some false
  | _, _ => none

/-- `WHERE` and `FILTER` keep a row when the condition is true. -/
def holds (condition : Truth) : Bool := condition == some true

/-- `CHECK` refuses a row when the condition is false. -/
def refuses (condition : Truth) : Bool := condition == some false

/-- `one <> other`. -/
def differs {α : Type} [DecidableEq α] (one other : Option α) : Truth :=
  one.bind fun a => other.map fun b => a ≠ b

/-- The groups of `GROUP BY key HAVING COUNT(*) > 1`. -/
def repeated {α : Type} [DecidableEq α] (keys : List α) : List α :=
  keys.dedup.filter fun key => 1 < keys.count key

theorem holds_or {a b : Truth} : holds (or a b) = true ↔ holds a = true ∨ holds b = true := by
  rcases a with _ | _ | _ <;> rcases b with _ | _ | _ <;> decide

theorem holds_not_some {a : Bool} : holds (not (some a)) = true ↔ a = false := by
  cases a <;> decide

theorem repeated_eq_nil {α : Type} [DecidableEq α] {keys : List α} : repeated keys = [] ↔ keys.Nodup := by
  unfold repeated
  rw [List.filter_eq_nil_iff, List.nodup_iff_count_le_one]
  constructor
  · intro once key
    by_cases member : key ∈ keys
    · simpa using once key (List.mem_dedup.mpr member)
    · rw [List.count_eq_zero_of_not_mem member]
      exact Nat.zero_le 1
  · intro once key _
    simpa using once key

end PublicLighting.Foundations.SqlLogic
