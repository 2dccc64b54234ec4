import Mathlib.Data.List.DropRight
import Mathlib.Data.List.TakeWhile
import Mathlib.Tactic.Common

/-! Items dropped from both ends of a list, all at once and one index at a time. -/

namespace PublicLighting.Foundations.Trimming

variable {α : Type*} {p : α → Bool}

def trim (p : α → Bool) (items : List α) : List α := (items.dropWhile p).rdropWhile p

structure Trimmed (p : α → Bool) (items : List α) : Prop where
  first : ∀ item, items.head? = some item → p item = false
  last : ∀ item, items.getLast? = some item → p item = false

theorem dropWhile_first (items : List α) (item : α) (first : (items.dropWhile p).head? = some item) :
    p item = false := by
  induction items with
  | nil => cases first
  | cons head tail ih =>
      cases drops : p head with
      | true =>
          rw [List.dropWhile_cons_of_pos drops] at first
          exact ih first
      | false =>
          rw [List.dropWhile_cons_of_neg (by simp [drops])] at first
          cases first
          exact drops

theorem dropWhile_kept {items : List α} (first : ∀ item, items.head? = some item → p item = false) :
    items.dropWhile p = items := by
  cases items with
  | nil => rfl
  | cons head tail => exact List.dropWhile_cons_of_neg (by simp [first head rfl])

theorem rdropWhile_last (items : List α) (item : α) (last : (items.rdropWhile p).getLast? = some item) :
    p item = false := by
  rw [List.rdropWhile, List.getLast?_reverse] at last
  exact dropWhile_first _ item last

theorem rdropWhile_kept {items : List α} (last : ∀ item, items.getLast? = some item → p item = false) :
    items.rdropWhile p = items := by
  rw [List.rdropWhile, dropWhile_kept, List.reverse_reverse]
  intro item first
  rw [List.head?_reverse] at first
  exact last item first

theorem trim_eq_self {items : List α} (trimmed : Trimmed p items) : trim p items = items := by
  rw [trim, dropWhile_kept trimmed.first, rdropWhile_kept trimmed.last]

theorem rdropWhile_first (items : List α) (item : α) (first : (items.rdropWhile p).head? = some item) :
    items.head? = some item := by
  obtain ⟨rest, whole⟩ := List.rdropWhile_prefix p items
  rw [← whole]
  cases shape : items.rdropWhile p with
  | nil =>
      rw [shape] at first
      cases first
  | cons head tail =>
      rw [shape] at first
      exact first

theorem trimmed_trim (items : List α) : Trimmed p (trim p items) where
  first := fun item first => dropWhile_first items item (rdropWhile_first _ item first)
  last := fun item last => rdropWhile_last _ item last

theorem trim_trim (items : List α) : trim p (trim p items) = trim p items := trim_eq_self (trimmed_trim items)

section Loops

/-- `while (start < stop && p(points[start])) start += 1`. -/
def trimStart (p : α → Bool) (points : Array α) (start stop : Nat) : Nat :=
  if start < stop ∧ points[start]?.any p then trimStart p points (start + 1) stop else start
termination_by stop - start

/-- `while (stop > start && p(points[stop - 1])) stop -= 1`. -/
def trimEnd (p : α → Bool) (points : Array α) (start : Nat) : Nat → Nat
  | 0 => 0
  | stop + 1 => if start < stop + 1 ∧ points[stop]?.any p then trimEnd p points start stop else stop + 1

theorem drop_trimStart (points : Array α) (start : Nat) :
    points.toList.drop (trimStart p points start points.size) = (points.toList.drop start).dropWhile p := by
  induction gap : points.size - start generalizing start with
  | zero =>
      have beyond : points.toList.length ≤ start := by
        rw [Array.length_toList]
        omega
      rw [trimStart, if_neg fun inside => by omega, List.drop_of_length_le beyond]
      rfl
  | succ gap ih =>
      have inside : start < points.toList.length := by
        rw [Array.length_toList]
        omega
      have here : points[start]? = some points.toList[start] := by
        rw [← Array.getElem?_toList, List.getElem?_eq_getElem inside]
      rw [trimStart, here, Option.any_some, List.drop_eq_getElem_cons inside]
      cases drops : p points.toList[start] with
      | true =>
          rw [if_pos ⟨by omega, rfl⟩, ih (start + 1) (by omega), List.dropWhile_cons_of_pos drops]
      | false =>
          have stays : ¬ p points.toList[start] = true := Bool.eq_false_iff.mp drops
          rw [List.dropWhile_cons_of_neg stays, if_neg fun both => Bool.noConfusion both.2,
            List.drop_eq_getElem_cons inside]

theorem take_trimEnd (points : Array α) (start stop : Nat) (bounded : stop ≤ points.size) :
    (points.toList.take (trimEnd p points start stop)).drop start =
      ((points.toList.take stop).drop start).rdropWhile p := by
  induction stop with
  | zero => simp [trimEnd]
  | succ stop ih =>
      have inside : stop < points.toList.length := by
        rw [Array.length_toList]
        omega
      have here : points[stop]? = some points.toList[stop] := by
        rw [← Array.getElem?_toList, List.getElem?_eq_getElem inside]
      rw [trimEnd, here, Option.any_some]
      by_cases before : start < stop + 1
      · have whole : (points.toList.take (stop + 1)).drop start =
            (points.toList.take stop).drop start ++ [points.toList[stop]] := by
          rw [List.take_add_one, List.getElem?_eq_getElem inside, Option.toList_some, List.drop_append_of_le_length]
          rw [List.length_take]
          omega
        cases drops : p points.toList[stop] with
        | true =>
            rw [if_pos ⟨before, rfl⟩, ih (by omega), whole, List.rdropWhile_concat_pos _ _ _ drops]
        | false =>
            have stays : ¬ p points.toList[stop] = true := Bool.eq_false_iff.mp drops
            rw [if_neg fun both => Bool.noConfusion both.2, whole, List.rdropWhile_concat_neg _ _ _ stays]
      · have nothing : (points.toList.take (stop + 1)).drop start = [] := by
          apply List.drop_of_length_le
          rw [List.length_take]
          omega
        rw [if_neg fun both => before both.1, nothing]
        rfl

theorem slice_trim (points : Array α) :
    (points.extract (trimStart p points 0 points.size)
      (trimEnd p points (trimStart p points 0 points.size) points.size)).toList = trim p points.toList := by
  have whole : points.toList.take points.size = points.toList := by
    rw [← Array.length_toList]
    exact List.take_length
  rw [Array.toList_extract, List.extract_eq_drop_take', take_trimEnd points _ _ (Nat.le_refl _), whole,
    drop_trimStart]
  rfl

end Loops

end PublicLighting.Foundations.Trimming
