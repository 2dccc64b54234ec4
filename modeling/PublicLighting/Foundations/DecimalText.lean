import Mathlib.Algebra.Group.Nat.Defs
import Mathlib.Tactic.Common

/-! Texts of decimal digits: their order as texts is their order as numbers. -/

namespace PublicLighting.Foundations.DecimalText

def isDigits (text : List Char) : Bool := text.all Char.isDigit

theorem digit_range {c : Char} (digit : c.isDigit = true) : 48 ≤ c.toNat ∧ c.toNat ≤ 57 := by
  simpa [Char.isDigit, UInt32.le_iff_toNat_le] using digit

theorem digit_lt_ten {c : Char} (digit : c.isDigit = true) : c.toNat - '0'.toNat < 10 := by
  have range := digit_range digit
  change c.toNat - 48 < 10
  omega

theorem ofDigitChars_cons (c : Char) (text : List Char) : Nat.ofDigitChars 10 (c :: text) 0 =
    10 ^ text.length * (c.toNat - '0'.toNat) + Nat.ofDigitChars 10 text 0 := by
  rw [Nat.ofDigitChars_cons, Nat.ofDigitChars_eq_ofDigitChars_zero, Nat.mul_zero, Nat.zero_add]

theorem ofDigitChars_lt {text : List Char} (digits : isDigits text = true) :
    Nat.ofDigitChars 10 text 0 < 10 ^ text.length := by
  induction text with
  | nil => decide
  | cons c text ih =>
      simp only [isDigits, List.all_cons, Bool.and_eq_true] at digits
      have head := digit_lt_ten digits.1
      have tail := ih digits.2
      rw [ofDigitChars_cons, List.length_cons, Nat.pow_succ]
      calc
        10 ^ text.length * (c.toNat - '0'.toNat) + Nat.ofDigitChars 10 text 0
            < 10 ^ text.length * (c.toNat - '0'.toNat) + 10 ^ text.length := Nat.add_lt_add_left tail _
        _ = 10 ^ text.length * (c.toNat - '0'.toNat + 1) := by rw [Nat.mul_succ]
        _ ≤ 10 ^ text.length * 10 := Nat.mul_le_mul_left _ head

theorem lt_of_ofDigitChars_lt {a b : List Char} (left : isDigits a = true) (right : isDigits b = true)
    (same : a.length = b.length) (less : Nat.ofDigitChars 10 a 0 < Nat.ofDigitChars 10 b 0) : a < b := by
  induction a generalizing b with
  | nil =>
      cases b with
      | nil => exact absurd less (Nat.lt_irrefl _)
      | cons => cases same
  | cons c a ih =>
      cases b with
      | nil => cases same
      | cons d b =>
          simp only [isDigits, List.all_cons, Bool.and_eq_true] at left right
          simp only [List.length_cons, Nat.add_right_cancel_iff] at same
          have boundA := ofDigitChars_lt left.2
          have boundB := ofDigitChars_lt right.2
          rw [ofDigitChars_cons, ofDigitChars_cons, same] at less
          rw [List.cons_lt_cons_iff]
          rcases Nat.lt_trichotomy c.toNat d.toNat with before | equal | after
          · exact Or.inl (Char.lt_def.mpr (UInt32.lt_iff_toNat_lt.mpr before))
          · have same_digit : c = d := Char.toNat_inj.mp equal
            subst same_digit
            exact Or.inr ⟨rfl, ih left.2 right.2 same (Nat.lt_of_add_lt_add_left less)⟩
          · have step : d.toNat - '0'.toNat + 1 ≤ c.toNat - '0'.toNat := by
              have low := (digit_range right.1).1
              change d.toNat - 48 + 1 ≤ c.toNat - 48
              omega
            have smaller : 10 ^ b.length * (d.toNat - '0'.toNat) + 10 ^ b.length ≤
                10 ^ b.length * (c.toNat - '0'.toNat) := by
              rw [← Nat.mul_succ]
              exact Nat.mul_le_mul_left _ step
            omega

end PublicLighting.Foundations.DecimalText
