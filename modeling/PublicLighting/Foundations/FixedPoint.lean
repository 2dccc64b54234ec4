import Mathlib.Data.Rat.Floor
import Mathlib.Tactic.Linarith

/-! Numbers written with a fixed number of decimals, as `toFixed` writes those below 10^21, and
how far apart two numbers with one text can be. -/

namespace PublicLighting.Foundations.FixedPoint

variable {digits : Nat} {one other : ℚ}

/-- The integer nearest to `|value| * 10^digits`, and of two such the larger. -/
def nearest (digits : Nat) (value : ℚ) : Nat := ⌊|value| * 10 ^ digits + 1 / 2⌋.toNat

def paddedDigits (digits : Nat) (value : ℚ) : List Char :=
  List.leftpad (digits + 1) '0' (Nat.toDigits 10 (nearest digits value))

def signText (value : ℚ) : List Char := if value < 0 then ['-'] else []

def toFixed (digits : Nat) (value : ℚ) : List Char :=
  let number := paddedDigits digits value
  let whole := number.length - digits
  signText value ++ (number.take whole ++ '.' :: number.drop whole)

theorem nearest_close : |(nearest digits one : ℚ) - |one| * 10 ^ digits| ≤ 1 / 2 := by
  have positive : 0 ≤ |one| * 10 ^ digits + 1 / 2 := by positivity
  have exact : ((⌊|one| * 10 ^ digits + 1 / 2⌋.toNat : ℤ) : ℚ) = ⌊|one| * 10 ^ digits + 1 / 2⌋ := by
    rw [Int.toNat_of_nonneg (Int.floor_nonneg.mpr positive)]
  have below := Int.floor_le (|one| * 10 ^ digits + 1 / 2)
  have above := Int.lt_floor_add_one (|one| * 10 ^ digits + 1 / 2)
  rw [nearest, abs_le, ← Int.cast_natCast (R := ℚ), exact]
  constructor <;> linarith

theorem paddedDigits_digit {c : Char} (member : c ∈ paddedDigits digits one) : c.isDigit = true := by
  simp only [paddedDigits, List.leftpad, List.mem_append, List.mem_replicate] at member
  rcases member with ⟨_, rfl⟩ | member
  · rfl
  · exact Nat.isDigit_of_mem_toDigits (by decide) (by decide) member

theorem paddedDigits_number : Nat.ofDigitChars 10 (paddedDigits digits one) 0 = nearest digits one := by
  rw [paddedDigits, List.leftpad, Nat.ofDigitChars_append, Nat.ofDigitChars_replicate_zero, Nat.mul_zero,
    Nat.ofDigitChars_ten_toDigits]

theorem toFixed_digits : (toFixed digits one).filter (· ≠ '.') = signText one ++ paddedDigits digits one := by
  have kept : ∀ part ⊆ paddedDigits digits one, part.filter (· ≠ '.') = part := by
    intro part inside
    rw [List.filter_eq_self]
    intro c member
    have digit := paddedDigits_digit (inside member)
    simp only [ne_eq, decide_not, Bool.not_eq_eq_eq_not, Bool.not_true, decide_eq_false_iff_not]
    rintro rfl
    cases digit
  have sign : (signText one).filter (· ≠ '.') = signText one := by
    unfold signText
    split <;> rfl
  rw [toFixed, List.filter_append, List.filter_append, List.filter_cons_of_neg (by simp), sign,
    kept _ (List.take_subset _ _), kept _ (List.drop_subset _ _), List.take_append_drop]

theorem toFixed_chars {c : Char} (member : c ∈ toFixed digits one) : c = '-' ∨ c = '.' ∨ c.isDigit = true := by
  simp only [toFixed, List.mem_append, List.mem_cons] at member
  rcases member with sign | whole | rfl | fraction
  · unfold signText at sign
    split at sign
    · exact Or.inl (List.mem_singleton.mp sign)
    · cases sign
  · exact Or.inr (Or.inr (paddedDigits_digit (List.mem_of_mem_take whole)))
  · exact Or.inr (Or.inl rfl)
  · exact Or.inr (Or.inr (paddedDigits_digit (List.mem_of_mem_drop fraction)))

theorem toFixed_inj (same : toFixed digits one = toFixed digits other) :
    (one < 0 ↔ other < 0) ∧ nearest digits one = nearest digits other := by
  have parts : signText one ++ paddedDigits digits one = signText other ++ paddedDigits digits other := by
    rw [← toFixed_digits, ← toFixed_digits, same]
  have nodash : ∀ value : ℚ, '-' ∉ paddedDigits digits value := by
    intro value member
    cases paddedDigits_digit member
  have number : paddedDigits digits one = paddedDigits digits other → nearest digits one = nearest digits other := by
    intro equal
    rw [← paddedDigits_number, equal, paddedDigits_number]
  by_cases negative : one < 0
  · by_cases negative' : other < 0
    · simp only [signText, negative, negative', if_true, List.singleton_append, List.cons.injEq, true_and] at parts
      exact ⟨iff_of_true negative negative', number parts⟩
    · simp only [signText, negative, negative', if_true, if_false, List.nil_append, List.singleton_append] at parts
      exact absurd (parts ▸ List.mem_cons_self) (nodash other)
  · by_cases negative' : other < 0
    · simp only [signText, negative, negative', if_true, if_false, List.nil_append, List.singleton_append] at parts
      exact absurd (parts ▸ List.mem_cons_self) (nodash one)
    · simp only [signText, negative, negative', if_false, List.nil_append] at parts
      exact ⟨iff_of_false negative negative', number parts⟩

theorem toFixed_close (same : toFixed digits one = toFixed digits other) : |one - other| ≤ 1 / 10 ^ digits := by
  obtain ⟨sign, nearest⟩ := toFixed_inj same
  have first := abs_le.mp (@nearest_close digits one)
  have second := abs_le.mp (@nearest_close digits other)
  rw [nearest] at first
  have scale : (0 : ℚ) < 10 ^ digits := by positivity
  have stretched : |one - other| * 10 ^ digits = |one * 10 ^ digits - other * 10 ^ digits| := by
    rw [← sub_mul, abs_mul, abs_of_pos scale]
  rw [le_div_iff₀ scale, stretched, abs_le]
  by_cases negative : one < 0
  · rw [abs_of_neg negative] at first
    rw [abs_of_neg (sign.mp negative)] at second
    constructor <;> linarith
  · rw [abs_of_nonneg (not_lt.mp negative)] at first
    rw [abs_of_nonneg (not_lt.mp (mt sign.mpr negative))] at second
    constructor <;> linarith

end PublicLighting.Foundations.FixedPoint
