import Mathlib.Algebra.Group.Nat.Defs
import Mathlib.Data.List.Induction
import Mathlib.Tactic.Common
import Mathlib.Tactic.Ring

/-! Numbers as words of one width, the high word first, and words as digits. -/

namespace PublicLighting.Foundations.Words

def ofWords (base : Nat) (words : List Nat) : Nat := words.foldl (fun number word => number * base + word) 0

def toWords (base : Nat) : Nat → Nat → List Nat
  | 0, _ => []
  | count + 1, number => toWords base count (number / base) ++ [number % base]

theorem ofWords_concat (base : Nat) (words : List Nat) (word : Nat) :
    ofWords base (words ++ [word]) = ofWords base words * base + word := by
  simp only [ofWords, List.foldl_append, List.foldl_cons, List.foldl_nil]

theorem toWords_length (base count number : Nat) : (toWords base count number).length = count := by
  induction count generalizing number with
  | zero => rfl
  | succ count ih => simp only [toWords, List.length_append, ih, List.length_singleton]

theorem toWords_lt {base : Nat} (positive : 0 < base) (count number : Nat) :
    ∀ word ∈ toWords base count number, word < base := by
  induction count generalizing number with
  | zero => exact nofun
  | succ count ih =>
      intro word member
      rw [toWords, List.mem_append, List.mem_singleton] at member
      cases member with
      | inl high => exact ih _ word high
      | inr low => exact low ▸ Nat.mod_lt _ positive

theorem ofWords_lt {base : Nat} (words : List Nat) (small : ∀ word ∈ words, word < base) :
    ofWords base words < base ^ words.length := by
  induction words using List.reverseRecOn with
  | nil => exact Nat.one_pos
  | append_singleton words word ih =>
      have high := ih fun word member => small word (List.mem_append_left _ member)
      have low := small word (by simp)
      rw [ofWords_concat, List.length_append, List.length_singleton, Nat.pow_succ]
      calc ofWords base words * base + word < ofWords base words * base + base := by omega
        _ = (ofWords base words + 1) * base := by ring
        _ ≤ base ^ words.length * base := Nat.mul_le_mul_right _ high

theorem toWords_ofWords {base : Nat} (positive : 0 < base) (words : List Nat) (small : ∀ word ∈ words, word < base) :
    toWords base words.length (ofWords base words) = words := by
  induction words using List.reverseRecOn with
  | nil => rfl
  | append_singleton words word ih =>
      have low : word < base := small word (by simp)
      have high : (ofWords base words * base + word) / base = ofWords base words := by
        rw [Nat.mul_comm, Nat.mul_add_div positive, Nat.div_eq_of_lt low, Nat.add_zero]
      have last : (ofWords base words * base + word) % base = word := by
        rw [Nat.mul_comm, Nat.mul_add_mod, Nat.mod_eq_of_lt low]
      rw [ofWords_concat, List.length_append, List.length_singleton, toWords, high, last,
        ih fun word member => small word (List.mem_append_left _ member)]

theorem ofWords_toWords {base : Nat} (count number : Nat) (bounded : number < base ^ count) :
    ofWords base (toWords base count number) = number := by
  induction count generalizing number with
  | zero =>
      rw [Nat.pow_zero] at bounded
      exact (Nat.lt_one_iff.mp bounded).symm
  | succ count ih =>
      have high : number / base < base ^ count := by
        apply Nat.div_lt_of_lt_mul
        rw [Nat.mul_comm, ← Nat.pow_succ]
        exact bounded
      rw [toWords, ofWords_concat, ih _ high, Nat.mul_comm]
      exact Nat.div_add_mod number base

theorem foldl_shift (width : Nat) (words : List Nat) (small : ∀ word ∈ words, word < 2 ^ width) :
    words.foldl (fun number word => (number <<< width) ||| word) 0 = ofWords (2 ^ width) words := by
  induction words using List.reverseRecOn with
  | nil => rfl
  | append_singleton words word ih =>
      have low : word < 2 ^ width := small word (by simp)
      rw [List.foldl_append, ih fun word member => small word (List.mem_append_left _ member), ofWords_concat,
        List.foldl_cons, List.foldl_nil, ← Nat.shiftLeft_add_eq_or_of_lt low, Nat.shiftLeft_eq]

section Masks

/-- The bits of a number that lie above the lowest `host` of `width`. -/
def highMask (width host : Nat) : Nat := ((1 <<< width) - 1) ^^^ ((1 <<< host) - 1)

theorem testBit_highMask (width host i : Nat) (inside : host ≤ width) :
    (highMask width host).testBit i = decide (host ≤ i ∧ i < width) := by
  rw [highMask, Nat.testBit_xor, Nat.one_shiftLeft, Nat.one_shiftLeft, Nat.testBit_two_pow_sub_one,
    Nat.testBit_two_pow_sub_one]
  by_cases low : i < host
  · have below : i < width := by omega
    simp only [low, below, decide_true, Bool.xor_self, Nat.not_le.mpr low, false_and, decide_false]
  · simp only [low, decide_false, Bool.xor_false, Nat.not_lt.mp low, true_and]

theorem mask_eq_iff {width count a b : Nat} (inside : count ≤ width) :
    a &&& highMask width (width - count) = b &&& highMask width (width - count) ↔
      ∀ i < count, a.testBit (width - 1 - i) = b.testBit (width - 1 - i) := by
  have within : width - count ≤ width := Nat.sub_le _ _
  constructor
  · intro same i early
    have bit := congrArg (fun number => number.testBit (width - 1 - i)) same
    have kept : (width - count ≤ width - 1 - i ∧ width - 1 - i < width) := by omega
    simpa only [Nat.testBit_and, testBit_highMask _ _ _ within, kept, and_self, decide_true, Bool.and_true] using bit
  · intro agree
    apply Nat.eq_of_testBit_eq
    intro i
    rw [Nat.testBit_and, Nat.testBit_and, testBit_highMask _ _ _ within]
    by_cases kept : width - count ≤ i ∧ i < width
    · have position : width - 1 - (width - 1 - i) = i := by omega
      rw [← position, agree (width - 1 - i) (by omega)]
    · simp only [kept, decide_false, Bool.and_false]

end Masks

section Hexadecimal

/-- What a hexadecimal digit of either case counts. -/
def nibble (c : Char) : Nat :=
  if c.isDigit then c.toNat - '0'.toNat
  else if 'a' ≤ c then c.toNat - 'a'.toNat + 10
  else c.toNat - 'A'.toNat + 10

def ofHex (digits : List Char) : Nat := ofWords 16 (digits.map nibble)

theorem nibble_digitChar : ∀ digit < 16, nibble (Nat.digitChar digit) = digit := by decide

theorem ofHex_toDigits (number : Nat) : ofHex (Nat.toDigits 16 number) = number := by
  induction number using Nat.strongRecOn with
  | ind number ih =>
      rw [Nat.toDigits_eq_if (by decide)]
      by_cases small : number < 16
      · rw [if_pos small]
        calc ofHex [number.digitChar] = 0 * 16 + nibble number.digitChar := rfl
          _ = number := by rw [nibble_digitChar _ small]; omega
      · rw [if_neg small, ofHex, List.map_append, List.map_singleton, ofWords_concat,
          nibble_digitChar _ (Nat.mod_lt _ (by decide))]
        have high := ih (number / 16) (by omega)
        rw [ofHex] at high
        rw [high]
        omega

theorem toDigits_hex_injective {a b : Nat} (same : Nat.toDigits 16 a = Nat.toDigits 16 b) : a = b := by
  rw [← ofHex_toDigits a, same, ofHex_toDigits]

end Hexadecimal

end PublicLighting.Foundations.Words
