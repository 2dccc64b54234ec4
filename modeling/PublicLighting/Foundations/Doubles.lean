import Mathlib.Algebra.Order.Floor.Ring
import Mathlib.Data.Int.Log
import Mathlib.Data.List.DropRight
import Mathlib.Data.Nat.Prime.Basic
import Mathlib.Data.Rat.Floor
import Mathlib.Tactic.FieldSimp
import Mathlib.Tactic.NormNum
import Mathlib.Tactic.Ring
import PublicLighting.Foundations.DecimalText
import PublicLighting.Foundations.Trimming

/-! JavaScript's numbers as rationals: how a decimal literal becomes a double, and how a
double is written. The rational `2 ^ 1024` stands for infinity, and no zero has a sign. -/

namespace PublicLighting.Foundations.Doubles

open DecimalText (isDigits)

/-- To the nearest integer, and to the even one of two. -/
def roundEven (q : ℚ) : ℤ :=
  let low := ⌊q⌋
  if q - low < 1 / 2 then low
  else if 1 / 2 < q - low then low + 1
  else if low % 2 = 0 then low else low + 1

/-- The place of the last of 53 binary digits, which no subnormal number goes below. -/
def lastPlace (q : ℚ) : ℤ := max (-1074) (Int.log 2 q - 52)

def infinity : ℚ := 2 ^ 1024

def toDouble (q : ℚ) : ℚ := min infinity (roundEven (q / 2 ^ lastPlace q) * 2 ^ lastPlace q)

def IsNumber (q : ℚ) : Prop := toDouble |q| = |q|

instance (q : ℚ) : Decidable (IsNumber q) := inferInstanceAs (Decidable (_ = _))

/-- A finite double. -/
def IsDouble (q : ℚ) : Prop := |q| < infinity ∧ IsNumber q

instance (q : ℚ) : Decidable (IsDouble q) := inferInstanceAs (Decidable (_ ∧ _))

def isSafeInteger (q : ℚ) : Bool := q.den = 1 ∧ |q| ≤ 9007199254740991

@[simp] theorem roundEven_intCast (n : ℤ) : roundEven n = n := by
  simp [roundEven]

theorem lt_infinity {n : Nat} (small : n < 2 ^ 53) : (n : ℚ) < infinity :=
  calc
    (n : ℚ) < 2 ^ 53 := by exact_mod_cast small
    _ ≤ infinity := pow_le_pow_right₀ one_le_two (by decide)

theorem infinity_pos : 0 < infinity := pow_pos two_pos _

@[simp] theorem toDouble_zero : toDouble 0 = 0 := by
  rw [toDouble, zero_div, ← Int.cast_zero, roundEven_intCast, Int.cast_zero, zero_mul,
    min_eq_right infinity_pos.le]

theorem toDouble_whole {q : ℚ} {n : ℤ} (whole : q / 2 ^ lastPlace q = n) (bounded : q ≤ infinity) :
    toDouble q = q := by
  rw [toDouble, whole, roundEven_intCast, ← whole, div_mul_cancel₀ _ (zpow_ne_zero _ two_ne_zero),
    min_eq_right bounded]

/-- An integer of 53 bits at a place that is not too low is a double already. -/
theorem toDouble_dyadic {m : Nat} {e : ℤ} (small : m < 2 ^ 53) (deep : -1074 ≤ e)
    (bounded : (m : ℚ) * 2 ^ e ≤ infinity) : toDouble (m * 2 ^ e) = m * 2 ^ e := by
  rcases Nat.eq_zero_or_pos m with none | positive
  · rw [none, Nat.cast_zero, zero_mul, toDouble_zero]
  · have above : (0 : ℚ) < m * 2 ^ e := mul_pos (Nat.cast_pos.mpr positive) (zpow_pos two_pos e)
    have less : (m : ℚ) * 2 ^ e < (2 : Nat) ^ (53 + e) := by
      rw [zpow_add₀ (by norm_num)]
      exact mul_lt_mul_of_pos_right (by exact_mod_cast small) (zpow_pos two_pos e)
    have log := (Int.lt_zpow_iff_log_lt (by decide) above).mp less
    have place : lastPlace (m * 2 ^ e) ≤ e := by
      rw [lastPlace]
      omega
    have power : (2 : ℚ) ^ (e - lastPlace (m * 2 ^ e)).toNat = 2 ^ e / 2 ^ lastPlace (m * 2 ^ e) := by
      rw [← zpow_natCast, Int.toNat_of_nonneg (by omega), zpow_sub₀ two_ne_zero]
    apply toDouble_whole (n := m * 2 ^ (e - lastPlace (m * 2 ^ e)).toNat) _ bounded
    push_cast
    rw [power, mul_div_assoc]

theorem toDouble_natCast {n : Nat} (small : n < 2 ^ 53) : toDouble n = n := by
  have dyadic := toDouble_dyadic (e := 0) small (by decide) (by
    rw [zpow_zero, mul_one]
    exact (lt_infinity small).le)
  rwa [zpow_zero, mul_one] at dyadic

theorem toDouble_infinity : toDouble infinity = infinity := by
  have power : infinity = (1 : Nat) * 2 ^ (1024 : ℤ) := by
    rw [Nat.cast_one, one_mul]
    rfl
  have dyadic := toDouble_dyadic (m := 1) (e := 1024) (by decide) (by decide) power.ge
  rwa [← power] at dyadic

theorem roundEven_nonneg {q : ℚ} (nonneg : 0 ≤ q) : 0 ≤ roundEven q := by
  have low : 0 ≤ ⌊q⌋ := Int.floor_nonneg.mpr nonneg
  unfold roundEven
  dsimp only
  split_ifs <;> omega

theorem roundEven_le {q : ℚ} {n : ℤ} (below : q < n) : roundEven q ≤ n := by
  have low : ⌊q⌋ < n := Int.floor_lt.mpr below
  unfold roundEven
  dsimp only
  split_ifs <;> omega

theorem le_roundEven {q : ℚ} {n : ℤ} (above : n ≤ q) : n ≤ roundEven q := by
  have low : n ≤ ⌊q⌋ := Int.le_floor.mpr above
  unfold roundEven
  dsimp only
  split_ifs <;> omega

theorem le_toDouble {n : Nat} (large : 2 ^ 53 ≤ n) : 2 ^ 53 ≤ toDouble n := by
  have positive : (0 : ℚ) < n := by exact_mod_cast (pow_pos two_pos 53).trans_le large
  have log : (53 : ℤ) ≤ Int.log 2 (n : ℚ) := by
    rw [Int.log_natCast]
    exact_mod_cast Nat.le_log_of_pow_le (by decide) large
  have place : lastPlace (n : ℚ) = Int.log 2 (n : ℚ) - 52 := max_eq_right (by omega)
  have scaled : ((2 ^ 52 : ℤ) : ℚ) ≤ n / 2 ^ lastPlace (n : ℚ) := by
    rw [le_div_iff₀ (zpow_pos two_pos _), place]
    calc
      ((2 ^ 52 : ℤ) : ℚ) * 2 ^ (Int.log 2 (n : ℚ) - 52) = 2 ^ Int.log 2 (n : ℚ) := by
        rw [zpow_sub₀ two_ne_zero]
        norm_num
        field_simp
      _ ≤ n := Int.zpow_log_le_self (by decide) positive
  have rounded : ((2 ^ 52 : ℤ) : ℚ) ≤ roundEven (n / 2 ^ lastPlace (n : ℚ)) := by exact_mod_cast le_roundEven scaled
  have unit : (2 : ℚ) ≤ 2 ^ lastPlace (n : ℚ) := by
    rw [place]
    calc
      (2 : ℚ) = 2 ^ (1 : ℤ) := (zpow_one 2).symm
      _ ≤ 2 ^ (Int.log 2 (n : ℚ) - 52) := zpow_le_zpow_right₀ one_le_two (by omega)
  apply le_min
  · exact pow_le_pow_right₀ one_le_two (by decide)
  · calc
      (2 : ℚ) ^ 53 = ((2 ^ 52 : ℤ) : ℚ) * 2 := by norm_num
      _ ≤ roundEven (n / 2 ^ lastPlace (n : ℚ)) * 2 ^ lastPlace (n : ℚ) :=
        mul_le_mul rounded unit two_pos.le (le_trans (by norm_num) rounded)

theorem scaled_lt (q : ℚ) : q / 2 ^ lastPlace q < (2 ^ 53 : ℤ) := by
  have log : q < 2 ^ (Int.log 2 q + 1) := Int.lt_zpow_succ_log_self (by decide) q
  have place : Int.log 2 q + 1 ≤ 53 + lastPlace q := by
    rw [lastPlace]
    omega
  rw [div_lt_iff₀ (zpow_pos two_pos _)]
  calc
    q < 2 ^ (Int.log 2 q + 1) := log
    _ ≤ 2 ^ (53 + lastPlace q) := zpow_le_zpow_right₀ one_le_two place
    _ = (2 ^ 53 : ℤ) * 2 ^ lastPlace q := by
      rw [zpow_add₀ two_ne_zero]
      norm_num

theorem toDouble_nonneg {q : ℚ} (nonneg : 0 ≤ q) : 0 ≤ toDouble q := by
  have sign := roundEven_nonneg (div_nonneg nonneg (zpow_pos two_pos (lastPlace q)).le)
  apply le_min infinity_pos.le
  exact mul_nonneg (Int.cast_nonneg sign) (zpow_pos two_pos _).le

theorem toDouble_toDouble {q : ℚ} (nonneg : 0 ≤ q) : toDouble (toDouble q) = toDouble q := by
  have rounded : toDouble q = min infinity (roundEven (q / 2 ^ lastPlace q) * 2 ^ lastPlace q) := rfl
  have bits := roundEven_le (scaled_lt q)
  have sign := roundEven_nonneg (div_nonneg nonneg (zpow_pos two_pos (lastPlace q)).le)
  have deep : -1074 ≤ lastPlace q := le_max_left _ _
  rcases min_choice infinity (roundEven (q / 2 ^ lastPlace q) * 2 ^ lastPlace q) with top | inner
  · rw [rounded, top, toDouble_infinity]
  · have bounded := min_eq_right_iff.mp inner
    rw [rounded, inner]
    generalize lastPlace q = e at *
    generalize roundEven (q / 2 ^ e) = m at *
    obtain ⟨m, same⟩ := Int.eq_ofNat_of_zero_le sign
    subst same
    rw [Int.cast_natCast] at bounded ⊢
    rcases Nat.lt_or_ge m (2 ^ 53) with small | large
    · exact toDouble_dyadic small deep bounded
    · have carried : (m : ℚ) * 2 ^ e = (2 ^ 52 : Nat) * 2 ^ (e + 1) := by
        have exact_bits : m = 2 ^ 53 := by omega
        rw [exact_bits, zpow_add_one₀ two_ne_zero]
        push_cast
        ring
      rw [carried] at bounded ⊢
      exact toDouble_dyadic (by decide) (by omega) bounded

theorem isSafeInteger_natCast {n : Nat} (small : n ≤ 9007199254740991) : isSafeInteger n = true := by
  simp [isSafeInteger, small]

theorem isDouble_safe {q : ℚ} (safe : isSafeInteger q = true) : IsDouble q := by
  simp only [isSafeInteger, Bool.decide_and, Bool.and_eq_true, decide_eq_true_eq] at safe
  have whole : |q| = (q.num.natAbs : ℚ) := by
    rw [← Rat.den_eq_one_iff q |>.mp safe.1]
    simp
  have bound : q.num.natAbs ≤ 9007199254740991 := by
    have below := safe.2
    rw [whole] at below
    exact_mod_cast below
  have small : q.num.natAbs < 2 ^ 53 := bound.trans_lt (by decide)
  rw [IsDouble, IsNumber, whole]
  exact ⟨lt_infinity small, toDouble_natCast small⟩

/-! Literals. -/

/-- What a literal with these digits and this exponent stands for. -/
def literal (whole fraction : List Char) (exponent : ℤ) : ℚ :=
  Nat.ofDigitChars 10 (whole ++ fraction) 0 * 10 ^ (exponent - fraction.length)

def takeDigits (text : List Char) : List Char × List Char :=
  (text.takeWhile Char.isDigit, text.dropWhile Char.isDigit)

def readFraction : List Char → Option (List Char × List Char)
  | '.' :: text => if (takeDigits text).1 = [] then none else some (takeDigits text)
  | text => some ([], text)

def readSign : List Char → Bool × List Char
  | '-' :: text => (true, text)
  | '+' :: text => (false, text)
  | text => (false, text)

def readExponent : List Char → Option (ℤ × List Char)
  | [] => some (0, [])
  | c :: text =>
      if c = 'e' ∨ c = 'E' then
        let (negative, text) := readSign text
        let (power, text) := takeDigits text
        let magnitude : ℤ := Nat.ofDigitChars 10 power 0
        if power = [] then none else some (if negative then -magnitude else magnitude, text)
      else some (0, c :: text)

/-- A number of JSON but for its sign: no needless zero in front, digits on both sides of a point. -/
def readMagnitude (text : List Char) : Option (ℚ × List Char) :=
  let (whole, text) := takeDigits text
  if whole = [] ∨ (whole.head? = some '0' ∧ 1 < whole.length) then none
  else do
    let (fraction, text) ← readFraction text
    let (exponent, text) ← readExponent text
    return (toDouble (literal whole fraction exponent), text)

def readNumber : List Char → Option (ℚ × List Char)
  | '-' :: text => (readMagnitude text).map fun (value, text) => (-value, text)
  | text => readMagnitude text

theorem literal_nonneg (whole fraction : List Char) (exponent : ℤ) : 0 ≤ literal whole fraction exponent :=
  mul_nonneg (Nat.cast_nonneg _) (zpow_nonneg (by norm_num) _)

theorem readMagnitude_isNumber {text rest : List Char} {q : ℚ} (read : readMagnitude text = some (q, rest)) :
    IsNumber q ∧ IsNumber (-q) := by
  have rounded : ∃ x, 0 ≤ x ∧ q = toDouble x := by
    unfold readMagnitude at read
    simp only [Option.bind_eq_bind, pure] at read
    split at read
    · cases read
    · obtain ⟨fraction, _, read⟩ := Option.bind_eq_some_iff.mp read
      obtain ⟨exponent, _, read⟩ := Option.bind_eq_some_iff.mp read
      cases read
      exact ⟨_, literal_nonneg _ _ _, rfl⟩
  obtain ⟨x, nonneg, same⟩ := rounded
  subst same
  rw [IsNumber, IsNumber, abs_neg, abs_of_nonneg (toDouble_nonneg nonneg)]
  exact ⟨toDouble_toDouble nonneg, toDouble_toDouble nonneg⟩

theorem readNumber_isNumber {text rest : List Char} {q : ℚ} (read : readNumber text = some (q, rest)) :
    IsNumber q := by
  unfold readNumber at read
  split at read
  · obtain ⟨answer, magnitude, same⟩ := Option.map_eq_some_iff.mp read
    cases same
    exact (readMagnitude_isNumber magnitude).2
  · exact (readMagnitude_isNumber read).1

/-! How a double is written. -/

structure Decimal where
  significand : Nat
  exponent : ℤ
  deriving DecidableEq

def Decimal.value (decimal : Decimal) : ℚ := decimal.significand * 10 ^ decimal.exponent

/-- The decimals of so many digits on both sides of a number, the nearer first. -/
def candidates (q : ℚ) (count : Nat) : List Decimal :=
  let exponent := Int.log 10 q + 1 - count
  let low := ⌊q / 10 ^ exponent⌋
  let near := roundEven (q / 10 ^ exponent)
  [⟨near.toNat, exponent⟩, ⟨(2 * low + 1 - near).toNat, exponent⟩]

def exactly (q : ℚ) : Decimal :=
  let places := Nat.log 2 q.den
  ⟨q.num.toNat * 5 ^ places, -places⟩

/-- The fewest digits that are read back as the number. -/
def shortest (q : ℚ) : Decimal :=
  (((List.range' 1 17).flatMap (candidates q)).find? fun decimal => toDouble decimal.value = q).getD (exactly q)

/-- `digits` with the point so many places from their front. -/
def layout (digits : List Char) (point : ℤ) : List Char :=
  if digits.length ≤ point ∧ point ≤ 21 then
    digits ++ List.replicate (point - digits.length).toNat '0'
  else if 0 < point ∧ point ≤ 21 then
    digits.take point.toNat ++ '.' :: digits.drop point.toNat
  else if -6 < point ∧ point ≤ 0 then
    '0' :: '.' :: (List.replicate (-point).toNat '0' ++ digits)
  else
    let fraction := if digits.length = 1 then [] else '.' :: digits.tail
    let sign := if 0 ≤ point - 1 then '+' else '-'
    digits.take 1 ++ fraction ++ 'e' :: sign :: Nat.toDigits 10 (point - 1).natAbs

/-- `Number::toString` of a positive number. -/
def magnitudeText (q : ℚ) : List Char :=
  let decimal := shortest q
  let digits := Nat.toDigits 10 decimal.significand
  layout (digits.rdropWhile (· == '0')) (digits.length + decimal.exponent)

def numberText (q : ℚ) : List Char :=
  if q = 0 then ['0'] else if q < 0 then '-' :: magnitudeText (-q) else magnitudeText q

/-! What is written is read back. -/

section Reading

def Ends (text : List Char) : Prop :=
  ∀ c, text.head? = some c → c.isDigit = false ∧ c ≠ '.' ∧ c ≠ 'e' ∧ c ≠ 'E'

variable {digits rest : List Char}

theorem takeDigits_append (all : isDigits digits = true)
    (ends : ∀ c, rest.head? = some c → c.isDigit = false) : takeDigits (digits ++ rest) = (digits, rest) := by
  have each : ∀ c ∈ digits, c.isDigit = true := List.all_eq_true.mp all
  have stops : rest.takeWhile Char.isDigit = [] ∧ rest.dropWhile Char.isDigit = rest := by
    cases rest with
    | nil => exact ⟨rfl, rfl⟩
    | cons c rest =>
        have stop := ends c rfl
        simp [stop]
  rw [takeDigits, List.takeWhile_append_of_pos each, List.dropWhile_append_of_pos each, stops.1, stops.2,
    List.append_nil]

theorem readFraction_none (ends : Ends rest) : readFraction rest = some ([], rest) := by
  cases rest with
  | nil => rfl
  | cons c rest =>
      have point := (ends c rfl).2.1
      unfold readFraction
      split
      · rename_i same
        cases same
        exact absurd rfl point
      · rfl

theorem readExponent_none (ends : Ends rest) : readExponent rest = some (0, rest) := by
  cases rest with
  | nil => rfl
  | cons c rest =>
      have letters := (ends c rfl).2.2
      simp [readExponent, letters]

theorem isDigits_toDigits (n : Nat) : isDigits (Nat.toDigits 10 n) = true :=
  List.all_eq_true.mpr fun _ member => Nat.isDigit_of_mem_toDigits (by decide) (by decide) member

theorem readExponent_written (power : ℤ) (ends : Ends rest) :
    readExponent ('e' :: (if 0 ≤ power then '+' else '-') :: (Nat.toDigits 10 power.natAbs ++ rest)) =
      some (power, rest) := by
  have taken := takeDigits_append (isDigits_toDigits power.natAbs) fun c first => (ends c first).1
  have some_digit : Nat.toDigits 10 power.natAbs ≠ [] := Nat.toDigits_ne_nil
  by_cases sign : 0 ≤ power
  · simp [readExponent, readSign, sign, taken, some_digit, Nat.ofDigitChars_ten_toDigits]
  · simp [readExponent, readSign, sign, taken, some_digit, Nat.ofDigitChars_ten_toDigits]
    rw [abs_of_neg (by omega), neg_neg]

theorem readMagnitude_of {whole fraction tail after : List Char} {exponent : ℤ} (all : isDigits whole = true)
    (given : whole ≠ []) (lead : whole.head? = some '0' → whole.length = 1)
    (stops : ∀ c, tail.head? = some c → c.isDigit = false) (fractioned : readFraction tail = some (fraction, after))
    (scaled : readExponent after = some (exponent, rest)) {q : ℚ} (value : literal whole fraction exponent = q) :
    readMagnitude (whole ++ tail) = some (toDouble q, rest) := by
  have plain : ¬ (whole = [] ∨ (whole.head? = some '0' ∧ 1 < whole.length)) := by
    rintro (none | ⟨zero, long⟩)
    · exact given none
    · exact absurd (lead zero) (Nat.ne_of_gt long)
  simp only [readMagnitude, takeDigits_append all stops]
  rw [if_neg plain, fractioned, Option.bind_eq_bind, Option.bind_some, scaled, ← value]
  rfl

theorem isDigits_append {front back : List Char} (left : isDigits front = true) (right : isDigits back = true) :
    isDigits (front ++ back) = true := by
  rw [isDigits, List.all_append, Bool.and_eq_true]
  exact ⟨left, right⟩

theorem isDigits_zeros (count : Nat) : isDigits (List.replicate count '0') = true :=
  List.all_eq_true.mpr fun c member => by
    rw [List.eq_of_mem_replicate member]
    rfl

theorem isDigits_split {front back : List Char} (all : isDigits (front ++ back) = true) :
    isDigits front = true ∧ isDigits back = true := by
  rw [isDigits, List.all_append, Bool.and_eq_true] at all
  exact all

theorem readFraction_written {fraction : List Char} (all : isDigits fraction = true) (given : fraction ≠ [])
    (stops : ∀ c, rest.head? = some c → c.isDigit = false) :
    readFraction ('.' :: (fraction ++ rest)) = some (fraction, rest) := by
  simp [readFraction, takeDigits_append all stops, given]

theorem point_stops (text : List Char) (c : Char) (first : ('.' :: text).head? = some c) : c.isDigit = false := by
  cases first
  rfl

/-- The value of a digit string with its point so many places from the front. -/
def placed (digits : List Char) (point : ℤ) : ℚ := Nat.ofDigitChars 10 digits 0 * 10 ^ (point - digits.length)

theorem literal_placed {whole fraction : List Char} {exponent point : ℤ} (same : whole ++ fraction = digits)
    (scaled : exponent - fraction.length = point - digits.length) :
    literal whole fraction exponent = placed digits point := by
  rw [literal, same, scaled, placed]

theorem literal_padded {count : Nat} {point : ℤ} (far : (count : ℤ) = point - digits.length) :
    literal (digits ++ List.replicate count '0') [] 0 = placed digits point := by
  rw [literal, List.append_nil, Nat.ofDigitChars_append, Nat.ofDigitChars_replicate_zero, placed, ← far,
    zpow_natCast]
  push_cast
  simp [mul_comm]

theorem literal_small {count : Nat} {point : ℤ} (far : (count : ℤ) = -point) :
    literal ['0'] (List.replicate count '0' ++ digits) 0 = placed digits point := by
  have zeros : Nat.ofDigitChars 10 (['0'] ++ (List.replicate count '0' ++ digits)) 0 =
      Nat.ofDigitChars 10 digits 0 := by
    rw [← List.append_assoc, Nat.ofDigitChars_append]
    simp [Nat.ofDigitChars_cons]
  have length : (0 : ℤ) - (List.replicate count '0' ++ digits).length = point - digits.length := by
    rw [List.length_append, List.length_replicate]
    omega
  rw [literal, zeros, length, placed]

variable {point : ℤ}

theorem readMagnitude_whole (all : isDigits digits = true) (given : digits ≠ []) (lead : digits.head? ≠ some '0')
    (ends : Ends rest) (whole : digits.length ≤ point) :
    readMagnitude (digits ++ List.replicate (point - digits.length).toNat '0' ++ rest) =
      some (toDouble (placed digits point), rest) := by
  have padded := isDigits_append all (isDigits_zeros (point - digits.length).toNat)
  have kept : (digits ++ List.replicate (point - digits.length).toNat '0').head? ≠ some '0' := by
    rw [List.head?_append_of_ne_nil _ given]
    exact lead
  apply readMagnitude_of padded _ (fun zero => absurd zero kept) (fun c first => (ends c first).1)
    (readFraction_none ends) (readExponent_none ends) (literal_padded (by omega))
  simp [given]

theorem readMagnitude_pointed (all : isDigits digits = true) (lead : digits.head? ≠ some '0')
    (ends : Ends rest) {count : Nat} (inside : 0 < count ∧ count < digits.length) :
    readMagnitude (digits.take count ++ '.' :: (digits.drop count ++ rest)) =
      some (toDouble (placed digits count), rest) := by
  have parts := isDigits_split ((List.take_append_drop count digits).symm ▸ all)
  have front : digits.take count ≠ [] := by
    rw [Ne, List.take_eq_nil_iff, ← List.length_eq_zero_iff]
    omega
  have back : digits.drop count ≠ [] := by
    rw [Ne, List.drop_eq_nil_iff]
    omega
  have kept : (digits.take count).head? ≠ some '0' := by
    rw [List.head?_take, if_neg (by omega)]
    exact lead
  apply readMagnitude_of parts.1 front (fun zero => absurd zero kept) (point_stops _)
    (readFraction_written parts.2 back fun c first => (ends c first).1) (readExponent_none ends)
  apply literal_placed (List.take_append_drop count digits)
  rw [List.length_drop]
  omega

theorem readMagnitude_small (all : isDigits digits = true) (given : digits ≠ []) (ends : Ends rest)
    (low : point ≤ 0) :
    readMagnitude (['0'] ++ '.' :: (List.replicate (-point).toNat '0' ++ digits ++ rest)) =
      some (toDouble (placed digits point), rest) := by
  have zeros := isDigits_append (isDigits_zeros (-point).toNat) all
  apply readMagnitude_of rfl (by simp) (fun _ => rfl) (point_stops _)
    (readFraction_written zeros (by simp [given]) fun c first => (ends c first).1) (readExponent_none ends)
  apply literal_small
  omega

theorem readMagnitude_scaled {d : Char} {p : ℤ} (all : isDigits (d :: digits) = true) (ends : Ends rest) :
    readMagnitude ([d] ++ (if digits = [] then [] else '.' :: digits) ++
      'e' :: (if 0 ≤ p - 1 then '+' else '-') :: (Nat.toDigits 10 (p - 1).natAbs ++ rest)) =
        some (toDouble (placed (d :: digits) p), rest) := by
  have parts : isDigits [d] = true ∧ isDigits digits = true := isDigits_split all
  have scaled := readExponent_written (p - 1) ends
  have letter : ∀ text c, ('e' :: text).head? = some c → c.isDigit = false := by
    intro text c first
    cases first
    rfl
  split
  · rename_i none
    subst none
    rw [List.append_nil]
    apply readMagnitude_of parts.1 (by simp) (fun _ => rfl) (letter _) rfl scaled
    apply literal_placed rfl
    simp
  · rename_i given
    rw [List.append_assoc, List.cons_append]
    apply readMagnitude_of parts.1 (by simp) (fun _ => rfl) (point_stops _)
      (readFraction_written parts.2 given (letter _)) scaled
    apply literal_placed rfl
    simp only [List.singleton_append, List.length_cons]
    omega

theorem readMagnitude_layout (all : isDigits digits = true) (given : digits ≠ []) (lead : digits.head? ≠ some '0')
    (ends : Ends rest) :
    readMagnitude (layout digits point ++ rest) = some (toDouble (placed digits point), rest) := by
  unfold layout
  split
  · rename_i bounds
    exact readMagnitude_whole all given lead ends bounds.1
  · split
    · rename_i low bounds
      have same : (point.toNat : ℤ) = point := Int.toNat_of_nonneg (Int.le_of_lt bounds.1)
      have read : readMagnitude (digits.take point.toNat ++ '.' :: (digits.drop point.toNat ++ rest)) =
          some (toDouble (placed digits point.toNat), rest) := readMagnitude_pointed all lead ends (by omega)
      rw [same] at read
      rw [List.append_assoc, List.cons_append]
      exact read
    · split
      · rename_i low mid bounds
        exact readMagnitude_small all given ends bounds.2
      · cases digits with
        | nil => exact absurd rfl given
        | cons d digits =>
            simpa using readMagnitude_scaled (p := point) all ends

theorem den_dvd_two_pow (m e : ℤ) (places : Nat) (above : -places ≤ e) :
    ((m : ℚ) * 2 ^ e).den ∣ 2 ^ places := by
  have split : (2 : ℚ) ^ (e + places).toNat = 2 ^ e * 2 ^ places := by
    rw [← zpow_natCast, Int.toNat_of_nonneg (by omega), zpow_add₀ two_ne_zero, zpow_natCast]
  have over_power : (m : ℚ) * 2 ^ e = Rat.divInt (m * 2 ^ (e + places).toNat) (2 ^ places) := by
    rw [Rat.divInt_eq_div]
    push_cast
    rw [split, ← mul_assoc, mul_div_cancel_right₀ _ (pow_ne_zero _ two_ne_zero)]
  have below := Rat.den_dvd (m * 2 ^ (e + places).toNat) (2 ^ places)
  rw [← over_power] at below
  exact_mod_cast below

theorem den_eq_two_pow {q : ℚ} (double : toDouble q = q) (finite : q < infinity) : q.den = 2 ^ Nat.log 2 q.den := by
  have rounded : roundEven (q / 2 ^ lastPlace q) * 2 ^ lastPlace q = q := by
    rcases min_choice infinity (roundEven (q / 2 ^ lastPlace q) * 2 ^ lastPlace q) with top | inner
    · rw [toDouble, top] at double
      exact absurd double finite.ne'
    · rw [← inner]
      exact double
  have divides := den_dvd_two_pow (roundEven (q / 2 ^ lastPlace q)) (lastPlace q) 1074 (le_max_left _ _)
  rw [rounded] at divides
  obtain ⟨places, _, same⟩ := (Nat.dvd_prime_pow Nat.prime_two).mp divides
  rw [same, Nat.log_pow (by decide)]

theorem exactly_value {q : ℚ} (positive : 0 < q) (double : toDouble q = q) (finite : q < infinity) :
    (exactly q).value = q := by
  have den := den_eq_two_pow double finite
  have num : ((q.num.toNat : ℤ) : ℚ) = q.num := by
    rw [Int.toNat_of_nonneg (Rat.num_nonneg.mpr positive.le)]
  have tens : (10 : ℚ) ^ (-(Nat.log 2 q.den : ℤ)) = ((2 : ℚ) ^ Nat.log 2 q.den * 5 ^ Nat.log 2 q.den)⁻¹ := by
    rw [← mul_pow, zpow_neg, zpow_natCast]
    norm_num
  have halves : (2 : ℚ) ^ Nat.log 2 q.den = q.den := by
    exact_mod_cast den.symm
  have fives : (5 : ℚ) ^ Nat.log 2 q.den ≠ 0 := pow_ne_zero _ (by norm_num)
  calc
    (exactly q).value = q.num * 5 ^ Nat.log 2 q.den * ((q.den : ℚ) * 5 ^ Nat.log 2 q.den)⁻¹ := by
      rw [exactly, Decimal.value, tens, halves]
      push_cast
      rw [← num]
      rfl
    _ = q.num / q.den := by
      rw [mul_inv, div_eq_mul_inv]
      field_simp
    _ = q := Rat.num_div_den q

theorem shortest_value {q : ℚ} (positive : 0 < q) (double : toDouble q = q) (finite : q < infinity) :
    toDouble (shortest q).value = q := by
  unfold shortest
  cases found : ((List.range' 1 17).flatMap (candidates q)).find? fun decimal => toDouble decimal.value = q with
  | none =>
      rw [Option.getD_none, exactly_value positive double finite]
      exact double
  | some decimal =>
      rw [Option.getD_some]
      have read := List.find?_some found
      exact of_decide_eq_true read

theorem placed_stripped (digits : List Char) (exponent : ℤ) :
    placed (digits.rdropWhile (· == '0')) (digits.length + exponent) =
      Nat.ofDigitChars 10 digits 0 * 10 ^ exponent := by
  have zeros : digits.rtakeWhile (· == '0') = List.replicate (digits.rtakeWhile (· == '0')).length '0' :=
    List.eq_replicate_of_mem fun c member => by
      have zero := List.mem_rtakeWhile_imp member
      exact eq_of_beq zero
  have whole : digits.rdropWhile (· == '0') ++
    List.replicate (digits.rtakeWhile (· == '0')).length '0' = digits := by
    rw [← zeros]
    exact List.rdropWhile_append_rtakeWhile
  have value : Nat.ofDigitChars 10 digits 0 =
      10 ^ (digits.rtakeWhile (· == '0')).length * Nat.ofDigitChars 10 (digits.rdropWhile (· == '0')) 0 := by
    conv_lhs => rw [← whole]
    rw [Nat.ofDigitChars_append, Nat.ofDigitChars_replicate_zero]
  have length := congrArg List.length whole
  rw [List.length_append, List.length_replicate] at length
  have point : (digits.length : ℤ) + exponent - (digits.rdropWhile (· == '0')).length =
      (digits.rtakeWhile (· == '0')).length + exponent := by omega
  rw [placed, point, zpow_add₀ (by norm_num), zpow_natCast, value]
  push_cast
  ring

theorem digitChar_ne_zero : ∀ n < 10, 0 < n → Nat.digitChar n ≠ '0' := by decide

theorem head_toDigits {n : Nat} (positive : 0 < n) : (Nat.toDigits 10 n).head? ≠ some '0' := by
  induction n using Nat.strongRecOn with
  | ind n ih =>
      rw [Nat.toDigits_eq_if (by decide)]
      split
      · rename_i small
        rw [List.head?_cons, Ne, Option.some.injEq]
        exact digitChar_ne_zero n small positive
      · rw [List.head?_append_of_ne_nil _ Nat.toDigits_ne_nil]
        exact ih (n / 10) (by omega) (by omega)

/-- The digits that are written of a positive number. -/
structure Written (digits : List Char) : Prop where
  all : isDigits digits = true
  given : digits ≠ []
  lead : digits.head? ≠ some '0'

theorem written_toDigits {n : Nat} (positive : 0 < n) :
    Written ((Nat.toDigits 10 n).rdropWhile (· == '0')) where
  all := by
    have whole : (Nat.toDigits 10 n).rdropWhile (· == '0') ++ (Nat.toDigits 10 n).rtakeWhile (· == '0') =
        Nat.toDigits 10 n := List.rdropWhile_append_rtakeWhile
    exact (isDigits_split (whole.symm ▸ isDigits_toDigits n)).1
  given := by
    intro nothing
    have zeros := List.rdropWhile_eq_nil_iff.mp nothing
    cases digits : Nat.toDigits 10 n with
    | nil => exact Nat.toDigits_ne_nil digits
    | cons c tail =>
        have zero := zeros c (digits ▸ List.mem_cons_self)
        apply head_toDigits positive
        rw [digits, List.head?_cons, eq_of_beq zero]
  lead := fun zero => head_toDigits positive (Trimming.rdropWhile_first _ _ zero)

theorem readMagnitude_text {q : ℚ} (positive : 0 < q) (double : toDouble q = q) (finite : q < infinity)
    (ends : Ends rest) : readMagnitude (magnitudeText q ++ rest) = some (q, rest) := by
  have value := shortest_value positive double finite
  have significant : 0 < (shortest q).significand := by
    apply Nat.pos_of_ne_zero
    intro none
    rw [Decimal.value, none, Nat.cast_zero, zero_mul, toDouble_zero] at value
    exact positive.ne value
  have written := written_toDigits significant
  rw [magnitudeText, readMagnitude_layout written.all written.given written.lead ends, placed_stripped,
    Nat.ofDigitChars_ten_toDigits]
  change some (toDouble (shortest q).value, rest) = _
  rw [value]

theorem readNumber_unsigned {text : List Char} {answer : ℚ × List Char} (read : readMagnitude text = some answer) :
    readNumber text = some answer := by
  unfold readNumber
  split
  · cases read
  · exact read

theorem readNumber_text {q : ℚ} (double : IsDouble q) (ends : Ends rest) :
    readNumber (numberText q ++ rest) = some (q, rest) := by
  rw [IsDouble, IsNumber] at double
  unfold numberText
  split
  · rename_i zero
    subst zero
    have nothing : literal ['0'] [] 0 = 0 := by
      simp [literal, Nat.ofDigitChars_cons]
    have read := readMagnitude_of rfl (by simp) (fun _ => rfl) (fun c first => (ends c first).1)
      (readFraction_none ends) (readExponent_none ends) nothing
    rw [toDouble_zero] at read
    exact readNumber_unsigned read
  · split
    · rename_i negative
      rw [abs_of_neg negative] at double
      have read := readMagnitude_text (neg_pos.mpr negative) double.2 double.1 ends
      rw [List.cons_append, readNumber, read, Option.map_some]
      simp
    · rename_i other positive
      have above : 0 < q := lt_of_le_of_ne (not_lt.mp positive) (Ne.symm other)
      rw [abs_of_pos above] at double
      exact readNumber_unsigned (readMagnitude_text above double.2 double.1 ends)

end Reading

/-! A number is written in digits, signs, a point and the letter of the exponent. -/

def Printable (text : List Char) : Prop := ∀ c ∈ text, 0x20 ≤ c.toNat

instance (text : List Char) : Decidable (Printable text) :=
  decidable_of_iff ((text.all fun c => decide (0x20 ≤ c.toNat)) = true)
    (by simp only [List.all_eq_true, decide_eq_true_eq, Printable])

theorem printable_append {front back : List Char} (left : Printable front) (right : Printable back) :
    Printable (front ++ back) := by
  intro c member
  exact (List.mem_append.mp member).elim (left c) (right c)

theorem printable_cons {c : Char} {text : List Char} (first : 0x20 ≤ c.toNat) (rest : Printable text) :
    Printable (c :: text) := by
  intro d member
  cases member with
  | head => exact first
  | tail _ member => exact rest d member

theorem printable_sublist {text part : List Char} (printable : Printable text) (sublist : part.Sublist text) :
    Printable part := fun c member => printable c (sublist.subset member)

theorem printable_digits (n : Nat) : Printable (Nat.toDigits 10 n) := by
  intro c member
  have digit : c.isDigit = true := List.all_eq_true.mp (isDigits_toDigits n) c member
  have range := DecimalText.digit_range digit
  omega

theorem printable_zeros (count : Nat) : Printable (List.replicate count '0') := by
  intro c member
  rw [List.eq_of_mem_replicate member]
  decide

theorem printable_layout {digits : List Char} (printable : Printable digits) (point : ℤ) :
    Printable (layout digits point) := by
  have part : ∀ {text : List Char}, text.Sublist digits → Printable text := fun sublist =>
    printable_sublist printable sublist
  have fraction : Printable (if digits.length = 1 then [] else '.' :: digits.tail) := by
    split
    · exact nofun
    · exact printable_cons (by decide) (part (List.tail_sublist _))
  have sign : 0x20 ≤ (if 0 ≤ point - 1 then '+' else '-').toNat := by
    split <;> decide
  unfold layout
  split
  · exact printable_append printable (printable_zeros _)
  · split
    · exact printable_append (part (List.take_sublist _ _))
        (printable_cons (by decide) (part (List.drop_sublist _ _)))
    · split
      · exact printable_cons (by decide)
          (printable_cons (by decide) (printable_append (printable_zeros _) printable))
      · exact printable_append (printable_append (part (List.take_sublist _ _)) fraction)
          (printable_cons (by decide) (printable_cons sign (printable_digits _)))

theorem printable_magnitude (q : ℚ) : Printable (magnitudeText q) :=
  printable_layout (printable_sublist (printable_digits _) (List.rdropWhile_prefix _ _).sublist) _

theorem printable_number (q : ℚ) : Printable (numberText q) := by
  unfold numberText
  split_ifs
  · exact printable_cons (by decide) nofun
  · exact printable_cons (by decide) (printable_magnitude _)
  · exact printable_magnitude _

end PublicLighting.Foundations.Doubles
