import PublicLighting.Foundations.Json

/-! Texts of UTF-16 units that are cut into pieces and sent as UTF-8, each piece by itself. -/

namespace PublicLighting.Foundations.WireText

open Json (isHigh isLow unitsOf ofUnit ofUnits)

def utf8 (text : List Char) : List UInt8 := text.flatMap String.utf8EncodeChar

/-- One piece on the wire. A lone surrogate is sent as U+FFFD. -/
def wire (units : List Nat) : List UInt8 := utf8 (ofUnits units)

/-- The boundary between two pieces falls inside a surrogate pair. -/
def Cuts (front back : List Nat) : Prop := front.getLast?.any isHigh = true ∧ back.head?.any isLow = true

instance (front back : List Nat) : Decidable (Cuts front back) := inferInstanceAs (Decidable (_ ∧ _))

theorem not_high_of_low {unit : Nat} (low : isLow unit = true) : isHigh unit = false := by
  simp only [isLow, isHigh, Bool.and_eq_true, decide_eq_true_eq, Bool.and_eq_false_iff, decide_eq_false_iff_not] at *
  omega

theorem utf8_append (front back : List Char) : utf8 (front ++ back) = utf8 front ++ utf8 back := List.flatMap_append

theorem ofUnits_cons {unit : Nat} {units : List Nat} (alone : ¬ Cuts [unit] units) :
    ofUnits (unit :: units) = ofUnit unit :: ofUnits units := by
  cases units with
  | nil => rfl
  | cons next units =>
      have unpaired : ¬ (isHigh unit && isLow next) = true := by
        rw [Bool.and_eq_true]
        exact alone
      rw [ofUnits, if_neg unpaired]

theorem ofUnits_pair {high low : Nat} (units : List Nat) (pair : Cuts [high] (low :: units)) :
    ofUnits (high :: low :: units) =
      Char.ofNat (0x10000 + (high - 0xD800) * 0x400 + (low - 0xDC00)) :: ofUnits units := by
  have paired : (isHigh high && isLow low) = true := by
    rw [Bool.and_eq_true]
    exact pair
  rw [ofUnits, if_pos paired]

theorem ofUnits_append {front back : List Nat} (whole : ¬ Cuts front back) :
    ofUnits (front ++ back) = ofUnits front ++ ofUnits back := by
  induction front using PublicLighting.Foundations.Json.ofUnits.induct with
  | case1 => rfl
  | case2 unit => exact ofUnits_cons whole
  | case3 high low units paired ih =>
      have pair : Cuts [high] (low :: (units ++ back)) := Bool.and_eq_true_iff.mp paired
      have rest : ¬ Cuts units back := by
        intro cut
        apply whole
        cases units with
        | nil => exact absurd cut.1 Bool.false_ne_true
        | cons next units => exact ⟨by simpa using cut.1, cut.2⟩
      rw [List.cons_append, List.cons_append, ofUnits_pair _ pair, ih rest, ofUnits, if_pos paired]
      rfl
  | case4 high low units unpaired ih =>
      have alone : ¬ Cuts [high] (low :: (units ++ back)) := fun pair => unpaired (Bool.and_eq_true_iff.mpr pair)
      have rest : ¬ Cuts (low :: units) back := fun cut => whole ⟨by simpa using cut.1, cut.2⟩
      rw [List.cons_append, List.cons_append, ofUnits_cons alone, ← List.cons_append, ih rest, ofUnits,
        if_neg unpaired]
      rfl

theorem wire_append {front back : List Nat} (whole : ¬ Cuts front back) :
    wire (front ++ back) = wire front ++ wire back := by
  rw [wire, ofUnits_append whole, utf8_append]
  rfl

theorem utf8_cons_length (c : Char) (text : List Char) :
    (utf8 (c :: text)).length = c.utf8Size + (utf8 text).length := by
  rw [utf8, List.flatMap_cons, List.length_append, String.length_utf8EncodeChar]
  rfl

theorem utf8Size_le (c : Char) : c.utf8Size ≤ 4 := Char.utf8Size_le_four c

theorem lone_size {unit : Nat} (lone : (isHigh unit || isLow unit) = true) : (ofUnit unit).utf8Size = 3 := by
  rw [ofUnit, if_pos lone]
  decide

/-- A piece that ends inside a pair makes the text longer on the wire. -/
theorem wire_length (front back : List Nat) :
    (wire (front ++ back)).length ≤ (wire front).length + (wire back).length ∧
      (Cuts front back → (wire (front ++ back)).length < (wire front).length + (wire back).length) := by
  by_cases cut : Cuts front back
  · obtain ⟨before, last, rfl⟩ : ∃ before last, front = before ++ [last] := by
      rcases List.eq_nil_or_concat front with rfl | ⟨before, last, rfl⟩
      · exact absurd cut.1 Bool.false_ne_true
      · exact ⟨before, last, List.concat_eq_append⟩
    obtain ⟨first, after, rfl⟩ : ∃ first after, back = first :: after := by
      cases back with
      | nil => exact absurd cut.2 Bool.false_ne_true
      | cons first after => exact ⟨first, after, rfl⟩
    have high : isHigh last = true := by simpa using cut.1
    have low : isLow first = true := by simpa using cut.2
    have pair : Cuts [last] (first :: after) := ⟨high, low⟩
    have notBefore (units : List Nat) : ¬ Cuts before (last :: units) := by
      intro other
      have low : isLow last = true := other.2
      rw [not_high_of_low low] at high
      cases high
    have notAfter : ¬ Cuts [first] after := by
      intro other
      have high : isHigh first = true := other.1
      rw [not_high_of_low low] at high
      cases high
    have whole : (wire (before ++ [last] ++ first :: after)).length < (wire (before ++ [last])).length +
        (wire (first :: after)).length := by
      have small := utf8Size_le (Char.ofNat (0x10000 + (last - 0xD800) * 0x400 + (first - 0xDC00)))
      have highSize : (ofUnit last).utf8Size = 3 := lone_size (by rw [high]; rfl)
      have lowSize : (ofUnit first).utf8Size = 3 := lone_size (by rw [low, Bool.or_true])
      rw [List.append_assoc, List.singleton_append, wire_append (notBefore _), wire_append (notBefore []),
        List.length_append, List.length_append, wire, wire, wire, wire, ofUnits_pair _ pair, ofUnits_cons notAfter,
        utf8_cons_length, utf8_cons_length, ofUnits, utf8_cons_length]
      omega
    exact ⟨whole.le, fun _ => whole⟩
  · rw [wire_append cut, List.length_append]
    exact ⟨le_refl _, fun other => absurd other cut⟩

theorem isHigh_false {unit : Nat} (outside : unit < 0xD800 ∨ 0xDC00 ≤ unit) : isHigh unit = false := by
  rw [isHigh, Bool.and_eq_false_iff, decide_eq_false_iff_not, decide_eq_false_iff_not, not_le, not_lt]
  exact outside

theorem isLow_false {unit : Nat} (outside : unit < 0xDC00 ∨ 0xE000 ≤ unit) : isLow unit = false := by
  rw [isLow, Bool.and_eq_false_iff, decide_eq_false_iff_not, decide_eq_false_iff_not, not_le, not_lt]
  exact outside

theorem isHigh_true {unit : Nat} (above : 0xD800 ≤ unit) (below : unit < 0xDC00) : isHigh unit = true := by
  rw [isHigh, decide_eq_true above, decide_eq_true below]
  rfl

theorem isLow_true {unit : Nat} (above : 0xDC00 ≤ unit) (below : unit < 0xE000) : isLow unit = true := by
  rw [isLow, decide_eq_true above, decide_eq_true below]
  rfl

theorem unitsOf_pair {c : Char} (beyond : ¬ c.toNat < 0x10000) :
    ∃ high low, unitsOf c = [high, low] ∧ isHigh high = true ∧ isLow low = true := by
  have valid : c.toNat < 0xD800 ∨ (0xDFFF < c.toNat ∧ c.toNat < 0x110000) := c.valid
  have high : (c.toNat - 0x10000) / 0x400 < 0x400 := by omega
  have low : (c.toNat - 0x10000) % 0x400 < 0x400 := Nat.mod_lt _ (by decide)
  refine ⟨0xD800 + (c.toNat - 0x10000) / 0x400, 0xDC00 + (c.toNat - 0x10000) % 0x400, if_neg beyond,
    isHigh_true (Nat.le_add_right _ _) ?_, isLow_true (Nat.le_add_right _ _) ?_⟩
  · exact Nat.add_lt_add_left high 0xD800
  · exact Nat.add_lt_add_left low 0xDC00

theorem unitsOf_concat (c : Char) : ∃ front last, unitsOf c = front ++ [last] ∧ isHigh last = false := by
  have valid : c.toNat < 0xD800 ∨ (0xDFFF < c.toNat ∧ c.toNat < 0x110000) := c.valid
  rw [unitsOf]
  split
  · exact ⟨[], c.toNat, rfl, isHigh_false (by omega)⟩
  · exact ⟨[0xD800 + (c.toNat - 0x10000) / 0x400], 0xDC00 + (c.toNat - 0x10000) % 0x400, rfl,
      isHigh_false (.inr (Nat.le_add_right _ _))⟩

theorem unitsOf_last (text : List Char) : ((text.flatMap unitsOf).getLast?).any isHigh = false := by
  rcases List.eq_nil_or_concat text with rfl | ⟨front, c, rfl⟩
  · rfl
  · obtain ⟨before, last, shape, low⟩ := unitsOf_concat c
    rw [List.concat_eq_append, List.flatMap_append, List.flatMap_singleton, shape, ← List.append_assoc,
      List.getLast?_concat, Option.any_some, low]

end PublicLighting.Foundations.WireText
