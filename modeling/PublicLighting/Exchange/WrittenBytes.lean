import PublicLighting.Exchange.WrittenText

/-! The bytes of the chunks, where every write is encoded by itself. -/

namespace PublicLighting.Exchange

open Foundations (Json)
open Foundations.Json (isHigh isLow unitsOf ofUnits ofUnit escaped)
open Foundations.WireText

def sent (writes : List Units) : List UInt8 := writes.flatMap wire

theorem sent_append (front back : List Units) : sent (front ++ back) = sent front ++ sent back := List.flatMap_append

theorem sent_cons (first : Units) (rest : List Units) : sent (first :: rest) = wire first ++ sent rest := rfl

/-- The boundary at a position of the text falls inside a surrogate pair. -/
def CutsAt (text : Units) (position : Nat) : Prop := Cuts (text.take position) (text.drop position)

instance (text : Units) (position : Nat) : Decidable (CutsAt text position) :=
  inferInstanceAs (Decidable (Cuts _ _))

theorem cutsAt_iff {text : Units} {position : Nat} :
    CutsAt text position ↔ text[position - 1]?.any isHigh = true ∧ text[position]?.any isLow = true := by
  rw [CutsAt, Cuts, List.head?_drop, List.getLast?_take]
  by_cases start : position = 0
  · subst start
    rw [if_pos rfl]
    simp only [Option.any_none, Bool.false_eq_true, false_and, Nat.zero_sub, false_iff]
    intro both
    cases found : text[0]? with
    | none =>
        rw [found] at both
        cases both.2
    | some unit =>
        rw [found] at both
        have high : isHigh unit = true := both.1
        rw [not_high_of_low both.2] at high
        cases high
  · rw [if_neg start]
    cases found : text[position - 1]? with
    | none =>
        have beyond : text[position]? = none :=
          List.getElem?_eq_none ((List.getElem?_eq_none_iff.mp found).trans (Nat.sub_le _ _))
        rw [beyond]
        simp
    | some unit => rfl

theorem slice_last {text : Units} {start stop : Nat} (given : start < stop) (inside : start < text.length) :
    (slice text start stop).getLast? = (text.take stop).getLast? := by
  rw [slice, List.getLast?_drop, if_neg]
  rw [List.length_take]
  omega

section Json

theorem escapedUnits_pair {high low : Nat} (units : Units) (pair : Cuts [high] (low :: units)) :
    escapedUnits (high :: low :: units) = high :: low :: escapedUnits units := by
  have paired : (isHigh high && isLow low) = true := Bool.and_eq_true_iff.mpr pair
  rw [escapedUnits, if_pos paired]

theorem escapedUnits_cons {unit : Nat} {units : Units} (alone : ¬ Cuts [unit] units) :
    escapedUnits (unit :: units) = escapedUnit unit ++ escapedUnits units := by
  cases units with
  | nil => rw [escapedUnits, escapedUnits, List.append_nil]
  | cons next units =>
      have unpaired : ¬ (isHigh unit && isLow next) = true := fun both => alone (Bool.and_eq_true_iff.mp both)
      rw [escapedUnits, if_neg unpaired]

theorem escapedUnits_append {front back : Units} (whole : ¬ Cuts front back) :
    escapedUnits (front ++ back) = escapedUnits front ++ escapedUnits back := by
  induction front using PublicLighting.Foundations.Json.ofUnits.induct with
  | case1 => rfl
  | case2 unit =>
      rw [List.singleton_append, escapedUnits_cons whole, escapedUnits]
  | case3 high low units paired ih =>
      have pair (more : Units) : Cuts [high] (low :: more) := Bool.and_eq_true_iff.mp paired
      have rest : ¬ Cuts units back := by
        intro cut
        apply whole
        cases units with
        | nil => exact absurd cut.1 Bool.false_ne_true
        | cons next units => exact ⟨by simpa using cut.1, cut.2⟩
      rw [List.cons_append, List.cons_append, escapedUnits_pair _ (pair _), escapedUnits_pair _ (pair _), ih rest]
      rfl
  | case4 high low units unpaired ih =>
      have alone (more : Units) : ¬ Cuts [high] (low :: more) := fun pair => unpaired (Bool.and_eq_true_iff.mpr pair)
      have rest : ¬ Cuts (low :: units) back := fun cut => whole ⟨by simpa using cut.1, cut.2⟩
      rw [List.cons_append, List.cons_append, escapedUnits_cons (alone _), ← List.cons_append, ih rest,
        escapedUnits_cons (alone _), List.append_assoc]

theorem escapedUnits_last (units : Units) : (escapedUnits units).getLast?.any isHigh = false := by
  have single (unit : Nat) : (escapedUnit unit).getLast?.any isHigh = false := by
    rw [escapedUnit]
    split
    · exact unitsOf_last _
    · exact unitsOf_last _
  have join (front back : Units) (first : front.getLast?.any isHigh = false)
      (second : back.getLast?.any isHigh = false) : (front ++ back).getLast?.any isHigh = false := by
    rw [List.getLast?_append]
    cases last : back.getLast? with
    | none => exact first
    | some unit =>
        rw [last] at second
        exact second
  induction units using PublicLighting.Foundations.Json.ofUnits.induct with
  | case1 => rfl
  | case2 unit =>
      rw [escapedUnits]
      exact single unit
  | case3 high low units paired ih =>
      have pair : Cuts [high] (low :: units) := Bool.and_eq_true_iff.mp paired
      have low' : isHigh low = false := not_high_of_low pair.2
      rw [escapedUnits_pair _ pair]
      exact join [high, low] _ (by simpa using low') ih
  | case4 high low units unpaired ih =>
      rw [escapedUnits, if_neg unpaired]
      exact join _ _ (single high) ih

theorem not_cuts_escaped (units back : Units) : ¬ Cuts (escapedUnits units) back := by
  intro cut
  rw [Cuts, escapedUnits_last] at cut
  exact Bool.false_ne_true cut.1

/-- The loop steps back from the middle of a pair. -/
theorem chunkEnd_whole {value : Units} {offset : Nat} (inside : offset < value.length) :
    ¬ CutsAt value (chunkEnd value offset) := by
  have large : writeChars = 8192 := rfl
  rw [chunkEnd]
  by_cases middle : min value.length (offset + writeChars) < value.length ∧
      value[min value.length (offset + writeChars) - 1]?.any isHigh = true ∧
        value[min value.length (offset + writeChars)]?.any isLow = true
  · have stop : min value.length (offset + writeChars) = offset + writeChars := by omega
    rw [stop] at middle
    simp only [stop, if_pos middle]
    rw [if_neg (by omega)]
    intro cut
    have low := (cutsAt_iff.mp cut).2
    obtain ⟨unit, found⟩ : ∃ unit, value[offset + writeChars - 1]? = some unit :=
      ⟨_, List.getElem?_eq_getElem (by omega)⟩
    have high := middle.2.1
    rw [found] at high low
    have both : isHigh unit = true := high
    rw [not_high_of_low low] at both
    cases both
  · simp only [if_neg middle]
    rw [if_neg (by omega)]
    intro cut
    obtain ⟨high, low⟩ := cutsAt_iff.mp cut
    apply middle
    refine ⟨?_, high, low⟩
    by_contra atEnd
    rw [List.getElem?_eq_none (not_lt.mp atEnd)] at low
    cases low

theorem jsonChunks_sent (value : Units) (offset : Nat) :
    sent (jsonChunks value offset) = wire (escapedUnits (value.drop offset)) := by
  induction gap : value.length - offset using Nat.strongRecOn generalizing offset with
  | ind gap ih =>
      subst gap
      rw [jsonChunks]
      by_cases inside : offset < value.length
      · have further := lt_chunkEnd inside
        have whole : ¬ Cuts (slice value offset (chunkEnd value offset)) (value.drop (chunkEnd value offset)) := by
          intro cut
          rw [Cuts, slice_last further inside] at cut
          exact chunkEnd_whole inside cut
        rw [if_pos inside, sent_cons, ih _ (by omega) _ rfl, ← wire_append (not_cuts_escaped _ _),
          ← escapedUnits_append whole, slice_append value further.le]
      · rw [if_neg inside, List.drop_of_length_le (not_lt.mp inside)]
        rfl

theorem escapedUnits_char (c : Char) : escapedUnits (unitsOf c) = unitsOfText (escaped c) := by
  have valid : c.toNat < 0xD800 ∨ (0xDFFF < c.toNat ∧ c.toNat < 0x110000) := c.valid
  by_cases plane : c.toNat < 0x10000
  · have high : isHigh c.toNat = false := isHigh_false (by omega)
    have low : isLow c.toNat = false := isLow_false (by omega)
    rw [unitsOf, if_pos plane, escapedUnits, escapedUnit, high, low, Char.ofNat_toNat]
    rfl
  · obtain ⟨first, second, pair, high, low⟩ := unitsOf_pair plane
    have itself : escaped c = [c] := by
      have letter : Json.shortEscape c = none := by
        have quote : c ≠ '"' := fun same => plane (same ▸ by decide)
        have backslash : c ≠ '\\' := fun same => plane (same ▸ by decide)
        rw [Json.shortEscape, if_neg quote, if_neg backslash, if_neg (by omega), if_neg (by omega),
          if_neg (by omega), if_neg (by omega), if_neg (by omega)]
      rw [escaped, letter]
      exact if_neg (by omega)
    rw [itself, unitsOfText, List.flatMap_singleton, pair, escapedUnits_pair _ ⟨high, low⟩]
    rfl

theorem escapedUnits_text (text : List Char) :
    escapedUnits (unitsOfText text) = unitsOfText (text.flatMap escaped) := by
  induction text with
  | nil => rfl
  | cons c text ih =>
      have whole : ¬ Cuts (unitsOf c) (unitsOfText text) := by
        intro cut
        have last := unitsOf_last [c]
        rw [List.flatMap_singleton] at last
        rw [Cuts, last] at cut
        exact Bool.false_ne_true cut.1
      have units : unitsOfText (c :: text) = unitsOf c ++ unitsOfText text := rfl
      rw [units, escapedUnits_append whole, escapedUnits_char, ih, List.flatMap_cons, unitsOfText, unitsOfText,
        unitsOfText, List.flatMap_append]

theorem writeJsonString_sent (text : List Char) :
    sent (writeJsonString (unitsOfText text)) = utf8 (Json.quoted (String.ofList text)) := by
  have quote : wire [quoteUnit] = utf8 ['"'] := rfl
  have chunks : wire (escapedUnits (unitsOfText text)) = utf8 (text.flatMap escaped) := by
    rw [escapedUnits_text, wire, unitsOfText, Json.ofUnits_flatMap]
  rw [writeJsonString, List.cons_append, sent_cons, sent_append, jsonChunks_sent, List.drop_zero, chunks,
    sent_cons, quote,
    Json.quoted, String.toList_ofList]
  change _ = utf8 (['"'] ++ text.flatMap escaped ++ ['"'])
  rw [utf8_append, utf8_append, List.append_assoc]
  rfl

end Json

section Csv

theorem doubled_last (units : Units) : (doubled units).getLast?.any isHigh = units.getLast?.any isHigh := by
  rcases List.eq_nil_or_concat units with rfl | ⟨front, last, rfl⟩
  · rfl
  · rw [List.concat_eq_append, doubled_append, List.getLast?_append, List.getLast?_append]
    by_cases quote : last = quoteUnit
    · subst quote
      rfl
    · have same : doubled [last] = [last] := by
        rw [doubled, List.flatMap_singleton, if_neg quote]
      rw [same]
      rfl

theorem doubled_head (units : Units) : (doubled units).head?.any isLow = units.head?.any isLow := by
  cases units with
  | nil => rfl
  | cons unit units =>
      rw [doubled, List.flatMap_cons]
      by_cases quote : unit = quoteUnit
      · subst quote
        rfl
      · rw [if_neg quote]
        rfl

theorem cuts_doubled (front back : Units) : Cuts (doubled front) (doubled back) ↔ Cuts front back := by
  rw [Cuts, doubled_last, doubled_head, Cuts]

/-- The chunks are at least as long on the wire as the text, and longer where a boundary
falls inside a pair. -/
theorem csvChunks_sent (text : Units) (offset : Nat) :
    ((∀ j, 1 ≤ j → ¬ CutsAt text (offset + writeChars * j)) →
      sent (csvChunks text offset) = wire (doubled (text.drop offset))) ∧
    (wire (doubled (text.drop offset))).length ≤ (sent (csvChunks text offset)).length ∧
    ∀ j, 1 ≤ j → CutsAt text (offset + writeChars * j) →
      (wire (doubled (text.drop offset))).length < (sent (csvChunks text offset)).length := by
  induction gap : text.length - offset using Nat.strongRecOn generalizing offset with
  | ind gap ih =>
      subst gap
      have positive : writeChars = 8192 := rfl
      by_cases inside : offset < text.length
      · obtain ⟨stop, shape⟩ : ∃ stop, stop = min text.length (offset + writeChars) := ⟨_, rfl⟩
        have further : offset < stop := by omega
        have chunks : csvChunks text offset = doubled (slice text offset stop) :: csvChunks text stop := by
          rw [csvChunks, if_pos inside, shape]
        have whole : doubled (text.drop offset) = doubled (slice text offset stop) ++ doubled (text.drop stop) := by
          rw [← doubled_append, slice_append text further.le]
        have boundary : Cuts (doubled (slice text offset stop)) (doubled (text.drop stop)) ↔ CutsAt text stop := by
          rw [cuts_doubled, Cuts, slice_last further inside, CutsAt, Cuts]
        have joined := wire_length (doubled (slice text offset stop)) (doubled (text.drop stop))
        obtain ⟨exact', atLeast, longer⟩ := ih (text.length - stop) (by omega) stop rfl
        rw [chunks, whole, sent_cons, List.length_append]
        -- Beyond the first boundary there is another only where the first is not the end of the text.
        have last (position : Nat) (beyond : text.length ≤ position) : ¬ CutsAt text position := by
          intro cut
          have low := (cutsAt_iff.mp cut).2
          rw [List.getElem?_eq_none beyond] at low
          cases low
        refine ⟨?_, ?_, ?_⟩
        · intro clear
          have here : ¬ CutsAt text stop := by
            by_cases final : stop = text.length
            · exact last stop final.ge
            · have first : stop = offset + writeChars * 1 := by omega
              rw [first]
              exact clear 1 (le_refl _)
          rw [wire_append fun cut => here (boundary.mp cut), exact']
          intro j after
          by_cases final : stop = text.length
          · exact last _ (by omega)
          · have next : stop + writeChars * j = offset + writeChars * (j + 1) := by
              rw [positive]
              omega
            rw [next]
            exact clear (j + 1) (by omega)
        · exact joined.1.trans (Nat.add_le_add_left atLeast _)
        · intro j after cut
          have early : offset + writeChars * j < text.length := by
            by_contra beyond
            exact last _ (not_lt.mp beyond) cut
          have first : stop = offset + writeChars * 1 := by
            rw [positive] at early ⊢
            omega
          by_cases one : j = 1
          · have here := joined.2 (boundary.mpr (by rw [first, ← one]; exact cut))
            exact here.trans_le (Nat.add_le_add_left atLeast _)
          · have next : offset + writeChars * j = stop + writeChars * (j - 1) := by
              rw [positive]
              omega
            rw [next] at cut
            have later := longer (j - 1) (by omega) cut
            exact joined.1.trans_lt (Nat.add_lt_add_left later _)
      · have none : csvChunks text offset = [] := by
          rw [csvChunks, if_neg inside]
        have rest : text.drop offset = [] := List.drop_of_length_le (not_lt.mp inside)
        rw [none, rest]
        refine ⟨fun _ => rfl, le_refl _, ?_⟩
        intro j after cut
        have low := (cutsAt_iff.mp cut).2
        rw [List.getElem?_eq_none (by omega)] at low
        cases low

def doubledChar (c : Char) : List Char := if c = '"' then ['"', '"'] else [c]

def csvText (text : List Char) : List Char :=
  if text.any fun c => c = ',' ∨ c = '"' ∨ c = '\r' ∨ c = '\n' then '"' :: text.flatMap doubledChar ++ ['"'] else text

theorem mem_unitsOf_iff (c other : Char) (plane : other.toNat < 0xD800) : other.toNat ∈ unitsOf c ↔ c = other := by
  constructor
  · intro member
    by_cases basic : c.toNat < 0x10000
    · rw [unitsOf, if_pos basic, List.mem_singleton] at member
      exact Char.ext (UInt32.toNat_inj.mp member.symm)
    · obtain ⟨first, second, pair, high, low⟩ := unitsOf_pair basic
      rw [pair, List.mem_pair] at member
      cases member with
      | inl same =>
          rw [← same, isHigh_false (.inl plane)] at high
          cases high
      | inr same =>
          rw [← same, isLow_false (.inl (plane.trans (by decide)))] at low
          cases low
  · intro same
    subst same
    rw [unitsOf, if_pos (plane.trans (by decide))]
    exact List.mem_singleton_self _

theorem needsQuotes_text (text : List Char) :
    needsQuotes (unitsOfText text) = text.any fun c => c = ',' ∨ c = '"' ∨ c = '\r' ∨ c = '\n' := by
  have letter (c : Char) : needsQuotes (unitsOf c) = decide (c = ',' ∨ c = '"' ∨ c = '\r' ∨ c = '\n') := by
    have comma : commaUnit ∈ unitsOf c ↔ c = ',' := mem_unitsOf_iff c ',' (by decide)
    have quote : quoteUnit ∈ unitsOf c ↔ c = '"' := mem_unitsOf_iff c '"' (by decide)
    have cr : crUnit ∈ unitsOf c ↔ c = '\r' := mem_unitsOf_iff c '\r' (by decide)
    have lf : lfUnit ∈ unitsOf c ↔ c = '\n' := mem_unitsOf_iff c '\n' (by decide)
    rw [Bool.eq_iff_iff, needsQuotes, List.any_eq_true]
    simp only [decide_eq_true_eq, and_or_left, exists_or, exists_eq_right, comma, quote, cr, lf]
  induction text with
  | nil => rfl
  | cons c text ih =>
      rw [List.any_cons, ← ih, ← letter, unitsOfText, List.flatMap_cons, needsQuotes, List.any_append]
      rfl

theorem doubled_text (text : List Char) : doubled (unitsOfText text) = unitsOfText (text.flatMap doubledChar) := by
  have letter (c : Char) : doubled (unitsOf c) = unitsOfText (doubledChar c) := by
    rw [doubledChar]
    by_cases quote : c = '"'
    · subst quote
      rfl
    · rw [if_neg quote, unitsOfText, List.flatMap_singleton]
      apply doubled_plain
      intro unit member same
      rw [same] at member
      exact quote ((mem_unitsOf_iff c '"' (by decide)).mp member)
  induction text with
  | nil => rfl
  | cons c text ih =>
      have units : unitsOfText (c :: text) = unitsOf c ++ unitsOfText text := rfl
      rw [units, doubled_append, letter, ih, List.flatMap_cons, unitsOfText, unitsOfText, unitsOfText,
        List.flatMap_append]

theorem wire_text (text : List Char) : wire (unitsOfText text) = utf8 text := by
  rw [wire, unitsOfText, Json.ofUnits_flatMap]

/-- The bytes of a CSV field are those of the field in one piece, unless a chunk ends
inside a pair. -/
theorem writeCsvField_sent_iff (text : List Char) :
    sent (writeCsvField (.text (unitsOfText text))) = utf8 (csvText text) ↔
      ∀ j, 1 ≤ j → ¬ CutsAt (unitsOfText text) (writeChars * j) := by
  have chunks := csvChunks_sent (unitsOfText text) 0
  rw [List.drop_zero, doubled_text, wire_text] at chunks
  simp only [Nat.zero_add] at chunks
  obtain ⟨exact', -, longer⟩ := chunks
  have field : sent (writeCsvField (.text (unitsOfText text))) = utf8 (csvText text) ↔
      sent (csvChunks (unitsOfText text) 0) = utf8 (text.flatMap doubledChar) := by
    rw [writeCsvField, ExportValue.toText, csvText, ← needsQuotes_text]
    · by_cases quotes : needsQuotes (unitsOfText text)
      · have shape : '"' :: text.flatMap doubledChar ++ ['"'] = ['"'] ++ text.flatMap doubledChar ++ ['"'] := rfl
        have edge : sent [[quoteUnit]] = utf8 ['"'] := rfl
        rw [if_pos quotes, if_pos quotes, sent_append, sent_append, edge, shape, utf8_append, utf8_append,
          List.append_cancel_right_eq, List.append_cancel_left_eq]
      · have plain : text.flatMap doubledChar = text := by
          have alone : ∀ c ∈ text, doubledChar c = [c] := by
            intro c member
            apply if_neg
            intro quote
            rw [needsQuotes_text] at quotes
            exact quotes (List.any_eq_true.mpr ⟨c, member, by simp [quote]⟩)
          rw [List.flatMap_congr alone, List.flatMap_singleton']
        rw [if_neg quotes, if_neg quotes, plain, List.nil_append, List.append_nil]
    · exact nofun
  rw [field]
  constructor
  · intro same j after cut
    have more := longer j after cut
    rw [same] at more
    exact lt_irrefl _ more
  · exact exact'

end Csv

section Invisible

/-- The bytes of a text through both writers are those of the text in one piece. -/
def WrittenWhole (text : List Char) : Prop :=
  sent (writeCsvField (.text (unitsOfText text))) = utf8 (csvText text) ∧
    sent (writeJsonString (unitsOfText text)) = utf8 (Json.quoted (String.ofList text))

theorem written_whole_iff (text : List Char) :
    WrittenWhole text ↔ ∀ j, ¬ CutsAt (unitsOfText text) (writeChars * j) := by
  rw [WrittenWhole, writeCsvField_sent_iff]
  constructor
  · intro whole j
    cases j with
    | zero => exact fun cut => Bool.false_ne_true cut.1
    | succ j => exact whole.1 (j + 1) (Nat.succ_le_succ (Nat.zero_le j))
  · intro clear
    exact ⟨fun j _ => clear j, writeJsonString_sent text⟩

def straddling : List Char := List.replicate 8191 'a' ++ [Char.ofNat 0x1F600]

theorem straddling_cut : CutsAt (unitsOfText straddling) (writeChars * 1) := by
  have units : unitsOfText straddling = List.replicate 8191 0x61 ++ [0xD83D, 0xDE00] := by
    rw [straddling, unitsOfText, List.flatMap_append, List.flatMap_replicate, List.flatMap_singleton]
    have letter : unitsOf 'a' = [0x61] := rfl
    have face : unitsOf (Char.ofNat 0x1F600) = [0xD83D, 0xDE00] := rfl
    rw [letter, face, List.flatten_replicate_singleton]
  have position : writeChars * 1 = 8191 + 1 := rfl
  rw [cutsAt_iff, units, position, Nat.add_sub_cancel, List.getElem?_append_right, List.getElem?_append_right,
    List.length_replicate, Nat.sub_self, Nat.add_sub_cancel_left]
  · exact ⟨rfl, rfl⟩
  · rw [List.length_replicate]
    exact Nat.le_succ _
  · rw [List.length_replicate]

theorem straddling_not_whole : ¬ WrittenWhole straddling := by
  intro whole
  exact (writeCsvField_sent_iff straddling).mp whole.1 1 (le_refl 1) straddling_cut

end Invisible

end PublicLighting.Exchange
